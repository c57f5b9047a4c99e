import LlamaStack.PyValue

/-!
`ConsoleTelemetryImpl.log_event` (llama_toolchain console.py 22-40). The implementation keeps
every `SpanStartEvent` it is given in the dict `spans`, by span id, and on each event walks the
recorded parents from the event's span id in a `while True` loop, collecting their names root
first to label the printed line. The walk is modelled with fuel (`spanNames`). It ends exactly
when the parents recorded from the event's span form a finite chain, after one pass per span of
the chain and one more, with the chain's names (`spanNames_of_chain`, `chain_of_spanNames`). A
span started again under a new parent, or under itself, can close the chain into a cycle, and
then no number of passes ends the walk (`logEvent_diverges_on_parent_cycle`). `format_event`
and the print are not modelled.
-/

namespace LlamaStack.Console

open Relation

/-- A `SpanStartEvent`, with the fields `log_event` reads. -/
structure SpanStartEvent where
  spanId : String
  name : String
  parentSpanId : Option String

/-- The events `log_event` takes: a span start, or any other event (a log line, a span end), of
which the walk reads only the span id. -/
inductive Event where
  | spanStart (event : SpanStartEvent)
  | other (spanId : String)

def Event.spanId : Event → String
  | .spanStart event => event.spanId
  | .other spanId => spanId

/-- `self.spans`: the span starts by span id, in insertion order. -/
abbrev Spans := List (String × SpanStartEvent)

/-- `if isinstance(event, SpanStartEvent): self.spans[event.span_id] = event`. -/
def recordEvent (spans : Spans) : Event → Spans
  | .spanStart event => dictSet spans event.spanId event
  | .other _ => spans

/-- The `while True` walk (console.py 26-34) from `spanId` with the names so far, for at most
`fuel` passes; `none` when the passes run out before the loop breaks. -/
def spanNames (spans : Spans) : Nat → Option String → List String → Option (List String)
  | 0, _, _ => none
  | fuel + 1, spanId, names =>
      match spanId.bind fun spanId => spans.lookup spanId with
      | none => some names
      | some spanEvent => spanNames spans fuel spanEvent.parentSpanId (spanEvent.name :: names)

/-- `".".join(names) if names else None`. -/
def spanName (names : List String) : Option String :=
  if names.isEmpty then none else some (".".intercalate names)

/-- `log_event` up to the call of `format_event`: the spans after the event, and the span name
it passes, if the walk ends within `fuel` passes. -/
def logEvent (spans : Spans) (event : Event) (fuel : Nat) : Spans × Option (Option String) :=
  (recordEvent spans event,
    (spanNames (recordEvent spans event) fuel (some event.spanId) []).map spanName)

def spansAfter (history : List Event) : Spans := history.foldl recordEvent []

/-- The chain of recorded parents from a span id, as the names it passes, the span's own first.
It stops at an id with no recorded span start, or at none. -/
inductive Chain (spans : Spans) : Option String → List String → Prop
  | stop {spanId : Option String} :
      (spanId.bind fun spanId => spans.lookup spanId) = none → Chain spans spanId []
  | parent {spanId : String} {event : SpanStartEvent} {names : List String} :
      spans.lookup spanId = some event → Chain spans event.parentSpanId names →
      Chain spans (some spanId) (event.name :: names)

def Parent (spans : Spans) (spanId parentSpanId : String) : Prop :=
  ∃ event, spans.lookup spanId = some event ∧ event.parentSpanId = some parentSpanId

variable {spans : Spans}

/-! ### A finite chain -/

/-- Along a chain of `n` names the walk ends after `n + 1` passes or more, with the chain's names
root first before the names so far. -/
theorem spanNames_of_chain {spanId : Option String} {chain : List String}
    (h : Chain spans spanId chain) (names : List String) {fuel : Nat} (hfuel : chain.length < fuel) :
    spanNames spans fuel spanId names = some (chain.reverse ++ names) := by
  induction h generalizing names fuel with
  | stop hnone =>
      obtain ⟨fuel, rfl⟩ := Nat.exists_eq_succ_of_ne_zero (Nat.pos_iff_ne_zero.mp hfuel)
      simp [spanNames, hnone]
  | parent hlookup _ ih =>
      obtain ⟨fuel, rfl⟩ := Nat.exists_eq_succ_of_ne_zero (Nat.pos_iff_ne_zero.mp
        (Nat.zero_lt_of_lt hfuel))
      simp only [spanNames, Option.some_bind, hlookup]
      rw [ih _ (Nat.lt_of_succ_lt_succ hfuel)]
      simp

/-- When the walk ends, it has followed a finite chain, and gives its names root first. -/
theorem chain_of_spanNames {fuel : Nat} {spanId : Option String} {names out : List String}
    (h : spanNames spans fuel spanId names = some out) :
    ∃ chain, Chain spans spanId chain ∧ out = chain.reverse ++ names := by
  induction fuel generalizing spanId names with
  | zero => cases h
  | succ fuel ih =>
      simp only [spanNames] at h
      split at h
      · rename_i hnone
        cases h
        exact ⟨[], .stop hnone, rfl⟩
      · rename_i event hlookup
        obtain ⟨chain, hchain, rfl⟩ := ih h
        cases spanId with
        | none => cases hlookup
        | some spanId => exact ⟨event.name :: chain, .parent hlookup hchain, by simp⟩

/-- `log_event` passes a span name exactly when the recorded parents from the event's span, the
event itself recorded, form a finite chain; the name is the chain's names joined by dots, root
first, or `None` when the event's span has no recorded start, and the walk gives it after one
pass per name of the chain and one more. -/
theorem logEvent_spanName_iff (spans : Spans) (event : Event) (label : Option String) :
    (∃ fuel, (logEvent spans event fuel).2 = some label) ↔
      ∃ chain, Chain (recordEvent spans event) (some event.spanId) chain ∧
        label = spanName chain.reverse ∧
        ∀ fuel, chain.length < fuel → (logEvent spans event fuel).2 = some label := by
  constructor
  · rintro ⟨fuel, h⟩
    obtain ⟨names, hnames, rfl⟩ := Option.map_eq_some'.mp h
    obtain ⟨chain, hchain, rfl⟩ := chain_of_spanNames hnames
    refine ⟨chain, hchain, by rw [List.append_nil], fun fuel' hfuel => ?_⟩
    rw [logEvent, spanNames_of_chain hchain [] hfuel]
    rfl
  · rintro ⟨chain, -, -, hbound⟩
    exact ⟨chain.length + 1, hbound _ (Nat.lt_succ_self _)⟩

/-! ### A cycle of parents -/

theorem parent_of_reaches_cycle {x y : String} (hreach : ReflTransGen (Parent spans) x y)
    (hcycle : TransGen (Parent spans) y y) :
    ∃ event, spans.lookup x = some event ∧
      ∃ x', event.parentSpanId = some x' ∧ ReflTransGen (Parent spans) x' y := by
  rcases hreach.cases_head with rfl | ⟨z, ⟨event, hx, hz⟩, hzy⟩
  · obtain ⟨z, ⟨event, hx, hz⟩, hzy⟩ := TransGen.head'_iff.mp hcycle
    exact ⟨event, hx, z, hz, hzy⟩
  · exact ⟨event, hx, z, hz, hzy⟩

theorem spanNames_of_reaches_cycle {y : String} (hcycle : TransGen (Parent spans) y y)
    (fuel : Nat) : ∀ {x : String} (names : List String),
      ReflTransGen (Parent spans) x y → spanNames spans fuel (some x) names = none := by
  induction fuel with
  | zero => intros; rfl
  | succ fuel ih =>
      intro x names hreach
      obtain ⟨event, hx, x', hparent, hx'⟩ := parent_of_reaches_cycle hreach hcycle
      simp only [spanNames, Option.some_bind, hx, hparent]
      exact ih _ hx'

/-- After any history, the call of `log_event` on an event whose span's recorded parents, the
event itself recorded, lead into a cycle never ends: no number of passes ends its walk. -/
theorem logEvent_diverges_on_parent_cycle (history : List Event) (event : Event) {y : String}
    (hreach : ReflTransGen (Parent (spansAfter (history ++ [event]))) event.spanId y)
    (hcycle : TransGen (Parent (spansAfter (history ++ [event]))) y y) (fuel : Nat) :
    (logEvent (spansAfter history) event fuel).2 = none := by
  have hafter : spansAfter (history ++ [event]) = recordEvent (spansAfter history) event := by
    rw [spansAfter, List.foldl_append, List.foldl_cons, List.foldl_nil]
    rfl
  rw [hafter] at hreach hcycle
  simp only [logEvent, spanNames_of_reaches_cycle hcycle fuel [] hreach, Option.map_none']

def restartHistory : List Event :=
  [.spanStart ⟨"a", "agent", none⟩, .spanStart ⟨"b", "turn", some "a"⟩]

def restartEvent : Event := .spanStart ⟨"a", "agent", some "b"⟩

/-- Starting `a` again under `b` records the cycle `a`, `b`, `a`: logging that event never ends. -/
theorem restarted_span_diverges :
    ReflTransGen (Parent (spansAfter (restartHistory ++ [restartEvent]))) restartEvent.spanId "a" ∧
      TransGen (Parent (spansAfter (restartHistory ++ [restartEvent]))) "a" "a" ∧
      ∀ fuel, (logEvent (spansAfter restartHistory) restartEvent fuel).2 = none := by
  have hcycle : TransGen (Parent (spansAfter (restartHistory ++ [restartEvent]))) "a" "a" :=
    .head ⟨_, rfl, rfl⟩ (.single ⟨_, rfl, rfl⟩)
  exact ⟨.refl, hcycle, logEvent_diverges_on_parent_cycle _ _ .refl hcycle⟩

end LlamaStack.Console
