import LlamaStack.PyValue

/-!
The canonical chat-completion events every provider yields, and the generator loop the providers
are written as. A provider's streaming function is a `for` loop over its input that yields some
events per item and then goes on, returns, or raises, followed by the code after the loop.
`drive` runs such a loop to the end of its input; `drive_closes` is the one induction over a
run: if every pass yields only progress events, and a pass that returns ends with one `complete`
event, the whole output is progress events closed by at most one `complete`, which comes last and
only when the generator returns.
-/

namespace LlamaStack

/-- `StopReason` of the llama models API. -/
inductive StopReason where
  | endOfTurn
  | endOfMessage
  | outOfTokens
  deriving DecidableEq, Repr

/-- `ChatCompletionResponseEventType`. -/
inductive EventType where
  | start
  | progress
  | complete
  deriving DecidableEq, Repr

/-- `ChatCompletionResponseEvent`, over the delta type of the API version the provider uses. -/
structure Event (δ : Type) where
  eventType : EventType
  delta : δ
  stopReason : Option StopReason
  deriving DecidableEq, Repr

/-- How one pass of a generator's loop ends: the loop goes on from a new state, the generator
returns, or it raises. -/
inductive Control (σ : Type) where
  | next (s : σ)
  | stop
  | raise (e : PyError)

variable {σ α δ : Type}

/-- A generator whose loop runs `body` on each input, and `exhausted` after the last one. The
output is every event yielded, and how the generator ended. -/
def drive (body : σ → α → List (Event δ) × Control σ)
    (exhausted : σ → List (Event δ) × Except PyError Unit) :
    σ → List α → List (Event δ) × Except PyError Unit
  | s, [] => exhausted s
  | s, a :: as =>
      match body s a with
      | (es, .next s') => (es ++ (drive body exhausted s' as).1, (drive body exhausted s' as).2)
      | (es, .stop) => (es, .ok ())
      | (es, .raise e) => (es, .error e)

@[simp] theorem drive_nil (body : σ → α → List (Event δ) × Control σ)
    (exhausted : σ → List (Event δ) × Except PyError Unit) (s : σ) :
    drive body exhausted s [] = exhausted s := rfl

theorem drive_cons_next {body : σ → α → List (Event δ) × Control σ}
    {exhausted : σ → List (Event δ) × Except PyError Unit} {s s' : σ} {a : α} {es : List (Event δ)}
    (h : body s a = (es, .next s')) (as : List α) :
    drive body exhausted s (a :: as) =
      (es ++ (drive body exhausted s' as).1, (drive body exhausted s' as).2) := by
  simp only [drive, h]

theorem drive_cons_stop {body : σ → α → List (Event δ) × Control σ}
    {exhausted : σ → List (Event δ) × Except PyError Unit} {s : σ} {a : α} {es : List (Event δ)}
    (h : body s a = (es, .stop)) (as : List α) :
    drive body exhausted s (a :: as) = (es, .ok ()) := by
  simp only [drive, h]

theorem drive_cons_raise {body : σ → α → List (Event δ) × Control σ}
    {exhausted : σ → List (Event δ) × Except PyError Unit} {s : σ} {a : α} {es : List (Event δ)}
    {e : PyError} (h : body s a = (es, .raise e)) (as : List α) :
    drive body exhausted s (a :: as) = (es, .error e) := by
  simp only [drive, h]

/-- A local that a loop reassigns to `f a` on each item `a` where `f a` is some holds, after the
loop, the last such value, or its value before the loop: one more item to the front of the loop
is one more assignment before the rest. -/
theorem getLast?_filterMap_cons_or {β : Type} (f : α → Option β) (a : α) (as : List α)
    (x : Option β) :
    ((a :: as).filterMap f).getLast?.or x = (as.filterMap f).getLast?.or ((f a).or x) := by
  cases hf : f a with
  | none => simp [hf]
  | some b =>
      simp only [List.filterMap_cons, hf, List.getLast?_cons]
      cases (as.filterMap f).getLast? <;> rfl

def AllProgress (es : List (Event δ)) : Prop := ∀ e ∈ es, e.eventType = .progress

@[simp] theorem allProgress_nil : AllProgress ([] : List (Event δ)) := by simp [AllProgress]

@[simp] theorem allProgress_append {es es' : List (Event δ)} :
    AllProgress (es ++ es') ↔ AllProgress es ∧ AllProgress es' := by
  simp only [AllProgress, List.mem_append]
  exact ⟨fun h => ⟨fun e he => h e (.inl he), fun e he => h e (.inr he)⟩,
    fun h e he => he.elim (h.1 e) (h.2 e)⟩

/-- A generator's output after its `start` event ends as the canonical protocol asks: progress
events, then one `complete` event when the generator returns, and nothing more when it raises. -/
def Closes (es : List (Event δ)) : Except PyError Unit → Prop
  | .ok _ => ∃ ps c, es = ps ++ [c] ∧ AllProgress ps ∧ c.eventType = .complete
  | .error _ => AllProgress es

/-- What one pass may do: yield progress events and go on or raise, or yield progress events and
one `complete` event and return. -/
def PassCloses (out : List (Event δ) × Control σ) : Prop :=
  match out.2 with
  | .next _ => AllProgress out.1
  | .raise _ => AllProgress out.1
  | .stop => ∃ ps c, out.1 = ps ++ [c] ∧ AllProgress ps ∧ c.eventType = .complete

theorem closes_progress_append {ps es : List (Event δ)} {r : Except PyError Unit}
    (hps : AllProgress ps) (h : Closes es r) : Closes (ps ++ es) r := by
  cases r with
  | error e => exact allProgress_append.mpr ⟨hps, h⟩
  | ok u =>
      obtain ⟨qs, c, rfl, hqs, hc⟩ := h
      exact ⟨ps ++ qs, c, by simp, allProgress_append.mpr ⟨hps, hqs⟩, hc⟩

/-- The run lemma: passes that close give a run that closes. -/
theorem drive_closes {body : σ → α → List (Event δ) × Control σ}
    {exhausted : σ → List (Event δ) × Except PyError Unit}
    (hbody : ∀ s a, PassCloses (body s a))
    (hexhausted : ∀ s, Closes (exhausted s).1 (exhausted s).2) :
    ∀ s as, Closes (drive body exhausted s as).1 (drive body exhausted s as).2
  | s, [] => hexhausted s
  | s, a :: as => by
      have hp := hbody s a
      rcases hb : body s a with ⟨es, _ | _ | e⟩ <;> rw [hb] at hp
      · rw [drive_cons_next hb]
        exact closes_progress_append hp (drive_closes hbody hexhausted _ as)
      · rw [drive_cons_stop hb]
        exact hp
      · rw [drive_cons_raise hb]
        exact hp

end LlamaStack
