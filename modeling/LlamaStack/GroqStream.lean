import LlamaStack.StreamEvents

/-!
The streaming path of the Groq adapter (groq_utils.py 104-162). The event type of each chunk
comes from a generator that yields `start` once and then `progress` forever, so the first chunk
of the stream is the `start` event and carries that chunk's text; the `complete` event reads the
local `stop_reason`, which only a chunk with a finish reason assigns. On well-formed chunks the
output is the chunks' texts, the first as `start` (`convertChatCompletionResponseStream_of_choices`),
then `complete` with the stop reason of the last finish reason, and `UnboundLocalError` when no
chunk has one, the empty stream included.
-/

namespace LlamaStack.Groq

structure ChoiceDelta where
  content : Option String

structure Choice where
  delta : ChoiceDelta
  finishReason : Option String

structure ChatCompletionChunk where
  choices : List Choice

def mapFinishReasonToStopReason (finishReason : String) : Except PyError StopReason :=
  if finishReason = "stop" then .ok .endOfTurn
  else if finishReason = "length" then .ok .endOfMessage
  else if finishReason = "tool_calls" then
    .error (.notImplementedError "tool_calls is not supported yet")
  else .error (.valueError ("Invalid finish reason: " ++ finishReason))

/-- The locals of the generator: whether `event_types` has yielded its `start`, and
`stop_reason`, unassigned until a chunk has a finish reason. -/
structure StreamState where
  startYielded : Bool
  stopReason : Option StopReason

/-- `stop_reason` after a choice: reassigned when its finish reason is truthy. -/
def nextStopReason (choice : Choice) (stopReason : Option StopReason) :
    Except PyError (Option StopReason) :=
  match choice.finishReason with
  | some finishReason =>
      if finishReason = "" then .ok stopReason
      else (mapFinishReasonToStopReason finishReason).map some
  | none => .ok stopReason

/-- One pass of the loop over the chunks (groq_utils.py 139-153). -/
def streamStep (st : StreamState) (chunk : ChatCompletionChunk) :
    List (Event String) × Control StreamState :=
  match chunk.choices with
  | [] => ([], .raise (.indexError "list index out of range"))
  | choice :: _ =>
      match nextStopReason choice st.stopReason with
      | .error e => ([], .raise e)
      | .ok stopReason =>
          ([⟨if st.startYielded then .progress else .start, choice.delta.content.getD "", none⟩],
            .next ⟨true, stopReason⟩)

/-- The `complete` event after the loop (groq_utils.py 155-162). -/
def streamEnd (st : StreamState) : List (Event String) × Except PyError Unit :=
  match st.stopReason with
  | some stopReason => ([⟨.complete, "", some stopReason⟩], .ok ())
  | none => ([], .error (.unboundLocalError "stop_reason"))

def convertChatCompletionResponseStream (stream : List ChatCompletionChunk) :
    List (Event String) × Except PyError Unit :=
  drive streamStep streamEnd ⟨false, none⟩ stream

/-- The stop reason a finish reason in the set the adapter maps gives, if it is truthy. -/
def finishStopReason : Option String → Option StopReason
  | some "stop" => some .endOfTurn
  | some "length" => some .endOfMessage
  | _ => none

/-- The finish reasons the adapter maps without raising. -/
def MappedFinish (finishReason : Option String) : Prop :=
  finishReason = none ∨ finishReason = some "" ∨ finishReason = some "stop" ∨
    finishReason = some "length"

/-- The events of the chunks' choices: the first chunk's text as `start`, the others' as
`progress`. -/
def choiceEvents : List Choice → List (Event String)
  | [] => []
  | choice :: choices => ⟨.start, choice.delta.content.getD "", none⟩ ::
      choices.map fun c => ⟨.progress, c.delta.content.getD "", none⟩

theorem nextStopReason_of_mapped {choice : Choice} (h : MappedFinish choice.finishReason)
    (stopReason : Option StopReason) :
    nextStopReason choice stopReason = .ok ((finishStopReason choice.finishReason).or stopReason) := by
  rcases h with h | h | h | h <;>
    simp [nextStopReason, h, finishStopReason, mapFinishReasonToStopReason, Except.map]

theorem streamStep_of_choice {chunk : ChatCompletionChunk} {choice : Choice}
    (hc : chunk.choices.head? = some choice) (hf : MappedFinish choice.finishReason)
    (st : StreamState) :
    streamStep st chunk =
      ([⟨if st.startYielded then .progress else .start, choice.delta.content.getD "", none⟩],
        .next ⟨true, (finishStopReason choice.finishReason).or st.stopReason⟩) := by
  cases h : chunk.choices with
  | nil => rw [h] at hc; cases hc
  | cons c cs =>
      rw [h, List.head?_cons, Option.some.injEq] at hc
      subst hc
      simp only [streamStep, h, nextStopReason_of_mapped hf]

/-- The stop reason of the last truthy finish reason among the choices. -/
def lastStopReason (choices : List Choice) : Option StopReason :=
  (choices.filterMap fun c => finishStopReason c.finishReason).getLast?

theorem lastStopReason_cons (choice : Choice) (choices : List Choice) :
    lastStopReason (choice :: choices) =
      (lastStopReason choices).or (finishStopReason choice.finishReason) := by
  have h := getLast?_filterMap_cons_or (fun c => finishStopReason c.finishReason) choice choices none
  simp only [Option.or_none] at h
  exact h

theorem drive_of_startYielded {chunks : List ChatCompletionChunk} {choices : List Choice}
    (h : List.Forall₂ (fun chunk choice => chunk.choices.head? = some choice) chunks choices)
    (hf : ∀ c ∈ choices, MappedFinish c.finishReason) (stopReason : Option StopReason) :
    drive streamStep streamEnd ⟨true, stopReason⟩ chunks =
      (choices.map (fun c => ⟨.progress, c.delta.content.getD "", none⟩) ++
          (streamEnd ⟨true, (lastStopReason choices).or stopReason⟩).1,
        (streamEnd ⟨true, (lastStopReason choices).or stopReason⟩).2) := by
  induction h generalizing stopReason with
  | nil => rfl
  | @cons chunk choice chunks choices hc _ ih =>
      rw [drive_cons_next (streamStep_of_choice hc (hf choice (List.mem_cons_self _ _)) _),
        ih (fun c hc' => hf c (List.mem_cons_of_mem _ hc')), lastStopReason_cons, Option.or_assoc]
      rfl

/-- On chunks whose first choices have finish reasons the adapter maps, the first chunk's text
is the `start` event, every other chunk's text a `progress` event, in order; the stream ends
with `complete` and the stop reason of the last finish reason, or raises `UnboundLocalError` when
no chunk has one. -/
theorem convertChatCompletionResponseStream_of_choices {chunks : List ChatCompletionChunk}
    {choices : List Choice}
    (h : List.Forall₂ (fun chunk choice => chunk.choices.head? = some choice) chunks choices)
    (hf : ∀ c ∈ choices, MappedFinish c.finishReason) :
    convertChatCompletionResponseStream chunks =
      (choiceEvents choices ++ (streamEnd ⟨true, lastStopReason choices⟩).1,
        (streamEnd ⟨true, lastStopReason choices⟩).2) := by
  cases h with
  | nil => rfl
  | @cons chunk choice chunks choices hc hrest =>
      rw [convertChatCompletionResponseStream,
        drive_cons_next (streamStep_of_choice hc (hf choice (List.mem_cons_self _ _)) _),
        drive_of_startYielded hrest (fun c hc' => hf c (List.mem_cons_of_mem _ hc')),
        lastStopReason_cons]
      simp only [Option.or_none]
      rfl

/-- One chunk `Hi` that finishes with `length` ends the stream with `end_of_message`; one that
has no finish reason raises `UnboundLocalError`. -/
theorem convertChatCompletionResponseStream_length_or_unfinished :
    convertChatCompletionResponseStream [⟨[⟨⟨some "Hi"⟩, some "length"⟩]⟩] =
        ([⟨.start, "Hi", none⟩, ⟨.complete, "", some .endOfMessage⟩], .ok ()) ∧
      convertChatCompletionResponseStream [⟨[⟨⟨some "Hi"⟩, none⟩]⟩] =
        ([⟨.start, "Hi", none⟩], .error (.unboundLocalError "stop_reason")) :=
  ⟨(convertChatCompletionResponseStream_of_choices
      (.cons rfl .nil : List.Forall₂ (fun (chunk : ChatCompletionChunk) (choice : Choice) =>
        chunk.choices.head? = some choice)
        [⟨[⟨⟨some "Hi"⟩, some "length"⟩]⟩] [⟨⟨some "Hi"⟩, some "length"⟩])
      (by simp [MappedFinish])).trans rfl,
    (convertChatCompletionResponseStream_of_choices
      (.cons rfl .nil : List.Forall₂ (fun (chunk : ChatCompletionChunk) (choice : Choice) =>
        chunk.choices.head? = some choice) [⟨[⟨⟨some "Hi"⟩, none⟩]⟩] [⟨⟨some "Hi"⟩, none⟩])
      (by simp [MappedFinish])).trans rfl⟩

/-- `Hello`, ` world`, then a chunk without content that finishes with `stop`: `Hello` comes in
the `start` event and the stream has four events; the empty stream raises at once. -/
theorem hello_world_start_carries_text :
    convertChatCompletionResponseStream
        [⟨[⟨⟨some "Hello"⟩, none⟩]⟩, ⟨[⟨⟨some " world"⟩, none⟩]⟩, ⟨[⟨⟨none⟩, some "stop"⟩]⟩] =
      ([⟨.start, "Hello", none⟩, ⟨.progress, " world", none⟩, ⟨.progress, "", none⟩,
        ⟨.complete, "", some .endOfTurn⟩], .ok ()) ∧
    convertChatCompletionResponseStream [] = ([], .error (.unboundLocalError "stop_reason")) :=
  ⟨rfl, rfl⟩

end LlamaStack.Groq
