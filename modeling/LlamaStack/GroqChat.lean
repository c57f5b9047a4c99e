import LlamaStack.GroqStream

/-!
# The Groq adapter's request and response conversions

`convert_chat_completion_request` (groq_utils.py 39-75) warns once for each feature Groq does not
take and builds the request parameters, converting the messages in order with `_convert_message`
(78-88), which raises on any role but system, user and assistant: a conversation that holds a tool
response cannot be sent. It reads `sampling_params` with no test, so a request without them
raises `AttributeError`. `convert_chat_completion_response` (91-101) reads the first choice.

Groq returns a completion whole or as a stream of chunks. When the stream carries the text of the
whole response, split over chunks whose finish reason comes on the last one, the streaming path of
`GroqStream` and `convert_chat_completion_response` agree: the same stop reason, with the streamed
texts joined giving the content, or the same error, which the stream raises after the events of the
chunks before the last.
-/

namespace LlamaStack.Groq

section Request

/-- A llama-stack message as `_convert_message` reads it: its role, and its content, which is
passed on as it is. -/
structure Message (Content : Type) where
  role : String
  content : Content

/-- Groq's `ChatCompletionMessageParam` for the three roles the adapter sends. -/
inductive ChatCompletionMessageParam (Content : Type) where
  | system (content : Content)
  | user (content : Content)
  | assistant (content : Content)

variable {Content LogProbConfig ResponseFormat ToolDefinition : Type}

def ChatCompletionMessageParam.role : ChatCompletionMessageParam Content → String
  | .system _ => "system"
  | .user _ => "user"
  | .assistant _ => "assistant"

def ChatCompletionMessageParam.content : ChatCompletionMessageParam Content → Content
  | .system content | .user content | .assistant content => content

/-- `_convert_message`. The values of `Role.system`, `Role.user` and `Role.assistant` are
`system`, `user` and `assistant`. -/
def convertMessage (message : Message Content) :
    Except PyError (ChatCompletionMessageParam Content) :=
  if message.role = "system" then .ok (.system message.content)
  else if message.role = "user" then .ok (.user message.content)
  else if message.role = "assistant" then .ok (.assistant message.content)
  else .error (.valueError ("Invalid message role: " ++ message.role))

/-- The fields of `SamplingParams` the conversion reads. -/
structure SamplingParams where
  maxTokens : Option Int
  temperature : Option Float
  topP : Option Float
  repetitionPenalty : Option Float

/-- The fields of `ChatCompletionRequest` the conversion reads; `sampling_params` is optional. The
logprobs config, the response format and the tool definitions are only tested for truthiness, so
their types are parameters. -/
structure ChatCompletionRequest (Content LogProbConfig ResponseFormat ToolDefinition : Type) where
  model : String
  messages : List (Message Content)
  samplingParams : Option SamplingParams
  tools : Option (List ToolDefinition)
  responseFormat : Option ResponseFormat
  stream : Option Bool
  logprobs : Option LogProbConfig

/-- Groq's `CompletionCreateParams`, with the keys the conversion sets. -/
structure CompletionCreateParams (Content : Type) where
  model : String
  messages : List (ChatCompletionMessageParam Content)
  logprobs : Option Bool
  frequencyPenalty : Option Float
  stream : Option Bool
  maxTokens : Option Int
  temperature : Option Float
  topP : Option Float

/-- The warnings of groq_utils.py 47-64, in the order they are issued: a config object is truthy
when given, a float when nonzero, the tool list when nonempty. Without sampling params the
function raises at line 55, after the first two. -/
def requestWarnings
    (request : ChatCompletionRequest Content LogProbConfig ResponseFormat ToolDefinition) :
    List String :=
  (if request.logprobs.isSome then ["logprobs are not supported yet"] else []) ++
    (if request.responseFormat.isSome then ["response_format is not supported yet"] else []) ++
    match request.samplingParams with
    | none => []
    | some samplingParams =>
        (if samplingParams.repetitionPenalty.any (· != 0) then
          ["repetition_penalty is not supported"] else []) ++
        (if request.tools.any fun tools => !tools.isEmpty then ["tools are not supported yet"] else [])

/-- `convert_chat_completion_request`: the warnings issued, and the parameters, the
`AttributeError` of reading `repetition_penalty` from `None`, or the error of the first message
that does not convert. `max_tokens or None` sends no limit for `0`. -/
def convertChatCompletionRequest
    (request : ChatCompletionRequest Content LogProbConfig ResponseFormat ToolDefinition) :
    List String × Except PyError (CompletionCreateParams Content) :=
  (requestWarnings request,
    match request.samplingParams with
    | none => .error (.attributeError
        "\x27NoneType\x27 object has no attribute \x27repetition_penalty\x27")
    | some samplingParams => do
        let messages ← request.messages.mapM convertMessage
        pure
          { model := request.model
            messages := messages
            logprobs := none
            frequencyPenalty := none
            stream := request.stream
            maxTokens := samplingParams.maxTokens.filter (· != 0)
            temperature := samplingParams.temperature
            topP := samplingParams.topP })

/-- The roles `_convert_message` converts. -/
def SentRole (role : String) : Prop := role = "system" ∨ role = "user" ∨ role = "assistant"

instance : DecidablePred SentRole := fun role =>
  inferInstanceAs (Decidable (role = "system" ∨ role = "user" ∨ role = "assistant"))

/-- What converting a list of messages in order gives: the parameters of the same roles and
contents when every role is sent, else the error of the first message whose role is not. -/
def MessagesConverted (messages : List (Message Content)) :
    Except PyError (List (ChatCompletionMessageParam Content)) → Prop
  | .ok params => (∀ m ∈ messages, SentRole m.role) ∧
      params.map (·.role) = messages.map (·.role) ∧
      params.map (·.content) = messages.map (·.content)
  | .error e => ∃ pre m post, messages = pre ++ m :: post ∧ (∀ m' ∈ pre, SentRole m'.role) ∧
      ¬SentRole m.role ∧ e = .valueError ("Invalid message role: " ++ m.role)

theorem convertMessage_of_sentRole {message : Message Content} (h : SentRole message.role) :
    ∃ param, convertMessage message = .ok param ∧ param.role = message.role ∧
      param.content = message.content := by
  rcases h with h | h | h <;> simp [convertMessage, h, ChatCompletionMessageParam.role,
    ChatCompletionMessageParam.content]

theorem convertMessage_of_not_sentRole {message : Message Content} (h : ¬SentRole message.role) :
    convertMessage message = .error (.valueError ("Invalid message role: " ++ message.role)) := by
  simp only [SentRole, not_or] at h
  simp [convertMessage, h.1, h.2.1, h.2.2]

theorem mapM_convertMessage (messages : List (Message Content)) :
    MessagesConverted messages (messages.mapM convertMessage) := by
  induction messages with
  | nil => exact ⟨(fun _ h => nomatch h), rfl, rfl⟩
  | cons m ms ih =>
      by_cases hm : SentRole m.role
      · obtain ⟨param, hp, hrole, hcontent⟩ := convertMessage_of_sentRole hm
        rw [List.mapM_cons, hp]
        cases hms : ms.mapM convertMessage with
        | error e =>
            rw [hms] at ih
            obtain ⟨pre, m', post, rfl, hpre, hm', rfl⟩ := ih
            exact ⟨m :: pre, m', post, rfl, List.forall_mem_cons.mpr ⟨hm, hpre⟩, hm', rfl⟩
        | ok params =>
            rw [hms] at ih
            obtain ⟨hall, hroles, hcontents⟩ := ih
            exact ⟨List.forall_mem_cons.mpr ⟨hm, hall⟩, by simp [hrole, hroles],
              by simp [hcontent, hcontents]⟩
      · rw [List.mapM_cons, convertMessage_of_not_sentRole hm]
        exact ⟨[], m, ms, rfl, (fun _ h => nomatch h), hm, rfl⟩

/-- Converting a request with sampling params either sends every message with its role and
content, in order, which happens exactly when every role is system, user or assistant, or raises
the `ValueError` of the first message with another role. Without sampling params it raises
`AttributeError` and sends nothing. The warnings are issued either way. -/
theorem convertChatCompletionRequest_messages
    (request : ChatCompletionRequest Content LogProbConfig ResponseFormat ToolDefinition) :
    (convertChatCompletionRequest request).1 = requestWarnings request ∧
      match request.samplingParams with
      | none => (convertChatCompletionRequest request).2 = .error (.attributeError
          "\x27NoneType\x27 object has no attribute \x27repetition_penalty\x27")
      | some _ => MessagesConverted request.messages
          ((convertChatCompletionRequest request).2.map (·.messages)) := by
  refine ⟨rfl, ?_⟩
  simp only [convertChatCompletionRequest]
  cases request.samplingParams with
  | none => rfl
  | some samplingParams =>
      have h := mapM_convertMessage request.messages
      cases hms : request.messages.mapM convertMessage <;> rw [hms] at h <;> exact h

end Request

section Response

/-- The message of a choice of Groq's `ChatCompletion`; only its content is read. -/
structure ChatCompletionMessage where
  content : Option String

structure CompletionChoice where
  message : ChatCompletionMessage
  finishReason : String

structure ChatCompletion where
  choices : List CompletionChoice

/-- llama-stack's `CompletionMessage` as the adapter builds it. -/
structure CompletionMessage where
  content : String
  stopReason : StopReason

structure ChatCompletionResponse where
  completionMessage : CompletionMessage

/-- `convert_chat_completion_response`. The keyword arguments are evaluated before
`CompletionMessage` validates them, so a finish reason that raises does so before a missing
content fails validation. -/
def convertChatCompletionResponse (response : ChatCompletion) :
    Except PyError ChatCompletionResponse :=
  match response.choices with
  | [] => .error (.indexError "list index out of range")
  | choice :: _ => do
      let stopReason ← mapFinishReasonToStopReason choice.finishReason
      match choice.message.content with
      | some content => pure ⟨⟨content, stopReason⟩⟩
      | none => .error .validationError

/-- A choice of a chunk that does not finish the stream: its finish reason is falsy. -/
def Unfinished (choice : Choice) : Prop :=
  choice.finishReason = none ∨ choice.finishReason = some ""

theorem streamStep_of_unfinished {chunk : ChatCompletionChunk} {choice : Choice}
    (hc : chunk.choices.head? = some choice) (hu : Unfinished choice) (st : StreamState) :
    streamStep st chunk =
      ([⟨if st.startYielded then .progress else .start, choice.delta.content.getD "", none⟩],
        .next ⟨true, st.stopReason⟩) := by
  have hf : MappedFinish choice.finishReason := by rcases hu with h | h <;> simp [MappedFinish, h]
  rw [streamStep_of_choice hc hf]
  rcases hu with h | h <;> simp [h, finishStopReason]

theorem streamStep_of_finishReason {chunk : ChatCompletionChunk} {choice : Choice} {fr : String}
    (hc : chunk.choices.head? = some choice) (hf : choice.finishReason = some fr) (hne : fr ≠ "")
    (st : StreamState) :
    streamStep st chunk =
      match mapFinishReasonToStopReason fr with
      | .ok stop =>
          ([⟨if st.startYielded then .progress else .start, choice.delta.content.getD "", none⟩],
            .next ⟨true, some stop⟩)
      | .error e => ([], .raise e) := by
  cases h : chunk.choices with
  | nil => rw [h] at hc; cases hc
  | cons c cs =>
      rw [h, List.head?_cons, Option.some.injEq] at hc
      subst hc
      simp only [streamStep, h, nextStopReason, hf, hne, if_false]
      cases mapFinishReasonToStopReason fr <;> rfl

theorem drive_unfinished {chunks : List ChatCompletionChunk} {choices : List Choice}
    (h : List.Forall₂ (fun chunk choice => chunk.choices.head? = some choice) chunks choices)
    (hu : ∀ c ∈ choices, Unfinished c) (stopReason : Option StopReason)
    (rest : List ChatCompletionChunk) :
    drive streamStep streamEnd ⟨true, stopReason⟩ (chunks ++ rest) =
      (choices.map (fun c => ⟨.progress, c.delta.content.getD "", none⟩) ++
          (drive streamStep streamEnd ⟨true, stopReason⟩ rest).1,
        (drive streamStep streamEnd ⟨true, stopReason⟩ rest).2) := by
  induction h with
  | nil => rfl
  | @cons chunk choice chunks choices hc _ ih =>
      rw [List.cons_append,
        drive_cons_next (streamStep_of_unfinished hc (hu choice (List.mem_cons_self _ _)) _),
        ih (fun c hc' => hu c (List.mem_cons_of_mem _ hc'))]
      simp

theorem drive_finishing_chunk {chunk : ChatCompletionChunk} {choice : Choice} {fr : String}
    (hc : chunk.choices.head? = some choice) (hf : choice.finishReason = some fr) (hne : fr ≠ "")
    (started : Bool) :
    drive streamStep streamEnd ⟨started, none⟩ [chunk] =
      match mapFinishReasonToStopReason fr with
      | .ok stop =>
          ([⟨if started then .progress else .start, choice.delta.content.getD "", none⟩,
            ⟨.complete, "", some stop⟩], .ok ())
      | .error e => ([], .error e) := by
  have hs := streamStep_of_finishReason hc hf hne ⟨started, none⟩
  cases hm : mapFinishReasonToStopReason fr with
  | ok stop => rw [hm] at hs; rw [drive_cons_next hs]; rfl
  | error e => rw [hm] at hs; rw [drive_cons_raise hs]

/-- A stream whose finish reason comes on its last chunk: the chunks' texts and the `complete`
event of the mapped finish reason, or, when the mapping raises, the events of the chunks before
the last and the error. -/
theorem convertChatCompletionResponseStream_finishing {chunks : List ChatCompletionChunk}
    {choices : List Choice}
    (h : List.Forall₂ (fun chunk choice => chunk.choices.head? = some choice) chunks choices)
    (hu : ∀ c ∈ choices, Unfinished c) {lastChunk : ChatCompletionChunk} {last : Choice}
    {fr : String} (hl : lastChunk.choices.head? = some last) (hf : last.finishReason = some fr)
    (hne : fr ≠ "") :
    convertChatCompletionResponseStream (chunks ++ [lastChunk]) =
      match mapFinishReasonToStopReason fr with
      | .ok stop => (choiceEvents (choices ++ [last]) ++ [⟨.complete, "", some stop⟩], .ok ())
      | .error e => (choiceEvents choices, .error e) := by
  have hlast := drive_finishing_chunk hl hf hne
  cases h with
  | nil =>
      rw [List.nil_append, convertChatCompletionResponseStream, hlast]
      cases mapFinishReasonToStopReason fr <;> rfl
  | @cons chunk choice chunks choices hc hrest =>
      rw [List.cons_append, convertChatCompletionResponseStream,
        drive_cons_next (streamStep_of_unfinished hc (hu choice (List.mem_cons_self _ _)) _),
        drive_unfinished hrest (fun c hc' => hu c (List.mem_cons_of_mem _ hc')), hlast true]
      cases mapFinishReasonToStopReason fr <;> simp [choiceEvents]

theorem choiceEvents_delta (choices : List Choice) :
    (choiceEvents choices).map (·.delta) = choices.map fun c => c.delta.content.getD "" := by
  cases choices <;> simp [choiceEvents]

/-- The streaming and the non-streaming path agree on a completion: the same stop reason, with
the texts of the events before `complete` joined giving the content, or the same error. -/
def Agrees :
    Except PyError ChatCompletionResponse → List (Event String) × Except PyError Unit → Prop
  | .ok response, (events, .ok ()) =>
      ∃ texts, events = texts ++ [⟨.complete, "", some response.completionMessage.stopReason⟩] ∧
        String.join (texts.map (·.delta)) = response.completionMessage.content
  | .error e, (_, .error e') => e = e'
  | _, _ => False

/-- When Groq streams the completion it would return whole, its text split over the chunks and
its finish reason on the last chunk alone, the streaming conversion and
`convert_chat_completion_response` agree: the same stop reason with the streamed texts joined
giving the content, or the same error, for every finish reason. -/
theorem stream_agrees_with_response {chunks : List ChatCompletionChunk} {choices : List Choice}
    (h : List.Forall₂ (fun chunk choice => chunk.choices.head? = some choice) chunks choices)
    (hu : ∀ c ∈ choices, Unfinished c) {lastChunk : ChatCompletionChunk} {last : Choice}
    (hl : lastChunk.choices.head? = some last) {response : ChatCompletion}
    {choice : CompletionChoice} {others : List CompletionChoice}
    (hr : response.choices = choice :: others) (hf : last.finishReason = some choice.finishReason)
    (hne : choice.finishReason ≠ "")
    (hcontent : choice.message.content =
      some (String.join ((choices ++ [last]).map fun c => c.delta.content.getD ""))) :
    Agrees (convertChatCompletionResponse response)
      (convertChatCompletionResponseStream (chunks ++ [lastChunk])) := by
  rw [convertChatCompletionResponseStream_finishing h hu hl hf hne, convertChatCompletionResponse,
    hr]
  cases hm : mapFinishReasonToStopReason choice.finishReason with
  | error e => simp only [hm, Except.error_bind, Agrees]
  | ok stop =>
      simp only [hm, hcontent, Except.ok_bind, Except.pure_eq_ok]
      exact ⟨_, rfl, by rw [choiceEvents_delta]⟩

theorem stream_agrees_with_response_hello :
    Agrees (convertChatCompletionResponse ⟨[⟨⟨some "Hello"⟩, "stop"⟩]⟩)
      (convertChatCompletionResponseStream
        ([⟨[⟨⟨some "Hel"⟩, none⟩]⟩] ++ [⟨[⟨⟨some "lo"⟩, some "stop"⟩]⟩])) :=
  @stream_agrees_with_response _ _
    (.cons rfl .nil : List.Forall₂ (fun (chunk : ChatCompletionChunk) (choice : Choice) =>
      chunk.choices.head? = some choice) [⟨[⟨⟨some "Hel"⟩, none⟩]⟩] [⟨⟨some "Hel"⟩, none⟩])
    (by simp [Unfinished]) ⟨[⟨⟨some "lo"⟩, some "stop"⟩]⟩ ⟨⟨some "lo"⟩, some "stop"⟩ rfl _ _ [] rfl rfl
    (by decide) rfl

end Response

end LlamaStack.Groq
