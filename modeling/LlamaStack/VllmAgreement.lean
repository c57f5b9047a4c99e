import LlamaStack.VllmToolCalls

/-!
The two result paths of the vLLM adapter compared. `_convert_non_streaming_results` (vllm.py
577-620) reads a whole reply; the streaming path reads the same reply cut into records. On every
cut of a reply, the stream completes, its text is the reply's content and its stop reason the
reply's; its tool calls are the reply's only when the reply finishes with `tool_calls`, and then
in the order in which the stream first names each index. A reply with tool calls and another
finish reason loses them on the streaming path.
-/

namespace LlamaStack.Vllm

structure FunctionCall where
  name : String
  arguments : String

/-- `ToolCall` of vLLM's OpenAI protocol. -/
structure ProtocolToolCall where
  id : String
  function : FunctionCall

structure ChatMessage where
  role : String
  content : Option String
  toolCalls : List ProtocolToolCall

structure ResponseChoice where
  message : ChatMessage
  finishReason : Option String

/-- `ChatCompletionResponse` of vLLM's OpenAI protocol; only its choices are read. -/
structure ProtocolResponse where
  choices : List ResponseChoice

/-- llama-stack's `CompletionMessage`; its `role` is the literal `assistant`. -/
structure CompletionMessage where
  content : String
  stopReason : StopReason
  toolCalls : List ToolCall

/-- A `finish_reason` as the JSON value the streaming records carry. -/
def finishReasonJson : Option String → Json
  | some s => .str s
  | none => .null

theorem finishReasonJson_isStr (r : Option String) (s : String) :
    (finishReasonJson r).isStr s = true ↔ r = some s := by
  cases r <;> simp [finishReasonJson, Json.isStr]

variable (loads : String → Option Json)

/-- The `ToolCall` of one of vLLM's tool calls (vllm.py 603-609): its arguments decoded, then
validated. -/
def convertToolCall (t : ProtocolToolCall) : Except PyError ToolCall :=
  match loads t.function.arguments with
  | some v => ToolCall.validate (some (.str t.id)) (some (.str t.function.name)) (some v)
  | none => .error .jsonDecodeError

/-- `_convert_non_streaming_results`: the `completion_message` of its result. The tool calls are
built first; `CompletionMessage` then takes only the role `assistant` and a stop reason. -/
def convertNonStreamingResults (vllmResult : ProtocolResponse) : Except PyError CompletionMessage :=
  match vllmResult.choices with
  | [] => .error (.valueError "Don't know how to convert response object without any responses")
  | choice :: _ => do
      let toolCalls ← choice.message.toolCalls.mapM (convertToolCall loads)
      match convertFinishReason (finishReasonJson choice.finishReason) with
      | none => .error .validationError
      | some stopReason =>
          if choice.message.role = "assistant" then
            pure ⟨choice.message.content.getD "", stopReason, toolCalls⟩
          else .error .validationError

/-- The texts of a stream's text deltas, joined. -/
def streamText (events : List (Event Delta)) : String :=
  String.join (events.filterMap fun e => match e.delta with
    | .text t => some t
    | .toolCall _ _ => none)

/-- The calls of a stream's `succeeded` tool-call deltas, in order. -/
def succeededCalls (events : List (Event Delta)) : List ToolCall :=
  events.filterMap fun e => match e.delta with
    | .toolCall t status => if status = "succeeded" then some t else none
    | .text _ => none

/-- The stop reason of a stream's `complete` event. -/
def completeStopReason (events : List (Event Delta)) : Option (Option StopReason) :=
  (events.find? fun e => e.eventType == .complete).map (·.stopReason)

/-- The converted call at index `k`. -/
def callAt (calls : List ToolCall) : PyKey → Option ToolCall
  | .int i => calls[i.toNat]?
  | _ => none

/-- `cs ++ [last]` cuts the reply `choice` into records: text pieces that join to its content;
fragments whose indices are positions of its calls, whose last `id` and `name` for a position are
that call's, and whose argument pieces join to its arguments; `finish_reason` on the last record
only. -/
structure Fragmentation (choice : ResponseChoice) (cs : List Chunk) (last : Chunk) : Prop where
  text : String.join ((cs ++ [last]).filterMap (·.delta.text)) = choice.message.content.getD ""
  index : ∀ f ∈ fragmentsOf (cs ++ [last]),
    ∃ i : Nat, i < choice.message.toolCalls.length ∧ f.index = .int i
  call : ∀ (i : Nat) (t : ProtocolToolCall), choice.message.toolCalls[i]? = some t →
    (givenFor (.int i) Fragment.id (fragmentsOf (cs ++ [last]))).getLast? = some (.str t.id) ∧
    (givenFor (.int i) Fragment.name (fragmentsOf (cs ++ [last]))).getLast? =
      some (.str t.function.name) ∧
    String.join (givenFor (.int i) Fragment.arguments (fragmentsOf (cs ++ [last]))) =
      t.function.arguments
  finishLast : last.finishReason = finishReasonJson choice.finishReason
  finishEarlier : ∀ c ∈ cs, c.finishReason = .null

theorem convertNonStreamingResults_ok {choice : ResponseChoice} {others : List ResponseChoice}
    {msg : CompletionMessage} (h : convertNonStreamingResults loads ⟨choice :: others⟩ = .ok msg) :
    msg.content = choice.message.content.getD "" ∧
      convertFinishReason (finishReasonJson choice.finishReason) = some msg.stopReason ∧
      List.Forall₂ (fun t c => convertToolCall loads t = .ok c) choice.message.toolCalls msg.toolCalls := by
  rw [convertNonStreamingResults] at h
  dsimp only at h
  obtain ⟨calls, hm, h⟩ := Except.bind_eq_ok.mp h
  split at h
  · cases h
  · rename_i stopReason hstop
    split at h
    · cases h
      exact ⟨rfl, hstop, mapM_ok hm⟩
    · cases h

@[simp] theorem streamText_nil : streamText [] = "" := rfl

@[simp] theorem streamText_append (es es' : List (Event Delta)) :
    streamText (es ++ es') = streamText es ++ streamText es' := by
  simp [streamText, List.filterMap_append, String.join_append]

theorem streamText_chunkEvents (cs : List Chunk) :
    streamText (cs.flatMap Chunk.events) = String.join (cs.filterMap (·.delta.text)) := by
  induction cs with
  | nil => rfl
  | cons c cs ih =>
      rw [List.flatMap_cons, streamText_append, ih]
      cases h : c.delta.text <;> simp [Chunk.events, textEvents, h, streamText, progress, String.join_cons]

theorem streamText_toolCalls (rs : List ToolCall) (stop : Option StopReason) :
    streamText (rs.map fun r => progress (.toolCall r "succeeded") stop) = "" := by
  induction rs with
  | nil => rfl
  | cons r rs ih => simpa [streamText, progress] using ih

@[simp] theorem succeededCalls_append (es es' : List (Event Delta)) :
    succeededCalls (es ++ es') = succeededCalls es ++ succeededCalls es' :=
  List.filterMap_append _ _ _

theorem succeededCalls_chunkEvents (cs : List Chunk) : succeededCalls (cs.flatMap Chunk.events) = [] := by
  induction cs with
  | nil => rfl
  | cons c cs ih =>
      rw [List.flatMap_cons, succeededCalls_append, ih]
      cases h : c.delta.text <;> simp [Chunk.events, textEvents, h, succeededCalls, progress]

theorem succeededCalls_toolCalls (rs : List ToolCall) (stop : Option StopReason) :
    succeededCalls (rs.map fun r => progress (.toolCall r "succeeded") stop) = rs := by
  induction rs with
  | nil => rfl
  | cons r rs ih => simpa [succeededCalls, progress] using ih

theorem streamText_closed (es : List (Event Delta)) (stop : Option StopReason) :
    streamText (startEvent :: (es ++ [completeEvent stop])) = streamText es := by
  simp [startEvent, completeEvent, streamText, String.join_cons, String.join_append]

theorem succeededCalls_closed (es : List (Event Delta)) (stop : Option StopReason) :
    succeededCalls (startEvent :: (es ++ [completeEvent stop])) = succeededCalls es := by
  simp [startEvent, completeEvent, succeededCalls]

theorem completeStopReason_closed {ps : List (Event Delta)} (hps : AllProgress ps)
    (stop : Option StopReason) :
    completeStopReason (startEvent :: ps ++ [completeEvent stop]) = some stop := by
  have hnone : ps.find? (fun e => e.eventType == .complete) = none :=
    List.find?_eq_none.mpr fun e he => by simp [hps e he]
  simp [completeStopReason, List.find?_append, hnone, startEvent, completeEvent]

theorem chunkEvents_allProgress (cs : List Chunk) : AllProgress (cs.flatMap Chunk.events) :=
  fun e he => by
    obtain ⟨c, -, he⟩ := List.mem_flatMap.mp he
    exact textEvents_allProgress _ _ e he

theorem toolCallEvents_allProgress (rs : List ToolCall) (stop : Option StopReason) :
    AllProgress (rs.map fun r => progress (.toolCall r "succeeded") stop) := by
  simp [AllProgress, progress]

theorem forall₂_getElem? {α β : Type} {R : α → β → Prop} {l : List α} {l' : List β}
    (h : List.Forall₂ R l l') {i : Nat} {a : α} (ha : l[i]? = some a) : ∃ b, l'[i]? = some b ∧ R a b := by
  induction h generalizing i with
  | nil => simp at ha
  | cons hab _ ih =>
      cases i with
      | zero => simp only [List.getElem?_cons_zero, Option.some.injEq] at ha ⊢; exact ⟨_, rfl, ha ▸ hab⟩
      | succ i => simpa using ih (by simpa using ha)

/-- Every index a cut of the reply names is a position of its calls, and the call there is the
converted one. -/
theorem fragmentation_call {choice : ResponseChoice} {cs : List Chunk} {last : Chunk}
    (hfrag : Fragmentation choice cs last) {calls : List ToolCall}
    (hcalls : List.Forall₂ (fun t c => convertToolCall loads t = .ok c) choice.message.toolCalls calls)
    {k : PyKey} (hk : k ∈ firstSeen (fragmentsOf (cs ++ [last]))) :
    ∃ (i : Nat) (t : ProtocolToolCall) (c : ToolCall), k = .int i ∧
      choice.message.toolCalls[i]? = some t ∧ c.callId = t.id ∧ c.toolName = t.function.name ∧
      loads t.function.arguments = some (.obj c.arguments) ∧ callAt calls k = some c := by
  obtain ⟨f, hf, rfl⟩ := mem_firstSeen.mp hk
  obtain ⟨i, hi, hindex⟩ := hfrag.index f hf
  obtain ⟨t, ht⟩ : ∃ t, choice.message.toolCalls[i]? = some t := ⟨_, List.getElem?_eq_getElem hi⟩
  obtain ⟨c, hc, hconv⟩ := forall₂_getElem? hcalls ht
  simp only [convertToolCall] at hconv
  split at hconv
  · rename_i v hv
    simp only [ToolCall.validate] at hconv
    split at hconv
    · rename_i hfields
      cases hconv
      obtain ⟨hid, hname, hargs⟩ := ofFields?_eq_some.mp hfields
      exact ⟨i, t, c, hindex, ht, by simpa using hid.symm, by simpa using hname.symm, hv.trans hargs,
        by simp [hindex, callAt, hc]⟩
    · cases hconv
  · cases hconv

/-- At every index a cut of the reply names, the spec's call is the converted one. -/
theorem assembledCall_fragmentation {choice : ResponseChoice} {cs : List Chunk} {last : Chunk}
    (hfrag : Fragmentation choice cs last) {calls : List ToolCall}
    (hcalls : List.Forall₂ (fun t c => convertToolCall loads t = .ok c) choice.message.toolCalls calls)
    {k : PyKey} (hk : k ∈ firstSeen (fragmentsOf (cs ++ [last]))) :
    assembledCall loads (fragmentsOf (cs ++ [last])) k = callAt calls k := by
  obtain ⟨i, t, c, rfl, ht, hid, hname, hv, hcall⟩ := fragmentation_call loads hfrag hcalls hk
  obtain ⟨hid', hname', hargs⟩ := hfrag.call i t ht
  rw [hcall, assembledCall, hid', hname', hargs, hv, ← hid, ← hname]
  rfl

/-- The calls a flush of a cut reply assembles are the converted calls, by first-seen index. -/
theorem assembledCalls_fragmentation {choice : ResponseChoice} {cs : List Chunk} {last : Chunk}
    (hfrag : Fragmentation choice cs last) {calls : List ToolCall}
    (hcalls : List.Forall₂ (fun t c => convertToolCall loads t = .ok c) choice.message.toolCalls calls) :
    assembledCalls loads (fragmentsOf (cs ++ [last])) =
      (firstSeen (fragmentsOf (cs ++ [last]))).filterMap (callAt calls) :=
  List.filterMap_congr fun _ hk => assembledCall_fragmentation loads hfrag hcalls hk

/-- The streaming and non-streaming paths on one reply: for every cut of the reply into
well-formed records, the stream completes, with the reply's text and stop reason; its tool calls
are the reply's, ordered by the index each is first named at, when the reply finishes with
`tool_calls`, and there are none otherwise. -/
theorem streaming_agrees_with_non_streaming {choice : ResponseChoice}
    {others : List ResponseChoice} {msg : CompletionMessage}
    (hnon : convertNonStreamingResults loads ⟨choice :: others⟩ = .ok msg)
    {pre : List String} {cs : List Chunk} (hpre : List.Forall₂ (WireChunk loads) pre cs)
    {lastStr : String} {last : Chunk} (hlast : WireChunk loads lastStr last)
    (hfrag : Fragmentation choice cs last) (hempty : loads "" = none) :
    (convertStreamingResults loads (pre ++ [lastStr, doneChunk])).2 = .ok () ∧
      streamText (convertStreamingResults loads (pre ++ [lastStr, doneChunk])).1 = msg.content ∧
      completeStopReason (convertStreamingResults loads (pre ++ [lastStr, doneChunk])).1 =
        some (some msg.stopReason) ∧
      succeededCalls (convertStreamingResults loads (pre ++ [lastStr, doneChunk])).1 =
        if choice.finishReason = some "tool_calls" then
          (firstSeen (fragmentsOf (cs ++ [last]))).filterMap (callAt msg.toolCalls)
        else [] := by
  obtain ⟨hcontent, hstop, hcalls⟩ := convertNonStreamingResults_ok loads hnon
  have hno : ∀ c ∈ cs, c.finishReason.isStr "tool_calls" = false := fun c hc => by
    rw [hfrag.finishEarlier c hc]; rfl
  have htext : streamText ((cs ++ [last]).flatMap Chunk.events) = msg.content := by
    rw [streamText_chunkEvents, hfrag.text, hcontent]
  by_cases hfin : choice.finishReason = some "tool_calls"
  · have hlastFinish : last.finishReason = .str "tool_calls" := by rw [hfrag.finishLast, hfin]; rfl
    have hvalid : ∀ k ∈ firstSeen (fragmentsOf (cs ++ [last])),
        ∃ t, assembledCall loads (fragmentsOf (cs ++ [last])) k = some t := fun k hk => by
      obtain ⟨-, -, c, -, -, -, -, -, hcall⟩ := fragmentation_call loads hfrag hcalls hk
      exact ⟨c, (assembledCall_fragmentation loads hfrag hcalls hk).trans hcall⟩
    obtain ⟨m, hstep⟩ := step_toolCalls_record loads cs hlast hlastFinish hempty hvalid
    have hdone : step loads ⟨m, some (some .outOfTokens)⟩ doneChunk =
        ([completeEvent (some .outOfTokens)], .stop) := step_doneChunk loads _
    have hrun : convertStreamingResults loads (pre ++ [lastStr, doneChunk]) =
        (startEvent :: ((cs ++ [last]).flatMap Chunk.events ++
          ((assembledCalls loads (fragmentsOf (cs ++ [last]))).map fun t =>
            progress (.toolCall t "succeeded") (some .outOfTokens)) ++
          [completeEvent (some .outOfTokens)]), .ok ()) := by
      rw [convertStreamingResults, drive_wireChunks loads hpre hno, drive_cons_next hstep,
        drive_cons_stop hdone]
      simp [List.flatMap_append]
    have hmsgStop : msg.stopReason = .outOfTokens := by
      rw [hfin] at hstop
      exact (Option.some.inj hstop).symm
    rw [hrun, if_pos hfin, hmsgStop, ← assembledCalls_fragmentation loads hfrag hcalls]
    refine ⟨rfl, ?_, completeStopReason_closed (allProgress_append.mpr
      ⟨chunkEvents_allProgress _, toolCallEvents_allProgress _ _⟩) _, ?_⟩
    · rw [streamText_closed, streamText_append, htext, streamText_toolCalls, String.append_empty]
    · rw [succeededCalls_closed, succeededCalls_append, succeededCalls_chunkEvents,
        succeededCalls_toolCalls, List.nil_append]
  · have hnoAll : ∀ c ∈ cs ++ [last], c.finishReason.isStr "tool_calls" = false :=
      List.forall_mem_append.mpr ⟨hno, List.forall_mem_singleton.mpr (by
        rw [hfrag.finishLast, Bool.eq_false_iff]; exact mt (finishReasonJson_isStr _ _).mp hfin)⟩
    have hrun := convertStreamingResults_wireChunks_done loads
      (List.rel_append hpre (List.Forall₂.cons hlast .nil)) hnoAll []
    rw [List.append_assoc, List.singleton_append] at hrun
    rw [hrun, if_neg hfin, ← hstop, ← hfrag.finishLast]
    exact ⟨rfl, by rw [streamText_closed, htext], completeStopReason_closed (chunkEvents_allProgress _) _,
      by rw [succeededCalls_closed, succeededCalls_chunkEvents]⟩

/-- A reply that calls `get_weather` and then `get_time`, finishing with `tool_calls`; its stream
is the one record `twoCallsText`, which names index 1 first. -/
def twoCallsReply : ResponseChoice :=
  ⟨⟨"assistant", none, [⟨"call_a", ⟨"get_weather", "\x7b\x7d"⟩⟩, ⟨"call_b", ⟨"get_time", "\x7b\x7d"⟩⟩]⟩,
    some "tool_calls"⟩

theorem twoCallsReply_fragmentation : Fragmentation twoCallsReply [] twoCallsChunk where
  text := rfl
  index f hf := by
    rcases List.mem_cons.mp hf with rfl | hf
    · exact ⟨1, by decide, rfl⟩
    · rw [List.mem_singleton.mp hf]; exact ⟨0, by decide, rfl⟩
  call
    | 0, _, rfl => ⟨rfl, rfl, rfl⟩
    | 1, _, rfl => ⟨rfl, rfl, rfl⟩
  finishLast := rfl
  finishEarlier _ h := nomatch h

set_option maxRecDepth 10000 in
theorem streaming_agrees_with_non_streaming_two_calls :
    (convertStreamingResults sampleLoads
        ([] ++ ["data: " ++ twoCallsText ++ "\n\n", doneChunk])).2 = .ok () ∧
      streamText (convertStreamingResults sampleLoads
        ([] ++ ["data: " ++ twoCallsText ++ "\n\n", doneChunk])).1 = "" ∧
      completeStopReason (convertStreamingResults sampleLoads
        ([] ++ ["data: " ++ twoCallsText ++ "\n\n", doneChunk])).1 = some (some .outOfTokens) ∧
      succeededCalls (convertStreamingResults sampleLoads
        ([] ++ ["data: " ++ twoCallsText ++ "\n\n", doneChunk])).1 =
        if twoCallsReply.finishReason = some "tool_calls" then
          (firstSeen (fragmentsOf ([] ++ [twoCallsChunk]))).filterMap
            (callAt [⟨"call_a", "get_weather", []⟩, ⟨"call_b", "get_time", []⟩])
        else [] :=
  @streaming_agrees_with_non_streaming sampleLoads twoCallsReply []
    ⟨"", .outOfTokens, [⟨"call_a", "get_weather", []⟩, ⟨"call_b", "get_time", []⟩]⟩
    rfl [] [] .nil _ _ twoCallsChunk_wireChunk twoCallsReply_fragmentation rfl

/-- A reply that calls `get_weather` and finishes with `stop`. -/
def stopReply : ResponseChoice :=
  ⟨⟨"assistant", none, [⟨"call_a", ⟨"get_weather", "\x7b\x7d"⟩⟩]⟩, some "stop"⟩

def stopCallText : String :=
  "\x7b\"choices\": [\x7b\"index\": 0, \"delta\": \x7b\"tool_calls\": [\x7b\"index\": 0, \"id\": \"call_a\", \"function\": \x7b\"name\": \"get_weather\", \"arguments\": \"\x7b\x7d\"\x7d\x7d]\x7d, \"finish_reason\": \"stop\"\x7d]\x7d"

def stopCallChunk : Chunk :=
  ⟨.str "stop", .toolCalls [⟨.int 0, some (.str "call_a"), some (.str "get_weather"), some "\x7b\x7d"⟩]⟩

/-- `json.loads` on `stopCallText` and on the arguments `\x7b\x7d`. -/
def stopReplyLoads (s : String) : Option Json :=
  if s = stopCallText then
    some (toolCallsRecordJson [fragmentJson 0 "call_a" "get_weather" "\x7b\x7d"] (.str "stop"))
  else if s = "\x7b\x7d" then some (.obj [])
  else none

set_option maxRecDepth 10000 in
/-- A reply with a tool call that finishes with `stop`: the non-streaming path returns the call,
while the stream of the same reply, cut as the agreement asks, completes with no tool-call event. -/
theorem stop_reply_loses_tool_call :
    convertNonStreamingResults stopReplyLoads ⟨[stopReply]⟩ =
        .ok ⟨"", .endOfTurn, [⟨"call_a", "get_weather", []⟩]⟩ ∧
      Fragmentation stopReply [] stopCallChunk ∧
      WireChunk stopReplyLoads ("data: " ++ stopCallText ++ "\n\n") stopCallChunk ∧
      convertStreamingResults stopReplyLoads ["data: " ++ stopCallText ++ "\n\n", doneChunk] =
        ([startEvent, completeEvent (some .endOfTurn)], .ok ()) :=
  ⟨rfl,
    { text := rfl
      index := fun f hf => by rw [List.mem_singleton.mp hf]; exact ⟨0, by decide, rfl⟩
      call := fun | 0, _, rfl => ⟨rfl, rfl, rfl⟩
      finishLast := rfl
      finishEarlier := fun _ h => nomatch h },
    ⟨stopCallText, _, rfl, fun h => absurd (congrArg (·.data.head?) h) (by decide), if_pos rfl,
      _, _, _, rfl, rfl, rfl, rfl, rfl, rfl, _, _, rfl, rfl,
      .cons ⟨_, _, rfl, rfl, rfl, rfl, _, rfl, rfl, rfl⟩ .nil⟩,
    rfl⟩

end LlamaStack.Vllm
