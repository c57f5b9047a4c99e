import LlamaStack.StreamEvents

/-!
`VLLMInferenceImpl._convert_streaming_results` (vllm.py 622-737), the inline vLLM adapter's
streaming path, as the code computes it. Each input is an event string of vLLM's
OpenAI-compatible server, `data: <record>` and two newlines; the record is `[DONE]` or JSON. Text
deltas pass straight through; tool-call fragments are buffered in `index_to_tool_call` and
flushed, one event per buffered call, when a record's `finish_reason` is `tool_calls`; each
event's `ToolCallDelta` validates its record into a `ToolCall`, whose `call_id` and `tool_name`
are strings and `arguments` a dict. The types of the argument values, which `ToolCall` declares
outside this repository, are not checked. The decoder `json.loads` is the parameter `loads`, which answers `none` where Python raises
`JSONDecodeError`.
-/

namespace LlamaStack.Vllm

/-- `_convert_finish_reason` (vllm.py 139-149). -/
def convertFinishReason (finishReason : Json) : Option StopReason :=
  match finishReason with
  | .null => none
  | j => if j.isStr "stop" then some .endOfTurn else some .outOfTokens

/-- A dict of `index_to_tool_call`: the keys `call_id`, `tool_name`, `arguments_str` and
`arguments`, each present or not. -/
structure ToolCallRecord where
  callId : Option Json
  toolName : Option Json
  argumentsStr : Option String
  arguments : Option Json

def ToolCallRecord.empty : ToolCallRecord := ⟨none, none, none, none⟩

/-- llama-stack's `ToolCall`, which a `ToolCallDelta` and a `CompletionMessage` hold. -/
structure ToolCall where
  callId : String
  toolName : String
  arguments : List (String × Json)

/-- The `ToolCall` that the values given for its fields make, an absent one as `none`:
`call_id` and `tool_name` strings, `arguments` a dict. -/
def ToolCall.ofFields? : Option Json → Option Json → Option Json → Option ToolCall
  | some (.str callId), some (.str toolName), some (.obj arguments) =>
      some ⟨callId, toolName, arguments⟩
  | _, _, _ => none

/-- pydantic's validation of those values into a `ToolCall`. -/
def ToolCall.validate (callId toolName arguments : Option Json) : Except PyError ToolCall :=
  match ToolCall.ofFields? callId toolName arguments with
  | some t => .ok t
  | none => .error .validationError

/-- `ToolCallDelta(content=record)` validates the record dict into its `ToolCall`. -/
def ToolCallRecord.toToolCall (r : ToolCallRecord) : Except PyError ToolCall :=
  ToolCall.validate r.callId r.toolName r.arguments

/-- The delta of a llama-stack event: `TextDelta(text=...)` or
`ToolCallDelta(content=..., parse_status=...)`. -/
inductive Delta where
  | text (text : String)
  | toolCall (content : ToolCall) (parseStatus : String)

/-- `index_to_tool_call`: the partial calls by hashed index, in insertion order. -/
abbrev ToolCallMap := List (PyKey × ToolCallRecord)

/-- The generator's locals that survive a pass of its loop. `convertedStopReason` is `none` while
`converted_stop_reason` is unassigned. -/
structure StreamState where
  indexToToolCall : ToolCallMap
  convertedStopReason : Option (Option StopReason)

def StreamState.init : StreamState := ⟨[], none⟩

/-- `index_to_tool_call[index] = record`, keeping the position of an existing key. -/
def setCall (key : PyKey) (record : ToolCallRecord) : ToolCallMap → ToolCallMap
  | [] => [(key, record)]
  | (k, r) :: rest => if k = key then (k, record) :: rest else (k, r) :: setCall key record rest

/-- `index_to_tool_call[index]`, a fresh `dict()` when the index is new. -/
def getCall (m : ToolCallMap) (key : PyKey) : ToolCallRecord := (m.lookup key).getD .empty

/-- The `"arguments"` branch: `arguments_str` starts at `""` and grows by the fragment. -/
def addArguments (record : ToolCallRecord) (function : Json) : Except PyError ToolCallRecord := do
  if ← function.contains "arguments" then
    let piece ← (← function.getItem "arguments").asStr
    pure { record with argumentsStr := some (record.argumentsStr.getD "" ++ piece) }
  else pure record

def addFunction (record : ToolCallRecord) (tc : Json) : Except PyError ToolCallRecord := do
  if ← tc.contains "function" then
    let function ← tc.getItem "function"
    let named ← if ← function.contains "name" then
        pure { record with toolName := some (← function.getItem "name") }
      else pure record
    addArguments named function
  else pure record

/-- One pass of `for tc in delta_record["tool_calls"]` (vllm.py 695-710). -/
def addToolCall (m : ToolCallMap) (tc : Json) : Except PyError ToolCallMap := do
  let key ← (← tc.getItem "index").toKey
  let record := getCall m key
  let withId ← if ← tc.contains "id" then
      pure { record with callId := some (← tc.getItem "id") }
    else pure record
  pure (setCall key (← addFunction withId tc) m)

def progress (delta : Delta) (stop : Option StopReason) : Event Delta := ⟨.progress, delta, stop⟩

def startEvent : Event Delta := ⟨.start, .text "", none⟩

def completeEvent (stop : Option StopReason) : Event Delta := ⟨.complete, .text "", stop⟩

variable (loads : String → Option Json)

def ToolCallRecord.finalize (r : ToolCallRecord) (v : Json) : ToolCallRecord :=
  { r with arguments := some v, argumentsStr := none }

/-- The body of the flush loop on one record (vllm.py 720-733): `arguments_str` is looked up
(`KeyError` when absent) and decoded into `arguments` (`JSONDecodeError`), and deleted; the record
is then validated into the `ToolCall` of its `ToolCallDelta` (`ValidationError`). -/
def flushRecord (r : ToolCallRecord) : Except PyError (ToolCallRecord × ToolCall) :=
  match r.argumentsStr with
  | none => .error (.keyError "arguments_str")
  | some s =>
      match loads s with
      | none => .error .jsonDecodeError
      | some v => (r.finalize v).toToolCall.map ((r.finalize v), ·)

/-- The flush loop over `index_to_tool_call.values()` (vllm.py 718-733): each record is
finalized and yielded in a `succeeded` delta. The loop raises at the first record the body
fails on; the events yielded before stand. -/
def flush (stop : Option StopReason) : ToolCallMap → List (Event Delta) × Except PyError ToolCallMap
  | [] => ([], .ok [])
  | (k, r) :: rest =>
      match flushRecord loads r with
      | .error e => ([], .error e)
      | .ok (done, call) =>
          (progress (.toolCall call "succeeded") stop :: (flush stop rest).1,
            (flush stop rest).2.map ((k, done) :: ·))

/-- The branch on `delta_record` (vllm.py 683-712): the text of a text delta, or the buffer
after the fragments of a tool-call delta. -/
def readDelta (m : ToolCallMap) (deltaRecord : Json) : Except PyError (Option String × ToolCallMap) := do
  if ← deltaRecord.contains "content" then
    pure (some (← (← deltaRecord.getItem "content").asText), m)
  else if ← deltaRecord.contains "tool_calls" then
    let tcs ← (← deltaRecord.getItem "tool_calls").iterate
    pure (none, ← tcs.foldlM addToolCall m)
  else throw (.valueError ("Don't know how to parse event delta: " ++ deltaRecord.pyRepr))

def readRecord (m : ToolCallMap) (parsedChunk : Json) :
    Except PyError (Json × Option String × ToolCallMap) := do
  let firstChoice ← (← parsedChunk.getItem "choices").getFirst
  let finishReason ← firstChoice.getItem "finish_reason"
  let deltaRecord ← firstChoice.getItem "delta"
  pure (finishReason, ← readDelta m deltaRecord)

def textEvents (stop : Option StopReason) (text : Option String) : List (Event Delta) :=
  text.toList.map fun t => progress (.text t) stop

/-- The end of a pass over a record (vllm.py 714-733): `converted_stop_reason` is the record's,
and a `finish_reason` of `tool_calls` flushes the buffer after the events `es` of the delta. -/
def endPass (finishReason : Json) (es : List (Event Delta)) (m : ToolCallMap) :
    List (Event Delta) × Control StreamState :=
  let stop := convertFinishReason finishReason
  if finishReason.isStr "tool_calls" then
    match flush loads stop m with
    | (fs, .ok m') => (es ++ fs, .next ⟨m', some stop⟩)
    | (fs, .error e) => (es ++ fs, .raise e)
  else (es, .next ⟨m, some stop⟩)

/-- The loop body on a decoded record (vllm.py 671-733). -/
def processRecord (s : StreamState) (parsedChunk : Json) : List (Event Delta) × Control StreamState :=
  match readRecord s.indexToToolCall parsedChunk with
  | .error e => ([], .raise e)
  | .ok (finishReason, text, m) =>
      endPass loads finishReason (textEvents (convertFinishReason finishReason) text) m

/-- `re.escape`: a backslash before every character that is special in a pattern. -/
def reEscape (s : String) : String :=
  String.join (s.toList.map fun c =>
    if c ∈ "()[]\x7b\x7d?*+-|^$\\.&~# \t\n\r\x0b\x0c".toList then "\\" ++ c.toString else c.toString)

/-- The pass over `[DONE]` (vllm.py 659-668): the `complete` event with `converted_stop_reason`,
which only the pass over a JSON record assigns. -/
def donePass (s : StreamState) : List (Event Delta) × Control StreamState :=
  match s.convertedStopReason with
  | some stop => ([completeEvent stop], .stop)
  | none => ([], .raise (.unboundLocalError "converted_stop_reason"))

def recordPass (s : StreamState) (dataStr : String) : List (Event Delta) × Control StreamState :=
  match loads dataStr with
  | none => ([], .raise .jsonDecodeError)
  | some parsedChunk => processRecord loads s parsedChunk

/-- The loop body on an event string (vllm.py 646-733). -/
def step (s : StreamState) (chunkStr : String) : List (Event Delta) × Control StreamState :=
  if !startswith chunkStr "data: " || !endswith chunkStr "\n\n" then
    ([], .raise (.valueError ("Can't parse result string from vLLM: " ++ "\x27" ++ reEscape chunkStr ++
      "\x27")))
  else
    let dataStr := slice chunkStr "data: ".length "\n\n".length
    if dataStr = "[DONE]" then donePass s else recordPass loads s dataStr

/-- The code after the loop (vllm.py 735-737): the stream ran out before `[DONE]`. -/
def streamEnded (_ : StreamState) : List (Event Delta) × Except PyError Unit :=
  ([], .error (.valueError "vLLM event stream ended without [DONE] message."))

/-- `_convert_streaming_results` over the whole stream `vllm_result`: the events yielded, and
whether the generator returned or raised. -/
def convertStreamingResults (vllmResult : List String) : List (Event Delta) × Except PyError Unit :=
  (startEvent :: (drive (step loads) streamEnded StreamState.init vllmResult).1,
    (drive (step loads) streamEnded StreamState.init vllmResult).2)

end LlamaStack.Vllm
