import LlamaStack.VllmStream

/-!
The records of a well-formed vLLM stream, as `_convert_streaming_results` reads them.
`ChunkOf j c` says that the decoded record `j` carries the chunk `c` at the paths the code reads,
whatever other keys it has, and `WireChunk` that an event string frames such a record. On these
strings the loop body is `stepChunk`: every lookup of `readRecord` succeeds, and each tool-call
fragment updates its partial call by `Fragment.apply`.
-/

namespace LlamaStack.Vllm

/-- A tool-call fragment of a delta's `tool_calls` list: its hashed `index`, and the `id`, `name`
and `arguments` piece it carries, if any. -/
structure Fragment where
  index : PyKey
  id : Option Json
  name : Option Json
  arguments : Option String

/-- The two kinds of delta the adapter reads. -/
inductive ChunkDelta where
  | content (text : String)
  | toolCalls (fragments : List Fragment)

/-- A record of the stream: the `finish_reason` of its first choice, and its delta. -/
structure Chunk where
  finishReason : Json
  delta : ChunkDelta

/-- `tc` is a dict carrying the fragment `f`, with the name and arguments under `function`. -/
def FragmentOf (tc : Json) (f : Fragment) : Prop :=
  ∃ fields index, tc = .obj fields ∧ fields.lookup "index" = some index ∧
    index.toKey = .ok f.index ∧ fields.lookup "id" = f.id ∧
    match fields.lookup "function" with
    | none => f.name = none ∧ f.arguments = none
    | some function => ∃ ffields, function = .obj ffields ∧
        ffields.lookup "name" = f.name ∧ ffields.lookup "arguments" = f.arguments.map .str

/-- `delta` carries `d`: a string under `content`, or, with no `content`, a list of fragments
under `tool_calls`. -/
def DeltaOf (delta : Json) : ChunkDelta → Prop
  | .content text => delta.contains "content" = .ok true ∧ delta.getItem "content" = .ok (.str text)
  | .toolCalls fragments => delta.contains "content" = .ok false ∧
      delta.contains "tool_calls" = .ok true ∧
      ∃ tcs items, delta.getItem "tool_calls" = .ok tcs ∧ tcs.iterate = .ok items ∧
        List.Forall₂ FragmentOf items fragments

/-- The decoded record `j` carries the chunk `c` in its first choice. -/
def ChunkOf (j : Json) (c : Chunk) : Prop :=
  ∃ choices firstChoice delta, j.getItem "choices" = .ok choices ∧
    choices.getFirst = .ok firstChoice ∧ firstChoice.getItem "finish_reason" = .ok c.finishReason ∧
    firstChoice.getItem "delta" = .ok delta ∧ DeltaOf delta c.delta

/-- The event string of a record that decodes to one carrying `c`. -/
def WireChunk (loads : String → Option Json) (chunkStr : String) (c : Chunk) : Prop :=
  ∃ dataStr j, chunkStr = "data: " ++ dataStr ++ "\n\n" ∧ dataStr ≠ "[DONE]" ∧
    loads dataStr = some j ∧ ChunkOf j c

/-- The event string that ends a stream. -/
def doneChunk : String := "data: [DONE]\n\n"

/-- `arguments_str` after a fragment's arguments piece, if it has one. -/
def extendArguments (argumentsStr : Option String) : Option String → Option String
  | some piece => some (argumentsStr.getD "" ++ piece)
  | none => argumentsStr

/-- What a fragment does to the partial call of its index (vllm.py 701-710). -/
def Fragment.apply (f : Fragment) (r : ToolCallRecord) : ToolCallRecord :=
  { r with
    callId := f.id.or r.callId
    toolName := f.name.or r.toolName
    argumentsStr := extendArguments r.argumentsStr f.arguments }

def addFragment (m : ToolCallMap) (f : Fragment) : ToolCallMap :=
  setCall f.index (f.apply (getCall m f.index)) m

def ChunkDelta.text : ChunkDelta → Option String
  | .content text => some text
  | .toolCalls _ => none

/-- The fragments a delta buffers. -/
def ChunkDelta.fragments : ChunkDelta → List Fragment
  | .content _ => []
  | .toolCalls fragments => fragments

variable (loads : String → Option Json)

/-- The loop body on a well-formed record. -/
def stepChunk (s : StreamState) (c : Chunk) : List (Event Delta) × Control StreamState :=
  endPass loads c.finishReason (textEvents (convertFinishReason c.finishReason) c.delta.text)
    (c.delta.fragments.foldl addFragment s.indexToToolCall)

/-- The update `Fragment.apply` makes to the arguments. -/
theorem addArguments_obj (r : ToolCallRecord) {ffields : List (String × Json)} {a : Option String}
    (h : ffields.lookup "arguments" = a.map .str) :
    addArguments r (.obj ffields) = .ok { r with argumentsStr := extendArguments r.argumentsStr a } := by
  cases a <;> simp [addArguments, h, Json.asStr, extendArguments]

theorem addFunction_of_fragmentOf {fields : List (String × Json)} {f : Fragment}
    (h : FragmentOf (.obj fields) f) (r : ToolCallRecord) :
    addFunction r (.obj fields) = .ok { f.apply r with callId := r.callId } := by
  obtain ⟨_, _, ⟨⟩, -, -, -, hfunction⟩ := h
  cases hf : fields.lookup "function" with
  | none =>
      rw [hf] at hfunction
      simp [addFunction, hf, Fragment.apply, hfunction, extendArguments]
  | some function =>
      rw [hf] at hfunction
      obtain ⟨ffields, rfl, hname, harguments⟩ := hfunction
      cases hn : f.name <;>
        simp [addFunction, hf, hname, hn, addArguments_obj _ harguments, Fragment.apply]

theorem addToolCall_of_fragmentOf {tc : Json} {f : Fragment} (h : FragmentOf tc f)
    (m : ToolCallMap) : addToolCall m tc = .ok (addFragment m f) := by
  have hfragment := h
  obtain ⟨fields, index, rfl, hindex, hkey, hid, -⟩ := h
  cases hi : f.id <;>
    simp [addToolCall, hindex, hkey, hid, hi, addFunction_of_fragmentOf hfragment, addFragment,
      Fragment.apply]

theorem foldlM_addToolCall {items : List Json} {fragments : List Fragment}
    (h : List.Forall₂ FragmentOf items fragments) (m : ToolCallMap) :
    items.foldlM addToolCall m = .ok (fragments.foldl addFragment m) := by
  induction h generalizing m with
  | nil => rfl
  | cons hf _ ih =>
      simp only [List.foldlM_cons, List.foldl_cons, addToolCall_of_fragmentOf hf]
      exact ih _

theorem readDelta_of_deltaOf {delta : Json} {d : ChunkDelta} (h : DeltaOf delta d)
    (m : ToolCallMap) : readDelta m delta = .ok (d.text, d.fragments.foldl addFragment m) := by
  cases d with
  | content text =>
      obtain ⟨hc, hget⟩ := h
      simp [readDelta, ChunkDelta.text, ChunkDelta.fragments, hc, hget, Json.asText]
  | toolCalls fragments =>
      obtain ⟨hc, ht, tcs, items, hget, hiter, hall⟩ := h
      simp [readDelta, ChunkDelta.text, ChunkDelta.fragments, hc, ht, hget, hiter,
        foldlM_addToolCall hall]

theorem processRecord_of_chunkOf {j : Json} {c : Chunk} (h : ChunkOf j c) (s : StreamState) :
    processRecord loads s j = stepChunk loads s c := by
  obtain ⟨choices, firstChoice, delta, hchoices, hfirst, hfinish, hdelta, hd⟩ := h
  simp [processRecord, stepChunk, readRecord, hchoices, hfirst, hfinish, hdelta,
    readDelta_of_deltaOf hd]

theorem step_frame (dataStr : String) (s : StreamState) :
    step loads s ("data: " ++ dataStr ++ "\n\n") =
      if dataStr = "[DONE]" then donePass s else recordPass loads s dataStr := by
  have hp : startswith ("data: " ++ dataStr ++ "\n\n") "data: " = true := by
    rw [String.append_assoc]; exact startswith_append _ _
  simp only [step, hp, endswith_append, slice_append, Bool.not_true, Bool.false_or,
    Bool.false_eq_true, if_false]

theorem step_of_wireChunk {chunkStr : String} {c : Chunk} (h : WireChunk loads chunkStr c)
    (s : StreamState) : step loads s chunkStr = stepChunk loads s c := by
  obtain ⟨dataStr, j, rfl, hdone, hj, hc⟩ := h
  rw [step_frame, if_neg hdone, recordPass, hj]
  exact processRecord_of_chunkOf loads hc s

theorem step_doneChunk (s : StreamState) : step loads s doneChunk = donePass s :=
  (step_frame loads "[DONE]" s).trans (if_pos rfl)

end LlamaStack.Vllm
