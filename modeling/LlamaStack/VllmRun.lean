import LlamaStack.VllmChunk

/-!
Whole runs of the vLLM stream. Every pass of the loop yields only progress events, except the
pass over `[DONE]`, which yields one `complete` event and returns; so on every input the stream is
a `start` event, progress events, and a `complete` event exactly when the generator returns
(`convertStreamingResults_closes`). Records that do not finish with `tool_calls` yield their text
and only buffer their fragments (`drive_wireChunks`). The `[DONE]` pass reads
`converted_stop_reason`, which only a JSON record assigns: a stream whose first record is
`[DONE]` raises `UnboundLocalError` instead of completing. Every record reassigns it, so the
`complete` event carries the conversion of the `finish_reason` of the record right before the
first `[DONE]`, null included (`convertStreamingResults_complete_stopReason`).
-/

namespace LlamaStack.Vllm

variable (loads : String → Option Json)

theorem flush_allProgress (stop : Option StopReason) (m : ToolCallMap) :
    AllProgress (flush loads stop m).1 := by
  induction m with
  | nil => exact allProgress_nil
  | cons p m ih =>
      obtain ⟨k, r⟩ := p
      simp only [flush]
      split
      · exact allProgress_nil
      · exact fun e he => (List.mem_cons.mp he).elim (fun h => h ▸ rfl) (ih e)

theorem textEvents_allProgress (stop : Option StopReason) (text : Option String) :
    AllProgress (textEvents stop text) := by
  cases text <;> simp [AllProgress, textEvents, progress]

theorem endPass_passCloses (finishReason : Json) {es : List (Event Delta)} (hes : AllProgress es)
    (m : ToolCallMap) : PassCloses (endPass loads finishReason es m) := by
  have hf := flush_allProgress loads (convertFinishReason finishReason) m
  simp only [endPass]
  split
  · rcases hflush : flush loads (convertFinishReason finishReason) m with ⟨fs, _ | m'⟩ <;>
      rw [hflush] at hf <;> exact allProgress_append.mpr ⟨hes, hf⟩
  · exact hes

theorem donePass_passCloses (s : StreamState) : PassCloses (donePass s) := by
  unfold donePass
  split
  · exact ⟨[], completeEvent _, rfl, allProgress_nil, rfl⟩
  · exact allProgress_nil

theorem recordPass_passCloses (s : StreamState) (dataStr : String) :
    PassCloses (recordPass loads s dataStr) := by
  unfold recordPass
  split
  · exact allProgress_nil
  · simp only [processRecord]
    split
    · exact allProgress_nil
    · exact endPass_passCloses loads _ (textEvents_allProgress _ _) _

/-- One pass of the loop, on any string, yields what `Closes` allows. -/
theorem step_passCloses (s : StreamState) (chunkStr : String) :
    PassCloses (step loads s chunkStr) := by
  simp only [step]
  split
  · exact allProgress_nil
  · split
    · exact donePass_passCloses s
    · exact recordPass_passCloses loads s _

/-- On every stream of strings the output is the `start` event, then progress events, then one
`complete` event exactly when the generator returns. -/
theorem convertStreamingResults_closes (vllmResult : List String) :
    (convertStreamingResults loads vllmResult).1.head? = some startEvent ∧
      Closes (convertStreamingResults loads vllmResult).1.tail
        (convertStreamingResults loads vllmResult).2 :=
  ⟨rfl, @drive_closes _ _ _ (step loads) streamEnded (step_passCloses loads)
    (fun _ => allProgress_nil) _ _⟩

/-- The events of a record's text, if it has one. -/
def Chunk.events (c : Chunk) : List (Event Delta) :=
  textEvents (convertFinishReason c.finishReason) c.delta.text

/-- The locals after a record that does not finish with `tool_calls`. -/
def StreamState.afterChunk (s : StreamState) (c : Chunk) : StreamState :=
  ⟨c.delta.fragments.foldl addFragment s.indexToToolCall, some (convertFinishReason c.finishReason)⟩

theorem stepChunk_of_not_toolCalls {c : Chunk} (hc : c.finishReason.isStr "tool_calls" = false)
    (s : StreamState) : stepChunk loads s c = (c.events, .next (s.afterChunk c)) := by
  simp [stepChunk, endPass, hc, Chunk.events, StreamState.afterChunk]

/-- Well-formed records that do not finish with `tool_calls` yield their text and buffer their
fragments; the run goes on from the locals they leave. -/
theorem drive_wireChunks {pre : List String} {cs : List Chunk}
    (h : List.Forall₂ (WireChunk loads) pre cs)
    (hno : ∀ c ∈ cs, c.finishReason.isStr "tool_calls" = false)
    (exhausted : StreamState → List (Event Delta) × Except PyError Unit) (s : StreamState)
    (rest : List String) :
    drive (step loads) exhausted s (pre ++ rest) =
      (cs.flatMap Chunk.events ++ (drive (step loads) exhausted (cs.foldl StreamState.afterChunk s) rest).1,
        (drive (step loads) exhausted (cs.foldl StreamState.afterChunk s) rest).2) := by
  induction h generalizing s with
  | nil => rfl
  | @cons str c pre cs hc _ ih =>
      have hstep := (step_of_wireChunk loads hc s).trans
        (stepChunk_of_not_toolCalls loads (hno c (List.mem_cons_self _ _)) s)
      rw [List.cons_append, drive_cons_next hstep,
        ih (fun c' hc' => hno c' (List.mem_cons_of_mem _ hc')) _]
      simp

theorem afterChunks_indexToToolCall (cs : List Chunk) (s : StreamState) :
    (cs.foldl StreamState.afterChunk s).indexToToolCall =
      (cs.flatMap fun c => c.delta.fragments).foldl addFragment s.indexToToolCall := by
  induction cs generalizing s with
  | nil => rfl
  | cons c cs ih => simp [ih, StreamState.afterChunk, List.foldl_append]

theorem afterChunks_convertedStopReason {cs : List Chunk} {c : Chunk} (s : StreamState) :
    ((cs ++ [c]).foldl StreamState.afterChunk s).convertedStopReason =
      some (convertFinishReason c.finishReason) := by
  simp [StreamState.afterChunk]

/-- A stream of well-formed records, none finishing with `tool_calls`, then `[DONE]`: the start
event, each record's text event in order, and one `complete` event with the last record's stop
reason. -/
theorem convertStreamingResults_wireChunks_done {pre : List String} {cs : List Chunk} {c : Chunk}
    (h : List.Forall₂ (WireChunk loads) pre (cs ++ [c]))
    (hno : ∀ c' ∈ cs ++ [c], c'.finishReason.isStr "tool_calls" = false) (rest : List String) :
    convertStreamingResults loads (pre ++ doneChunk :: rest) =
      (startEvent :: ((cs ++ [c]).flatMap Chunk.events ++
        [completeEvent (convertFinishReason c.finishReason)]), .ok ()) := by
  have hdone : step loads ((cs ++ [c]).foldl StreamState.afterChunk StreamState.init) doneChunk =
      ([completeEvent (convertFinishReason c.finishReason)], .stop) := by
    rw [step_doneChunk, donePass, afterChunks_convertedStopReason]
  simp only [convertStreamingResults, drive_wireChunks loads h hno, drive_cons_stop hdone]

/-- A stream whose first record is `[DONE]` raises: `converted_stop_reason` is unassigned. -/
theorem convertStreamingResults_done_first (rest : List String) :
    convertStreamingResults loads (doneChunk :: rest) =
      ([startEvent], .error (.unboundLocalError "converted_stop_reason")) := by
  have hdone : step loads StreamState.init doneChunk =
      ([], .raise (.unboundLocalError "converted_stop_reason")) := step_doneChunk loads _
  simp only [convertStreamingResults, drive_cons_raise hdone]

/-! ### The stop reason of the `complete` event -/

/-- `parsed_chunk["choices"][0]["finish_reason"]`, the value a record's pass converts. -/
def finishReasonOf (parsedChunk : Json) : Except PyError Json := do
  (← (← parsedChunk.getItem "choices").getFirst).getItem "finish_reason"

/-- The `finish_reason` of the record an event string frames, if it decodes and has one. -/
def recordFinishReason (chunkStr : String) : Option Json :=
  (loads (slice chunkStr "data: ".length "\n\n".length)).bind fun j => (finishReasonOf j).toOption

theorem finishReasonOf_of_readRecord {m : ToolCallMap} {j fr : Json}
    {rest : Option String × ToolCallMap} (h : readRecord m j = .ok (fr, rest)) :
    finishReasonOf j = .ok fr := by
  simp only [readRecord, Except.bind_eq_ok] at h
  obtain ⟨choices, hc, first, hf, fr', hfr, _, _, _, _, heq⟩ := h
  rw [Except.pure_eq_ok] at heq
  cases heq
  simp only [finishReasonOf, hc, hf, hfr, Except.ok_bind]

/-- The only string the code takes for `[DONE]`. -/
theorem eq_doneChunk {chunkStr : String} (hp : startswith chunkStr "data: " = true)
    (hs : endswith chunkStr "\n\n" = true)
    (hd : slice chunkStr "data: ".length "\n\n".length = "[DONE]") : chunkStr = doneChunk := by
  rw [startswith, List.isPrefixOf_iff_prefix] at hp
  rw [endswith, List.isSuffixOf_iff_suffix] at hs
  obtain ⟨m, hm⟩ := hs
  have hlen : chunkStr.length - "\n\n".length = m.length := by
    rw [← String.length_data, ← hm, List.length_append]
    exact Nat.add_sub_cancel _ _
  have hdrop : m.drop 6 = "[DONE]".data := by
    rw [slice, hlen, ← hm, List.take_left] at hd
    exact congrArg String.data hd
  have htake : m.take 6 = "data: ".data := by
    have h6 : "data: ".data.length ≤ m.length := by
      have h := congrArg List.length hdrop
      rw [List.length_drop] at h
      show 6 ≤ m.length
      have h6 : "[DONE]".data.length = 6 := rfl
      omega
    rw [List.prefix_iff_eq_take, ← hm, List.take_append_of_le_length h6] at hp
    exact hp.symm
  refine String.ext ?_
  rw [← hm, ← List.take_append_drop 6 m, htake, hdrop]
  rfl

variable {loads}

theorem endPass_next {fr : Json} {es es' : List (Event Delta)} {m : ToolCallMap}
    {s' : StreamState} (h : endPass loads fr es m = (es', .next s')) :
    s'.convertedStopReason = some (convertFinishReason fr) := by
  simp only [endPass] at h
  split at h
  · split at h <;> cases h
    rfl
  · cases h
    rfl

theorem endPass_ne_stop (fr : Json) (es : List (Event Delta)) (m : ToolCallMap) :
    (endPass loads fr es m).2 ≠ .stop := by
  simp only [endPass]
  split
  · split <;> simp
  · simp

/-- A pass that goes on was over a record other than `[DONE]`, and assigned
`converted_stop_reason` from that record's `finish_reason`. -/
theorem step_next {s s' : StreamState} {chunkStr : String} {es : List (Event Delta)}
    (h : step loads s chunkStr = (es, .next s')) :
    chunkStr ≠ doneChunk ∧ ∃ fr, recordFinishReason loads chunkStr = some fr ∧
      s'.convertedStopReason = some (convertFinishReason fr) := by
  refine ⟨?_, ?_⟩
  · rintro rfl
    rw [step_doneChunk, donePass] at h
    split at h <;> cases h
  · simp only [step] at h
    split at h
    · cases h
    · split at h
      · rw [donePass] at h
        split at h <;> cases h
      · rw [recordPass] at h
        split at h
        · cases h
        · rename_i j hj
          rw [processRecord] at h
          split at h
          · cases h
          · rename_i fr text m hread
            exact ⟨fr, by simp [recordFinishReason, hj, finishReasonOf_of_readRecord hread,
              Except.toOption], endPass_next h⟩

/-- A pass that returns was over `[DONE]`: it yields the `complete` event with the stop reason
assigned before. -/
theorem step_stop {s : StreamState} {chunkStr : String} {es : List (Event Delta)}
    (h : step loads s chunkStr = (es, .stop)) :
    chunkStr = doneChunk ∧ ∃ stop, s.convertedStopReason = some stop ∧ es = [completeEvent stop] := by
  simp only [step] at h
  split at h
  · cases h
  · rename_i hframe
    simp only [Bool.or_eq_true, Bool.not_eq_true', not_or, Bool.not_eq_false] at hframe
    split at h
    · rename_i hd
      refine ⟨eq_doneChunk hframe.1 hframe.2 hd, ?_⟩
      rw [donePass] at h
      split at h
      · cases h
        exact ⟨_, ‹_›, rfl⟩
      · cases h
    · rw [recordPass] at h
      split at h
      · cases h
      · rw [processRecord] at h
        split at h
        · cases h
        · exact absurd (congrArg Prod.snd h) (endPass_ne_stop _ _ _)

/-- A run that returns met `[DONE]` after records that are not `[DONE]`. Its last event is the
`complete` event, whose stop reason is the one assigned before the run when no record came
first, and otherwise the conversion of the last record's `finish_reason`. -/
theorem drive_returns {s : StreamState} {xs : List String} {es : List (Event Delta)}
    (h : drive (step loads) streamEnded s xs = (es, .ok ())) :
    ∃ pre rest stop, xs = pre ++ doneChunk :: rest ∧ (∀ x ∈ pre, x ≠ doneChunk) ∧
      es.getLast? = some (completeEvent stop) ∧
      ((pre = [] ∧ s.convertedStopReason = some stop) ∨
        ∃ pre' y fr, pre = pre' ++ [y] ∧ recordFinishReason loads y = some fr ∧
          stop = convertFinishReason fr) := by
  induction xs generalizing s es with
  | nil => cases h
  | cons x xs ih =>
      rcases hx : step loads s x with ⟨es₁, s' | _ | e⟩
      · rcases hd : drive (step loads) streamEnded s' xs with ⟨es₂, r⟩
        rw [drive_cons_next hx, hd] at h
        cases h
        obtain ⟨hne, fr, hfr, hs'⟩ := step_next hx
        obtain ⟨pre, rest, stop, rfl, hpre, hlast, hstop⟩ := ih hd
        refine ⟨x :: pre, rest, stop, rfl, List.forall_mem_cons.mpr ⟨hne, hpre⟩,
          by rw [List.getLast?_append, hlast]; rfl, .inr ?_⟩
        rcases hstop with ⟨rfl, hconv⟩ | ⟨pre', y, fr', rfl, hy, rfl⟩
        · exact ⟨[], x, fr, rfl, hfr, Option.some.inj (hconv.symm.trans hs')⟩
        · exact ⟨x :: pre', y, fr', rfl, hy, rfl⟩
      · rw [drive_cons_stop hx] at h
        cases h
        obtain ⟨rfl, stop, hconv, rfl⟩ := step_stop hx
        exact ⟨[], xs, stop, rfl, (fun _ h => nomatch h), rfl, .inl ⟨rfl, hconv⟩⟩
      · rw [drive_cons_raise hx] at h
        cases h

/-- A stream that reaches `[DONE]` ends with the `complete` event, and its stop reason is the
conversion of the `finish_reason` of the record right before the first `[DONE]`, whatever the
records before that one carried. -/
theorem convertStreamingResults_complete_stopReason {xs : List String} {es : List (Event Delta)}
    (h : convertStreamingResults loads xs = (es, .ok ())) :
    ∃ pre y rest fr, xs = pre ++ y :: doneChunk :: rest ∧ (∀ x ∈ pre ++ [y], x ≠ doneChunk) ∧
      recordFinishReason loads y = some fr ∧
      es.getLast? = some (completeEvent (convertFinishReason fr)) := by
  rcases hd : drive (step loads) streamEnded StreamState.init xs with ⟨es', r⟩
  rw [convertStreamingResults, hd] at h
  cases h
  obtain ⟨pre, rest, stop, rfl, hpre, hlast, ⟨-, hinit⟩ | ⟨pre', y, fr, rfl, hy, rfl⟩⟩ :=
    drive_returns hd
  · cases hinit
  · refine ⟨pre', y, rest, fr, by simp, hpre, hy, ?_⟩
    rw [List.getLast?_cons, hlast]
    rfl

def textRecordJson (content : String) (finishReason : Json) : Json :=
  .obj [("choices", .arr [.obj [("index", .num 0), ("delta", .obj [("content", .str content)]),
    ("finish_reason", finishReason)]])]

/-- A record with the text `Hi` that finishes with `stop`. -/
def stopRecordText : String :=
  "\x7b\"choices\": [\x7b\"index\": 0, \"delta\": \x7b\"content\": \"Hi\"\x7d, " ++
    "\"finish_reason\": \"stop\"\x7d]\x7d"

/-- A record with an empty text and a null `finish_reason`. -/
def nullRecordText : String :=
  "\x7b\"choices\": [\x7b\"index\": 0, \"delta\": \x7b\"content\": \"\"\x7d, " ++
    "\"finish_reason\": null\x7d]\x7d"

def stopThenNullStream : List String :=
  ["data: " ++ stopRecordText ++ "\n\n", "data: " ++ nullRecordText ++ "\n\n", doneChunk]

/-- `json.loads` on the two records. -/
def stopThenNullLoads (s : String) : Option Json :=
  if s = stopRecordText then some (textRecordJson "Hi" (.str "stop"))
  else if s = nullRecordText then some (textRecordJson "" .null)
  else none

set_option maxRecDepth 10000 in
/-- The null `finish_reason` of the last record erases the `stop` before it: the `complete` event
carries no stop reason. -/
theorem convertStreamingResults_stop_then_null :
    convertStreamingResults stopThenNullLoads stopThenNullStream =
        ([startEvent, progress (.text "Hi") (some .endOfTurn), progress (.text "") none,
          completeEvent none], .ok ()) ∧
      ∃ pre y rest fr, stopThenNullStream = pre ++ y :: doneChunk :: rest ∧
        (∀ x ∈ pre ++ [y], x ≠ doneChunk) ∧ recordFinishReason stopThenNullLoads y = some fr ∧
        [startEvent, progress (.text "Hi") (some .endOfTurn), progress (.text "") none,
          completeEvent none].getLast? = some (completeEvent (convertFinishReason fr)) :=
  ⟨rfl, convertStreamingResults_complete_stopReason rfl⟩

end LlamaStack.Vllm
