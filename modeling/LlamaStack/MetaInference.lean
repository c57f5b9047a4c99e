import Mathlib.Data.List.Infix
import LlamaStack.StreamEvents

/-!
`ModelInferenceImpl.chat_completion` of the meta-reference toolchain (toolchain/inference/
inference.py 41-158): a generator over the token results of the model that keeps a text buffer,
watches it for the python tag, and after the last token decodes the whole message. On the
streaming path every run yields the start event, progress events and one `complete` event
(`chatCompletion_stream_protocol`); its tool-call deltas follow the parse protocol (one `started`
delta before all `in_progress` ones, a `failure` only after a `started` and never with a
`success`); and the stop reason is that of the last `<|eot_id|>` or `<|eom_id|>` text
(`specStopReason`). The non-streaming path never yields a response: `ChatCompletionResponse` is
not among the names inference.py imports (lines 10-22), so line 153 raises `NameError`.
-/

namespace LlamaStack.MetaReference

inductive ToolCallParseStatus where
  | started
  | inProgress
  | failure
  | success
  deriving DecidableEq, Repr

/-- The `content` of a `ToolCallDelta`: text, or a parsed tool call. -/
inductive ToolCallContent (TC : Type) where
  | text (s : String)
  | toolCall (call : TC)

/-- The `delta` of an event: text, or a `ToolCallDelta`. -/
inductive Delta (TC : Type) where
  | text (s : String)
  | toolCallDelta (content : ToolCallContent TC) (parseStatus : ToolCallParseStatus)

variable {TC LP : Type}

def Delta.parseStatus : Delta TC → Option ToolCallParseStatus
  | .text _ => none
  | .toolCallDelta _ parseStatus => some parseStatus

/-- A token result of the generator: the token, its text and its log-probability. -/
structure TokenResult (LP : Type) where
  token : Nat
  text : String
  logprob : LP

/-- The fields of `ChatCompletionRequest` that the function reads besides those it hands to the
generator; `logprobs` says whether a `LogProbConfig` is given. -/
structure ChatCompletionRequest where
  stream : Bool
  logprobs : Bool

/-- What the function reads of the message `decode_assistant_message` returns. -/
structure AssistantMessage (TC : Type) where
  content : String
  toolCalls : List TC

/-- The locals of the token loop. -/
structure LoopState (LP : Type) where
  tokens : List Nat
  logprobs : List LP
  stopReason : Option StopReason
  buffer : String
  ipython : Bool

def LoopState.init : LoopState LP := ⟨[], [], none, "", false⟩

def pythonTag : String := "<|python_tag|>"

/-- The stop reason an end token sets, if the text is one. -/
def endTokenReason (text : String) : Option StopReason :=
  if text = "<|eot_id|>" then some .endOfTurn
  else if text = "<|eom_id|>" then some .endOfMessage
  else none

def progress (delta : Delta TC) (stopReason : Option StopReason) : Event (Delta TC) :=
  ⟨.progress, delta, stopReason⟩

def startEvent : Event (Delta TC) := ⟨.start, .text "", none⟩

/-- One pass of the token loop (inference.py 64-109). -/
def loopStep (request : ChatCompletionRequest) (st : LoopState LP) (tr : TokenResult LP) :
    List (Event (Delta TC)) × LoopState LP :=
  if !st.ipython && startswith (st.buffer ++ tr.text) pythonTag then
    ([progress (.toolCallDelta (.text "") .started) none],
      { st with tokens := st.tokens ++ [tr.token],
                buffer := (st.buffer ++ tr.text).drop pythonTag.length, ipython := true })
  else if !request.stream then
    ([], { st with tokens := st.tokens ++ [tr.token], buffer := st.buffer ++ tr.text,
                   logprobs := if request.logprobs then st.logprobs ++ [tr.logprob] else st.logprobs })
  else
    ([progress
        (if st.ipython then
          .toolCallDelta (.text (if (endTokenReason tr.text).isSome then "" else tr.text)) .inProgress
        else .text (if (endTokenReason tr.text).isSome then "" else tr.text))
        ((endTokenReason tr.text).or st.stopReason)],
      { st with tokens := st.tokens ++ [tr.token], buffer := st.buffer ++ tr.text,
                stopReason := (endTokenReason tr.text).or st.stopReason })

/-- The token loop over every token result: the events it yields and the locals it leaves. -/
def tokenLoop (request : ChatCompletionRequest) :
    LoopState LP → List (TokenResult LP) → List (Event (Delta TC)) × LoopState LP
  | st, [] => ([], st)
  | st, tr :: trs =>
      match loopStep request st tr with
      | (es, st') => (es ++ (tokenLoop request st' trs).1, (tokenLoop request st' trs).2)

/-- The progress events after the loop on the streaming path (inference.py 118-141): a `failure`
delta if the tag was seen and no call parsed, then one `success` delta per parsed call. -/
def finishProgress (message : AssistantMessage TC) (stopReason : StopReason) (ipython : Bool) :
    List (Event (Delta TC)) :=
  (if ipython && message.toolCalls.isEmpty then
    [progress (.toolCallDelta (.text "") .failure) (some stopReason)] else []) ++
  message.toolCalls.map (fun c => progress (.toolCallDelta (.toolCall c) .success) (some stopReason))

def completeEvent (stopReason : StopReason) : Event (Delta TC) := ⟨.complete, .text "", some stopReason⟩

/-- The events after the loop on the streaming path (inference.py 118-149). -/
def finishStream (message : AssistantMessage TC) (stopReason : StopReason) (ipython : Bool) :
    List (Event (Delta TC)) :=
  finishProgress message stopReason ipython ++ [completeEvent stopReason]

/-- What the generator yields after the loop (inference.py 111-158), and how it ends. The
non-streaming branch evaluates the name `ChatCompletionResponse` before its arguments, and the
module never binds it. -/
def finish (decodeAssistantMessage : List Nat → StopReason → AssistantMessage TC)
    (request : ChatCompletionRequest) (st : LoopState LP) :
    List (Event (Delta TC)) × Except PyError Unit :=
  if request.stream then
    (finishStream (decodeAssistantMessage st.tokens (st.stopReason.getD .outOfTokens))
      (st.stopReason.getD .outOfTokens) st.ipython, .ok ())
  else ([], .error (.nameError "ChatCompletionResponse"))

/-- `chat_completion` on the token results `results` of the generator: what it yields, and
whether it returns or raises. -/
def chatCompletion (decodeAssistantMessage : List Nat → StopReason → AssistantMessage TC)
    (request : ChatCompletionRequest) (results : List (TokenResult LP)) :
    List (Event (Delta TC)) × Except PyError Unit :=
  match tokenLoop request .init results with
  | (es, st) => (startEvent :: (es ++ (finish decodeAssistantMessage request st).1),
      (finish decodeAssistantMessage request st).2)

/-- The stop reason the last end token among `results` stands for: `end_of_turn` for the text
`<|eot_id|>`, `end_of_message` for `<|eom_id|>`, and `out_of_tokens` when neither was generated. -/
def specStopReason (results : List (TokenResult LP)) : StopReason :=
  match results.reverse.find? fun tr => tr.text == "<|eot_id|>" || tr.text == "<|eom_id|>" with
  | some tr => if tr.text == "<|eot_id|>" then .endOfTurn else .endOfMessage
  | none => .outOfTokens

/-! ### The python tag and the end tokens -/

/-- No proper prefix of the python tag followed by an end token starts with the tag: `<` occurs in
the tag only at its start. -/
theorem pythonTag_endToken_prefix :
    ∀ p ∈ pythonTag.data.inits, p ≠ pythonTag.data → ∀ t ∈ ["<|eot_id|>", "<|eom_id|>"],
      pythonTag.data.isPrefixOf (p ++ t.data) = false := by
  decide

/-- The token that makes the buffer start with the python tag is not an end token. -/
theorem endTokenReason_of_trigger {buffer text : String}
    (hb : startswith buffer pythonTag = false) (ht : startswith (buffer ++ text) pythonTag = true) :
    endTokenReason text = none := by
  have hpre : pythonTag.data <+: buffer.data ++ text.data := List.isPrefixOf_iff_prefix.mp ht
  have hnot : ¬ pythonTag.data <+: buffer.data := fun h => by
    rw [startswith, List.isPrefixOf_iff_prefix.mpr h] at hb
    cases hb
  rcases List.prefix_or_prefix_of_prefix hpre (List.prefix_append _ _) with h | h
  · exact absurd h hnot
  · have hinit : buffer.data ∈ pythonTag.data.inits := List.mem_inits _ _ |>.mpr h
    have hne : buffer.data ≠ pythonTag.data := fun heq => hnot (heq ▸ List.prefix_refl _)
    have hend : text ∉ ["<|eot_id|>", "<|eom_id|>"] := fun hmem => by
      rw [startswith, String.data_append, pythonTag_endToken_prefix _ hinit hne _ hmem] at ht
      cases ht
    simp only [List.mem_cons, List.mem_singleton, List.not_mem_nil, or_false, not_or] at hend
    simp [endTokenReason, hend.1, hend.2]

/-- The stop reason the code's two text checks leave after the last end token is the one the
token's text names. -/
theorem getLast?_filterMap_endTokenReason (results : List (TokenResult LP)) :
    ((results.filterMap fun tr => endTokenReason tr.text).getLast?).getD .outOfTokens =
      specStopReason results := by
  rw [specStopReason, List.getLast?_eq_head?_reverse, ← List.filterMap_reverse]
  generalize results.reverse = trs
  induction trs with
  | nil => rfl
  | cons tr trs ih =>
      by_cases heot : tr.text = "<|eot_id|>"
      · simp [endTokenReason, heot]
      · by_cases heom : tr.text = "<|eom_id|>"
        · simp [endTokenReason, heot, heom]
        · have hp : (tr.text == "<|eot_id|>" || tr.text == "<|eom_id|>") = false := by
            simp [heot, heom]
          simp only [List.filterMap_cons, List.find?_cons, hp, endTokenReason, heot, heom, if_false]
          exact ih

/-! ### The token loop -/

/-- Before the python tag is seen, the buffer does not start with it. -/
def BufferInv (st : LoopState LP) : Prop :=
  st.ipython = false → startswith st.buffer pythonTag = false

theorem bufferInv_init : BufferInv (LoopState.init : LoopState LP) := fun _ => rfl

section Loop

variable {request : ChatCompletionRequest} {st st' : LoopState LP} {tr : TokenResult LP}
  {es : List (Event (Delta TC))}

theorem tokenLoop_cons (h : loopStep request st tr = (es, st')) (trs : List (TokenResult LP)) :
    tokenLoop request st (tr :: trs) =
      (es ++ (@tokenLoop TC LP request st' trs).1, (@tokenLoop TC LP request st' trs).2) := by
  simp only [tokenLoop, h]

theorem loopStep_bufferInv (h : loopStep request st tr = (es, st')) :
    BufferInv st' := by
  simp only [loopStep] at h
  split at h
  · cases h
    exact fun h => nomatch h
  · rename_i htrig
    have hnew : st.ipython = false → startswith (st.buffer ++ tr.text) pythonTag = false := by
      intro hf
      simpa [hf] using htrig
    split at h <;> (cases h; exact hnew)

/-- On the streaming path a pass sets the stop reason of its token, if it is an end token; the
token that reveals the python tag is never one. -/
theorem loopStep_stopReason (hs : request.stream = true) (hinv : BufferInv st)
    (h : loopStep request st tr = (es, st')) :
    st'.stopReason = (endTokenReason tr.text).or st.stopReason := by
  simp only [loopStep, hs, Bool.not_true, Bool.false_eq_true, if_false] at h
  split at h
  · rename_i htrig
    cases h
    have ⟨hi, ht⟩ : st.ipython = false ∧ startswith (st.buffer ++ tr.text) pythonTag = true := by
      simpa using htrig
    rw [endTokenReason_of_trigger (hinv hi) ht]
    rfl
  · cases h
    rfl

theorem loopStep_nonstream_stopReason (hs : request.stream = false)
    (h : loopStep request st tr = (es, st')) : st'.stopReason = st.stopReason := by
  simp only [loopStep, hs, Bool.not_false, if_true] at h
  split at h <;> (cases h; rfl)

theorem loopStep_of_ipython (hs : request.stream = true) (hi : st.ipython = true)
    (h : loopStep request st tr = (es, st')) :
    AllProgress es ∧ (∀ e ∈ es, e.delta.parseStatus = some .inProgress) ∧ st'.ipython = true := by
  simp only [loopStep, hs, hi, Bool.not_true, Bool.false_and, Bool.false_eq_true, if_false,
    if_true] at h
  cases h
  exact ⟨by simp [AllProgress, progress], by simp [Delta.parseStatus, progress], rfl⟩

/-- On the streaming path, before the tag is seen, a pass yields a `started` delta and sees the
tag, or yields one text delta. -/
theorem loopStep_of_not_ipython (hs : request.stream = true) (hi : st.ipython = false)
    (h : loopStep request st tr = (es, st')) :
    AllProgress es ∧
      ((∃ s, es = [s] ∧ s.delta.parseStatus = some .started) ∧ st'.ipython = true ∨
        (∀ e ∈ es, e.delta.parseStatus = none) ∧ st'.ipython = false) := by
  simp only [loopStep, hs, hi, Bool.not_true, Bool.not_false, Bool.true_and, Bool.false_eq_true,
    if_false] at h
  split at h <;> cases h
  · exact ⟨by simp [AllProgress, progress], .inl ⟨⟨_, rfl, rfl⟩, rfl⟩⟩
  · exact ⟨by simp [AllProgress, progress], .inr ⟨by simp [Delta.parseStatus, progress], rfl⟩⟩

theorem tokenLoop_bufferInv (hinv : BufferInv st) {trs : List (TokenResult LP)}
    (h : tokenLoop request st trs = (es, st')) : BufferInv st' := by
  induction trs generalizing st es with
  | nil => cases h; exact hinv
  | cons tr trs ih =>
      rcases hstep : loopStep request st tr with ⟨es₁, st₁⟩
      rw [tokenLoop_cons hstep] at h
      cases h
      exact ih (loopStep_bufferInv hstep) rfl

/-- On the streaming path the loop leaves the stop reason of the last end token, if any. -/
theorem tokenLoop_stopReason (hs : request.stream = true) (hinv : BufferInv st)
    {trs : List (TokenResult LP)} (h : tokenLoop request st trs = (es, st')) :
    st'.stopReason = ((trs.filterMap fun tr => endTokenReason tr.text).getLast?).or st.stopReason := by
  induction trs generalizing st es with
  | nil => cases h; rfl
  | cons tr trs ih =>
      rcases hstep : loopStep request st tr with ⟨es₁, st₁⟩
      rw [tokenLoop_cons hstep] at h
      cases h
      rw [ih (loopStep_bufferInv hstep) rfl, loopStep_stopReason hs hinv hstep,
        getLast?_filterMap_cons_or]

/-- Off the streaming path the loop never sets the stop reason. -/
theorem tokenLoop_nonstream_stopReason (hs : request.stream = false) {trs : List (TokenResult LP)}
    (h : tokenLoop request st trs = (es, st')) : st'.stopReason = st.stopReason := by
  induction trs generalizing st es with
  | nil => cases h; rfl
  | cons tr trs ih =>
      rcases hstep : loopStep request st tr with ⟨es₁, st₁⟩
      rw [tokenLoop_cons hstep] at h
      cases h
      rw [ih rfl, loopStep_nonstream_stopReason hs hstep]

theorem tokenLoop_of_ipython (hs : request.stream = true) (hi : st.ipython = true)
    {trs : List (TokenResult LP)} (h : tokenLoop request st trs = (es, st')) :
    AllProgress es ∧ (∀ e ∈ es, e.delta.parseStatus = some .inProgress) ∧ st'.ipython = true := by
  induction trs generalizing st es with
  | nil => cases h; exact ⟨allProgress_nil, fun _ h => absurd h (List.not_mem_nil _), hi⟩
  | cons tr trs ih =>
      rcases hstep : loopStep request st tr with ⟨es₁, st₁⟩
      rw [tokenLoop_cons hstep] at h
      cases h
      obtain ⟨hp₁, hip₁, hi₁⟩ := loopStep_of_ipython hs hi hstep
      obtain ⟨hp, hip, hi'⟩ := ih hi₁ rfl
      refine ⟨allProgress_append.mpr ⟨hp₁, hp⟩, fun e he => ?_, hi'⟩
      rcases List.mem_append.mp he with he | he
      exacts [hip₁ e he, hip e he]

/-- Off the streaming path a pass yields nothing, or the `started` delta of the pass that reveals
the python tag. -/
theorem loopStep_nonstream_events (hs : request.stream = false)
    (h : loopStep request st tr = (es, st')) :
    es = [] ∧ st'.ipython = st.ipython ∨
      es = [progress (.toolCallDelta (.text "") .started) none] ∧ st.ipython = false ∧
        st'.ipython = true := by
  simp only [loopStep, hs, Bool.not_false, if_true] at h
  split at h <;> cases h
  · rename_i htrig
    simp only [Bool.and_eq_true, Bool.not_eq_true'] at htrig
    exact .inr ⟨rfl, htrig.1, rfl⟩
  · exact .inl ⟨rfl, rfl⟩

/-- Off the streaming path the loop yields at most the one `started` delta, and only from a state
that has not seen the tag. -/
theorem tokenLoop_nonstream_events (hs : request.stream = false) {trs : List (TokenResult LP)}
    (h : tokenLoop request st trs = (es, st')) :
    es = [] ∨ es = [progress (.toolCallDelta (.text "") .started) none] ∧ st.ipython = false := by
  induction trs generalizing st es with
  | nil => cases h; exact .inl rfl
  | cons tr trs ih =>
      rcases hstep : loopStep request st tr with ⟨es₁, st₁⟩
      rw [tokenLoop_cons hstep] at h
      cases h
      rcases loopStep_nonstream_events hs hstep with ⟨rfl, hi⟩ | ⟨rfl, hi, hi₁⟩
      · rcases ih rfl with hrest | ⟨hrest, hi'⟩
        · exact .inl (by rw [hrest]; rfl)
        · exact .inr ⟨by rw [hrest]; rfl, hi.symm.trans hi'⟩
      · rcases ih rfl with hrest | ⟨-, hi'⟩
        · exact .inr ⟨by rw [hrest]; rfl, hi⟩
        · rw [hi₁] at hi'
          cases hi'

theorem loopStep_tokens (h : loopStep request st tr = (es, st')) : st'.tokens = st.tokens ++ [tr.token] := by
  simp only [loopStep] at h
  split at h
  · cases h; rfl
  · split at h <;> (cases h; rfl)

theorem tokenLoop_tokens {trs : List (TokenResult LP)} (h : tokenLoop request st trs = (es, st')) :
    st'.tokens = st.tokens ++ trs.map (·.token) := by
  induction trs generalizing st es with
  | nil => cases h; simp
  | cons tr trs ih =>
      rcases hstep : loopStep request st tr with ⟨es₁, st₁⟩
      rw [tokenLoop_cons hstep] at h
      cases h
      rw [ih rfl, loopStep_tokens hstep]
      simp

theorem tokenLoop_append (trs trs' : List (TokenResult LP)) :
    @tokenLoop TC LP request st (trs ++ trs') =
      ((tokenLoop request st trs).1 ++
          (@tokenLoop TC LP request (@tokenLoop TC LP request st trs).2 trs').1,
        (@tokenLoop TC LP request (@tokenLoop TC LP request st trs).2 trs').2) := by
  induction trs generalizing st with
  | nil => rfl
  | cons tr trs ih =>
      rcases hstep : @loopStep TC LP request st tr with ⟨es₁, st₁⟩
      rw [List.cons_append, tokenLoop_cons hstep, tokenLoop_cons hstep, ih, List.append_assoc]

/-- Off the streaming path with log-probabilities asked for, a pass either reveals the python tag
and records no log-probability, or appends its token's text and log-probability. -/
theorem loopStep_nonstream_logprobs (hs : request.stream = false) (hl : request.logprobs = true)
    (h : loopStep request st tr = (es, st')) :
    (st.ipython = false ∧ startswith (st.buffer ++ tr.text) pythonTag = true ∧
        st'.logprobs = st.logprobs ∧ st'.ipython = true) ∨
      ((st.ipython = true ∨ startswith (st.buffer ++ tr.text) pythonTag = false) ∧
        st'.logprobs = st.logprobs ++ [tr.logprob] ∧ st'.ipython = st.ipython ∧
        st'.buffer = st.buffer ++ tr.text) := by
  simp only [loopStep, hs, hl, Bool.not_false, if_true] at h
  split at h <;> cases h
  · rename_i htrig
    simp only [Bool.and_eq_true, Bool.not_eq_true'] at htrig
    exact .inl ⟨htrig.1, htrig.2, rfl, rfl⟩
  · rename_i htrig
    simp only [Bool.and_eq_true, Bool.not_eq_true', not_and, Bool.not_eq_true] at htrig
    refine .inr ⟨?_, rfl, rfl, rfl⟩
    cases hi : st.ipython
    · exact .inr (htrig hi)
    · exact .inl rfl

theorem tokenLoop_nonstream_logprobs_of_ipython (hs : request.stream = false)
    (hl : request.logprobs = true) (hi : st.ipython = true) {trs : List (TokenResult LP)}
    (h : tokenLoop request st trs = (es, st')) :
    st'.logprobs = st.logprobs ++ trs.map (·.logprob) := by
  induction trs generalizing st es with
  | nil => cases h; simp
  | cons tr trs ih =>
      rcases hstep : loopStep request st tr with ⟨es₁, st₁⟩
      rw [tokenLoop_cons hstep] at h
      cases h
      rcases loopStep_nonstream_logprobs hs hl hstep with ⟨hf, -⟩ | ⟨-, hlp, hi₁, -⟩
      · rw [hi] at hf; cases hf
      · rw [ih (hi₁.trans hi) rfl, hlp, List.map_cons, List.append_assoc, List.singleton_append]

/-- Before the tag, over tokens whose texts do not complete it, every pass records its
log-probability and appends its text to the buffer. -/
theorem tokenLoop_nonstream_logprobs_of_no_tag (hs : request.stream = false)
    (hl : request.logprobs = true) (hi : st.ipython = false) {trs : List (TokenResult LP)}
    (hno : startswith (st.buffer ++ String.join (trs.map (·.text))) pythonTag = false)
    (h : tokenLoop request st trs = (es, st')) :
    st'.logprobs = st.logprobs ++ trs.map (·.logprob) ∧ st'.ipython = false ∧
      st'.buffer = st.buffer ++ String.join (trs.map (·.text)) := by
  induction trs generalizing st es with
  | nil => cases h; exact ⟨by simp, hi, by simp⟩
  | cons tr trs ih =>
      rcases hstep : loopStep request st tr with ⟨es₁, st₁⟩
      rw [tokenLoop_cons hstep] at h
      cases h
      rw [List.map_cons, String.join_cons, ← String.append_assoc] at hno
      have hfirst : startswith (st.buffer ++ tr.text) pythonTag = false := by
        cases hb : startswith (st.buffer ++ tr.text) pythonTag
        · rfl
        · rw [startswith_append_of_startswith hb] at hno; cases hno
      rcases loopStep_nonstream_logprobs hs hl hstep with ⟨-, htrig, -⟩ | ⟨-, hlp, hi₁, hbuf⟩
      · rw [hfirst] at htrig; cases htrig
      · obtain ⟨hlp', hi', hbuf'⟩ := ih (hi₁.trans hi) (by rwa [hbuf]) rfl
        refine ⟨?_, hi', ?_⟩
        · rw [hlp', hlp, List.map_cons, List.append_assoc, List.singleton_append]
        · rw [hbuf', hbuf, List.map_cons, String.join_cons, String.append_assoc]

end Loop

/-- The events of the streaming token loop from a state that has not seen the python tag: text
deltas, then, if the tag is seen, one `started` delta followed by `in_progress` deltas. -/
def LoopShape (ipython : Bool) (es : List (Event (Delta TC))) : Prop :=
  AllProgress es ∧ ∃ texts rest, es = texts ++ rest ∧ (∀ e ∈ texts, e.delta.parseStatus = none) ∧
    match ipython with
    | true => ∃ s ips, rest = s :: ips ∧ s.delta.parseStatus = some .started ∧
        ∀ e ∈ ips, e.delta.parseStatus = some .inProgress
    | false => rest = []

theorem tokenLoop_shape {request : ChatCompletionRequest} (hs : request.stream = true)
    {st st' : LoopState LP} (hi : st.ipython = false) {trs : List (TokenResult LP)}
    {es : List (Event (Delta TC))} (h : tokenLoop request st trs = (es, st')) :
    LoopShape st'.ipython es := by
  induction trs generalizing st es with
  | nil =>
      cases h
      exact ⟨allProgress_nil, [], [], rfl, fun _ h => absurd h (List.not_mem_nil _), by rw [hi]⟩
  | cons tr trs ih =>
      rcases hstep : loopStep request st tr with ⟨es₁, st₁⟩
      rw [tokenLoop_cons hstep] at h
      cases h
      obtain ⟨hp₁, ⟨⟨s, rfl, hs₁⟩, hi₁⟩ | ⟨htext, hi₁⟩⟩ := loopStep_of_not_ipython hs hi hstep
      · rcases htok : tokenLoop request st₁ trs with ⟨es₂, st₂⟩
        obtain ⟨hp₂, hip₂, hi₂⟩ := tokenLoop_of_ipython hs hi₁ htok
        refine ⟨allProgress_append.mpr ⟨hp₁, hp₂⟩, [], s :: es₂, rfl,
          fun _ h => absurd h (List.not_mem_nil _), ?_⟩
        rw [hi₂]
        exact ⟨s, es₂, rfl, hs₁, hip₂⟩
      · obtain ⟨hp₂, texts, rest, htexts, hnone, hrest⟩ := ih hi₁ rfl
        refine ⟨allProgress_append.mpr ⟨hp₁, hp₂⟩, es₁ ++ texts, rest,
          by rw [htexts, List.append_assoc], fun e he => ?_, hrest⟩
        rcases List.mem_append.mp he with he | he
        exacts [htext e he, hnone e he]

/-- In `xs ++ s :: ys = pre ++ e :: post`, where `e` has a property that `s` and every element of
`xs` lack, `s` comes before `e`. -/
theorem mem_of_split {α : Type} {P : α → Prop} {pre post xs ys : List α} {e s : α}
    (h : pre ++ e :: post = xs ++ s :: ys) (he : P e) (hs : ¬ P s) (hxs : ∀ x ∈ xs, ¬ P x) :
    s ∈ pre := by
  rcases List.append_eq_append_iff.mp h with ⟨a, rfl, ha⟩ | ⟨c, rfl, hc⟩
  · cases a with
    | nil => cases ha; exact absurd he hs
    | cons x a => cases ha; exact absurd he (hxs _ (by simp))
  · cases c with
    | nil => cases hc; exact absurd he hs
    | cons x c => cases hc; simp

section Shape

variable {ipython : Bool} {es : List (Event (Delta TC))}

theorem LoopShape.parseStatus (hes : LoopShape ipython es) {e : Event (Delta TC)} (he : e ∈ es) :
    e.delta.parseStatus = none ∨ e.delta.parseStatus = some .started ∨
      e.delta.parseStatus = some .inProgress := by
  obtain ⟨-, texts, rest, rfl, htexts, hrest⟩ := hes
  rcases List.mem_append.mp he with he | he
  · exact .inl (htexts e he)
  · cases ipython with
    | false => subst hrest; exact absurd he (List.not_mem_nil _)
    | true =>
        obtain ⟨s, ips, rfl, hs, hips⟩ := hrest
        rcases List.mem_cons.mp he with rfl | he
        exacts [.inr (.inl hs), .inr (.inr (hips e he))]

theorem LoopShape.countP_started (hes : LoopShape ipython es) :
    es.countP (fun e => e.delta.parseStatus = some .started) ≤ 1 := by
  obtain ⟨-, texts, rest, rfl, htexts, hrest⟩ := hes
  have htexts0 : texts.countP (fun e => e.delta.parseStatus = some .started) = 0 :=
    List.countP_eq_zero.mpr fun e he => by simp [htexts e he]
  rw [List.countP_append, htexts0, Nat.zero_add]
  cases ipython with
  | false => subst hrest; exact Nat.zero_le _
  | true =>
      obtain ⟨s, ips, rfl, hs, hips⟩ := hrest
      rw [List.countP_cons, List.countP_eq_zero.mpr fun e he => by simp [hips e he]]
      simp [hs]

theorem LoopShape.exists_started (hes : LoopShape true es) :
    ∃ s ∈ es, s.delta.parseStatus = some .started := by
  obtain ⟨-, texts, rest, rfl, -, s, ips, rfl, hs, -⟩ := hes
  exact ⟨s, by simp, hs⟩

/-- After the loop's events come events that are not `in_progress`: every `in_progress` event
follows the `started` one. -/
theorem LoopShape.started_before (hes : LoopShape ipython es) {fs : List (Event (Delta TC))}
    (hfs : ∀ e ∈ fs, e.delta.parseStatus ≠ some .inProgress) {pre post : List (Event (Delta TC))}
    {e : Event (Delta TC)} (h : es ++ fs = pre ++ e :: post)
    (he : e.delta.parseStatus = some .inProgress) : ∃ s ∈ pre, s.delta.parseStatus = some .started := by
  obtain ⟨-, texts, rest, rfl, htexts, hrest⟩ := hes
  cases ipython with
  | false =>
      subst hrest
      have hmem : e ∈ texts ++ [] ++ fs := h ▸ List.mem_append_right _ (List.mem_cons_self _ _)
      rcases List.mem_append.mp hmem with hm | hm
      · rw [htexts e (by simpa using hm)] at he; cases he
      · exact absurd he (hfs e hm)
  | true =>
      obtain ⟨s, ips, rfl, hs, -⟩ := hrest
      rw [List.append_assoc, List.cons_append] at h
      exact ⟨s, mem_of_split (P := fun x => x.delta.parseStatus = some .inProgress) h.symm he
        (by simp [hs]) fun x hx => by simp [htexts x hx], hs⟩

end Shape

/-! ### The events after the loop -/

theorem finishProgress_allProgress (message : AssistantMessage TC) (stopReason : StopReason)
    (ipython : Bool) : AllProgress (finishProgress message stopReason ipython) := by
  unfold finishProgress
  split <;> simp [AllProgress, progress]

/-- A delta after the loop is a `failure`, when the tag was seen and no call parsed, or a
`success`. -/
theorem finishProgress_parseStatus {message : AssistantMessage TC} {stopReason : StopReason}
    {ipython : Bool} {e : Event (Delta TC)} (he : e ∈ finishProgress message stopReason ipython) :
    (e.delta.parseStatus = some .failure ∧ ipython = true ∧ message.toolCalls = []) ∨
      e.delta.parseStatus = some .success := by
  unfold finishProgress at he
  rcases List.mem_append.mp he with he | he
  · split at he
    · rename_i hc
      rw [List.mem_singleton.mp he]
      simp only [Bool.and_eq_true, List.isEmpty_iff] at hc
      exact .inl ⟨rfl, hc⟩
    · exact absurd he (List.not_mem_nil _)
  · obtain ⟨c, -, rfl⟩ := List.mem_map.mp he
    exact .inr rfl

/-- A `failure` delta comes alone: the tag was seen and no call parsed, so there is no `success`. -/
theorem finishProgress_of_failure {message : AssistantMessage TC} {stopReason : StopReason}
    {ipython : Bool} (h : ∃ e ∈ finishProgress message stopReason ipython,
      e.delta.parseStatus = some .failure) :
    ipython = true ∧ ∀ e ∈ finishProgress message stopReason ipython,
      e.delta.parseStatus ≠ some .success := by
  obtain ⟨e, he, hfail⟩ := h
  rcases finishProgress_parseStatus he with ⟨-, rfl, hnil⟩ | hsucc
  · refine ⟨rfl, fun e' he' => ?_⟩
    simp only [finishProgress, hnil, List.isEmpty_nil, Bool.and_self, if_true, List.map_nil,
      List.append_nil, List.mem_singleton] at he'
    simp [he', progress, Delta.parseStatus]
  · rw [hsucc] at hfail; cases hfail

/-! ### The parse protocol -/

/-- The protocol of tool-call deltas: at most one `started` delta, before every `in_progress`
delta; a `failure` delta only after a `started` one and never with a `success` delta. -/
structure ParseProtocol (ps : List (Event (Delta TC))) : Prop where
  startedOnce : ps.countP (fun e => e.delta.parseStatus = some .started) ≤ 1
  startedFirst : ∀ pre e post, ps = pre ++ e :: post → e.delta.parseStatus = some .inProgress →
    ∃ s ∈ pre, s.delta.parseStatus = some .started
  failureOnly : (∃ e ∈ ps, e.delta.parseStatus = some .failure) →
    (∃ s ∈ ps, s.delta.parseStatus = some .started) ∧ ∀ e ∈ ps, e.delta.parseStatus ≠ some .success

/-- The loop's events followed by the deltas after it keep the protocol. -/
theorem parseProtocol_of_loopShape {ipython : Bool} {es : List (Event (Delta TC))}
    (hes : LoopShape ipython es) (message : AssistantMessage TC) (stopReason : StopReason) :
    ParseProtocol (es ++ finishProgress message stopReason ipython) := by
  have hfin := fun e (he : e ∈ finishProgress message stopReason ipython) =>
    finishProgress_parseStatus he
  refine ⟨?_, ?_, ?_⟩
  · have hfin0 : (finishProgress message stopReason ipython).countP
        (fun e => e.delta.parseStatus = some .started) = 0 :=
      List.countP_eq_zero.mpr fun e he => by rcases hfin e he with h | h <;> simp [h]
    rw [List.countP_append, hfin0, Nat.add_zero]
    exact hes.countP_started
  · intro pre e post h he
    exact hes.started_before (fun e he => by rcases hfin e he with h | h <;> simp [h]) h he
  · rintro ⟨e, he, hfail⟩
    have hinfin : e ∈ finishProgress message stopReason ipython := by
      rcases List.mem_append.mp he with hm | hm
      · rcases hes.parseStatus hm with h | h | h <;> rw [h] at hfail <;> cases hfail
      · exact hm
    obtain ⟨rfl, hnosucc⟩ := finishProgress_of_failure ⟨e, hinfin, hfail⟩
    obtain ⟨s, hs, hstarted⟩ := hes.exists_started
    refine ⟨⟨s, List.mem_append_left _ hs, hstarted⟩, fun e' he' => ?_⟩
    rcases List.mem_append.mp he' with hm | hm
    · rcases hes.parseStatus hm with h | h | h <;> simp [h]
    · exact hnosucc e' hm

/-! ### The two paths -/

section Paths

variable (decodeAssistantMessage : List Nat → StopReason → AssistantMessage TC) (logprobs : Bool)
  (results : List (TokenResult LP))

/-- The streaming path: the `start` event, the loop's events, and the events after the loop. -/
theorem chatCompletion_stream {es : List (Event (Delta TC))} {st : LoopState LP}
    (hloop : tokenLoop ⟨true, logprobs⟩ .init results = (es, st)) :
    chatCompletion decodeAssistantMessage ⟨true, logprobs⟩ results =
      (startEvent :: (es ++ finishProgress
          (decodeAssistantMessage st.tokens (st.stopReason.getD .outOfTokens))
          (st.stopReason.getD .outOfTokens) st.ipython) ++
        [completeEvent (st.stopReason.getD .outOfTokens)], .ok ()) := by
  simp [chatCompletion, hloop, finish, finishStream]

/-- The streaming loop leaves the stop reason of the last end token's text. -/
theorem tokenLoop_stream_stopReason {es : List (Event (Delta TC))} {st : LoopState LP}
    (hloop : tokenLoop ⟨true, logprobs⟩ .init results = (es, st)) :
    st.stopReason.getD .outOfTokens = specStopReason results := by
  rw [tokenLoop_stopReason rfl bufferInv_init hloop, ← getLast?_filterMap_endTokenReason]
  simp [LoopState.init]

/-- The non-streaming path yields the `start` event, and a `started` delta if the python tag was
seen, and then raises `NameError`, for every run of the model. -/
theorem chatCompletion_nonstream :
    ∃ es, chatCompletion decodeAssistantMessage ⟨false, logprobs⟩ results =
        (startEvent :: es, .error (.nameError "ChatCompletionResponse")) ∧
      (es = [] ∨ es = [progress (.toolCallDelta (.text "") .started) none]) := by
  rcases hloop : @tokenLoop TC LP ⟨false, logprobs⟩ .init results with ⟨es, st⟩
  exact ⟨es, by simp [chatCompletion, hloop, finish],
    (tokenLoop_nonstream_events rfl hloop).imp_right And.left⟩

/-- Off the streaming path with log-probabilities asked for, no run of the model gives a
response: the generator raises `NameError` at line 153. The `logprobs` local that the response
would carry holds after the loop the log-probabilities of every token when the texts never form
the python tag, and of every token but the one that completes the tag otherwise: that pass
`continue`s before the non-streaming branch records its log-probability. -/
theorem chatCompletion_nonstream_logprobs_raises :
    (∃ es, chatCompletion decodeAssistantMessage ⟨false, true⟩ results =
        (startEvent :: es, .error (.nameError "ChatCompletionResponse")) ∧
      (es = [] ∨ es = [progress (.toolCallDelta (.text "") .started) none])) ∧
      (startswith (String.join (results.map (·.text))) pythonTag = false →
        (@tokenLoop TC LP ⟨false, true⟩ .init results).2.logprobs = results.map (·.logprob)) ∧
      ∀ pre tr post, results = pre ++ tr :: post →
        startswith (String.join (pre.map (·.text))) pythonTag = false →
        startswith (String.join ((pre ++ [tr]).map (·.text))) pythonTag = true →
        (@tokenLoop TC LP ⟨false, true⟩ .init results).2.logprobs =
          (pre ++ post).map (·.logprob) := by
  refine ⟨chatCompletion_nonstream decodeAssistantMessage true results, fun hno => ?_,
    fun pre tr post hsplit hpre htrig => ?_⟩
  · rcases hloop : @tokenLoop TC LP ⟨false, true⟩ .init results with ⟨es, st⟩
    rw [(tokenLoop_nonstream_logprobs_of_no_tag rfl rfl rfl
      (by rwa [LoopState.init, String.empty_append]) hloop).1]
    rfl
  · subst hsplit
    rcases h₁ : @tokenLoop TC LP ⟨false, true⟩ .init pre with ⟨es₁, st₁⟩
    rcases h₂ : @loopStep TC LP ⟨false, true⟩ st₁ tr with ⟨es₂, st₂⟩
    rcases h₃ : @tokenLoop TC LP ⟨false, true⟩ st₂ post with ⟨es₃, st₃⟩
    rw [tokenLoop_append, h₁, tokenLoop_cons h₂, h₃]
    obtain ⟨hlp₁, hi₁, hbuf₁⟩ := tokenLoop_nonstream_logprobs_of_no_tag rfl rfl rfl
      (by rwa [LoopState.init, String.empty_append]) h₁
    have htag : startswith (st₁.buffer ++ tr.text) pythonTag = true := by
      simpa [hbuf₁, LoopState.init, String.join_append, String.join_cons] using htrig
    rcases loopStep_nonstream_logprobs rfl rfl h₂ with ⟨-, -, hlp₂, hi₂⟩ | ⟨hor, -⟩
    · rw [tokenLoop_nonstream_logprobs_of_ipython rfl rfl hi₂ h₃, hlp₂, hlp₁]
      simp [LoopState.init]
    · simp [hi₁, htag] at hor

/-- The first token is the python tag and the second `x`: the call raises `NameError`, and the
`logprobs` local holds one log-probability, that of `x`, for two tokens. -/
theorem chatCompletion_nonstream_logprobs_raises_tag_first :
    (chatCompletion (fun _ _ => (⟨"", []⟩ : AssistantMessage Nat)) ⟨false, true⟩
        [⟨128010, "<|python_tag|>", 10⟩, ⟨87, "x", 20⟩]).2 =
        .error (.nameError "ChatCompletionResponse") ∧
      (@tokenLoop Nat Nat ⟨false, true⟩ .init
        [⟨128010, "<|python_tag|>", 10⟩, ⟨87, "x", 20⟩]).2.logprobs = [20] := by
  obtain ⟨⟨es, hout, -⟩, -, htrig⟩ := chatCompletion_nonstream_logprobs_raises
    (fun _ _ => (⟨"", []⟩ : AssistantMessage Nat)) [⟨128010, "<|python_tag|>", 10⟩, ⟨87, "x", 20⟩]
  exact ⟨by rw [hout], htrig [] _ _ rfl (by decide) (by decide)⟩

/-- On the streaming path, for every run of the model, `chat_completion` yields the empty `start`
event, progress events whose tool-call deltas keep the parse protocol, and last one `complete`
event, and returns; the `complete` event's stop reason is that of the last `<|eot_id|>` or
`<|eom_id|>` token generated, or `out_of_tokens`. -/
theorem chatCompletion_stream_protocol :
    ∃ ps c, chatCompletion decodeAssistantMessage ⟨true, logprobs⟩ results =
        (startEvent :: ps ++ [c], .ok ()) ∧
      AllProgress ps ∧ ParseProtocol ps ∧ c.eventType = .complete ∧
      c.stopReason = some (specStopReason results) := by
  rcases hloop : @tokenLoop TC LP ⟨true, logprobs⟩ .init results with ⟨es, st⟩
  have hshape : LoopShape st.ipython es := tokenLoop_shape rfl rfl hloop
  refine ⟨_, _, chatCompletion_stream decodeAssistantMessage logprobs results hloop,
    allProgress_append.mpr ⟨hshape.1, finishProgress_allProgress _ _ _⟩,
    parseProtocol_of_loopShape hshape _ _, rfl, ?_⟩
  rw [← tokenLoop_stream_stopReason logprobs results hloop]
  rfl

/-- For every run of the model, the streaming path returns after a `complete` event that carries
the stop reason of the last end token, while the non-streaming path gives no response at all:
after the `start` event, and a `started` delta if the tag was seen, it raises `NameError`. -/
theorem nonstream_raises_where_stream_completes :
    (∃ ps, chatCompletion decodeAssistantMessage ⟨true, logprobs⟩ results =
        (ps ++ [completeEvent (specStopReason results)], .ok ())) ∧
      ∃ es, chatCompletion decodeAssistantMessage ⟨false, logprobs⟩ results =
        (startEvent :: es, .error (.nameError "ChatCompletionResponse")) ∧
      (es = [] ∨ es = [progress (.toolCallDelta (.text "") .started) none]) := by
  rcases hloop : @tokenLoop TC LP ⟨true, logprobs⟩ .init results with ⟨es, st⟩
  refine ⟨?_, chatCompletion_nonstream decodeAssistantMessage logprobs results⟩
  rw [chatCompletion_stream decodeAssistantMessage logprobs results hloop,
    tokenLoop_stream_stopReason logprobs results hloop]
  exact ⟨_, rfl⟩

end Paths

/-- The model says `Paris` and ends its turn. -/
def parisResults : List (TokenResult Nat) := [⟨60704, "Paris", 0⟩, ⟨128009, "<|eot_id|>", 0⟩]

/-- On `Paris` and `<|eot_id|>` the stream's `complete` event says `end_of_turn`, and the
non-streaming call raises `NameError`. -/
theorem nonstream_raises_where_stream_completes_paris :
    (∃ ps, chatCompletion (fun _ _ => (⟨"Paris", []⟩ : AssistantMessage Nat)) ⟨true, false⟩
        parisResults = (ps ++ [completeEvent .endOfTurn], .ok ())) ∧
      (chatCompletion (fun _ _ => (⟨"Paris", []⟩ : AssistantMessage Nat)) ⟨false, false⟩
        parisResults).2 = .error (.nameError "ChatCompletionResponse") := by
  obtain ⟨hstream, es, hnon, -⟩ := nonstream_raises_where_stream_completes
    (fun _ _ => (⟨"Paris", []⟩ : AssistantMessage Nat)) false parisResults
  have heot : specStopReason parisResults = .endOfTurn := by decide
  exact ⟨heot ▸ hstream, by rw [hnon]⟩

end LlamaStack.MetaReference
