import Mathlib.Algebra.Order.Ring.Rat
import LlamaStack.PyValue

/-!
# The text-generation calls of the Hugging Face adapters

`_HfAdapter` (llama_stack/providers/remote/inference/tgi/tgi.py 68-276), which the TGI server,
the Inference API and Inference Endpoints adapters share, turns a chat or completion request into
the keyword arguments of one `text_generation` call. It then turns TGI's answer into the
`OpenAICompatCompletionChoice`s it hands on to the OpenAI-compatible processing. The model store,
the prompt formatters, `get_sampling_options` and the client are outside the adapter, and are
fields of `HfAdapter` here. So is the endpoint's `max_tokens`, the budget of prompt and answer
together, which `initialize` reads from the endpoint.

A call never asks for more new tokens than the budget leaves after the prompt, less one. It asks
for the request's own `max_tokens` when that is set, is not zero, and fits
(`paramsFor_token_budget`). The options sent are those of `get_sampling_options`, changed in
three ways: `max_tokens` is dropped, a temperature below `1e-10` is raised to `1e-3`, and a JSON
schema becomes a TGI grammar. Options without a temperature make the call raise
`KeyError('temperature')` (`buildOptions_spec`).
-/

namespace LlamaStack.Tgi

/-- llama-stack's `ResponseFormat`: a JSON schema, or the parse tree of a BNF grammar. -/
inductive ResponseFormat where
  | jsonSchema (jsonSchema : Json)
  | grammar (bnf : Json)

/-- A value of the options dict: `None`, a number, or a dict. A number is the exact value of a
Python int or float. -/
inductive Value where
  | none
  | num (x : ℚ)
  | dict (d : Json)

def Value.pyAbs : Value → Except PyError ℚ
  | .none => .error (.typeError "bad operand type for abs(): \x27NoneType\x27")
  | .num x => .ok |x|
  | .dict _ => .error (.typeError "bad operand type for abs(): \x27dict\x27")

/-- The float `1e-10`, below which a temperature counts as zero. It is taken as `10⁻¹⁰`. The
double the literal denotes lies just above `10⁻¹⁰`, with no double between the two, so a double
is below the one exactly when it is below the other. -/
def zeroTemperature : ℚ := 1 / 10000000000

/-- The float `1e-3` that stands in for a zero temperature, at its exact value as a double. -/
def minTemperature : ℚ := 1152921504606847 / 1152921504606846976

/-- `d.pop(key, None)` with the value dropped: the dict without `key`. -/
def dictPop {V : Type} (d : List (String × V)) (key : String) : List (String × V) :=
  d.filter (·.1 != key)

theorem lookup_dictPop {V : Type} (d : List (String × V)) (key k : String) :
    (dictPop d key).lookup k = if k = key then none else d.lookup k := by
  induction d with
  | nil => split <;> rfl
  | cons p d ih =>
      obtain ⟨a, b⟩ := p
      by_cases ha : a = key
      · subst ha
        have hskip : dictPop ((a, b) :: d) a = dictPop d a := by simp [dictPop]
        by_cases hk : k = a
        · rw [hskip, ih, if_pos hk, if_pos hk]
        · rw [hskip, ih, if_neg hk, if_neg hk, List.lookup_cons, beq_false_of_ne hk]
      · have hkeep : dictPop ((a, b) :: d) key = (a, b) :: dictPop d key := by
          simp [dictPop, ha]
        rw [hkeep, List.lookup_cons, List.lookup_cons, ih]
        by_cases hk : k = a
        · subst hk
          simp [ha]
        · simp [beq_false_of_ne hk]

def jsonGrammar (jsonSchema : Json) : Value :=
  .dict (.obj [("type", .str "json"), ("value", jsonSchema)])

/-- `SamplingParams`: the `max_tokens` the adapter reads itself, and the fields that only
`get_sampling_options` reads. -/
structure SamplingParams (Rest : Type) where
  maxTokens : Option Int
  rest : Rest

/-- The fields of `ChatCompletionRequest` and `CompletionRequest` that the adapter reads. The
other fields (the messages or the content, the tools, the logprobs, the tool config) only the prompt
formatter reads, and they are `Body`. -/
structure Request (Rest Body : Type) where
  model : String
  body : Body
  samplingParams : Option (SamplingParams Rest)
  responseFormat : Option ResponseFormat
  stream : Option Bool

/-- The keyword arguments `_get_params` and `_get_params_for_completion` pass to
`text_generation`: the five they name, and the options unpacked after them. -/
structure Params where
  prompt : String
  stream : Option Bool
  details : Bool
  maxNewTokens : Int
  stopSequences : List String
  options : List (String × Value)

/-- The keywords the parameters name before `**options`. -/
def keywordNames : List String := ["prompt", "stream", "details", "max_new_tokens", "stop_sequences"]

/-- The `details` of TGI's answer to a call that does not stream: why generation stopped, and the
text of each generated token. -/
structure Details where
  finishReason : String
  tokens : List String

/-- A chunk of TGI's streamed answer: one token's text, and the finish reason in its `details`,
which only the last chunk has. -/
structure StreamChunk where
  token : String
  details : Option String

/-- An initialized `_HfAdapter`: the endpoint's total token budget and the model it serves, which
`initialize` reads from the endpoint, and the functions outside the adapter that it calls. The
model store gives a model's `provider_resource_id`; the chat formatter looks the request's model up
in the registry helper; TGI's `text_generation` answers with details, or with chunks when asked to
stream. -/
structure HfAdapter (Rest Body : Type) where
  maxTokens : Int
  modelId : String
  getModel : String → Except PyError String
  getSamplingOptions : Option (SamplingParams Rest) → Except PyError (List (String × Value))
  chatCompletionRequestToModelInputInfo : Request Rest Body → Except PyError (String × Int)
  completionRequestToPromptModelInputInfo : Request Rest Body → Except PyError (String × Int)
  textGeneration : Params → Except PyError Details
  textGenerationStream : Params → Except PyError (List StreamChunk)

/-- `OpenAICompatCompletionChoice`: the finish reason and the text the adapter hands on. -/
structure CompatChoice where
  finishReason : Option String
  text : String

/-- What the adapter hands the OpenAI-compatible processing: one response, or a stream of them,
each with one choice. -/
inductive Compat where
  | response (choice : CompatChoice)
  | stream (choices : List CompatChoice)

/-- The choice `_nonstream_completion` and `_nonstream_chat_completion` build from the answer. -/
def nonstreamChoice (details : Details) : CompatChoice :=
  ⟨some details.finishReason, String.join details.tokens⟩

def streamCompletionChoice (chunk : StreamChunk) : CompatChoice := ⟨chunk.details, chunk.token⟩

/-- The choice the generator of `_stream_chat_completion` yields for a chunk: its text alone. -/
def streamChatCompletionChoice (chunk : StreamChunk) : CompatChoice := ⟨none, chunk.token⟩

namespace HfAdapter

variable {Rest Body : Type} (self : HfAdapter Rest Body)

/-! ### The parameters of a call -/

/-- `_HfAdapter._get_max_new_tokens`. In `sampling_params.max_tokens or ...`, a `max_tokens` of
`None` or `0` gives way to the budget. -/
def getMaxNewTokens (samplingParams : Option (SamplingParams Rest)) (inputTokens : Int) :
    Except PyError Int :=
  match samplingParams with
  | none => throw (.attributeError "\x27NoneType\x27 object has no attribute \x27max_tokens\x27")
  | some samplingParams =>
      let requested := match samplingParams.maxTokens with
        | some m => if m = 0 then self.maxTokens - inputTokens else m
        | none => self.maxTokens - inputTokens
      pure (min requested (self.maxTokens - inputTokens - 1))

theorem lookup_adjusted {sampled : List (String × Value)} {t : ℚ}
    (ht : sampled.lookup "temperature" = some (.num t)) (k : String) :
    (dictPop (if |t| < zeroTemperature then dictSet sampled "temperature" (.num minTemperature)
        else sampled) "max_tokens").lookup k =
      if k = "max_tokens" then none
      else if k = "temperature" then some (.num (if |t| < zeroTemperature then minTemperature else t))
      else sampled.lookup k := by
  rw [lookup_dictPop]
  by_cases hmax : k = "max_tokens"
  · rw [if_pos hmax, if_pos hmax]
  rw [if_neg hmax, if_neg hmax]
  by_cases hk : k = "temperature"
  · subst hk
    by_cases hz : |t| < zeroTemperature
    · rw [if_pos hz, if_pos rfl, if_pos hz, lookup_dictSet, if_pos rfl]
    · rw [if_neg hz, if_pos rfl, if_neg hz, ht]
  · rw [if_neg hk]
    split
    · rw [lookup_dictSet, if_neg hk]
    · rfl

/-- `_HfAdapter._build_options`. Its last branch, for a format of a third type, is never taken. -/
def buildOptions (samplingParams : Option (SamplingParams Rest)) (fmt : Option ResponseFormat) :
    Except PyError (List (String × Value)) := do
  let options ← self.getSamplingOptions samplingParams
  let temperature ← match options.lookup "temperature" with
    | some t => t.pyAbs
    | none => throw (.keyError "temperature")
  let options :=
    if temperature < zeroTemperature then dictSet options "temperature" (.num minTemperature)
    else options
  let options := dictPop options "max_tokens"
  match fmt with
  | none => pure options
  | some (.jsonSchema jsonSchema) => pure (dictSet options "grammar" (jsonGrammar jsonSchema))
  | some (.grammar _) => throw (.valueError "Grammar response format not supported yet")

/-- The body `_get_params` and `_get_params_for_completion` share, given the prompt formatter each
calls. An option that repeats a keyword makes `dict` raise. -/
def paramsFor (toModelInput : Request Rest Body → Except PyError (String × Int))
    (request : Request Rest Body) : Except PyError Params := do
  let (prompt, inputTokens) ← toModelInput request
  let maxNewTokens ← self.getMaxNewTokens request.samplingParams inputTokens
  let options ← self.buildOptions request.samplingParams request.responseFormat
  match options.find? (keywordNames.contains ·.1) with
  | some (k, _) =>
      throw (.typeError ("dict() got multiple values for keyword argument \x27" ++ k ++ "\x27"))
  | none => pure ⟨prompt, request.stream, true, maxNewTokens, ["<|eom_id|>", "<|eot_id|>"], options⟩

def getParams : Request Rest Body → Except PyError Params :=
  self.paramsFor self.chatCompletionRequestToModelInputInfo

def getParamsForCompletion : Request Rest Body → Except PyError Params :=
  self.paramsFor self.completionRequestToPromptModelInputInfo

/-- What `_get_max_new_tokens` gives. It is never more than the budget leaves after the prompt,
less one. It is the request's `max_tokens` when that is set, is not zero, and fits, and otherwise
the budget less one. -/
theorem getMaxNewTokens_within_budget {samplingParams : SamplingParams Rest} {inputTokens m : Int}
    (h : self.getMaxNewTokens (some samplingParams) inputTokens = .ok m) :
    inputTokens + m < self.maxTokens ∧
      (∀ r, samplingParams.maxTokens = some r → r ≠ 0 → inputTokens + r < self.maxTokens →
        m = r) ∧
      ((∀ r, samplingParams.maxTokens = some r → r ≠ 0 → self.maxTokens ≤ inputTokens + r) →
        m = self.maxTokens - inputTokens - 1) := by
  simp only [getMaxNewTokens, pure, Except.pure, Except.ok.injEq] at h
  subst h
  refine ⟨by omega, fun r hr h0 _ => ?_, fun hall => ?_⟩
  · simp only [hr, h0, if_false]
    omega
  · cases hmax : samplingParams.maxTokens with
    | none => dsimp only; omega
    | some r =>
        by_cases h0 : r = 0
        · simp only [h0, if_true]
          omega
        · have := hall r hmax h0
          simp only [h0, if_false]
          omega

/-- The options a call sends. When `_build_options` succeeds, `get_sampling_options` gave a
numeric temperature and the format is not a grammar. The options are then the sampled ones with
`max_tokens` dropped, a temperature below `1e-10` in absolute value raised to `1e-3`, and, for a
JSON schema, the grammar TGI takes for it. Otherwise the error is `get_sampling_options`'s own,
`KeyError('temperature')` when there is no temperature, the `TypeError` of `abs` when the
temperature is not a number, or the `ValueError` for a grammar. -/
theorem buildOptions_spec (samplingParams : Option (SamplingParams Rest))
    (fmt : Option ResponseFormat) :
    match self.buildOptions samplingParams fmt with
    | .ok options => ∃ sampled t, self.getSamplingOptions samplingParams = .ok sampled ∧
        sampled.lookup "temperature" = some (.num t) ∧
        options.lookup "temperature" =
          some (.num (if |t| < zeroTemperature then minTemperature else t)) ∧
        options.lookup "max_tokens" = none ∧
        (∀ k, k ≠ "temperature" → k ≠ "max_tokens" → k ≠ "grammar" →
          options.lookup k = sampled.lookup k) ∧
        match fmt with
        | some (.jsonSchema jsonSchema) => options.lookup "grammar" = some (jsonGrammar jsonSchema)
        | some (.grammar _) => False
        | none => options.lookup "grammar" = sampled.lookup "grammar"
    | .error e => self.getSamplingOptions samplingParams = .error e ∨
        ∃ sampled, self.getSamplingOptions samplingParams = .ok sampled ∧
          (sampled.lookup "temperature" = none ∧ e = .keyError "temperature" ∨
            (∃ v, sampled.lookup "temperature" = some v ∧ v.pyAbs = .error e) ∨
            (∃ bnf, fmt = some (.grammar bnf)) ∧
              e = .valueError "Grammar response format not supported yet") := by
  unfold buildOptions
  cases hs : self.getSamplingOptions samplingParams with
  | error e => exact .inl rfl
  | ok sampled =>
    simp only [Except.ok_bind]
    cases ht : sampled.lookup "temperature" with
    | none => exact .inr ⟨sampled, rfl, .inl ⟨ht, rfl⟩⟩
    | some v =>
      cases v with
      | none => exact .inr ⟨sampled, rfl, .inr (.inl ⟨.none, ht, rfl⟩)⟩
      | dict d => exact .inr ⟨sampled, rfl, .inr (.inl ⟨.dict d, ht, rfl⟩)⟩
      | num t =>
        simp only [Value.pyAbs, Except.ok_bind]
        set A := dictPop (if |t| < zeroTemperature then
          dictSet sampled "temperature" (.num minTemperature) else sampled) "max_tokens"
        have hA := lookup_adjusted ht
        have hcommon : ∀ options : List (String × Value),
            (∀ k, k ≠ "grammar" → options.lookup k = A.lookup k) →
            options.lookup "temperature" =
              some (.num (if |t| < zeroTemperature then minTemperature else t)) ∧
            options.lookup "max_tokens" = none ∧
            ∀ k, k ≠ "temperature" → k ≠ "max_tokens" → k ≠ "grammar" →
              options.lookup k = sampled.lookup k := fun options hlook =>
          ⟨by rw [hlook _ (by decide), hA, if_neg (by decide), if_pos rfl],
            by rw [hlook _ (by decide), hA, if_pos rfl],
            fun k hk hmax hg => by rw [hlook k hg, hA, if_neg hmax, if_neg hk]⟩
        cases fmt with
        | none =>
          obtain ⟨h1, h2, h3⟩ := hcommon A fun _ _ => rfl
          exact ⟨sampled, t, rfl, ht, h1, h2, h3, by rw [hA, if_neg (by decide), if_neg (by decide)]⟩
        | some f =>
          cases f with
          | jsonSchema jsonSchema =>
            obtain ⟨h1, h2, h3⟩ := hcommon (dictSet A "grammar" (jsonGrammar jsonSchema))
              fun k hk => by rw [lookup_dictSet, if_neg hk]
            exact ⟨sampled, t, rfl, ht, h1, h2, h3, by rw [lookup_dictSet, if_pos rfl]⟩
          | grammar bnf => exact .inr ⟨sampled, rfl, .inr (.inr ⟨⟨bnf, rfl⟩, rfl⟩)⟩

/-- An endpoint of 4096 tokens whose formatters read every prompt as 96 tokens, and whose sampling
options are greedy, with a `max_tokens` of 8000. -/
def greedyAdapter : HfAdapter Unit Unit where
  maxTokens := 4096
  modelId := "Llama3.1-8B-Instruct"
  getModel := fun _ => .ok "Llama3.1-8B-Instruct"
  getSamplingOptions := fun _ => .ok [("temperature", .num 0), ("max_tokens", .num 8000)]
  chatCompletionRequestToModelInputInfo := fun _ => .ok ("Hello", 96)
  completionRequestToPromptModelInputInfo := fun _ => .ok ("Hello", 96)
  textGeneration := fun _ => .error .validationError
  textGenerationStream := fun _ => .error .validationError

/-- Options without a temperature make `_build_options` raise `KeyError`. -/
example : buildOptions ({ greedyAdapter with getSamplingOptions := fun _ => .ok [("top_k", .num 50)] } :
    HfAdapter Unit Unit) none none = .error (.keyError "temperature") := rfl

theorem paramsFor_eq_ok {toModelInput : Request Rest Body → Except PyError (String × Int)}
    {request : Request Rest Body} {prompt : String} {inputTokens : Int}
    (hinput : toModelInput request = .ok (prompt, inputTokens)) {params : Params} :
    self.paramsFor toModelInput request = .ok params ↔
      ∃ maxNewTokens, self.getMaxNewTokens request.samplingParams inputTokens = .ok maxNewTokens ∧
        ∃ options, self.buildOptions request.samplingParams request.responseFormat = .ok options ∧
          (∀ kv ∈ options, kv.1 ∉ keywordNames) ∧
          params = ⟨prompt, request.stream, true, maxNewTokens, ["<|eom_id|>", "<|eot_id|>"],
            options⟩ := by
  simp only [paramsFor, hinput, Except.ok_bind, Except.bind_eq_ok]
  refine exists_congr fun maxNewTokens => and_congr_right fun _ =>
    exists_congr fun options => and_congr_right fun _ => ?_
  cases hfind : options.find? (keywordNames.contains ·.1) with
  | some kv =>
      have hmem := List.mem_of_find?_eq_some hfind
      have hkey := List.find?_some hfind
      exact ⟨(fun h => nomatch h), fun ⟨hall, _⟩ => absurd (List.elem_iff.mp hkey) (hall kv hmem)⟩
  | none =>
      rw [List.find?_eq_none] at hfind
      exact ⟨fun h => ⟨fun kv hkv hk => hfind kv hkv (List.elem_iff.mpr hk), (Except.ok.inj h).symm⟩,
        fun ⟨_, h⟩ => h ▸ rfl⟩

/-- Whatever the request, a call never asks for more new tokens than the endpoint's budget leaves
after the prompt, less one. It asks for the request's own `max_tokens` when that is set, is not
zero, and fits; otherwise it asks for the whole budget less one. -/
theorem paramsFor_token_budget (toModelInput : Request Rest Body → Except PyError (String × Int))
    {request : Request Rest Body} {prompt : String} {inputTokens : Int} {params : Params}
    (hinput : toModelInput request = .ok (prompt, inputTokens))
    (h : self.paramsFor toModelInput request = .ok params) :
    params.prompt = prompt ∧ inputTokens + params.maxNewTokens < self.maxTokens ∧
      ∃ samplingParams, request.samplingParams = some samplingParams ∧
        (∀ r, samplingParams.maxTokens = some r → r ≠ 0 → inputTokens + r < self.maxTokens →
          params.maxNewTokens = r) ∧
        ((∀ r, samplingParams.maxTokens = some r → r ≠ 0 → self.maxTokens ≤ inputTokens + r) →
          params.maxNewTokens = self.maxTokens - inputTokens - 1) := by
  obtain ⟨m, hm, -, -, -, rfl⟩ := (self.paramsFor_eq_ok hinput).mp h
  cases hsp : request.samplingParams with
  | none => rw [hsp] at hm; cases hm
  | some samplingParams =>
      rw [hsp] at hm
      exact ⟨rfl, (self.getMaxNewTokens_within_budget hm).1, samplingParams, rfl,
        (self.getMaxNewTokens_within_budget hm).2⟩

/-! ### The calls -/

/-- The body `_nonstream_chat_completion` and `_nonstream_completion` share. -/
def nonstream (params : Request Rest Body → Except PyError Params) (request : Request Rest Body) :
    Except PyError CompatChoice := do
  let params ← params request
  let r ← self.textGeneration params
  pure (nonstreamChoice r)

def nonstreamChatCompletion : Request Rest Body → Except PyError CompatChoice :=
  self.nonstream self.getParams

def nonstreamCompletion : Request Rest Body → Except PyError CompatChoice :=
  self.nonstream self.getParamsForCompletion

/-- The body `_stream_chat_completion` and `_stream_completion` share; they differ in the
parameters and in the choice each chunk gives. -/
def streamWith (params : Request Rest Body → Except PyError Params)
    (choice : StreamChunk → CompatChoice) (request : Request Rest Body) :
    Except PyError (List CompatChoice) := do
  let params ← params request
  let s ← self.textGenerationStream params
  pure (s.map choice)

def streamChatCompletion : Request Rest Body → Except PyError (List CompatChoice) :=
  self.streamWith self.getParams streamChatCompletionChoice

def streamCompletion : Request Rest Body → Except PyError (List CompatChoice) :=
  self.streamWith self.getParamsForCompletion streamCompletionChoice

/-- `_HfAdapter.chat_completion`; the model store gives the model's `provider_resource_id`.
`if stream:` is false for `None`. -/
def chatCompletion (modelId : String) (body : Body) (samplingParams : Option (SamplingParams Rest))
    (responseFormat : Option ResponseFormat) (stream : Option Bool) : Except PyError Compat := do
  let model ← self.getModel modelId
  let request : Request Rest Body := ⟨model, body, samplingParams, responseFormat, stream⟩
  if stream = some true then .stream <$> self.streamChatCompletion request
  else .response <$> self.nonstreamChatCompletion request

def completion (modelId : String) (body : Body) (samplingParams : Option (SamplingParams Rest))
    (responseFormat : Option ResponseFormat) (stream : Option Bool) : Except PyError Compat := do
  let model ← self.getModel modelId
  let request : Request Rest Body := ⟨model, body, samplingParams, responseFormat, stream⟩
  if stream = some true then .stream <$> self.streamCompletion request
  else .response <$> self.nonstreamCompletion request

/-- `_HfAdapter.register_model`: the registry helper resolves the model, whose
`provider_resource_id` must be the model the endpoint serves. -/
def registerModel {Model : Type} (registerHelper : Model → Except PyError Model)
    (providerResourceId : Model → String) (model : Model) : Except PyError Model := do
  let model ← registerHelper model
  if providerResourceId model != self.modelId then
    throw (.valueError ("Model " ++ providerResourceId model ++ " does not match the model " ++
      self.modelId ++ " served by TGI."))
  pure model

/-- Registration succeeds exactly when the registry helper resolves the model to the one the
endpoint serves. -/
theorem registerModel_eq_ok {Model : Type} {registerHelper : Model → Except PyError Model}
    {providerResourceId : Model → String} {model resolved : Model} :
    self.registerModel registerHelper providerResourceId model = .ok resolved ↔
      registerHelper model = .ok resolved ∧ providerResourceId resolved = self.modelId := by
  cases h : registerHelper model with
  | error e => exact ⟨fun hr => by simp [registerModel, h] at hr, fun ⟨hr, _⟩ => nomatch hr⟩
  | ok m =>
      by_cases hm : providerResourceId m = self.modelId
      · simp [registerModel, h, hm]
        exact fun hr => hr ▸ hm
      · simp [registerModel, h, hm]
        rintro rfl
        exact hm

end HfAdapter

end LlamaStack.Tgi
