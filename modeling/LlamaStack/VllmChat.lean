import LlamaStack.VllmRegister
import LlamaStack.VllmAgreement

/-!
`VLLMInferenceImpl.chat_completion` (vllm.py 461-575) with the conversions it calls (vllm.py
114-259): the registration check, the request it builds for vLLM's OpenAI-compatible front-end,
and the dispatch of the front-end's answer to the streaming or the non-streaming conversion. The
front-end's `create_chat_completion`, `vllm.SamplingParams.from_optional` and
`convert_message_to_openai_dict` are parameters. After any run of registrations on a fresh
adapter, a call for an id the run registered sends its request, which names the one model the
adapter serves, to the front-end that serves that model on the loaded engine
(`chatCompletion_after_registerAll`).

The JSON schema `_convert_tools` writes for a custom tool's parameters describes them exactly: read
back as a schema, with a property listed under `required` exactly when it is required, it gives
each parameter's type, description and flag, in order (`convertTools_reads_back`).
-/

namespace LlamaStack.Vllm

/-- A chat message: a user message with string content and its `context`, or another message. -/
inductive Message (M : Type) where
  | user (content : String) (context : Option String)
  | other (m : M)

def mergeContextIntoContent {M : Type} : Message M → Message M
  | .user content (some context) => .user (content ++ "\n\n" ++ context) none
  | m => m

/-- llama-stack's `ResponseFormat`: a JSON schema, or the parse tree of a BNF grammar. -/
inductive ResponseFormat where
  | jsonSchema (jsonSchema : Json)
  | grammar (bnf : Json)

/-- The fields of vLLM's `GuidedDecodingParams` that the adapter sets and reads. -/
structure GuidedDecodingParams where
  json : Option Json
  regex : Option String
  grammar : Option String

def GuidedDecodingParams.empty : GuidedDecodingParams := ⟨none, none, none⟩

def responseFormatToGuidedDecodingParams :
    Option ResponseFormat → Except PyError GuidedDecodingParams
  | none => .ok .empty
  | some (.jsonSchema jsonSchema) => .ok { GuidedDecodingParams.empty with json := some jsonSchema }
  | some (.grammar _) => .error (.typeError ("Constrained decoding with BNF grammars is not " ++
      "currently implemented, because the reference implementation does not implement it."))

/-- The sampling strategies of llama_models. -/
inductive SamplingStrategy where
  | greedy
  | topP (temperature topP : Option Float)
  | topK (topK : Nat)

structure SamplingParams where
  strategy : SamplingStrategy
  maxTokens : Option Nat
  repetitionPenalty : Option Float

/-- `SamplingParams()`: greedy, with `max_tokens` 0 and `repetition_penalty` 1.0. -/
def SamplingParams.default : SamplingParams := ⟨.greedy, some 0, some 1.0⟩

/-- The keyword arguments `_convert_sampling_params` passes to `vllm.SamplingParams.from_optional`. -/
structure SamplingArgs where
  maxTokens : Option Nat
  temperature : Option Float
  topP : Option Float
  topK : Int
  repetitionPenalty : Option Float
  guidedDecoding : GuidedDecodingParams

/-- `_convert_sampling_params` up to the call of `from_optional`: no sampling parameters mean
`SamplingParams()`; `top_k` is -1 unless a top-k strategy sets a nonzero `k`; `top_p` and
`temperature` are 1.0 and 0.0 unless a top-p strategy sets them; `max_tokens` 0 means none. -/
def convertSamplingParams (samplingParams : Option SamplingParams)
    (responseFormat : Option ResponseFormat) : Except PyError SamplingArgs := do
  let samplingParams := samplingParams.getD .default
  let vllmTopK : Int :=
    match samplingParams.strategy with
    | .topK topK => if topK = 0 then -1 else topK
    | _ => -1
  let (vllmTopP, vllmTemperature) : Option Float × Option Float :=
    match samplingParams.strategy with
    | .topP temperature topP => (topP, temperature)
    | _ => (some 1.0, some 0.0)
  let guidedDecoding ← responseFormatToGuidedDecodingParams responseFormat
  pure ⟨if samplingParams.maxTokens = some 0 then none else samplingParams.maxTokens,
    vllmTemperature, vllmTopP, vllmTopK, samplingParams.repetitionPenalty, guidedDecoding⟩

/-- The fields of the `vllm.SamplingParams` that `chat_completion` copies into the request. -/
structure VllmSamplingParams where
  maxTokens : Option Nat
  temperature : Float
  topP : Float
  topK : Int
  repetitionPenalty : Float
  guidedDecoding : Option GuidedDecodingParams

structure ToolParamDefinition where
  paramType : String
  description : Option String
  required : Bool

/-- The name of a tool: a built-in tool, or the name of a custom function. -/
inductive ToolName where
  | builtin (tool : String)
  | custom (name : String)

/-- llama-stack's `ToolDefinition`; its parameters are a dict, kept as its items. -/
structure ToolDefinition where
  toolName : ToolName
  description : Option String
  parameters : Option (List (String × ToolParamDefinition))

/-- vLLM's `ChatCompletionToolsParam` around its `FunctionDefinition`. -/
structure ToolsParam where
  name : String
  description : Option String
  parameters : Option Json

def optionalStr : Option String → Json
  | some s => .str s
  | none => .null

/-- The JSON schema `_convert_tools` writes for a tool's parameters: every parameter under
`properties`, and the required ones, in order, under `required`. -/
def parametersSchema (parameters : List (String × ToolParamDefinition)) : Json :=
  .obj [("type", .str "object"),
    ("properties", .obj (parameters.map fun (k, v) =>
      (k, .obj [("type", .str v.paramType), ("description", optionalStr v.description)]))),
    ("required", .arr ((parameters.filter (·.2.required)).map fun (k, _) => .str k))]

def convertTools : Option (List ToolDefinition) → Except PyError (List ToolsParam)
  | none => .ok []
  | some tools => tools.mapM fun t =>
      match t.toolName with
      | .builtin _ => .error (.notImplementedError "Built-in tools not yet implemented")
      | .custom name => .ok ⟨name, t.description, t.parameters.map parametersSchema⟩

inductive ToolChoice where
  | auto
  | required
  deriving DecidableEq

/-- The `tool_choice` of the request: `auto` only when asked for and some tool is given. -/
def convertToolChoice (toolChoice : ToolChoice) (tools : Option (List ToolDefinition)) : String :=
  match tools with
  | some tools => if toolChoice = .auto ∧ 0 < tools.length then "auto" else "none"
  | none => "none"

/-- The fields of vLLM's `ChatCompletionRequest` that the adapter sets. -/
structure ChatCompletionRequest where
  model : Option String
  messages : List Json
  tools : List ToolsParam
  toolChoice : String
  stream : Bool
  maxTokens : Option Nat
  temperature : Float
  topP : Float
  topK : Int
  repetitionPenalty : Float
  guidedJson : Option Json
  guidedRegex : Option String
  guidedGrammar : Option String

/-- The arguments of a `chat_completion` call that it reads, with the signature's defaults. -/
structure ChatArgs (M : Type) where
  modelId : String
  messages : List (Message M)
  samplingParams : Option SamplingParams := some .default
  responseFormat : Option ResponseFormat := none
  tools : Option (List ToolDefinition) := none
  toolChoice : ToolChoice := .auto
  stream : Bool := false

/-- What the front-end's `create_chat_completion` returns: an `ErrorResponse`, given by its `str`;
an async generator of event strings; or a response. -/
inductive ServerResult where
  | error (str : String)
  | stream (chunks : List String)
  | response (r : ProtocolResponse)

/-- What `chat_completion` returns: the converted stream, run to its end, or the response's
message. -/
inductive ChatResult where
  | stream (events : List (Event Delta)) (ending : Except PyError Unit)
  | response (message : CompletionMessage)

variable {M : Type} (loads : String → Option Json)
  (fromOptional : SamplingArgs → Except PyError VllmSamplingParams)
  (convertMessage : Message M → Except PyError Json)

/-- The request `chat_completion` builds for the model `resolvedModelId` (vllm.py 491-547). -/
def chatCompletionRequest (resolvedModelId : Option String) (args : ChatArgs M) :
    Except PyError ChatCompletionRequest := do
  let convertedMessages ← args.messages.mapM fun m => convertMessage (mergeContextIntoContent m)
  let convertedSamplingParams ←
    convertSamplingParams args.samplingParams args.responseFormat >>= fromOptional
  let convertedTools ← convertTools args.tools
  let g := convertedSamplingParams.guidedDecoding
  pure ⟨resolvedModelId, convertedMessages, convertedTools,
    convertToolChoice args.toolChoice args.tools, args.stream, convertedSamplingParams.maxTokens,
    convertedSamplingParams.temperature, convertedSamplingParams.topP, convertedSamplingParams.topK,
    convertedSamplingParams.repetitionPenalty, g.bind (·.json), g.bind (·.regex),
    g.bind (·.grammar)⟩

/-- The code after the front-end answers (vllm.py 549-575): an error response raises, and the
answer's kind must match `stream`. -/
def chatCompletionResult (stream : Bool) : ServerResult → Except PyError ChatResult
  | .error str => .error (.valueError ("Error from vLLM layer: " ++ str))
  | .stream chunks =>
      if stream then
        .ok (.stream (convertStreamingResults loads chunks).1 (convertStreamingResults loads chunks).2)
      else .error (.typeError
        "Unexpected result type <class \x27async_generator\x27> for non-streaming inference call")
  | .response r =>
      if stream then .error (.typeError ("Unexpected result type <class " ++
        "\x27vllm.entrypoints.openai.protocol.ChatCompletionResponse\x27> for streaming inference call"))
      else (convertNonStreamingResults loads r).map .response

variable {Engine ModelConfig : Type}
  (createChatCompletion : ServingChat Engine ModelConfig → ChatCompletionRequest → ServerResult)
  (idsRepr : List String → String)

def chatCompletion (s : VLLMInferenceImpl Engine ModelConfig) (args : ChatArgs M) :
    Except PyError ChatResult := do
  chatCompletionCheck idsRepr s args.modelId
  let request ← chatCompletionRequest fromOptional convertMessage s.resolvedModelId args
  match s.chat with
  | none => throw (.attributeError
      "\x27NoneType\x27 object has no attribute \x27create_chat_completion\x27")
  | some chat => chatCompletionResult loads args.stream (createChatCompletion chat request)

theorem chatCompletionRequest_model {resolvedModelId : Option String} {args : ChatArgs M}
    {request : ChatCompletionRequest}
    (h : chatCompletionRequest fromOptional convertMessage resolvedModelId args = .ok request) :
    request.model = resolvedModelId := by
  simp only [chatCompletionRequest, Except.bind_eq_ok] at h
  obtain ⟨_, -, _, -, _, -, h⟩ := h
  cases h
  rfl

/-- On an adapter that keeps the registration invariant, a call for a registered id passes the
check and sends its request for the served model `r` to the front-end that serves `r` with the
loaded engine. -/
theorem chatCompletion_of_serving {s : VLLMInferenceImpl Engine ModelConfig} (hs : Serving s)
    {args : ChatArgs M} (hreg : args.modelId ∈ s.modelIds) :
    ∃ r engine chat, s.resolvedModelId = some r ∧ s.engine = some engine ∧ s.chat = some chat ∧
      chat.engineClient = engine ∧ chat.baseModelPaths = [(r, r)] ∧
      chatCompletion loads fromOptional convertMessage createChatCompletion idsRepr s args =
        chatCompletionRequest fromOptional convertMessage (some r) args >>= fun request =>
          chatCompletionResult loads args.stream (createChatCompletion chat request) := by
  cases h : s.resolvedModelId with
  | none =>
      simp only [Serving, h] at hs
      rw [hs.1] at hreg
      cases hreg
  | some r =>
      simp only [Serving, h] at hs
      obtain ⟨-, engine, chat, hengine, hchat, hclient, hpaths⟩ := hs
      refine ⟨r, engine, chat, rfl, hengine, hchat, hclient, hpaths, ?_⟩
      simp [chatCompletion, chatCompletionCheck, hreg, h, hchat]

variable {b : Backend Engine ModelConfig} {config : VLLMConfig} {selfRepr : String}

/-- After any run of registrations on a fresh adapter, a chat completion for an id the run
registered passes the check; its request names the one model `r` the adapter serves, whatever id
the call names, and goes to the front-end that serves `r` with the loaded engine; and the call
returns the front-end's answer, converted by the path the call's `stream` selects. -/
theorem chatCompletion_after_registerAll (models : List Model) (args : ChatArgs M)
    (hreg : args.modelId ∈ (registerAll b config selfRepr .init models).1.modelIds) :
    ∃ r engine chat,
      (registerAll b config selfRepr .init models).1.engine = some engine ∧
      (registerAll b config selfRepr .init models).1.chat = some chat ∧
      chat.engineClient = engine ∧ chat.baseModelPaths = [(r, r)] ∧
      (∀ request, chatCompletionRequest fromOptional convertMessage
          (registerAll b config selfRepr .init models).1.resolvedModelId args = .ok request →
        request.model = some r) ∧
      chatCompletion loads fromOptional convertMessage createChatCompletion idsRepr
          (registerAll b config selfRepr .init models).1 args =
        chatCompletionRequest fromOptional convertMessage (some r) args >>= fun request =>
          chatCompletionResult loads args.stream (createChatCompletion chat request) := by
  obtain ⟨r, engine, chat, hr, hengine, hchat, hclient, hpaths, hcall⟩ :=
    chatCompletion_of_serving loads fromOptional convertMessage createChatCompletion idsRepr
      (registerAll_serving serving_init models) hreg
  exact ⟨r, engine, chat, hengine, hchat, hclient, hpaths,
    fun request h => (chatCompletionRequest_model fromOptional convertMessage h).trans hr, hcall⟩

/-- The adapter after registering the descriptor `Llama3.1-8B-Instruct` on `sampleBackend`. -/
def descriptorRegistered : VLLMInferenceImpl String String :=
  (registerAll sampleBackend ⟨1, false, 0.9, 256, 4096⟩ "VLLMInferenceImpl" .init
    [⟨"Llama3.1-8B-Instruct", "Llama3.1-8B-Instruct"⟩]).1

/-- A streaming call for the descriptor, with no messages and the other arguments left at their
defaults. -/
def descriptorCall : ChatArgs Unit := { modelId := "Llama3.1-8B-Instruct", messages := [], stream := true }

def fillingFromOptional (args : SamplingArgs) : Except PyError VllmSamplingParams :=
  .ok ⟨args.maxTokens, args.temperature.getD 1.0, args.topP.getD 1.0, args.topK,
    args.repetitionPenalty.getD 1.0, some args.guidedDecoding⟩

/-- The call for the descriptor, to a front-end that answers with the end of the stream. -/
theorem chatCompletion_after_registerAll_descriptor :
    ∃ r engine chat, descriptorRegistered.engine = some engine ∧
      descriptorRegistered.chat = some chat ∧ chat.engineClient = engine ∧
      chat.baseModelPaths = [(r, r)] ∧
      (∀ request, chatCompletionRequest fillingFromOptional (fun _ => .ok .null)
          descriptorRegistered.resolvedModelId descriptorCall = .ok request →
        request.model = some r) ∧
      chatCompletion (fun _ => none) fillingFromOptional (fun _ => .ok .null)
          (fun _ _ => .stream [doneChunk]) pySetRepr descriptorRegistered descriptorCall =
        chatCompletionRequest fillingFromOptional (fun _ => .ok .null) (some r) descriptorCall >>=
          fun request => chatCompletionResult (fun _ => none) descriptorCall.stream
            ((fun _ _ => .stream [doneChunk]) chat request) := by
  have hreg : descriptorCall.modelId ∈ descriptorRegistered.modelIds := by decide
  exact chatCompletion_after_registerAll (fun _ => none) fillingFromOptional (fun _ => .ok .null)
    (fun _ _ => .stream [doneChunk]) pySetRepr _ descriptorCall hreg

/-! ### The schema of a tool reads back -/

def readOptionalStr : Json → Option (Option String)
  | .str s => some (some s)
  | .null => some none
  | _ => none

/-- The definition a JSON schema gives a property: its type and description, and whether its name
is listed as required. -/
def readProperty (required : List Json) : String × Json → Option (String × ToolParamDefinition)
  | (k, .obj [("type", .str paramType), ("description", description)]) =>
      (readOptionalStr description).map fun d => (k, ⟨paramType, d, required.any (Json.isStr k)⟩)
  | _ => none

/-- The parameter definitions that a schema of the shape `_convert_tools` writes describes. -/
def readParametersSchema : Json → Option (List (String × ToolParamDefinition))
  | .obj [("type", .str "object"), ("properties", .obj properties), ("required", .arr required)] =>
      properties.mapM (readProperty required)
  | _ => none

theorem readOptionalStr_optionalStr (s : Option String) : readOptionalStr (optionalStr s) = some s := by
  cases s <;> rfl

/-- Among parameters with distinct names, a name is listed as required exactly when its own
definition is. -/
theorem required_any_isStr {parameters : List (String × ToolParamDefinition)}
    (hkeys : (parameters.map Prod.fst).Nodup) {k : String} {v : ToolParamDefinition}
    (hkv : (k, v) ∈ parameters) :
    ((parameters.filter (·.2.required)).map fun (k, _) => Json.str k).any (Json.isStr k) =
      v.required := by
  rw [Bool.eq_iff_iff, List.any_eq_true]
  constructor
  · rintro ⟨j, hj, hk⟩
    obtain ⟨⟨k', v'⟩, hmem, rfl⟩ := List.mem_map.mp hj
    rw [List.mem_filter] at hmem
    have hk' : k' = k := by simpa [Json.isStr] using hk
    subst hk'
    have hv : (k', v') = (k', v) := List.inj_on_of_nodup_map hkeys hmem.1 hkv rfl
    rw [Prod.mk.injEq] at hv
    exact hv.2 ▸ hmem.2
  · intro hreq
    exact ⟨.str k, List.mem_map.mpr ⟨(k, v), List.mem_filter.mpr ⟨hkv, hreq⟩, rfl⟩, by
      simp [Json.isStr]⟩

theorem mapM_readProperty (required : List Json) (parameters : List (String × ToolParamDefinition))
    (hreq : ∀ k v, (k, v) ∈ parameters → required.any (Json.isStr k) = v.required) :
    (parameters.map fun (k, v) =>
        (k, Json.obj [("type", .str v.paramType), ("description", optionalStr v.description)])).mapM
      (readProperty required) = some parameters := by
  induction parameters with
  | nil => rfl
  | cons kv parameters ih =>
      obtain ⟨k, v⟩ := kv
      have hv := hreq k v (List.mem_cons_self _ _)
      rw [List.map_cons, List.mapM_cons, ih fun k' v' h => hreq k' v' (List.mem_cons_of_mem _ h)]
      simp [readProperty, readOptionalStr_optionalStr, hv]

/-- The schema `_convert_tools` writes for parameters with distinct names describes exactly them. -/
theorem readParametersSchema_parametersSchema (parameters : List (String × ToolParamDefinition))
    (hkeys : (parameters.map Prod.fst).Nodup) :
    readParametersSchema (parametersSchema parameters) = some parameters :=
  mapM_readProperty _ parameters fun _ _ hkv => required_any_isStr hkeys hkv

/-- `_convert_tools` loses nothing of a custom tool: for tools whose parameter names are distinct,
as the keys of a dict are, it succeeds exactly when no tool is built in, and then each function
definition carries the tool's name and description, and a parameter schema from which each
parameter's type, description and required flag read back, in order. -/
theorem convertTools_reads_back (tools : List ToolDefinition)
    (hkeys : ∀ t ∈ tools, ∀ parameters, t.parameters = some parameters →
      (parameters.map Prod.fst).Nodup) :
    ((∃ params, convertTools (some tools) = .ok params) ↔
        ∀ t ∈ tools, ∃ name, t.toolName = .custom name) ∧
      ∀ params, convertTools (some tools) = .ok params →
        List.Forall₂ (fun t p => t.toolName = .custom p.name ∧ p.description = t.description ∧
          p.parameters.bind readParametersSchema = t.parameters) tools params := by
  refine ⟨?_, fun params h => ?_⟩
  · rw [convertTools, mapM_ok_iff]
    refine forall_congr' fun t => forall_congr' fun _ => ?_
    cases t.toolName <;> simp
  · refine ((List.forall₂_and_left _ _).mpr ⟨hkeys, mapM_ok h⟩).imp fun t p ⟨hk, hp⟩ => ?_
    cases hname : t.toolName with
    | builtin _ => rw [hname] at hp; cases hp
    | custom name =>
        rw [hname] at hp
        cases hp
        refine ⟨rfl, rfl, ?_⟩
        cases hpar : t.parameters with
        | none => rfl
        | some ps => exact readParametersSchema_parametersSchema ps (hk ps hpar)

def weatherTool : ToolDefinition :=
  ⟨.custom "get_weather", some "The weather in a city",
    some [("city", ⟨"string", some "The city", true⟩), ("unit", ⟨"string", none, false⟩)]⟩

theorem convertTools_reads_back_weather :
    ((∃ params, convertTools (some [weatherTool]) = .ok params) ↔
        ∀ t ∈ [weatherTool], ∃ name, t.toolName = .custom name) ∧
      ∀ params, convertTools (some [weatherTool]) = .ok params →
        List.Forall₂ (fun t p => t.toolName = .custom p.name ∧ p.description = t.description ∧
          p.parameters.bind readParametersSchema = t.parameters) [weatherTool] params :=
  convertTools_reads_back [weatherTool] fun t ht ps hps => by
    rw [List.mem_singleton] at ht
    subst ht
    cases hps
    decide

end LlamaStack.Vllm
