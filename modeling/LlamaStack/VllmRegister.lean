import LlamaStack.PyValue

/-!
Model registration on the vLLM adapter (vllm.py 299-424) and the check that opens
`chat_completion` (484-488), as explicit state passing over the adapter's attributes. The first
registration that loads builds the engine and the chat front-end for its resolved model and fixes
`resolved_model_id`; from then on every call of `register_model` returns or raises without
touching the adapter (`registerAll_of_served`). The early return for a model that resolves to
the served id comes before `model_ids.add`, so the adapter only ever knows the first model id it
loaded, and `chat_completion` refuses every other name of the same model.
-/

namespace LlamaStack.Vllm

/-- The ids of a `Model` that `register_model` reads. -/
structure Model where
  modelId : String
  providerModelId : String

/-- The fields of `VLLMConfig` that the engine arguments copy. -/
structure VLLMConfig where
  tensorParallelSize : Nat
  enforceEager : Bool
  gpuMemoryUtilization : Float
  maxNumSeqs : Nat
  maxModelLen : Nat

/-- `AsyncEngineArgs` as `register_model` fills them. -/
structure EngineArgs where
  model : String
  tokenizer : String
  tensorParallelSize : Nat
  enforceEager : Bool
  gpuMemoryUtilization : Float
  maxNumSeqs : Nat
  maxModelLen : Nat

/-- The arguments of `OpenAIServingChat` that depend on the registration. -/
structure ServingChat (Engine ModelConfig : Type) where
  engineClient : Engine
  modelConfig : ModelConfig
  baseModelPaths : List (String × String)
  toolParser : String

/-- What `register_model` calls outside the adapter: `llama_models.sku_list.resolve_model`, read
as the `huggingface_repo` of the model it finds; `AsyncLLMEngine.from_engine_args`; the class name
of the `hf_config` of the engine's model config; and `AsyncLLMEngine.get_model_config`. -/
structure Backend (Engine ModelConfig : Type) where
  resolveModel : String → Option String
  fromEngineArgs : EngineArgs → Except PyError Engine
  hfConfigClassName : Engine → Except PyError String
  getModelConfig : Engine → Except PyError ModelConfig

/-- The attributes of `VLLMInferenceImpl` that registration reads and writes; `model_ids` is a
set, kept as a list without repeats. -/
structure VLLMInferenceImpl (Engine ModelConfig : Type) where
  modelIds : List String
  resolvedModelId : Option String
  engine : Option Engine
  chat : Option (ServingChat Engine ModelConfig)

def VLLMInferenceImpl.init {Engine ModelConfig : Type} : VLLMInferenceImpl Engine ModelConfig :=
  ⟨[], none, none, none⟩

def CONFIG_TYPE_TO_TOOL_PARSER : List (String × String) :=
  [("GraniteConfig", "granite"), ("MllamaConfig", "llama3_json"), ("LlamaConfig", "llama3_json")]

def DEFAULT_TOOL_PARSER : String := "pythonic"

/-- The tool parser for a model whose `hf_config` has the class `hfConfigClassName`. -/
def toolParserFor (hfConfigClassName : String) : String :=
  (CONFIG_TYPE_TO_TOOL_PARSER.lookup hfConfigClassName).getD DEFAULT_TOOL_PARSER

def engineArgs (config : VLLMConfig) (resolvedModelId : String) : EngineArgs :=
  ⟨resolvedModelId, resolvedModelId, config.tensorParallelSize, config.enforceEager,
    config.gpuMemoryUtilization, config.maxNumSeqs, config.maxModelLen⟩

/-- The text of the `ValueError` for a second model; `selfRepr` is `str(self)`. -/
def twoModelsMessage (selfRepr served resolvedModelId : String) : String :=
  "Attempted to serve two LLMs (ids '" ++ served ++ "') and '" ++ resolvedModelId ++
    "') from one copy of provider '" ++ selfRepr ++ "'. Use multiple copies of the provider instead."

/-- The text of the `ValueError` of `chat_completion` for an unregistered id; `idsRepr` is the
`str` of the `model_ids` set. -/
def notRegisteredMessage (modelId idsRepr : String) : String :=
  "This adapter is not registered to model id '" ++ modelId ++ "'. Registered IDs are: " ++ idsRepr

variable {Engine ModelConfig : Type} (b : Backend Engine ModelConfig)

/-- The id vLLM loads for a model: the Hugging Face repo of the Llama model its provider id names,
or the provider id itself. -/
def Backend.resolvedModelIdOf (model : Model) : String :=
  (b.resolveModel model.providerModelId).getD model.providerModelId

def Backend.loadChat (engine : Engine) (resolvedModelId : String) :
    Except PyError (ServingChat Engine ModelConfig) := do
  let hfConfigClassName ← b.hfConfigClassName engine
  let modelConfig ← b.getModelConfig engine
  pure ⟨engine, modelConfig, [(resolvedModelId, resolvedModelId)], toolParserFor hfConfigClassName⟩

variable (config : VLLMConfig) (selfRepr : String)

/-- `register_model`: the adapter after the call, and the returned model or the exception. An
exception raised after the engine is built leaves `self.engine` assigned. -/
def registerModel (s : VLLMInferenceImpl Engine ModelConfig) (model : Model) :
    VLLMInferenceImpl Engine ModelConfig × Except PyError Model :=
  match s.resolvedModelId with
  | some served =>
      if b.resolvedModelIdOf model ≠ served then
        (s, .error (.valueError (twoModelsMessage selfRepr served (b.resolvedModelIdOf model))))
      else (s, .ok model)
  | none =>
      match b.fromEngineArgs (engineArgs config (b.resolvedModelIdOf model)) with
      | .error e => (s, .error e)
      | .ok engine =>
          match b.loadChat engine (b.resolvedModelIdOf model) with
          | .error e => ({ s with engine := some engine }, .error e)
          | .ok chat =>
              (⟨s.modelIds.insert model.modelId, some (b.resolvedModelIdOf model), some engine,
                some chat⟩, .ok model)

/-- A sequence of `register_model` calls, each exception caught by the caller: the adapter at the
end, and what each call returned. -/
def registerAll : VLLMInferenceImpl Engine ModelConfig → List Model →
    VLLMInferenceImpl Engine ModelConfig × List (Except PyError Model)
  | s, [] => (s, [])
  | s, model :: models =>
      ((registerAll (registerModel b config selfRepr s model).1 models).1,
        (registerModel b config selfRepr s model).2 ::
          (registerAll (registerModel b config selfRepr s model).1 models).2)

/-- The registration check of `chat_completion`. -/
def chatCompletionCheck (idsRepr : List String → String) (s : VLLMInferenceImpl Engine ModelConfig)
    (modelId : String) : Except PyError Unit :=
  if modelId ∈ s.modelIds then .ok ()
  else .error (.valueError (notRegisteredMessage modelId (idsRepr s.modelIds)))

/-- What a call on an adapter that serves nothing yet can do: raise before the engine exists,
raise with the engine assigned, or load the model and register its id. -/
theorem registerModel_of_unserved {s : VLLMInferenceImpl Engine ModelConfig}
    (h : s.resolvedModelId = none) (model : Model) :
    (∃ e, registerModel b config selfRepr s model = (s, .error e)) ∨
    (∃ engine e, registerModel b config selfRepr s model = ({ s with engine := some engine }, .error e)) ∨
    (∃ engine chat, b.loadChat engine (b.resolvedModelIdOf model) = .ok chat ∧
      registerModel b config selfRepr s model =
        (⟨s.modelIds.insert model.modelId, some (b.resolvedModelIdOf model), some engine, some chat⟩,
          .ok model)) := by
  simp only [registerModel, h]
  split
  · exact .inl ⟨_, rfl⟩
  · rename_i engine _
    split
    · exact .inr (.inl ⟨engine, _, rfl⟩)
    · exact .inr (.inr ⟨engine, _, ‹_›, rfl⟩)

variable {b config selfRepr}

/-- Once a model is served, a call returns or raises and leaves the adapter as it was. -/
theorem registerModel_of_served {s : VLLMInferenceImpl Engine ModelConfig} {served : String}
    (h : s.resolvedModelId = some served) (model : Model) :
    (registerModel b config selfRepr s model).1 = s := by
  simp only [registerModel, h]
  split <;> rfl

theorem registerModel_already_loaded {s : VLLMInferenceImpl Engine ModelConfig} {model : Model}
    (h : s.resolvedModelId = some (b.resolvedModelIdOf model)) :
    registerModel b config selfRepr s model = (s, .ok model) := by
  simp [registerModel, h]

theorem registerModel_mismatch {s : VLLMInferenceImpl Engine ModelConfig} {served : String}
    {model : Model} (h : s.resolvedModelId = some served) (hne : b.resolvedModelIdOf model ≠ served) :
    registerModel b config selfRepr s model =
      (s, .error (.valueError (twoModelsMessage selfRepr served (b.resolvedModelIdOf model)))) := by
  simp [registerModel, h, hne]

theorem loadChat_serves {engine : Engine} {r : String} {chat : ServingChat Engine ModelConfig}
    (h : b.loadChat engine r = .ok chat) :
    chat.engineClient = engine ∧ chat.baseModelPaths = [(r, r)] := by
  simp only [Backend.loadChat] at h
  cases hn : b.hfConfigClassName engine with
  | error e => rw [hn] at h; cases h
  | ok name =>
      cases hm : b.getModelConfig engine with
      | error e => rw [hn, Except.ok_bind, hm] at h; cases h
      | ok mc => rw [hn, Except.ok_bind, hm, Except.ok_bind] at h; cases h; exact ⟨rfl, rfl⟩

/-- What every run of registrations keeps: an adapter that serves nothing has no registered id
and no chat front-end; one that serves `r` has exactly one registered id, and its front-end
serves `r` with its engine. -/
def Serving (s : VLLMInferenceImpl Engine ModelConfig) : Prop :=
  match s.resolvedModelId with
  | none => s.modelIds = [] ∧ s.chat = none
  | some r => (∃ modelId, s.modelIds = [modelId]) ∧
      ∃ engine chat, s.engine = some engine ∧ s.chat = some chat ∧
        chat.engineClient = engine ∧ chat.baseModelPaths = [(r, r)]

theorem serving_init : Serving (VLLMInferenceImpl.init : VLLMInferenceImpl Engine ModelConfig) :=
  ⟨rfl, rfl⟩

theorem registerModel_serving {s : VLLMInferenceImpl Engine ModelConfig} (hs : Serving s)
    (model : Model) : Serving (registerModel b config selfRepr s model).1 := by
  cases h : s.resolvedModelId with
  | some served => rwa [registerModel_of_served h]
  | none =>
      have hs' : s.modelIds = [] ∧ s.chat = none := by simpa [Serving, h] using hs
      rcases registerModel_of_unserved b config selfRepr h model with
        ⟨e, he⟩ | ⟨engine, e, he⟩ | ⟨engine, chat, hchat, he⟩ <;> rw [he]
      · simpa [Serving, h] using hs'
      · simpa [Serving, h] using hs'
      · obtain ⟨hengine, hpaths⟩ := loadChat_serves hchat
        exact ⟨⟨model.modelId, by simp [hs'.1]⟩, engine, chat, rfl, rfl, hengine, hpaths⟩

theorem registerAll_serving {s : VLLMInferenceImpl Engine ModelConfig} (hs : Serving s)
    (models : List Model) : Serving (registerAll b config selfRepr s models).1 := by
  induction models generalizing s with
  | nil => exact hs
  | cons model models ih => exact ih (registerModel_serving hs model)

/-- Once a model is served, no sequence of calls changes the adapter. -/
theorem registerAll_of_served {s : VLLMInferenceImpl Engine ModelConfig} {served : String}
    (h : s.resolvedModelId = some served) (models : List Model) :
    (registerAll b config selfRepr s models).1 = s := by
  induction models with
  | nil => rfl
  | cons model models ih => rw [registerAll, registerModel_of_served h, ih]

theorem registerModel_registers {s : VLLMInferenceImpl Engine ModelConfig}
    (h : s.resolvedModelId = none) {model : Model}
    (hok : (registerModel b config selfRepr s model).2 = .ok model) :
    model.modelId ∈ (registerModel b config selfRepr s model).1.modelIds := by
  rcases registerModel_of_unserved b config selfRepr h model with
    ⟨e, he⟩ | ⟨engine, e, he⟩ | ⟨engine, chat, -, he⟩ <;> rw [he] at hok ⊢
  · cases hok
  · cases hok
  · exact List.mem_insert_self _ _

/-- A backend on which the descriptor `Llama3.1-8B-Instruct` and the repo
`meta-llama/Llama-3.1-8B-Instruct` name the same Llama model, and every engine loads a Llama
model. -/
def sampleBackend : Backend String String where
  resolveModel d :=
    if d = "Llama3.1-8B-Instruct" ∨ d = "meta-llama/Llama-3.1-8B-Instruct" then
      some "meta-llama/Llama-3.1-8B-Instruct"
    else none
  fromEngineArgs args := .ok args.model
  hfConfigClassName _ := .ok "LlamaConfig"
  getModelConfig engine := .ok engine

/-- After the first registration, the second leaves the adapter unchanged. -/
theorem registerAll_of_served_sample :
    (registerAll sampleBackend ⟨1, false, 0.9, 256, 4096⟩ "VLLMInferenceImpl" .init
        [⟨"Llama3.1-8B-Instruct", "Llama3.1-8B-Instruct"⟩]).1.resolvedModelId =
        some "meta-llama/Llama-3.1-8B-Instruct" ∧
      (registerAll sampleBackend ⟨1, false, 0.9, 256, 4096⟩ "VLLMInferenceImpl"
        (registerAll sampleBackend ⟨1, false, 0.9, 256, 4096⟩ "VLLMInferenceImpl" .init
          [⟨"Llama3.1-8B-Instruct", "Llama3.1-8B-Instruct"⟩]).1
        [⟨"llama-8b", "meta-llama/Llama-3.1-8B-Instruct"⟩]).1 =
      (registerAll sampleBackend ⟨1, false, 0.9, 256, 4096⟩ "VLLMInferenceImpl" .init
        [⟨"Llama3.1-8B-Instruct", "Llama3.1-8B-Instruct"⟩]).1 :=
  ⟨rfl, registerAll_of_served rfl _⟩

/-- `str` of a set of strings that iterates in the given order. -/
def pySetRepr (ids : List String) : String :=
  "\x7b" ++ ", ".intercalate (ids.map fun i => "\x27" ++ i ++ "\x27") ++ "\x7d"

/-- The model registered under its descriptor, then under its repo: both calls return normally,
and `chat_completion` refuses the second name. -/
theorem second_name_not_registered :
    (registerAll sampleBackend ⟨1, false, 0.9, 256, 4096⟩ "VLLMInferenceImpl" .init
        [⟨"Llama3.1-8B-Instruct", "Llama3.1-8B-Instruct"⟩,
          ⟨"llama-8b", "meta-llama/Llama-3.1-8B-Instruct"⟩]).2 =
        [.ok ⟨"Llama3.1-8B-Instruct", "Llama3.1-8B-Instruct"⟩,
          .ok ⟨"llama-8b", "meta-llama/Llama-3.1-8B-Instruct"⟩] ∧
      chatCompletionCheck pySetRepr
        (registerAll sampleBackend ⟨1, false, 0.9, 256, 4096⟩ "VLLMInferenceImpl" .init
          [⟨"Llama3.1-8B-Instruct", "Llama3.1-8B-Instruct"⟩,
            ⟨"llama-8b", "meta-llama/Llama-3.1-8B-Instruct"⟩]).1 "llama-8b" =
        .error (.valueError
          "This adapter is not registered to model id \x27llama-8b\x27. Registered IDs are: \x7b\x27Llama3.1-8B-Instruct\x27\x7d") :=
  ⟨rfl, rfl⟩

end LlamaStack.Vllm
