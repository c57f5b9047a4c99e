import LlamaStack.PyValue

/-!
`DiskRegistry` (distribution/store/registry.py) over a key-value store that returns the last value
set for each key. `register` reads the objects already stored under the identifier with `get`,
appends the new one, and writes `json.dumps` of a list of `model_dump_json()` strings; `get` reads
that list back with `json.loads` and validates each element with `pydantic.parse_obj_as`. The
elements are strings, which pydantic does not validate as a model, so the first `get` or
`register` after a registration raises `ValidationError`; and the list written holds one copy of
the new object's dump per object, the comprehension dumping `obj` where it iterates over
`existing_object`.
-/

namespace LlamaStack.Registry

/-- A key-value store that returns the last value set for each key. -/
structure KVStore where
  get : String → Option String

def KVStore.empty : KVStore := ⟨fun _ => none⟩

def KVStore.set (kv : KVStore) (key value : String) : KVStore :=
  ⟨fun k => if k = key then some value else kv.get k⟩

@[simp] theorem KVStore.set_get_self (kv : KVStore) (key value : String) :
    (kv.set key value).get key = some value := by
  simp [KVStore.set]

@[simp] theorem KVStore.set_get_of_ne (kv : KVStore) {key key' : String} (value : String)
    (h : key' ≠ key) : (kv.set key value).get key' = kv.get key' := by
  simp [KVStore.set, h]

def KEY_FORMAT (identifier : String) : String := "distributions:registry:" ++ identifier

/-- What the registry uses of the pydantic models of `RoutableObjectWithProvider`: an object's
`identifier`, its `model_dump_json()`, and validation of a dict into an object. -/
structure ObjectModel (Obj : Type) where
  identifier : Obj → String
  modelDumpJson : Obj → String
  validateDict : List (String × Json) → Except PyError Obj

variable {Obj : Type} (m : ObjectModel Obj)

/-- `pydantic.parse_obj_as(RoutableObjectWithProvider, value)` on a decoded JSON value: a dict is
validated field by field, and any other value is refused. -/
def ObjectModel.parseObjAs : Json → Except PyError Obj
  | .obj fields => m.validateDict fields
  | _ => .error .validationError

variable (loads : String → Option Json) (dumps : Json → String)

def get (kv : KVStore) (identifier : String) : Except PyError (List Obj) :=
  match kv.get (KEY_FORMAT identifier) with
  | none => .ok []
  | some jsonStr =>
      if jsonStr = "" then .ok []
      else
        match loads jsonStr with
        | none => .error .jsonDecodeError
        | some objectsData => do
            let items ← objectsData.iterate
            items.mapM m.parseObjAs

/-- `DiskRegistry.register`: the store after the call, and whether it raised. -/
def register (kv : KVStore) (obj : Obj) : KVStore × Except PyError Unit :=
  match get m loads kv (m.identifier obj) with
  | .error e => (kv, .error e)
  | .ok existingObjects =>
      (kv.set (KEY_FORMAT (m.identifier obj))
          (dumps (.arr ((existingObjects ++ [obj]).map fun _ => .str (m.modelDumpJson obj)))),
        .ok ())

/-- A sequence of `register` calls, each exception caught by the caller. -/
def registerAll : KVStore → List Obj → KVStore × List (Except PyError Unit)
  | kv, [] => (kv, [])
  | kv, obj :: objs =>
      ((registerAll (register m loads dumps kv obj).1 objs).1,
        (register m loads dumps kv obj).2 :: (registerAll (register m loads dumps kv obj).1 objs).2)

variable {m loads dumps}

theorem get_of_unset {kv : KVStore} {identifier : String} (h : kv.get (KEY_FORMAT identifier) = none) :
    get m loads kv identifier = .ok [] := by
  simp [get, h]

/-- A failed `get` leaves the store unchanged and makes `register` raise the same. -/
theorem register_of_get_error {kv : KVStore} {obj : Obj} {e : PyError}
    (h : get m loads kv (m.identifier obj) = .error e) :
    register m loads dumps kv obj = (kv, .error e) := by
  simp [register, h]

/-- What `register` writes: one copy of the new object's dump per object, the new one included. -/
theorem register_of_get_ok {kv : KVStore} {obj : Obj} {existing : List Obj}
    (h : get m loads kv (m.identifier obj) = .ok existing) :
    register m loads dumps kv obj =
      (kv.set (KEY_FORMAT (m.identifier obj))
          (dumps (.arr (List.replicate (existing.length + 1) (.str (m.modelDumpJson obj))))),
        .ok ()) := by
  simp [register, h, List.map_const', List.replicate_succ']

/-- A stored list of strings is refused: `parse_obj_as` validates no string as an object. -/
theorem get_of_strings {kv : KVStore} {identifier : String} {jsonStr : String} (s : String)
    (ss : List String) (h : kv.get (KEY_FORMAT identifier) = some jsonStr) (hne : jsonStr ≠ "")
    (hloads : loads jsonStr = some (.arr ((s :: ss).map .str))) :
    get m loads kv identifier = .error .validationError := by
  simp only [get, h, if_neg hne, hloads]
  rfl

/-- When `json.loads` inverts `json.dumps` and refuses the empty string, the first object
registered under an identifier makes the next `get` of that identifier raise `ValidationError`. -/
theorem get_after_register {kv : KVStore} {obj : Obj}
    (hfresh : kv.get (KEY_FORMAT (m.identifier obj)) = none)
    (hround : ∀ j, loads (dumps j) = some j) (hempty : loads "" = none) :
    get m loads (register m loads dumps kv obj).1 (m.identifier obj) = .error .validationError := by
  simp only [register, get_of_unset hfresh, List.nil_append, List.map_cons, List.map_nil]
  refine get_of_strings (m.modelDumpJson obj) [] (KVStore.set_get_self _ _ _) (fun h => ?_) (hround _)
  have := hround (.arr [.str (m.modelDumpJson obj)])
  rw [h, hempty] at this
  cases this

/-- Under the same assumptions, a second registration under that identifier raises
`ValidationError` and leaves the store as the first one left it. -/
theorem register_after_register {kv : KVStore} {obj obj' : Obj}
    (hid : m.identifier obj' = m.identifier obj)
    (hfresh : kv.get (KEY_FORMAT (m.identifier obj)) = none)
    (hround : ∀ j, loads (dumps j) = some j) (hempty : loads "" = none) :
    register m loads dumps (register m loads dumps kv obj).1 obj' =
      ((register m loads dumps kv obj).1, .error .validationError) :=
  register_of_get_error (by rw [hid]; exact get_after_register hfresh hround hempty)

/-- A registered model, with the fields of its dump that validation reads. -/
structure ModelObject where
  identifier : String
  providerId : String

/-- The model objects: `model_dump_json()` in pydantic's compact form, and validation of a dict
with string fields `identifier` and `provider_id`. -/
def modelObjects : ObjectModel ModelObject where
  identifier o := o.identifier
  modelDumpJson o :=
    "\x7b\"identifier\":\"" ++ o.identifier ++ "\",\"provider_id\":\"" ++ o.providerId ++
      "\",\"type\":\"model\"\x7d"
  validateDict fields :=
    match fields.lookup "identifier", fields.lookup "provider_id" with
    | some (.str identifier), some (.str providerId) => .ok ⟨identifier, providerId⟩
    | _, _ => .error .validationError

def llamaModel : ModelObject := ⟨"Llama3.1-8B-Instruct", "meta-reference"⟩

def registryLoads (s : String) : Option Json :=
  if s = Json.dumps (.arr [.str (modelObjects.modelDumpJson llamaModel)]) then
    some (.arr [.str (modelObjects.modelDumpJson llamaModel)])
  else none

set_option maxRecDepth 10000 in
/-- The model registered twice on an empty store: the first call writes the list of its dump,
the second raises `ValidationError`, and so does `get` in between. -/
theorem second_register_raises :
    (registerAll modelObjects registryLoads Json.dumps KVStore.empty [llamaModel, llamaModel]).2 =
        [.ok (), .error .validationError] ∧
      get modelObjects registryLoads
          (registerAll modelObjects registryLoads Json.dumps KVStore.empty [llamaModel]).1
          "Llama3.1-8B-Instruct" =
        .error .validationError :=
  ⟨rfl, rfl⟩

end LlamaStack.Registry
