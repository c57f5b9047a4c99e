import LlamaStack.PyValue
import Mathlib.Data.List.Dedup

/-!
# The dependencies of a distribution build

`get_provider_dependencies` (distribution/build.py 51-91) looks each configured provider up in the
provider registry of its API and collects the pip packages of the specs, raising when a provider
is not in that registry or its spec has a container image; it then splits the packages into the
special ones, which carry their own pip flags, and the rest. `print_pip_install_help` (94-103)
prints the install commands for both lists and `build_image` (106-171) passes them to the build
script of the image type.

Python fixes no order for a set (string hashes are salted per process), so `list(set(...))` is a
parameter, `SetOrder`, that keeps only what Python guarantees: each element once. Against the
registry, `get_provider_dependencies` succeeds exactly when every configured provider is
available without a container image, and then its two lists are duplicate-free and split the
packages of the configured providers by the special test (`getProviderDependencies_spec`).
-/

namespace LlamaStack.Build

/-- The fields of a `ProviderSpec` the build reads. -/
structure ProviderSpec where
  pipPackages : List String
  containerImage : Option String

/-- A configured provider: a provider type, as a `BuildConfig` names it, or a `Provider` of a
`RunConfig`, of which the type is read and `text` is what `str()` gives for the error message. -/
inductive ProviderEntry where
  | name (providerType : String)
  | provider (providerType : String) (text : String)

/-- `provider if isinstance(provider, str) else provider.provider_type`. -/
def ProviderEntry.providerType : ProviderEntry → String
  | .name providerType | .provider providerType _ => providerType

def ProviderEntry.text : ProviderEntry → String
  | .name providerType => providerType
  | .provider _ text => text

/-- The value of an API in `config_providers`: one provider or a list of them. -/
inductive ProviderOrProviders where
  | one (entry : ProviderEntry)
  | many (entries : List ProviderEntry)

def ProviderOrProviders.providers : ProviderOrProviders → List ProviderEntry
  | .one entry => [entry]
  | .many entries => entries

/-- `get_provider_registry()[Api(api_str)]`: the specs of an API by provider type, or the error of
a string that is not an `Api` value. -/
abbrev Registry := String → Except PyError (List (String × ProviderSpec))

/-- An iteration order of Python sets of strings: `list(set(xs))` lists each element of `xs`
once. -/
structure SetOrder where
  listOfSet : List String → List String
  nodup : ∀ xs, (listOfSet xs).Nodup
  mem : ∀ xs x, x ∈ listOfSet xs ↔ x ∈ xs

def SetOrder.dedup : SetOrder := ⟨List.dedup, List.nodup_dedup, fun _ _ => List.mem_dedup⟩

def hasContainerImage (spec : ProviderSpec) : Bool :=
  spec.containerImage.any fun image => !image.isEmpty

/-- The packages of the providers of one API (build.py 67-81). -/
def providerDeps (apiStr : String) (providersForApi : List (String × ProviderSpec)) :
    List ProviderEntry → Except PyError (List String)
  | [] => .ok []
  | provider :: providers =>
      match providersForApi.lookup provider.providerType with
      | none => .error (.valueError
          ("Provider `" ++ provider.text ++ "` is not available for API `" ++ apiStr ++ "`"))
      | some spec =>
          if hasContainerImage spec then
            .error (.valueError "A stack\x27s dependencies cannot have a container image")
          else (spec.pipPackages ++ ·) <$> providerDeps apiStr providersForApi providers

/-- The loop over `config_providers` (build.py 58-81), in the order of the dict. -/
def collectDeps (registry : Registry) :
    List (String × ProviderOrProviders) → Except PyError (List String)
  | [] => .ok []
  | (apiStr, value) :: rest => do
      let providersForApi ← registry apiStr
      let deps ← providerDeps apiStr providersForApi value.providers
      let restDeps ← collectDeps registry rest
      pure (deps ++ restDeps)

/-- `"--no-deps" in package or "--index-url" in package`. -/
def isSpecial (package : String) : Bool :=
  decide ("--no-deps".data <:+: package.data) || decide ("--index-url".data <:+: package.data)

/-- `get_provider_dependencies`: the normal and the special packages. -/
def getProviderDependencies (order : SetOrder) (registry : Registry)
    (configProviders : List (String × ProviderOrProviders)) :
    Except PyError (List String × List String) := do
  let deps ← collectDeps registry configProviders
  pure (order.listOfSet (deps.filter fun package => !isSpecial package),
    order.listOfSet (deps.filter isSpecial))

def serverDependencies : List String := ["aiosqlite", "fastapi", "fire", "httpx", "uvicorn"]

/-- The lines `print_pip_install_help` prints, the last one the empty line of `print()`. -/
def printPipInstallHelp (order : SetOrder) (registry : Registry)
    (providers : List (String × ProviderOrProviders)) : Except PyError (List String) := do
  let (normalDeps, specialDeps) ← getProviderDependencies order registry providers
  pure (("Please install needed dependencies using the following commands:\n\npip install " ++
      " ".intercalate normalDeps) :: specialDeps.map ("pip install " ++ ·) ++ [""])

/-- The fields of a `BuildConfig` `build_image` reads. -/
structure BuildConfig where
  containerImage : Option String
  providers : List (String × ProviderOrProviders)
  imageType : String

/-- What the installation fixes: the three build scripts, and
`str(BUILDS_BASE_DIR / ImageType.container.value)`. -/
structure Paths where
  buildContainer : String
  buildCondaEnv : String
  buildVenv : String
  containerBuildsDir : String

/-- The command `build_image` runs (build.py 112-158). On an image type other than the three,
`args` is never assigned, and the first use of it raises. -/
def buildArgs (order : SetOrder) (registry : Registry) (paths : Paths) (buildConfig : BuildConfig)
    (buildFilePath imageName : String) (templateName : Option String) :
    Except PyError (List String) := do
  let containerImage := match buildConfig.containerImage with
    | some image => if image.isEmpty then "python:3.10-slim" else image
    | none => "python:3.10-slim"
  let (normalDeps, specialDeps) ← getProviderDependencies order registry buildConfig.providers
  let normalDeps := normalDeps ++ serverDependencies
  let args ←
    if buildConfig.imageType = "container" then
      match templateName with
      | some template =>
          if template.isEmpty then
            .error (.valueError "template_name is required for container builds")
          else .ok [paths.buildContainer, template, containerImage, buildFilePath,
            paths.containerBuildsDir, " ".intercalate normalDeps]
      | none => .error (.valueError "template_name is required for container builds")
    else if buildConfig.imageType = "conda" then
      .ok [paths.buildCondaEnv, imageName, buildFilePath, " ".intercalate normalDeps]
    else if buildConfig.imageType = "venv" then
      .ok [paths.buildVenv, imageName, buildFilePath, " ".intercalate normalDeps]
    else .error (.unboundLocalError "args")
  pure (if specialDeps.isEmpty then args else args ++ ["#".intercalate specialDeps])

/-- `build_image`: the return code of the build command, run by `run_with_pty` or `run_command`. -/
def buildImage (order : SetOrder) (registry : Registry) (paths : Paths) (buildConfig : BuildConfig)
    (buildFilePath imageName : String) (templateName : Option String)
    (run : List String → Int) : Except PyError Int :=
  run <$> buildArgs order registry paths buildConfig buildFilePath imageName templateName

section Spec

/-- A provider the registry of its API has, with a spec without a container image. -/
def EntryAvailable (providersForApi : List (String × ProviderSpec)) (entry : ProviderEntry) :
    Prop :=
  ∃ spec, providersForApi.lookup entry.providerType = some spec ∧ hasContainerImage spec = false

/-- Every configured provider is available. -/
def Available (registry : Registry) (configProviders : List (String × ProviderOrProviders)) :
    Prop :=
  ∀ api ∈ configProviders, ∃ providersForApi, registry api.1 = .ok providersForApi ∧
    ∀ entry ∈ api.2.providers, EntryAvailable providersForApi entry

def ListedBy (providersForApi : List (String × ProviderSpec)) (entries : List ProviderEntry)
    (package : String) : Prop :=
  ∃ entry ∈ entries, ∃ spec, providersForApi.lookup entry.providerType = some spec ∧
    package ∈ spec.pipPackages

/-- A package that some configured provider needs. -/
def Needed (registry : Registry) (configProviders : List (String × ProviderOrProviders))
    (package : String) : Prop :=
  ∃ api ∈ configProviders, ∃ providersForApi, registry api.1 = .ok providersForApi ∧
    ListedBy providersForApi api.2.providers package

theorem listedBy_cons {providersForApi : List (String × ProviderSpec)} {entry : ProviderEntry}
    {spec : ProviderSpec} (hl : providersForApi.lookup entry.providerType = some spec)
    (entries : List ProviderEntry) (package : String) :
    ListedBy providersForApi (entry :: entries) package ↔
      package ∈ spec.pipPackages ∨ ListedBy providersForApi entries package := by
  simp only [ListedBy, List.exists_mem_cons_iff, hl, Option.some.injEq, exists_eq_left']

theorem providerDeps_cons_of_lookup {apiStr : String}
    {providersForApi : List (String × ProviderSpec)} {entry : ProviderEntry} {spec : ProviderSpec}
    (hl : providersForApi.lookup entry.providerType = some spec)
    (hc : hasContainerImage spec = false)
    (entries : List ProviderEntry) :
    providerDeps apiStr providersForApi (entry :: entries) =
      (spec.pipPackages ++ ·) <$> providerDeps apiStr providersForApi entries := by
  simp only [providerDeps, hl, hc, Bool.false_eq_true, if_false]

/-- A provider missing from the registry of its API raises the error that names both. -/
theorem providerDeps_cons_of_lookup_none {apiStr : String}
    {providersForApi : List (String × ProviderSpec)} {entry : ProviderEntry}
    (hl : providersForApi.lookup entry.providerType = none) (entries : List ProviderEntry) :
    providerDeps apiStr providersForApi (entry :: entries) = .error (.valueError
      ("Provider `" ++ entry.text ++ "` is not available for API `" ++ apiStr ++ "`")) := by
  simp only [providerDeps, hl]

theorem providerDeps_cons_of_containerImage {apiStr : String}
    {providersForApi : List (String × ProviderSpec)} {entry : ProviderEntry} {spec : ProviderSpec}
    (hl : providersForApi.lookup entry.providerType = some spec)
    (hc : hasContainerImage spec = true)
    (entries : List ProviderEntry) :
    providerDeps apiStr providersForApi (entry :: entries) =
      .error (.valueError "A stack\x27s dependencies cannot have a container image") := by
  simp only [providerDeps, hl, hc, if_true]

theorem providerDeps_cons_error {apiStr : String} {providersForApi : List (String × ProviderSpec)}
    {entry : ProviderEntry} (h : ¬EntryAvailable providersForApi entry)
    (entries : List ProviderEntry) :
    ∃ e, providerDeps apiStr providersForApi (entry :: entries) = .error e := by
  cases hl : providersForApi.lookup entry.providerType with
  | none => exact ⟨_, providerDeps_cons_of_lookup_none hl entries⟩
  | some spec =>
      cases hc : hasContainerImage spec
      · exact absurd ⟨spec, hl, hc⟩ h
      · exact ⟨_, providerDeps_cons_of_containerImage hl hc entries⟩

theorem providerDeps_spec (apiStr : String) (providersForApi : List (String × ProviderSpec))
    (entries : List ProviderEntry) :
    match providerDeps apiStr providersForApi entries with
    | .ok deps => (∀ entry ∈ entries, EntryAvailable providersForApi entry) ∧
        ∀ package, package ∈ deps ↔ ListedBy providersForApi entries package
    | .error _ => ¬∀ entry ∈ entries, EntryAvailable providersForApi entry := by
  induction entries with
  | nil => exact ⟨(fun _ h => nomatch h), fun _ => by simp [ListedBy]⟩
  | cons entry entries ih =>
      by_cases ha : EntryAvailable providersForApi entry
      · obtain ⟨spec, hl, hc⟩ := ha
        rw [providerDeps_cons_of_lookup hl hc]
        cases hrest : providerDeps apiStr providersForApi entries with
        | error e =>
            rw [hrest] at ih
            exact fun hall => ih fun x hx => hall x (List.mem_cons_of_mem _ hx)
        | ok deps =>
            rw [hrest] at ih
            refine ⟨List.forall_mem_cons.mpr ⟨⟨spec, hl, hc⟩, ih.1⟩, fun package => ?_⟩
            rw [listedBy_cons hl, ← ih.2]
            exact List.mem_append
      · obtain ⟨e, he⟩ := @providerDeps_cons_error apiStr _ _ ha entries
        rw [he]
        exact fun hall => ha (hall entry (List.mem_cons_self _ _))

theorem collectDeps_spec (registry : Registry)
    (configProviders : List (String × ProviderOrProviders)) :
    match collectDeps registry configProviders with
    | .ok deps => Available registry configProviders ∧
        ∀ package, package ∈ deps ↔ Needed registry configProviders package
    | .error _ => ¬Available registry configProviders := by
  induction configProviders with
  | nil => exact ⟨(fun _ h => nomatch h), fun _ => by simp [Needed]⟩
  | cons api rest ih =>
      obtain ⟨apiStr, value⟩ := api
      cases hreg : registry apiStr with
      | error e =>
          simp only [collectDeps, hreg, Except.error_bind]
          exact fun hall => nomatch (hall _ (List.mem_cons_self _ _)).choose_spec.1.symm.trans hreg
      | ok providersForApi =>
          have hp := providerDeps_spec apiStr providersForApi value.providers
          simp only [collectDeps, hreg, Except.ok_bind]
          cases hdeps : providerDeps apiStr providersForApi value.providers with
          | error e =>
              rw [hdeps] at hp
              intro hall
              obtain ⟨specs, hs, hentries⟩ := hall _ (List.mem_cons_self _ _)
              rw [hreg, Except.ok.injEq] at hs
              exact hp (hs ▸ hentries)
          | ok deps =>
              rw [hdeps] at hp
              cases hrest : collectDeps registry rest with
              | error e =>
                  rw [hrest] at ih
                  exact fun hall => ih fun x hx => hall x (List.mem_cons_of_mem _ hx)
              | ok restDeps =>
                  rw [hrest] at ih
                  refine ⟨List.forall_mem_cons.mpr ⟨⟨providersForApi, hreg, hp.1⟩, ih.1⟩,
                    fun package => ?_⟩
                  rw [List.mem_append, hp.2, ih.2]
                  simp only [Needed, List.exists_mem_cons_iff, hreg, Except.ok.injEq,
                    exists_eq_left']

/-- `get_provider_dependencies` succeeds exactly when every configured provider is in the
registry of its API with a spec without a container image; then the normal and the special list
each hold every package a configured provider needs, of their kind, once. -/
theorem getProviderDependencies_spec (order : SetOrder) (registry : Registry)
    (configProviders : List (String × ProviderOrProviders)) :
    match getProviderDependencies order registry configProviders with
    | .ok (normalDeps, specialDeps) => Available registry configProviders ∧
        normalDeps.Nodup ∧ specialDeps.Nodup ∧
        ∀ package,
          (package ∈ normalDeps ↔
            Needed registry configProviders package ∧ isSpecial package = false) ∧
          (package ∈ specialDeps ↔
            Needed registry configProviders package ∧ isSpecial package = true)
    | .error _ => ¬Available registry configProviders := by
  have h := collectDeps_spec registry configProviders
  simp only [getProviderDependencies]
  cases hc : collectDeps registry configProviders with
  | error e => rw [hc] at h; exact h
  | ok deps =>
      rw [hc] at h
      refine ⟨h.1, order.nodup _, order.nodup _, fun package => ⟨?_, ?_⟩⟩ <;>
        simp [order.mem, h.2]

end Spec

end LlamaStack.Build
