import Mathlib.Data.List.Nodup
import Mathlib.Logic.Relation
import LlamaStack.PyValue

/-!
Concurrent `evaluate_batch` calls on one `MetaReferenceEvalImpl`
(providers/impls/meta_reference/eval/eval.py). A call runs until its first `await`, and each
await resumes when the awaited API returns or raises; any number of calls interleave at these
points. The end of a call, from the return of `evaluate` to `return Job(job_id)`, has no await:
it reads `len(self.jobs)` and inserts under `str` of it in one step. On every reachable state the
keys of `jobs` are `str 0, ..., str (n-1)` for the `n` calls that returned, the returned ids are
distinct, `jobs` holds exactly their results, and `job_status` and `job_result` report them
(`evalJobs_invariant`).
-/

namespace LlamaStack.Eval

/-- `validate_eval_input_dataset_schema` on the dataset's schema, a map from column names to
type names, if the dataset has one. -/
def validateEvalInputDatasetSchema (datasetId : String)
    (datasetSchema : Option (List (String × String))) : Except PyError Unit :=
  match datasetSchema with
  | none | some [] => .error (.valueError ("Dataset " ++ datasetId ++
      " does not have a schema defined. Please define a schema for the dataset."))
  | some schema =>
      ["expected_answer", "input_query"].forM fun requiredColumn =>
        match schema.lookup requiredColumn with
        | none => .error (.valueError ("Dataset " ++ datasetId ++ " does not have a '" ++
            requiredColumn ++ "' column."))
        | some columnType =>
            if columnType ≠ "string" then
              .error (.valueError ("Dataset " ++ datasetId ++ " does not have a '" ++
                requiredColumn ++ "' column of type 'string'."))
            else .ok ()

/-- Where an `evaluate_batch` call is: awaiting `get_dataset`, awaiting `get_rows_paginated`,
awaiting inside `evaluate`, or finished. -/
inductive Phase (Resp : Type) where
  | validating (datasetId candidateType : String)
  | fetchingRows (candidateType : String)
  | evaluating
  | returned (jobId : String) (res : Resp)
  | raised (e : PyError)

variable {Resp : Type}

/-- The call waits at an await. -/
def Phase.waiting : Phase Resp → Bool
  | .validating _ _ | .fetchingRows _ | .evaluating => true
  | .returned _ _ | .raised _ => false

/-- The job a finished call returned, with its result. -/
def Phase.result? : Phase Resp → Option (String × Resp)
  | .returned jobId res => some (jobId, res)
  | _ => none

/-- The adapter's `jobs` dict, and every `evaluate_batch` call made so far. -/
structure EvalState (Resp : Type) where
  jobs : List (String × Resp)
  calls : List (Phase Resp)

def EvalState.init : EvalState Resp := ⟨[], []⟩

/-- A call after `get_dataset` returns the schema: it awaits the rows, or the schema fails. -/
def afterDataset (datasetId candidateType : String) (schema : Option (List (String × String))) :
    Phase Resp :=
  match validateEvalInputDatasetSchema datasetId schema with
  | .ok () => .fetchingRows candidateType
  | .error e => .raised e

/-- A call after the rows arrive: `evaluate` raises before its first await for an agent, and
awaits the model otherwise. -/
def afterRows (candidateType : String) : Phase Resp :=
  if candidateType = "agent" then
    .raised (.notImplementedError "Evaluation with generation has not been implemented for agents")
  else .evaluating

/-- The end of call `i` once `evaluate` returns `res` (eval.py 76-78). -/
def finishEvaluateBatch (s : EvalState Resp) (i : Nat) (res : Resp) : EvalState Resp :=
  ⟨dictSet s.jobs (toString s.jobs.length) res,
    s.calls.set i (.returned (toString s.jobs.length) res)⟩

/-- One step of the event loop: a new call runs to its first await, or an awaited call resumes
and runs to its next await or its end. -/
inductive Step : EvalState Resp → EvalState Resp → Prop where
  | call (s : EvalState Resp) (datasetId candidateType : String) :
      Step s ⟨s.jobs, s.calls ++ [.validating datasetId candidateType]⟩
  | dataset (s : EvalState Resp) (i : Nat) (datasetId candidateType : String)
      (schema : Option (List (String × String)))
      (h : s.calls[i]? = some (.validating datasetId candidateType)) :
      Step s ⟨s.jobs, s.calls.set i (afterDataset datasetId candidateType schema)⟩
  | rows (s : EvalState Resp) (i : Nat) (candidateType : String)
      (h : s.calls[i]? = some (.fetchingRows candidateType)) :
      Step s ⟨s.jobs, s.calls.set i (afterRows candidateType)⟩
  | evaluated (s : EvalState Resp) (i : Nat) (res : Resp) (h : s.calls[i]? = some .evaluating) :
      Step s (finishEvaluateBatch s i res)
  | raise (s : EvalState Resp) (i : Nat) (p : Phase Resp) (e : PyError)
      (h : s.calls[i]? = some p) (hp : p.waiting = true) :
      Step s ⟨s.jobs, s.calls.set i (.raised e)⟩

/-- The states some interleaving reaches. -/
def Reachable (s : EvalState Resp) : Prop := Relation.ReflTransGen Step EvalState.init s

inductive JobStatus where
  | completed
  | notFound
  deriving DecidableEq, Repr

def JobStatus.value : JobStatus → String
  | .completed => "completed"
  | .notFound => "not_found"

def jobStatus (s : EvalState Resp) (jobId : String) : JobStatus :=
  if jobId ∈ s.jobs.map Prod.fst then .completed else .notFound

def jobResult (s : EvalState Resp) (jobId : String) : Except PyError Resp :=
  if jobStatus s jobId ≠ .completed then
    .error (.valueError ("Job is not completed, Status: " ++ (jobStatus s jobId).value))
  else
    match s.jobs.lookup jobId with
    | some res => .ok res
    | none => .error (.keyError jobId)

/-- The ids of the jobs the finished calls returned. -/
def returnedIds (s : EvalState Resp) : List String :=
  s.calls.filterMap fun p => p.result?.map Prod.fst

/-- What every interleaving keeps: the keys of `jobs` are `str 0, ..., str (n-1)`, and `jobs`
holds, up to order, the job of every call that returned and nothing else. -/
structure JobsInv (s : EvalState Resp) : Prop where
  keys : s.jobs.map Prod.fst = (List.range s.jobs.length).map toString
  perm : List.Perm (s.calls.filterMap Phase.result?) s.jobs

theorem filterMap_set_perm {α β : Type} {f : α → Option β} {l : List α} {i : Nat} {a : α}
    (ha : l[i]? = some a) (hfa : f a = none) (x : α) :
    List.Perm ((l.set i x).filterMap f) ((f x).toList ++ l.filterMap f) := by
  induction l generalizing i with
  | nil => simp at ha
  | cons b l ih =>
      cases i with
      | zero =>
          simp only [List.getElem?_cons_zero, Option.some.injEq] at ha
          subst ha
          cases hx : f x <;> simp [hfa, hx]
      | succ i =>
          simp only [List.getElem?_cons_succ] at ha
          simp only [List.set_cons_succ, List.filterMap_cons]
          cases hb : f b with
          | none => exact ih ha
          | some c => exact ((ih ha).cons c).trans List.perm_middle.symm

theorem result?_of_waiting {p : Phase Resp} (hp : p.waiting = true) : p.result? = none := by
  cases p <;> first | rfl | cases hp

theorem afterDataset_result? (datasetId candidateType : String)
    (schema : Option (List (String × String))) :
    (afterDataset datasetId candidateType schema : Phase Resp).result? = none := by
  unfold afterDataset
  split <;> rfl

theorem afterRows_result? (candidateType : String) :
    (afterRows candidateType : Phase Resp).result? = none := by
  unfold afterRows
  split <;> rfl

/-- What one step can do: leave `jobs` and the finished results alone, or end a call that awaited
`evaluate`. -/
theorem step_cases {s s' : EvalState Resp} (h : Step s s') :
    (s'.jobs = s.jobs ∧
      List.Perm (s'.calls.filterMap Phase.result?) (s.calls.filterMap Phase.result?)) ∨
    ∃ i res, s.calls[i]? = some .evaluating ∧ s' = finishEvaluateBatch s i res := by
  cases h with
  | call => exact .inl ⟨rfl, by simp [Phase.result?]⟩
  | dataset i datasetId candidateType schema h =>
      exact .inl ⟨rfl, by
        simpa [afterDataset_result?] using filterMap_set_perm (f := Phase.result?) h rfl
          (afterDataset datasetId candidateType schema)⟩
  | rows i candidateType h =>
      exact .inl ⟨rfl, by
        simpa [afterRows_result?] using filterMap_set_perm (f := Phase.result?) h rfl
          (afterRows candidateType)⟩
  | evaluated i res h => exact .inr ⟨i, res, h, rfl⟩
  | raise i p e h hp =>
      exact .inl ⟨rfl, by simpa [Phase.result?] using filterMap_set_perm h (result?_of_waiting hp) _⟩

theorem jobsInv_init : JobsInv (EvalState.init : EvalState Resp) := ⟨rfl, .nil⟩

/-- `str (len jobs)` is a new key, so the end of a call appends its job. -/
theorem finishEvaluateBatch_jobs {s : EvalState Resp} (hs : JobsInv s) (i : Nat) (res : Resp) :
    (finishEvaluateBatch s i res).jobs = s.jobs ++ [(toString s.jobs.length, res)] := by
  have hnew : toString s.jobs.length ∉ s.jobs.map Prod.fst := by
    rw [hs.keys]
    intro hmem
    obtain ⟨k, hk, hkey⟩ := List.mem_map.mp hmem
    rw [toString_nat_injective hkey, List.mem_range] at hk
    exact Nat.lt_irrefl _ hk
  simp [finishEvaluateBatch, dictSet, hnew]

theorem jobsInv_step {s s' : EvalState Resp} (hs : JobsInv s) (h : Step s s') : JobsInv s' := by
  rcases step_cases h with ⟨hjobs, hperm⟩ | ⟨i, res, hi, rfl⟩
  · exact ⟨by rw [hjobs, hs.keys], hperm.trans (hjobs ▸ hs.perm)⟩
  · have hjobs := finishEvaluateBatch_jobs hs i res
    refine ⟨?_, ?_⟩
    · rw [hjobs, List.map_append, hs.keys, List.length_append, List.length_singleton,
        List.range_succ, List.map_append]
      rfl
    · rw [hjobs]
      exact (filterMap_set_perm hi rfl _).trans
        ((hs.perm.cons _).trans (List.perm_append_singleton _ _).symm)

/-- Every interleaving keeps the invariant. -/
theorem jobsInv_of_reachable {s : EvalState Resp} (hs : Reachable s) : JobsInv s := by
  induction hs with
  | refl => exact jobsInv_init
  | tail _ hstep ih => exact jobsInv_step ih hstep

theorem lookup_of_mem {l : List (String × Resp)} (hl : (l.map Prod.fst).Nodup) {k : String}
    {v : Resp} (h : (k, v) ∈ l) : l.lookup k = some v := by
  induction l with
  | nil => cases h
  | cons p l ih =>
      obtain ⟨k', v'⟩ := p
      rw [List.map_cons, List.nodup_cons] at hl
      rcases List.mem_cons.mp h with hhead | htail
      · cases hhead
        simp [List.lookup_cons]
      · have hne : k ≠ k' := fun heq => hl.1 (List.mem_map.mpr ⟨(k, v), htail, heq⟩)
        simp [List.lookup_cons, beq_false_of_ne hne, ih hl.2 htail]

theorem returnedIds_eq (s : EvalState Resp) :
    returnedIds s = (s.calls.filterMap Phase.result?).map Prod.fst := by
  rw [returnedIds, List.map_filterMap]

/-- On every state that some interleaving of `evaluate_batch` calls reaches: the keys of `jobs`
are `str 0, ..., str (n-1)`, `n` the number of calls that returned; the ids returned are
distinct; `job_status` says `completed` exactly for them; `job_result` gives each call's own
result; and `jobs` holds exactly the results of the calls that returned, none of one that
raised. -/
theorem evalJobs_invariant {s : EvalState Resp} (hs : Reachable s) :
    s.jobs.map Prod.fst = (List.range (returnedIds s).length).map toString ∧
      (returnedIds s).Nodup ∧
      (∀ jobId, jobStatus s jobId = .completed ↔ jobId ∈ returnedIds s) ∧
      (∀ (i : Nat) (jobId : String) (res : Resp), s.calls[i]? = some (.returned jobId res) →
        jobResult s jobId = .ok res) ∧
      List.Perm (s.calls.filterMap Phase.result?) s.jobs := by
  have hinv := jobsInv_of_reachable hs
  have hids : List.Perm (returnedIds s) (s.jobs.map Prod.fst) := by
    rw [returnedIds_eq]
    exact hinv.perm.map _
  have hnodup : (s.jobs.map Prod.fst).Nodup := by
    rw [hinv.keys]
    exact List.Nodup.map toString_nat_injective (List.nodup_range _)
  refine ⟨?_, hids.nodup_iff.mpr hnodup, fun jobId => ?_, fun i jobId res hi => ?_, hinv.perm⟩
  · rw [hids.length_eq, List.length_map, hinv.keys]
  · simp only [jobStatus, hids.mem_iff]
    split <;> simp_all
  · have hmem : (jobId, res) ∈ s.jobs :=
      hinv.perm.mem_iff.mp (List.mem_filterMap.mpr ⟨_, List.getElem?_mem hi, rfl⟩)
    have hkey : jobId ∈ s.jobs.map Prod.fst := List.mem_map_of_mem Prod.fst hmem
    simp [jobResult, jobStatus, hkey, lookup_of_mem hnodup hmem]

/-- A schema with both required columns as strings. -/
def qaSchema : List (String × String) := [("input_query", "string"), ("expected_answer", "string")]

/-- Two calls on one dataset, the second finishing first: it gets job `0`, the first job `1`. -/
def interleavedRun : EvalState String :=
  ⟨[("0", "scores of the second call"), ("1", "scores of the first call")],
    [.returned "1" "scores of the first call", .returned "0" "scores of the second call"]⟩

theorem interleavedRun_reachable : Reachable interleavedRun :=
  .tail (.tail (.tail (.tail (.tail (.tail (.tail (.tail .refl
    (.call _ "qa" "model")) (.call _ "qa" "model")) (.dataset _ 1 "qa" "model" (some qaSchema) rfl))
    (.rows _ 1 "model" rfl)) (.evaluated _ 1 "scores of the second call" rfl))
    (.dataset _ 0 "qa" "model" (some qaSchema) rfl)) (.rows _ 0 "model" rfl))
    (.evaluated _ 0 "scores of the first call" rfl)

theorem evalJobs_invariant_interleaved :
    interleavedRun.jobs.map Prod.fst = (List.range (returnedIds interleavedRun).length).map toString ∧
      (returnedIds interleavedRun).Nodup ∧
      (∀ jobId, jobStatus interleavedRun jobId = .completed ↔ jobId ∈ returnedIds interleavedRun) ∧
      (∀ (i : Nat) (jobId : String) (res : String),
        interleavedRun.calls[i]? = some (.returned jobId res) → jobResult interleavedRun jobId = .ok res) ∧
      List.Perm (interleavedRun.calls.filterMap Phase.result?) interleavedRun.jobs :=
  evalJobs_invariant interleavedRun_reachable

end LlamaStack.Eval
