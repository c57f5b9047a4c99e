import Mathlib.Algebra.Ring.Rat
import Mathlib.Data.List.Forall2
import LlamaStack.PyValue

/-!
# The rows an evaluation scores, and the inclusion scorer

`MetaReferenceEvalImpl.evaluate` (eval.py 80-117) asks the candidate model for an answer to the
`input_query` of each row and hands the scoring API each input row merged with its
`generated_answer`. `InclusionScorer` (inclusion_scorer.py 15-49) scores a row `1.0` when its
expected answer is `in` the generated one and `0.0` otherwise, and aggregates the scores.

When the model answers in text and the rows' expected answers are strings, the inclusion scorer
gives for the rows of an evaluation the number of rows whose expected answer occurs in the model's
answer as `num_correct`, the number of rows as `num_total`, and their quotient as the accuracy
(`inclusion_scores_of_evaluate`). The scores are the doubles `1.0` and `0.0`; a double is kept
as the rational it is, and each result of `+` and `/` is rounded by a `Rounding`, of which only
one fact is used: doubles hold every integer up to `2^53`. So `num_correct` is the count exactly,
and the accuracy the rounded quotient.
-/

namespace LlamaStack

namespace Json

mutual

/-- `==` between decoded values: `True == 1`, lists element by element, and dicts as maps, whose
keys are distinct as `json.loads` makes them. -/
def pyEq : Json → Json → Bool
  | .null, .null => true
  | .bool a, .bool b => a == b
  | .bool a, .num n => (if a then 1 else 0) == n
  | .num n, .bool b => n == (if b then 1 else 0)
  | .num a, .num b => a == b
  | .str a, .str b => a == b
  | .arr elems, .arr elems' => pyEqElems elems elems'
  | .obj fields, .obj fields' => fields.length == fields'.length && pyEqFields fields fields'
  | _, _ => false

def pyEqElems : List Json → List Json → Bool
  | [], [] => true
  | j :: js, j' :: js' => pyEq j j' && pyEqElems js js'
  | _, _ => false

def pyEqFields : List (String × Json) → List (String × Json) → Bool
  | [], _ => true
  | (k, j) :: fields, fields' =>
      (match fields'.lookup k with
        | some j' => pyEq j j'
        | none => false) && pyEqFields fields fields'

end

/-- `x in y`: a substring of a string, an element of a list by `==`, a key of a dict, where a
list or a dict cannot be hashed; any other `y` is not iterable. -/
def pyIn (x : Json) : Json → Except PyError Bool
  | .str s =>
      match x with
      | .str t => .ok (decide (t.data <:+: s.data))
      | _ => .error (.typeError
          ("\x27in <string>\x27 requires string as left operand, not " ++ x.typeName))
  | .arr elems => .ok (elems.any (pyEq x))
  | .obj fields =>
      match x with
      | .str t => .ok (fields.lookup t).isSome
      | .arr _ | .obj _ => .error (.typeError ("unhashable type: \x27" ++ x.typeName ++ "\x27"))
      | _ => .ok false
  | y => .error (.typeError ("argument of type \x27" ++ y.typeName ++ "\x27 is not iterable"))

end Json

namespace Eval

/-- A dataset row, or a row handed to scoring: a dict from column names to values. -/
abbrev Row := List (String × Json)

/-- `d | e`: the items of `d`, each key of `e` set to its value in turn. -/
def dictMerge (d e : Row) : Row := e.foldl (fun row item => dictSet row item.1 item.2) d

/-- The candidate of an evaluation: its type, its model and its system message. -/
structure EvalCandidate (Msg : Type) where
  type : String
  model : String
  systemMessage : Option Msg

variable {Msg S : Type}

/-- The generation of one row (eval.py 91-105). `userMessage` is `UserMessage(content=...)` with
its validation, and `chatCompletion` the inference API, which gives the content of the completion
message. -/
def generate (candidate : EvalCandidate Msg) (userMessage : Json → Except PyError Msg)
    (chatCompletion : String → List Msg → Except PyError Json) (x : Row) :
    Except PyError Row := do
  let inputQuery ← match x.lookup "input_query" with
    | some inputQuery => pure inputQuery
    | none => throw (.keyError "input_query")
  let message ← userMessage inputQuery
  let content ← chatCompletion candidate.model (candidate.systemMessage.toList ++ [message])
  pure [("generated_answer", content)]

/-- The generations of `evaluate` (eval.py 86-105) and the rows it hands to the scoring API
(eval.py 108-111). -/
def evaluateRows (candidate : EvalCandidate Msg) (userMessage : Json → Except PyError Msg)
    (chatCompletion : String → List Msg → Except PyError Json) (inputRows : List Row) :
    Except PyError (List Row × List Row) := do
  if candidate.type = "agent" then
    .error (.notImplementedError "Evaluation with generation has not been implemented for agents")
  else do
    let generations ← inputRows.mapM (generate candidate userMessage chatCompletion)
    pure (generations, List.zipWith dictMerge inputRows generations)

def evaluate (candidate : EvalCandidate Msg) (userMessage : Json → Except PyError Msg)
    (chatCompletion : String → List Msg → Except PyError Json)
    (score : List Row → List String → Except PyError S) (inputRows : List Row)
    (scoringFunctions : List String) : Except PyError (List Row × S) := do
  let (generations, scoreInputRows) ← evaluateRows candidate userMessage chatCompletion inputRows
  let scores ← score scoreInputRows scoringFunctions
  pure (generations, scores)

/-- What the scorer raises: its own assertions, and what `in` raises. -/
inductive ScorerError where
  | assertionError (msg : String)
  | raised (e : PyError)
  deriving DecidableEq

/-- `InclusionScorer.score_row`: the score `1.0` or `0.0`. -/
def scoreRow (inputRow : Row) : Except ScorerError ℚ :=
  match inputRow.lookup "expected_answer", inputRow.lookup "generated_answer" with
  | none, _ => .error (.assertionError "Expected answer not found in input row.")
  | some _, none => .error (.assertionError "Generated answer not found in input row.")
  | some expectedAnswer, some generatedAnswer =>
      match Json.pyIn expectedAnswer generatedAnswer with
      | .ok true => .ok 1
      | .ok false => .ok 0
      | .error e => .error (.raised e)

/-- Double arithmetic: a result is computed exactly and then rounded to a double by `round`.
Doubles hold every integer up to `2^53`. -/
structure Rounding where
  round : ℚ → ℚ
  round_natCast : ∀ n : Nat, n ≤ 2 ^ 53 → round n = n

def Rounding.exact : Rounding := ⟨id, fun _ _ => rfl⟩

structure Aggregate where
  accuracy : ℚ
  numCorrect : ℚ
  numTotal : Nat
  deriving DecidableEq

/-- `InclusionScorer.aggregate`: `sum` adds the scores to the integer `0` from the left, and `/`
divides the sum by the count. -/
def aggregate (r : Rounding) (scoringResults : List ℚ) : Except ScorerError Aggregate :=
  if 0 < scoringResults.length then
    .ok ⟨r.round (scoringResults.foldl (fun acc s => r.round (acc + s)) 0 / scoringResults.length),
      scoringResults.foldl (fun acc s => r.round (acc + s)) 0, scoringResults.length⟩
  else .error (.assertionError "Empty scoring results provided.")

/-- The expected answer of a row is a string that occurs in the text of its generation. -/
def answerIncluded (row generation : Row) : Bool :=
  match row.lookup "expected_answer", generation.lookup "generated_answer" with
  | some (.str expectedAnswer), some (.str generatedAnswer) =>
      decide (expectedAnswer.data <:+: generatedAnswer.data)
  | _, _ => false

theorem lookup_dictMerge_generation (row : Row) (content : Json) (key : String) :
    (dictMerge row [("generated_answer", content)]).lookup key =
      if key = "generated_answer" then some content else row.lookup key :=
  lookup_dictSet row "generated_answer" key content

theorem generate_ok {candidate : EvalCandidate Msg} {userMessage : Json → Except PyError Msg}
    {chatCompletion : String → List Msg → Except PyError Json} {x generation : Row}
    (h : generate candidate userMessage chatCompletion x = .ok generation) :
    ∃ content, generation = [("generated_answer", content)] ∧
      ∃ messages, chatCompletion candidate.model messages = .ok content := by
  simp only [generate] at h
  split at h
  · obtain ⟨_, -, h⟩ := Except.bind_eq_ok.mp h
    obtain ⟨_, -, h⟩ := Except.bind_eq_ok.mp h
    obtain ⟨content, hc, h⟩ := Except.bind_eq_ok.mp h
    exact ⟨content, (Except.ok.inj h).symm, _, hc⟩
  · cases h

theorem scoreRow_of_str {row : Row} {expectedAnswer generatedAnswer : String}
    (he : row.lookup "expected_answer" = some (.str expectedAnswer))
    (hg : row.lookup "generated_answer" = some (.str generatedAnswer)) :
    scoreRow row = .ok (if expectedAnswer.data <:+: generatedAnswer.data then 1 else 0) := by
  simp only [scoreRow, he, hg, Json.pyIn]
  split <;> simp_all

theorem mapM_scoreRow {candidate : EvalCandidate Msg} {userMessage : Json → Except PyError Msg}
    {chatCompletion : String → List Msg → Except PyError Json} {inputRows generations : List Row}
    (h : List.Forall₂ (fun x generation =>
      generate candidate userMessage chatCompletion x = .ok generation) inputRows generations)
    (htext : ∀ model messages content, chatCompletion model messages = .ok content →
      ∃ text, content = .str text)
    (hexpected : ∀ row ∈ inputRows, ∃ e, row.lookup "expected_answer" = some (.str e)) :
    (List.zipWith dictMerge inputRows generations).mapM scoreRow =
      .ok (List.zipWith (fun row generation => if answerIncluded row generation then 1 else 0)
        inputRows generations) := by
  induction h with
  | nil => rfl
  | @cons row generation rows generations hgen _ ih =>
      obtain ⟨e, he⟩ := hexpected row (List.mem_cons_self _ _)
      obtain ⟨content, rfl, _, hc⟩ := generate_ok hgen
      obtain ⟨c, rfl⟩ := htext _ _ _ hc
      have hscore := @scoreRow_of_str (dictMerge row [("generated_answer", .str c)]) e c
        (by rw [lookup_dictMerge_generation, if_neg (by decide), he])
        (by rw [lookup_dictMerge_generation, if_pos rfl])
      rw [List.zipWith_cons_cons, List.mapM_cons, hscore,
        ih (fun r hr => hexpected r (List.mem_cons_of_mem _ hr))]
      simp [answerIncluded, he]

/-- Adding scores `1.0` and `0.0` to an integer in double arithmetic is exact while the sum stays
within `2^53`. -/
theorem foldl_round_add_ite (r : Rounding) (bs : List Bool) (n : Nat) (hn : n + bs.length ≤ 2 ^ 53) :
    (bs.map fun b => if b then (1 : ℚ) else 0).foldl (fun acc s => r.round (acc + s)) (n : ℚ) =
      ((n + bs.count true : Nat) : ℚ) := by
  induction bs generalizing n with
  | nil => simp
  | cons b bs ih =>
      rw [List.length_cons] at hn
      have hstep : r.round ((n : ℚ) + if b then 1 else 0) = ((n + if b then 1 else 0 : Nat) : ℚ) := by
        have hcast : ((n : ℚ) + if b then 1 else 0) = ((n + if b then 1 else 0 : Nat) : ℚ) := by
          cases b <;> simp [Nat.cast_succ]
        rw [hcast, r.round_natCast _ (by split <;> omega)]
      rw [List.map_cons, List.foldl_cons, hstep, ih _ (by split <;> omega), List.count_cons]
      congr 1
      cases b
      · simp
      · simp only [if_true, beq_self_eq_true]
        omega

/-- When the model answers in text and every row's expected answer is a string, the inclusion
scorer gives for the rows an evaluation builds the number of rows whose expected answer occurs in
the model's answer as `num_correct`, the number of rows as `num_total`, and their quotient,
rounded to a double, as the accuracy. -/
theorem inclusion_scores_of_evaluate (r : Rounding) {candidate : EvalCandidate Msg}
    {userMessage : Json → Except PyError Msg}
    {chatCompletion : String → List Msg → Except PyError Json} {inputRows generations : List Row}
    {scoreInputRows : List Row}
    (h : evaluateRows candidate userMessage chatCompletion inputRows =
      .ok (generations, scoreInputRows))
    (htext : ∀ model messages content, chatCompletion model messages = .ok content →
      ∃ text, content = .str text)
    (hexpected : ∀ row ∈ inputRows, ∃ e, row.lookup "expected_answer" = some (.str e))
    (hne : inputRows ≠ []) (hsize : inputRows.length ≤ 2 ^ 53) :
    (scoreInputRows.mapM scoreRow >>= aggregate r) =
      .ok ⟨r.round (((List.zipWith answerIncluded inputRows generations).count true : ℚ) /
          inputRows.length),
        (List.zipWith answerIncluded inputRows generations).count true, inputRows.length⟩ := by
  simp only [evaluateRows] at h
  split at h
  · cases h
  · obtain ⟨gens, hgens, h⟩ := Except.bind_eq_ok.mp h
    cases h
    have hall := mapM_ok hgens
    rw [mapM_scoreRow hall htext hexpected, Except.ok_bind, aggregate, List.length_zipWith,
      ← hall.length_eq, Nat.min_self, if_pos (List.length_pos.mpr hne)]
    have hlen : (List.zipWith answerIncluded inputRows generations).length = inputRows.length := by
      rw [List.length_zipWith, ← hall.length_eq, Nat.min_self]
    have hsum := foldl_round_add_ite r (List.zipWith answerIncluded inputRows generations) 0
      (by rw [hlen, Nat.zero_add]; exact hsize)
    rw [List.map_zipWith, Nat.cast_zero, Nat.zero_add] at hsum
    rw [hsum]

/-- One row asking for a capital whose expected answer the model's reply contains. -/
def capitalRows : List Row :=
  [[("input_query", .str "Capital of France?"), ("expected_answer", .str "Paris")]]

def parisModel (_ : String) (_ : List Json) : Except PyError Json := .ok (.str "It is Paris.")

def parisGenerations : List Row := [[("generated_answer", .str "It is Paris.")]]

theorem inclusion_scores_of_evaluate_capital :
    ((List.zipWith dictMerge capitalRows parisGenerations).mapM scoreRow >>= aggregate .exact) =
      .ok ⟨Rounding.exact.round
          (((List.zipWith answerIncluded capitalRows parisGenerations).count true : ℚ) /
            capitalRows.length),
        (List.zipWith answerIncluded capitalRows parisGenerations).count true,
        capitalRows.length⟩ :=
  @inclusion_scores_of_evaluate Json .exact ⟨"model", "m", none⟩ .ok parisModel capitalRows
    parisGenerations _ rfl (fun _ _ _ h => ⟨_, (Except.ok.inj h).symm⟩)
    (fun row hr => by rw [capitalRows, List.mem_singleton] at hr; exact ⟨"Paris", hr ▸ rfl⟩)
    (List.cons_ne_nil _ _) (by decide)

end Eval

end LlamaStack
