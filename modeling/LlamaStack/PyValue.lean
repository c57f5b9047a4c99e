import Mathlib.Data.List.Infix
import Mathlib.Data.String.Basic

/-!
JSON values as `json.loads` returns them, and the Python operations the providers apply to them:
subscription by key or by position, the `in` test, iteration, hashing a dict key, the two ways
the code writes a value out (`json.dumps` and `repr`), and the `str` prefix and suffix tests and
slice the vLLM adapter applies to its event strings. Each operation
raises where Python raises; the exception is a `PyError`. The decoder itself is a parameter of
every module that reads JSON text, so no result depends on how `json.loads` is implemented.
-/

namespace LlamaStack

/-- A value decoded from JSON text. Numbers are integers: no number the modelled code reads is a
float. An object holds the items of a Python dict, in insertion order. -/
inductive Json where
  | null
  | bool (b : Bool)
  | num (n : Int)
  | str (s : String)
  | arr (elems : List Json)
  | obj (fields : List (String × Json))

/-- The Python exceptions the modelled code raises, with the key, name or message they carry. -/
inductive PyError where
  | keyError (key : String)
  | indexError (msg : String)
  | typeError (msg : String)
  | jsonDecodeError
  | validationError
  | unboundLocalError (name : String)
  | valueError (msg : String)
  | notImplementedError (msg : String)
  | attributeError (msg : String)
  | nameError (name : String)
  deriving DecidableEq, Repr

/-- A dict key after hashing. Python identifies `True` with `1` and `False` with `0`. -/
inductive PyKey where
  | none
  | int (n : Int)
  | str (s : String)
  deriving DecidableEq, Repr

@[simp] theorem Except.ok_bind {ε α β : Type} (a : α) (f : α → Except ε β) :
    (Except.ok a >>= f) = f a := rfl

@[simp] theorem Except.error_bind {ε α β : Type} (e : ε) (f : α → Except ε β) :
    (Except.error e >>= f) = Except.error e := rfl

@[simp] theorem Except.throw_bind {ε α β : Type} (e : ε) (f : α → Except ε β) :
    (throw e >>= f : Except ε β) = Except.error e := rfl

@[simp] theorem Except.pure_eq_ok {ε α : Type} (a : α) : (pure a : Except ε α) = .ok a := rfl

theorem Except.bind_eq_ok {ε α β : Type} {x : Except ε α} {f : α → Except ε β} {b : β} :
    x >>= f = .ok b ↔ ∃ a, x = .ok a ∧ f a = .ok b := by
  cases x <;> simp

theorem mapM_ok {α β ε : Type} {f : α → Except ε β} {l : List α} {l' : List β}
    (h : l.mapM f = .ok l') : List.Forall₂ (fun a b => f a = .ok b) l l' := by
  induction l generalizing l' with
  | nil => cases h; exact .nil
  | cons a l ih =>
      rw [List.mapM_cons] at h
      cases hfa : f a with
      | error e => rw [hfa] at h; cases h
      | ok b =>
          rw [hfa, Except.ok_bind] at h
          cases hl : l.mapM f with
          | error e => rw [hl] at h; cases h
          | ok bs =>
              rw [hl, Except.ok_bind] at h
              cases h
              exact .cons hfa (ih hl)

/-- A `mapM` succeeds exactly when the function succeeds on every element. -/
theorem mapM_ok_iff {α β ε : Type} {f : α → Except ε β} {l : List α} :
    (∃ l', l.mapM f = .ok l') ↔ ∀ a ∈ l, ∃ b, f a = .ok b := by
  induction l with
  | nil => exact ⟨(fun _ _ h => nomatch h), fun _ => ⟨[], rfl⟩⟩
  | cons a l ih =>
      rw [List.mapM_cons, List.forall_mem_cons, ← ih]
      constructor
      · rintro ⟨l', h⟩
        obtain ⟨b, hb, h⟩ := Except.bind_eq_ok.mp h
        obtain ⟨bs, hbs, -⟩ := Except.bind_eq_ok.mp h
        exact ⟨⟨b, hb⟩, bs, hbs⟩
      · rintro ⟨⟨b, hb⟩, bs, hbs⟩
        exact ⟨b :: bs, by rw [hb, hbs]; rfl⟩

/-- `d[key] = value` on a dict kept as its items in insertion order. -/
def dictSet {α : Type} (d : List (String × α)) (key : String) (value : α) : List (String × α) :=
  if key ∈ d.map Prod.fst then d.map fun p => if p.1 = key then (key, value) else p
  else d ++ [(key, value)]

theorem lookup_map_replace {α : Type} (d : List (String × α)) (key k : String) (value : α) :
    (d.map fun p => if p.1 = key then (key, value) else p).lookup k =
      if k = key then (d.lookup key).map fun _ => value else d.lookup k := by
  induction d with
  | nil => split <;> rfl
  | cons p d ih =>
      obtain ⟨a, b⟩ := p
      by_cases hka : k = a
      · subst hka
        by_cases hk : k = key
        · subst hk
          simp
        · simp [hk]
      · have hb : (k == a) = false := beq_false_of_ne hka
        by_cases ha : a = key
        · subst ha
          simp [List.lookup_cons, hb, ih, hka]
        · simp [List.lookup_cons, hb, ih, ha, beq_false_of_ne (Ne.symm ha)]

/-- After `d[key] = value`, the dict gives `value` for `key` and what it gave before for the
other keys. -/
theorem lookup_dictSet {α : Type} (d : List (String × α)) (key k : String) (value : α) :
    (dictSet d key value).lookup k = if k = key then some value else d.lookup k := by
  unfold dictSet
  split
  · rename_i hmem
    obtain ⟨p, hp, rfl⟩ := List.mem_map.mp hmem
    obtain ⟨w, hw⟩ := Option.isSome_iff_exists.mp
      (List.lookup_isSome_iff.mpr ⟨p, hp, beq_self_eq_true p.1⟩)
    rw [lookup_map_replace, hw]
    rfl
  · rename_i hnew
    rw [List.lookup_append]
    by_cases hk : k = key
    · subst hk
      have hnone : d.lookup k = none :=
        List.lookup_eq_none_iff.mpr fun p hp =>
          bne_iff_ne.mpr fun h => hnew (List.mem_map.mpr ⟨p, hp, h.symm⟩)
      simp [hnone]
    · simp [List.lookup_cons, beq_false_of_ne hk, hk]

namespace Json

/-- The name of the Python type of a decoded value, as error messages print it. -/
def typeName : Json → String
  | .null => "NoneType"
  | .bool _ => "bool"
  | .num _ => "int"
  | .str _ => "str"
  | .arr _ => "list"
  | .obj _ => "dict"

/-- CPython's `TypeError` for subscripting a value that does not support it. -/
def notSubscriptable (j : Json) : PyError :=
  .typeError ("\x27" ++ j.typeName ++ "\x27 object is not subscriptable")

/-- `j == s` for a string literal `s`. -/
def isStr (s : String) : Json → Bool
  | .str t => t == s
  | _ => false

/-- `j[key]` for a string key. -/
def getItem : Json → String → Except PyError Json
  | .obj fields, key =>
      match fields.lookup key with
      | some v => .ok v
      | none => .error (.keyError key)
  | .arr _, _ => .error (.typeError "list indices must be integers or slices, not str")
  | .str _, _ => .error (.typeError "string indices must be integers, not \x27str\x27")
  | j, _ => .error j.notSubscriptable

def getFirst : Json → Except PyError Json
  | .arr (x :: _) => .ok x
  | .arr [] => .error (.indexError "list index out of range")
  | .str s =>
      match s.data with
      | c :: _ => .ok (.str (String.singleton c))
      | [] => .error (.indexError "string index out of range")
  | .obj _ => .error (.keyError "0")
  | j => .error j.notSubscriptable

/-- `key in j` for a string `key`: membership of a dict key, of a list element, or of a
substring. -/
def contains : Json → String → Except PyError Bool
  | .obj fields, key => .ok (fields.lookup key).isSome
  | .arr elems, key => .ok (elems.any (isStr key))
  | .str s, key => .ok (decide (key.data <:+: s.data))
  | j, _ => .error (.typeError ("argument of type \x27" ++ j.typeName ++ "\x27 is not iterable"))

/-- The items a `for` loop over `j` visits. -/
def iterate : Json → Except PyError (List Json)
  | .arr elems => .ok elems
  | .obj fields => .ok (fields.map fun field => .str field.1)
  | .str s => .ok (s.data.map fun c => .str (String.singleton c))
  | j => .error (.typeError ("\x27" ++ j.typeName ++ "\x27 object is not iterable"))

/-- `j` used as a dict key: lists and dicts are unhashable. -/
def toKey : Json → Except PyError PyKey
  | .null => .ok .none
  | .bool b => .ok (.int (if b then 1 else 0))
  | .num n => .ok (.int n)
  | .str s => .ok (.str s)
  | j => .error (.typeError ("unhashable type: \x27" ++ j.typeName ++ "\x27"))

/-- A value a `str` concatenation accepts: `TypeError` otherwise. -/
def asStr : Json → Except PyError String
  | .str s => .ok s
  | j => .error (.typeError ("can only concatenate str (not \"" ++ j.typeName ++ "\") to str"))

/-- A value a pydantic `str` field accepts: `ValidationError` otherwise. -/
def asText : Json → Except PyError String
  | .str s => .ok s
  | _ => .error .validationError

@[simp] theorem getItem_obj (fields : List (String × Json)) (key : String) :
    (obj fields).getItem key = match fields.lookup key with
      | some v => .ok v
      | none => .error (.keyError key) := rfl

@[simp] theorem contains_obj (fields : List (String × Json)) (key : String) :
    (obj fields).contains key = .ok (fields.lookup key).isSome := rfl

/-- The last `w` lowercase hexadecimal digits of `n`. -/
def hexDigits : Nat → Nat → String
  | 0, _ => ""
  | w + 1, n => hexDigits w (n / 16) ++ (Nat.digitChar (n % 16)).toString

/-- How `json.dumps`, with its default `ensure_ascii=True`, writes one character of a string:
the short escapes, then `\uXXXX` (a surrogate pair above the basic plane) for every character
outside space to tilde. -/
def escapeChar (c : Char) : String :=
  if c = '"' then "\\\"" else if c = '\\' then "\\\\"
  else if c = '\n' then "\\n" else if c = '\r' then "\\r" else if c = '\t' then "\\t"
  else if c = '\x08' then "\\b" else if c = '\x0c' then "\\f"
  else if c.toNat < 0x20 ∨ 0x7f ≤ c.toNat then
    if c.toNat < 0x10000 then "\\u" ++ hexDigits 4 c.toNat
    else "\\u" ++ hexDigits 4 (0xd800 + (c.toNat - 0x10000) / 0x400) ++
      "\\u" ++ hexDigits 4 (0xdc00 + (c.toNat - 0x10000) % 0x400)
  else c.toString

/-- A string as `json.dumps` writes it. -/
def quote (s : String) : String := "\"" ++ String.join (s.toList.map escapeChar) ++ "\""

/-- `str.isprintable` on one character, exact up to U+00FF: the C0 and C1 controls, the
no-break space and the soft hyphen are not printable. Above U+00FF every character counts as
printable; Python's tables of separators, format and unassigned characters there are not
modelled, so the model never writes a `\u` or `\U` escape. -/
def isPrintable (c : Char) : Bool :=
  !(c.toNat < 0x20 || (0x7f ≤ c.toNat && c.toNat ≤ 0xa0) || c.toNat = 0xad)

/-- How `repr` writes one character of a string quoted with `q`. -/
def reprChar (q c : Char) : String :=
  if c = q ∨ c = '\\' then "\\" ++ c.toString
  else if c = '\t' then "\\t" else if c = '\n' then "\\n" else if c = '\r' then "\\r"
  else if isPrintable c then c.toString
  else "\\x" ++ hexDigits 2 c.toNat

/-- `repr` of a string: single quotes, unless the string holds a single quote and no double
quote. -/
def reprStr (s : String) : String :=
  let q := if s.toList.contains '\x27' && !s.toList.contains '"' then '"' else '\x27'
  q.toString ++ String.join (s.toList.map (reprChar q)) ++ q.toString

/-- How a writer spells the leaves of a JSON value; lists and dicts are written with the
separators `, ` and `: ` by both `json.dumps` and Python's `repr`. -/
structure Spelling where
  null : String
  bool : Bool → String
  str : String → String

mutual

/-- A JSON value written with the spelling `sp`. -/
def Spelling.write (sp : Spelling) : Json → String
  | .null => sp.null
  | .bool b => sp.bool b
  | .num n => toString n
  | .str s => sp.str s
  | .arr elems => "[" ++ sp.writeElems elems ++ "]"
  | .obj fields => "\x7b" ++ sp.writeFields fields ++ "\x7d"

def Spelling.writeElems (sp : Spelling) : List Json → String
  | [] => ""
  | [j] => sp.write j
  | j :: js => sp.write j ++ ", " ++ sp.writeElems js

def Spelling.writeFields (sp : Spelling) : List (String × Json) → String
  | [] => ""
  | [(k, j)] => sp.str k ++ ": " ++ sp.write j
  | (k, j) :: fs => sp.str k ++ ": " ++ sp.write j ++ ", " ++ sp.writeFields fs

end

/-- `json.dumps` with its default separators `, ` and `: ` and `ensure_ascii=True`. -/
def dumps : Json → String := Spelling.write ⟨"null", fun b => if b then "true" else "false", quote⟩

/-- `repr` of a decoded value, which `str` and an f-string give for a dict or a list. -/
def pyRepr : Json → String := Spelling.write ⟨"None", fun b => if b then "True" else "False", reprStr⟩

/-- `str` of a decoded value: a string is itself, any other value its `repr`. -/
def pyStr : Json → String
  | .str s => s
  | j => j.pyRepr

example : dumps (.arr [.str "a\"b", .obj [("k", .num (-3)), ("é", .null)]]) =
    "[\"a\\\"b\", \x7b\"k\": -3, \"\\u00e9\": null\x7d]" := by decide

example : pyRepr (.obj [("tool", .str "it\x27s"), ("n", .bool true), ("x", .str "\x85")]) =
    "\x7b\x27tool\x27: \"it\x27s\", \x27n\x27: True, \x27x\x27: \x27\\x85\x27\x7d" := by decide

end Json

def startswith (s p : String) : Bool := p.data.isPrefixOf s.data

def endswith (s q : String) : Bool := q.data.isSuffixOf s.data

/-- The slice `s[i:-j]`. -/
def slice (s : String) (i j : Nat) : String := String.mk ((s.data.take (s.length - j)).drop i)

theorem startswith_append (p d : String) : startswith (p ++ d) p = true := by
  simp [startswith, List.isPrefixOf_iff_prefix]

theorem startswith_append_of_startswith {s p : String} (h : startswith s p = true) (t : String) :
    startswith (s ++ t) p = true := by
  rw [startswith, List.isPrefixOf_iff_prefix] at h ⊢
  exact h.trans (String.data_append s t ▸ List.prefix_append _ _)

theorem endswith_append (d q : String) : endswith (d ++ q) q = true := by
  simp [endswith, List.isSuffixOf_iff_suffix]

theorem slice_append (p d q : String) : slice (p ++ d ++ q) p.length q.length = d := by
  have hl : (p ++ d ++ q).length - q.length = (p.data ++ d.data).length := by
    simp only [String.length_append, List.length_append, Nat.add_sub_cancel]; rfl
  rw [slice, hl, String.data_append, String.data_append, List.take_left]
  exact congrArg String.mk (List.drop_left _ _)

@[simp] theorem String.join_nil : String.join [] = "" := rfl

theorem String.join_append (l₁ l₂ : List String) :
    String.join (l₁ ++ l₂) = String.join l₁ ++ String.join l₂ := by
  simp only [String.join_eq, List.map_append, List.flatten_append]; rfl

theorem String.join_cons (s : String) (l : List String) :
    String.join (s :: l) = s ++ String.join l := by
  simp only [String.join_eq, List.map_cons, List.flatten_cons]; rfl

/-- The value of the decimal digits `cs` read after the value `n`. -/
def readDigits (n : Nat) (cs : List Char) : Nat := cs.foldl (fun acc c => acc * 10 + (c.toNat - 48)) n

theorem digitChar_value : ∀ k < 10, (Nat.digitChar k).toNat - 48 = k := by decide

/-- The digits `Nat.toDigitsCore` writes before `acc`, given enough fuel, read back as the number. -/
theorem readDigits_toDigitsCore (f n : Nat) (acc : List Char) (hn : n < f) :
    readDigits 0 (Nat.toDigitsCore 10 f n acc) = readDigits n acc := by
  induction f generalizing n acc with
  | zero => omega
  | succ f ih =>
      have hcons : ∀ m, readDigits m (Nat.digitChar (n % 10) :: acc) = readDigits (m * 10 + n % 10) acc :=
        fun m => by rw [readDigits, List.foldl_cons, digitChar_value _ (Nat.mod_lt _ (by decide))]; rfl
      show readDigits 0 (if n / 10 = 0 then Nat.digitChar (n % 10) :: acc
        else Nat.toDigitsCore 10 f (n / 10) (Nat.digitChar (n % 10) :: acc)) = readDigits n acc
      split
      · rw [hcons, Nat.zero_mul, Nat.zero_add, Nat.mod_eq_of_lt (by omega)]
      · rw [ih (n / 10) _ (by omega), hcons, Nat.div_add_mod']

/-- `str` is injective on natural numbers. -/
theorem toString_nat_injective : Function.Injective (toString : Nat → String) := by
  intro a b h
  have key : ∀ n : Nat, readDigits 0 (toString n).data = n :=
    fun n => readDigits_toDigitsCore (n + 1) n [] (Nat.lt_succ_self n)
  rw [← key a, ← key b, h]

end LlamaStack
