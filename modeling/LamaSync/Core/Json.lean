import Mathlib.Data.Rat.Lemmas

/-!
# JSON values as the handlers see them

The body of a request and a JSON column of a row reach the code as parsed values of unknown shape.  Reading a field
of a value that is not an object gives `undefined`, here `none`.  The fields of an object are listed with the field
that wins first, so the spread `{ ...a, ...b }` is `b ++ a`.
-/

namespace LamaSync

/-- A parsed JSON value.  `overflow` is a number literal beyond the range of a double, which `JSON.parse` turns into
an infinity. -/
inductive Json where
  | null
  | bool (b : Bool)
  | num (q : ℚ)
  | overflow
  | str (s : String)
  | arr (items : List Json)
  | obj (fields : List (String × Json))

namespace Json

/-- `typeof value === "object" && value !== null`. -/
def isRecord : Json → Bool
  | arr _ | obj _ => true
  | _ => false

def field : Json → String → Option Json
  | obj fields, key => fields.lookup key
  | _, _ => none

def spread : Json → Json → Json
  | obj a, obj b => obj (b ++ a)
  | a, _ => a

@[simp] theorem field_obj (fields : List (String × Json)) (key : String) :
    (obj fields).field key = fields.lookup key := rfl

def ofNullableString : Option String → Json
  | some s => str s
  | none => null

def stringOrNull : Option Json → Option String
  | some (str s) => some s
  | _ => none

@[simp] theorem stringOrNull_ofNullableString (s : Option String) :
    stringOrNull (some (ofNullableString s)) = s := by
  cases s <;> rfl

def isNull : Option Json → Bool
  | none | some null => true
  | _ => false

end Json

def maxSafeInteger : Int := 9007199254740991

abbrev PositiveInt := { n : Int // 0 < n ∧ n ≤ maxSafeInteger }

def PositiveInt.toJson (n : PositiveInt) : Json := .num (n.val : ℚ)

def positiveIntOrNull : Option Json → Option PositiveInt
  | some (.num q) => if h : q.den = 1 ∧ 0 < q.num ∧ q.num ≤ maxSafeInteger then some ⟨q.num, h.2⟩ else none
  | _ => none

def positiveIntOrZero (value : Option Json) : Int :=
  match positiveIntOrNull value with
  | some n => n.val
  | none => 0

def ofNullableInt : Option PositiveInt → Json
  | some n => n.toJson
  | none => .null

@[simp] theorem positiveIntOrNull_ofNullableInt (n : Option PositiveInt) :
    positiveIntOrNull (some (ofNullableInt n)) = n := by
  cases n with
  | none => rfl
  | some n =>
    have hn : ((n.val : ℚ).den = 1 ∧ 0 < (n.val : ℚ).num ∧ (n.val : ℚ).num ≤ maxSafeInteger) := by
      rw [Rat.num_intCast, Rat.den_intCast]; exact ⟨rfl, n.property⟩
    simp only [ofNullableInt, PositiveInt.toJson, positiveIntOrNull]
    rw [dif_pos hn]
    simp only [Rat.num_intCast]

end LamaSync
