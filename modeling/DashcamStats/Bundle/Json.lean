import DashcamStats.Library.Binary64

namespace DashcamStats.Bundle

inductive Json
  | null
  | bool (value : Bool)
  | int (value : ℤ)
  | float (value : ℚ)
  -- A literal beyond the binary64 range, such as `1e999`.
  | infinity (negative : Bool)
  | str (value : String)
  | arr (items : List Json)
  | obj (members : List (String × Json))

def Json.IsNull : Json → Prop
  | .null => True
  | _ => False

instance : (value : Json) → Decidable value.IsNull
  | .null => isTrue trivial
  | .bool _ | .int _ | .float _ | .infinity _ | .str _ | .arr _ | .obj _ => isFalse id

-- `isinstance(value, str) and value in names`
def Json.IsOneOf (names : List String) : Json → Prop
  | .str s => s ∈ names
  | _ => False

instance (names : List String) : (value : Json) → Decidable (value.IsOneOf names)
  | .str s => inferInstanceAs (Decidable (s ∈ names))
  | .null | .bool _ | .int _ | .float _ | .infinity _ | .arr _ | .obj _ => isFalse id

def Json.asNumber : Json → Option ℚ
  | .bool b => some (if b then 1 else 0)
  | .int n => some n
  | .float q => some q
  | _ => none

def Json.asString : Json → Option String
  | .str s => some s
  | _ => none

inductive Raised
  | bundleError (message : String)
  | keyError (name : String)
  | typeError
  | overflowError
  | library (exception : String)
  deriving DecidableEq

abbrev Checked := Except Raised

@[simp] theorem ok_bind {α β : Type} (a : α) (f : α → Checked β) :
    ((.ok a : Checked α) >>= f) = f a := rfl

abbrev Members := List (String × Json)

-- `if cond: raise BundleError(message)`
def refuse (cond : Prop) [Decidable cond] (message : String) : Checked Unit :=
  if cond then .error (.bundleError message) else .ok ()

@[simp] theorem refuse_eq_ok {cond : Prop} [Decidable cond] {message : String} {u : Unit} :
    refuse cond message = .ok u ↔ ¬cond := by
  by_cases holds : cond <;> simp [refuse, holds]

theorem refuse_of_not {cond : Prop} [Decidable cond] {message : String} (holds : ¬cond) :
    refuse cond message = .ok () := by
  simp [holds]

-- `payload[name]`
def item (payload : Members) (name : String) : Checked Json :=
  match payload.lookup name with
  | some value => .ok value
  | none => .error (.keyError name)

-- `payload.get(name)`
def itemOrNull (payload : Members) (name : String) : Json := (payload.lookup name).getD .null

@[simp] theorem item_cons_self (name : String) (value : Json) (rest : Members) :
    item ((name, value) :: rest) name = .ok value := by
  simp [item]

theorem item_cons_of_ne {other name : String} (apart : name ≠ other) (value : Json)
    (rest : Members) : item ((other, value) :: rest) name = item rest name := by
  have differs : (name == other) = false := beq_false_of_ne apart
  simp [item, List.lookup_cons, differs]

theorem item_append_of_absent {first rest : Members} {name : String}
    (absent : first.lookup name = none) : item (first ++ rest) name = item rest name := by
  simp [item, List.lookup_append, absent]

def memberNames (payload : Members) : List String := payload.map Prod.fst

@[simp] theorem memberNames_append (first rest : Members) :
    memberNames (first ++ rest) = memberNames first ++ memberNames rest :=
  List.map_append

-- `set(payload) == required`
def KeysAre (payload : Members) (required : List String) : Prop :=
  (∀ key ∈ memberNames payload, key ∈ required) ∧ ∀ key ∈ required, key ∈ memberNames payload

instance (payload : Members) (required : List String) : Decidable (KeysAre payload required) :=
  inferInstanceAs (Decidable (_ ∧ _))

theorem keysAre_of_perm {payload : Members} {required : List String}
    (same : (memberNames payload).Perm required) : KeysAre payload required :=
  ⟨fun _ member => same.mem_iff.mp member, fun _ member => same.mem_iff.mpr member⟩

theorem lookup_eq_none {payload : Members} {name : String} (absent : name ∉ memberNames payload) :
    payload.lookup name = none := by
  apply List.lookup_eq_none_iff.mpr
  intro member listed
  simp only [bne_iff_ne]
  rintro rfl
  exact absent (List.mem_map_of_mem listed)

theorem mem_of_item {payload : Members} {name : String} {value : Json}
    (found : item payload name = .ok value) : name ∈ memberNames payload := by
  by_contra absent
  simp [item, lookup_eq_none absent] at found

theorem bind_eq_ok {α β : Type} {x : Checked α} {f : α → Checked β} {b : β} :
    x >>= f = .ok b ↔ ∃ a, x = .ok a ∧ f a = .ok b := by
  cases x with
  | error raised => simp [bind, Except.bind]
  | ok a => simp

def integer (value : Json) (fieldName : String) (minimum maximum : ℤ) : Checked ℤ :=
  match value with
  | .int n =>
    if minimum ≤ n ∧ n ≤ maximum then .ok n
    else .error (.bundleError s!"{fieldName} must be an integer in [{minimum}, {maximum}]")
  | _ => .error (.bundleError s!"{fieldName} must be an integer in [{minimum}, {maximum}]")

theorem integer_ok {n minimum maximum : ℤ} {fieldName : String} (low : minimum ≤ n)
    (high : n ≤ maximum) : integer (.int n) fieldName minimum maximum = .ok n := by
  simp [integer, low, high]

-- `float(value)` of an integer.
def toFloat (n : ℤ) : Checked ℚ :=
  if |Binary64.round n| < 2 ^ 1024 then .ok (Binary64.round n) else .error .overflowError

theorem toFloat_ok {n : ℤ} (narrow : |n| < 2 ^ 53) : toFloat n = .ok n := by
  have exact_value := Binary64.round_intCast narrow
  have small : |(n : ℚ)| < 2 ^ 53 := by exact_mod_cast narrow
  have finite : |(n : ℚ)| < 2 ^ 1024 :=
    small.trans (pow_lt_pow_right₀ one_lt_two (by omega))
  simp [toFloat, exact_value, finite]

-- The bounds of `_number`.
def inRange (result : ℚ) (fieldName : String) (minimum maximum : Option ℤ) : Checked (Option ℚ) :=
  match minimum, maximum with
  | some least, some most =>
    if result < least then .error (.bundleError s!"{fieldName} is below {least}")
    else if (most : ℚ) < result then .error (.bundleError s!"{fieldName} is above {most}")
    else .ok result
  | some least, none =>
    if result < least then .error (.bundleError s!"{fieldName} is below {least}") else .ok result
  | none, some most =>
    if (most : ℚ) < result then .error (.bundleError s!"{fieldName} is above {most}")
    else .ok result
  | none, none => .ok result

def number (value : Json) (fieldName : String) (minimum maximum : Option ℤ) (nullable : Bool) :
    Checked (Option ℚ) :=
  match value with
  | .null =>
    if nullable then .ok none
    else .error (.bundleError s!"{fieldName} must be numeric or null")
  | .int n => do inRange (← toFloat n) fieldName minimum maximum
  | .float q => inRange q fieldName minimum maximum
  | .infinity _ => .error (.bundleError s!"{fieldName} must be finite")
  | _ => .error (.bundleError s!"{fieldName} must be numeric or null")

-- A number that is not `None`, which cannot be compared.
def present : Option ℚ → Checked ℚ
  | some q => .ok q
  | none => .error .typeError

theorem inRange_ok {q : ℚ} {least most : ℤ} {fieldName : String} (low : (least : ℚ) ≤ q)
    (high : q ≤ most) : inRange q fieldName (some least) (some most) = .ok (some q) := by
  simp [inRange, not_lt.mpr low, not_lt.mpr high]

theorem number_int {n least most : ℤ} {fieldName : String} {nullable : Bool} (low : least ≤ n)
    (high : n ≤ most) (narrow : |n| < 2 ^ 53) :
    number (.int n) fieldName (some least) (some most) nullable = .ok (some n) := by
  simp only [number, toFloat_ok narrow]
  exact inRange_ok (by exact_mod_cast low) (by exact_mod_cast high)

def Json.double (q : ℚ) : Json := if q.den = 1 then .int q.num else .float q

theorem number_double {q : ℚ} {least most : ℤ} {fieldName : String} {nullable : Bool}
    (low : (least : ℚ) ≤ q) (high : q ≤ most) (narrow : |q| < 2 ^ 53) :
    number (.double q) fieldName (some least) (some most) nullable = .ok (some q) := by
  by_cases integral : q.den = 1
  · have value : (q.num : ℚ) = q := Rat.coe_int_num_of_den_eq_one integral
    rw [← value] at low high narrow
    simp only [Json.double, integral, ↓reduceIte]
    rw [number_int (by exact_mod_cast low) (by exact_mod_cast high) (by exact_mod_cast narrow),
      value]
  · simp only [Json.double, integral, ↓reduceIte, number]
    exact inRange_ok low high

theorem number_half {n most : ℕ} {fieldName : String} {nullable : Bool} (high : n ≤ 2 * most)
    (small : most < 2 ^ 53) :
    number (.double (n / 2)) fieldName (some 0) (some most) nullable = .ok (some (n / 2)) := by
  have upper : (n / 2 : ℚ) ≤ most := by
    have doubled : (n : ℚ) ≤ 2 * most := by exact_mod_cast high
    linarith
  have most_small : (most : ℚ) < 2 ^ 53 := by exact_mod_cast small
  apply number_double (by positivity) (by exact_mod_cast upper)
  rw [abs_of_nonneg (by positivity)]
  exact upper.trans_lt most_small

end DashcamStats.Bundle
