/-!
# Document values

* `Binary64`: a floating-point number by its bits, so that equal numbers are equal terms;
* `Number`, `Value`: the values of a document;
* `Members`: the members of an object, in the order of their names, each name once.
-/

namespace SigningKeys.Json

/-- A floating-point number of 64 bits. -/
structure Binary64 where
  bits : UInt64
deriving DecidableEq

/-- A number: an integer between `-2 ^ 63` and `2 ^ 64 - 1`, or a floating-point number. -/
inductive Number where
  | int (n : Int)
  | float (f : Binary64)
deriving DecidableEq

/-- A value of a document. -/
inductive Value where
  | null
  | bool (b : Bool)
  | num (n : Number)
  | str (s : String)
  | arr (items : List Value)
  | obj (members : List (String × Value))

instance : Inhabited Value := ⟨.null⟩

mutual

/-- Equality of values is decided part by part. -/
def Value.decEq : (a b : Value) → Decidable (a = b)
  | .null, .null => .isTrue rfl
  | .bool a, .bool b => decidable_of_iff (a = b) (by simp)
  | .num a, .num b => decidable_of_iff (a = b) (by simp)
  | .str a, .str b => decidable_of_iff (a = b) (by simp)
  | .arr a, .arr b =>
    match Value.decEqItems a b with
    | .isTrue h => .isTrue (by rw [h])
    | .isFalse h => .isFalse (by simpa using h)
  | .obj a, .obj b =>
    match Value.decEqMembers a b with
    | .isTrue h => .isTrue (by rw [h])
    | .isFalse h => .isFalse (by simpa using h)
  | .null, .bool _ | .null, .num _ | .null, .str _ | .null, .arr _ | .null, .obj _
  | .bool _, .null | .bool _, .num _ | .bool _, .str _ | .bool _, .arr _ | .bool _, .obj _
  | .num _, .null | .num _, .bool _ | .num _, .str _ | .num _, .arr _ | .num _, .obj _
  | .str _, .null | .str _, .bool _ | .str _, .num _ | .str _, .arr _ | .str _, .obj _
  | .arr _, .null | .arr _, .bool _ | .arr _, .num _ | .arr _, .str _ | .arr _, .obj _
  | .obj _, .null | .obj _, .bool _ | .obj _, .num _ | .obj _, .str _ | .obj _, .arr _ =>
    .isFalse (by simp)

/-- Equality of lists of values. -/
def Value.decEqItems : (a b : List Value) → Decidable (a = b)
  | [], [] => .isTrue rfl
  | [], _ :: _ => .isFalse (by simp)
  | _ :: _, [] => .isFalse (by simp)
  | a :: as, b :: bs =>
    match Value.decEq a b, Value.decEqItems as bs with
    | .isTrue h, .isTrue hs => .isTrue (by rw [h, hs])
    | .isFalse h, _ => .isFalse (by simp [h])
    | _, .isFalse hs => .isFalse (by simp [hs])

/-- Equality of lists of named values. -/
def Value.decEqMembers : (a b : List (String × Value)) → Decidable (a = b)
  | [], [] => .isTrue rfl
  | [], _ :: _ => .isFalse (by simp)
  | _ :: _, [] => .isFalse (by simp)
  | (k, a) :: as, (l, b) :: bs =>
    match instDecidableEqString k l, Value.decEq a b, Value.decEqMembers as bs with
    | .isTrue hk, .isTrue h, .isTrue hs => .isTrue (by rw [hk, h, hs])
    | .isFalse hk, _, _ => .isFalse (by simp [hk])
    | _, .isFalse h, _ => .isFalse (by simp [h])
    | _, _, .isFalse hs => .isFalse (by simp [hs])

end

instance : DecidableEq Value := Value.decEq

/-- Named values in the order of their names. -/
abbrev Members := List (String × Value)

namespace Members

/-- The members with `name` standing for `v`, whatever it stood for before. -/
def insert (name : String) (v : Value) : Members → Members
  | [] => [(name, v)]
  | (k, w) :: rest =>
    if name = k then (name, v) :: rest
    else if name < k then (name, v) :: (k, w) :: rest
    else (k, w) :: insert name v rest

/-- The value of a name. -/
def get? (name : String) : Members → Option Value
  | [] => none
  | (k, w) :: rest => if name = k then some w else get? name rest

/-- Members given in any order; the last value of a name counts. -/
def ofList (entries : List (String × Value)) : Members :=
  entries.foldl (fun m e => insert e.1 e.2 m) []

@[simp] theorem get?_insert_self (name : String) (v : Value) (m : Members) :
    get? name (insert name v m) = some v := by
  induction m with
  | nil => simp [insert, get?]
  | cons e rest ih =>
    obtain ⟨k, w⟩ := e
    by_cases h : name = k
    · simp [insert, get?, h]
    · by_cases hlt : name < k
      · simp [insert, get?, h, hlt]
      · simp [insert, get?, h, hlt, ih]

theorem get?_insert_of_ne {name other : String} (v : Value) (m : Members) (h : other ≠ name) :
    get? other (insert name v m) = get? other m := by
  induction m with
  | nil => simp [insert, get?, h]
  | cons e rest ih =>
    obtain ⟨k, w⟩ := e
    by_cases hk : name = k
    · subst hk; simp [insert, get?, h]
    · by_cases hlt : name < k
      · simp [insert, get?, hk, hlt, h]
      · simp [insert, get?, hk, hlt, ih]

end Members

namespace Value

/-- The object with the given members, in any order; the last value of a name counts. -/
def object (entries : List (String × Value)) : Value := .obj (Members.ofList entries)

/-- A whole number as a value. -/
def ofNat (n : Nat) : Value := .num (.int n)

/-- The text that a value is. -/
def text? : Value → Option String
  | .str s => some s
  | _ => none

/-- The texts that a list of values is. -/
def texts? : List Value → Option (List String)
  | [] => some []
  | .str s :: rest => (texts? rest).map (s :: ·)
  | _ :: _ => none

end Value

end SigningKeys.Json
