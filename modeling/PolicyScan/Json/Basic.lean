import PolicyScan.Decimal.Binary64

/-!
# JSON values

A JSON number is either a whole number that 64 bits can hold, signed or not, or
a finite binary64 value.  An object is a list of fields.  Values that were read
keep their fields in strictly increasing key order (`Json.Canonical`), which is
also the order of the keys' UTF-8 bytes; `insertField` is the one operation
that builds such lists, and a later field replaces an earlier one of its name.
-/

namespace PolicyScan

/-- The whole numbers that a signed or an unsigned 64-bit word can hold. -/
def Number.InRange (value : Int) : Prop :=
  -0x8000000000000000 ≤ value ∧ value < 0x10000000000000000

instance (value : Int) : Decidable (Number.InRange value) :=
  inferInstanceAs (Decidable (_ ∧ _))

/-- A number of a JSON value. -/
inductive Number where
  /-- A whole number within 64 bits. -/
  | int (value : Int) (inRange : Number.InRange value)
  /-- A finite binary64 value, whole ones included. -/
  | float (value : Binary64)
deriving DecidableEq

/-- A JSON value. -/
inductive Json where
  | null
  | bool (value : Bool)
  | num (value : Number)
  | str (text : String)
  | arr (items : List Json)
  | obj (fields : List (String × Json))
deriving Inhabited

namespace Number

/-- The whole number, if it is in range. -/
def ofInt? (value : Int) : Option Number :=
  if h : InRange value then some (.int value h) else none

theorem ofInt?_eq_some {value : Int} (h : InRange value) :
    ofInt? value = some (.int value h) := by
  simp [ofInt?, h]

theorem eq_int_of_ofInt? {value : Int} {n : Number} (found : ofInt? value = some n) :
    ∃ h, n = .int value h := by
  unfold ofInt? at found
  split at found
  · rename_i h
    exact ⟨h, (Option.some.inj found).symm⟩
  · contradiction

/-- A natural number below `2 ^ 64`. -/
def ofWord (n : UInt64) : Number :=
  .int n.toNat ⟨by omega, by have := n.toNat_lt; omega⟩

/-- The number as documents write it. -/
def text : Number → String
  | .int value _ => toString value
  | .float value => value.documentText

end Number

namespace Json

/-- A whole number as a value, null if it is out of range. -/
def int (value : Int) : Json := (Number.ofInt? value).elim .null .num

/-- Put a field into a list sorted by key; a field of the same name goes. -/
def insertField (key : String) (value : Json) :
    List (String × Json) → List (String × Json)
  | [] => [(key, value)]
  | (k, v) :: rest =>
    if key < k then (key, value) :: (k, v) :: rest
    else if key = k then (key, value) :: rest
    else (k, v) :: insertField key value rest

/-- The object of the given fields, the last one of a name winning. -/
def ofFields (fields : List (String × Json)) : Json :=
  .obj (fields.foldl (fun acc (key, value) => insertField key value acc) [])

/-- The value of a field; none for anything but an object that has it. -/
def get? (key : String) : Json → Option Json
  | .obj fields => fields.lookup key
  | _ => none

/-- Whether the value is an object. -/
def isObject : Json → Bool
  | .obj _ => true
  | _ => false

/-- The text of a string value. -/
def text? : Json → Option String
  | .str text => some text
  | _ => none

/-- The items of an array value. -/
def items? : Json → Option (List Json)
  | .arr items => some items
  | _ => none

/-- A whole number value. -/
def int? : Json → Option Int
  | .num (.int value _) => some value
  | _ => none

/-- The truth value of a boolean value. -/
def bool? : Json → Option Bool
  | .bool value => some value
  | _ => none

mutual

/-- Every object of the value lists its keys in strictly increasing order. -/
def Canonical : Json → Prop
  | .arr items => CanonicalItems items
  | .obj fields => (fields.map Prod.fst).Pairwise (· < ·) ∧ CanonicalFields fields
  | _ => True

/-- Every item is canonical. -/
def CanonicalItems : List Json → Prop
  | [] => True
  | item :: rest => Canonical item ∧ CanonicalItems rest

/-- Every field's value is canonical. -/
def CanonicalFields : List (String × Json) → Prop
  | [] => True
  | (_, value) :: rest => Canonical value ∧ CanonicalFields rest

end

mutual

/-- How many collections are nested in one another, the value included. -/
def depth : Json → Nat
  | .arr items => depthItems items + 1
  | .obj fields => depthFields fields + 1
  | _ => 0

/-- The greatest depth of the items. -/
def depthItems : List Json → Nat
  | [] => 0
  | item :: rest => max (depth item) (depthItems rest)

/-- The greatest depth of the fields' values. -/
def depthFields : List (String × Json) → Nat
  | [] => 0
  | (_, value) :: rest => max (depth value) (depthFields rest)

end

end Json
end PolicyScan
