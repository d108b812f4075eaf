import PolicyScan.Decimal.Exact
import PolicyScan.Json.Writer

/-!
# Values of Rego

Beside the values of JSON there are sets, and any value can be a key of an
object.  All values are ordered: by their kind first, numbers by size, texts
by code points, and collections item by item.  Sets and objects are lists in
this order without repetition.
-/

namespace PolicyScan.Rego

/-- A value. -/
inductive Value where
  | null
  | bool (value : Bool)
  | num (value : Decimal)
  | str (text : String)
  | arr (items : List Value)
  /-- The members in increasing order. -/
  | set (members : List Value)
  /-- The fields in increasing order of their keys. -/
  | obj (fields : List (Value × Value))
deriving Inhabited

namespace Value

/-- The place of a value's kind in the order. -/
def rank : Value → Nat
  | .null => 0
  | .bool _ => 1
  | .num _ => 2
  | .str _ => 3
  | .arr _ => 4
  | .set _ => 5
  | .obj _ => 6

mutual

/-- The order of two values. -/
def cmp : Value → Value → Ordering
  | .bool a, .bool b => compare a.toNat b.toNat
  | .num a, .num b => a.cmp b
  | .str a, .str b => compare a b
  | .arr a, .arr b => cmpItems a b
  | .set a, .set b => cmpItems a b
  | .obj a, .obj b => cmpFields a b
  | a, b => compare a.rank b.rank

/-- The order of two rows: by the first difference, and a row after its
beginnings. -/
def cmpItems : List Value → List Value → Ordering
  | [], [] => .eq
  | [], _ :: _ => .lt
  | _ :: _, [] => .gt
  | a :: as, b :: bs => (cmp a b).then (cmpItems as bs)

/-- The order of two rows of fields. -/
def cmpFields : List (Value × Value) → List (Value × Value) → Ordering
  | [], [] => .eq
  | [], _ :: _ => .lt
  | _ :: _, [] => .gt
  | (ka, a) :: as, (kb, b) :: bs => ((cmp ka kb).then (cmp a b)).then (cmpFields as bs)

end

/-- Whether two values are equal. -/
def same (a b : Value) : Bool := cmp a b == .eq

/-- A whole number. -/
def ofNat (n : Nat) : Value := .num (.ofInt n)

/-- Put a value into a list of members. -/
def insertMember (v : Value) : List Value → List Value
  | [] => [v]
  | m :: rest =>
    match cmp v m with
    | .lt => v :: m :: rest
    | .eq => m :: rest
    | .gt => m :: insertMember v rest

/-- The set of the given values. -/
def ofMembers (items : List Value) : Value :=
  .set (items.foldl (fun acc v => insertMember v acc) [])

/-- The value of a key in a list of fields. -/
def lookup (key : Value) : List (Value × Value) → Option Value
  | [] => none
  | (k, v) :: rest => if same key k then some v else lookup key rest

/-- Put a field into a list of fields; a field of the same key goes. -/
def insertField (key value : Value) : List (Value × Value) → List (Value × Value)
  | [] => [(key, value)]
  | (k, v) :: rest =>
    match cmp key k with
    | .lt => (key, value) :: (k, v) :: rest
    | .eq => (k, value) :: rest
    | .gt => (k, v) :: insertField key value rest

/-- The object of the given fields, the last one of a key winning. -/
def ofFields (fields : List (Value × Value)) : Value :=
  .obj (fields.foldl (fun acc (k, v) => insertField k v acc) [])

/-- What stands at a key of a collection: an item by its index, a member by
itself, a field by its key. -/
def get? (v key : Value) : Option Value :=
  match v, key with
  | .arr items, .num n =>
    match n.toInt? with
    | some (.ofNat i) => items[i]?
    | _ => none
  | .set members, key => members.find? (same key)
  | .obj fields, key => lookup key fields
  | _, _ => none

/-- The keys and values of a collection; none for another value. -/
def entries? : Value → Option (List (Value × Value))
  | .arr items => some (items.zipIdx.map fun (item, i) => (ofNat i, item))
  | .set members => some (members.map fun m => (m, m))
  | .obj fields => some fields
  | _ => none

/-- What stands below a row of keys. -/
def path? (v : Value) : List String → Option Value
  | [] => some v
  | key :: rest => (v.get? (.str key)).bind fun v => v.path? rest

/-! ## Text -/

mutual

/-- A value inside of a collection as a text; `plain` leaves out the quotes of
a text that stands alone. -/
def text (plain : Bool) : Value → String
  | .null => "null"
  | .bool true => "true"
  | .bool false => "false"
  | .num n => n.text
  | .str s => if plain then s else String.ofList (Json.quote s.toList)
  | .arr items => "[" ++ ", ".intercalate (textItems items) ++ "]"
  | .set members => "\x7b" ++ ", ".intercalate (textItems members) ++ "\x7d"
  | .obj fields => "\x7b" ++ ", ".intercalate (textFields fields) ++ "\x7d"

/-- The texts of items. -/
def textItems : List Value → List String
  | [] => []
  | item :: rest => text false item :: textItems rest

/-- The texts of fields. -/
def textFields : List (Value × Value) → List String
  | [] => []
  | (k, v) :: rest => (text false k ++ ": " ++ text false v) :: textFields rest

end

/-! ## JSON -/

mutual

/-- A JSON value. -/
def ofJson : Json → Value
  | .null => .null
  | .bool b => .bool b
  | .num (.int n _) => .num (.ofInt n)
  | .num (.float x) => .num (.ofBinary64 x)
  | .str s => .str s
  | .arr items => .arr (ofJsonItems items)
  | .obj fields => ofFields (ofJsonFields fields)

/-- The values of items. -/
def ofJsonItems : List Json → List Value
  | [] => []
  | item :: rest => ofJson item :: ofJsonItems rest

/-- The values of fields. -/
def ofJsonFields : List (String × Json) → List (Value × Value)
  | [] => []
  | (k, v) :: rest => (.str k, ofJson v) :: ofJsonFields rest

end

/-- A number as JSON: whole ones within 64 bits as they are, others as the
nearest binary64 value; none if there is none. -/
def numberToJson (n : Decimal) : Option Json :=
  match n.toInt?.bind Number.ofInt? with
  | some n => some (.num n)
  | none => n.toBinary64?.map fun x => .num (.float x)

mutual

/-- The JSON value: a set becomes an array, and a key that is no text becomes
the text of its JSON value. -/
def toJson? : Value → Option Json
  | .null => some .null
  | .bool b => some (.bool b)
  | .num n => numberToJson n
  | .str s => some (.str s)
  | .arr items => (toJsonItems items).map .arr
  | .set members => (toJsonItems members).map .arr
  | .obj fields => (toJsonFields fields).map .obj

/-- The JSON values of items. -/
def toJsonItems : List Value → Option (List Json)
  | [] => some []
  | item :: rest => do return (← toJson? item) :: (← toJsonItems rest)

/-- The fields of an object. -/
def toJsonFields : List (Value × Value) → Option (List (String × Json))
  | [] => some []
  | (.str k, v) :: rest => do return (k, ← toJson? v) :: (← toJsonFields rest)
  | (k, v) :: rest => do
    return ((← toJson? k).compact, ← toJson? v) :: (← toJsonFields rest)

end

end Value
end PolicyScan.Rego
