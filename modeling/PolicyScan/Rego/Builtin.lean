import PolicyScan.Json.Reader
import PolicyScan.Rego.Fault
import PolicyScan.Rego.Term
import PolicyScan.Text.Uppercase

/-!
# Operators and functions of Rego

A function or an operator that is given values of a kind it is not made for
fails; none of those here lacks a value otherwise.
-/

namespace PolicyScan.Rego

open Value (same)

/-! ## Operators -/

/-- The remainder of two whole numbers, with the sign of the first. -/
def remainder (a b : Decimal) : Except Fault Decimal :=
  match a.toInt?, b.toInt? with
  | some _, some 0 => .error .divisionByZero
  | some a, some b => .ok (.ofInt (a.tmod b))
  | _, _ => .error .remainderOfFraction

/-- The value of an operator on two values. -/
def BinaryOp.apply (op : BinaryOp) (a b : Value) : Except Fault Value :=
  match op, a, b with
  | .equal, a, b => .ok (.bool (same a b))
  | .notEqual, a, b => .ok (.bool (!same a b))
  | .less, a, b => .ok (.bool (a.cmp b == .lt))
  | .lessEqual, a, b => .ok (.bool (a.cmp b != .gt))
  | .greater, a, b => .ok (.bool (a.cmp b == .gt))
  | .greaterEqual, a, b => .ok (.bool (a.cmp b != .lt))
  | .union, .set a, .set b => .ok (.ofMembers (a ++ b))
  | .intersection, .set a, .set b => .ok (.set (a.filter fun v => b.any (same v)))
  | .subtract, .set a, .set b => .ok (.set (a.filter fun v => !b.any (same v)))
  | .add, .num a, .num b => .ok (.num (a.add b))
  | .subtract, .num a, .num b => .ok (.num (a.sub b))
  | .multiply, .num a, .num b => .ok (.num (a.mul b))
  | .divide, .num a, .num b =>
    match a.div? b with
    | some c => .ok (.num c)
    | none => .error .divisionByZero
  | .modulo, .num a, .num b => (remainder a b).map .num
  | op, _, _ => .error (.argumentKind op.sign)

/-- The number with the other sign. -/
def negateValue : Value → Except Fault Value
  | .num a => .ok (.num a.neg)
  | _ => .error (.argumentKind "-")

/-- Whether one of the values of a collection is `item`; nothing else holds
values. -/
def Value.holds (collection item : Value) : Bool :=
  (collection.entries?.getD []).any fun (_, v) => same v item

/-- Whether a collection has the value `item` at `key`. -/
def Value.holdsAt (collection key item : Value) : Bool :=
  (collection.get? key).any (same · item)

/-! ## Formats -/

/-- Put values into a text at the verbs `%d`, `%s` and `%v`; a doubled percent
sign stands for itself. -/
def formatText : List Char → List Value → Except Fault (List Char)
  | [], [] => .ok []
  | [], _ :: _ => .error .format
  | '%' :: '%' :: rest, args => (formatText rest args).map ('%' :: ·)
  | '%' :: 'd' :: rest, .num n :: args =>
    if n.toInt?.isSome then (formatText rest args).map (n.text.toList ++ ·) else .error .format
  | '%' :: verb :: rest, arg :: args =>
    if verb = 's' || verb = 'v' then (formatText rest args).map ((arg.text true).toList ++ ·)
    else .error .format
  | '%' :: _, _ => .error .format
  | c :: rest, args => (formatText rest args).map (c :: ·)

/-! ## Functions -/

/-- The number of things in a collection, or of characters in a text. -/
def sizeOf : Value → Except Fault Value
  | .arr items => .ok (.ofNat items.length)
  | .set members => .ok (.ofNat members.length)
  | .obj fields => .ok (.ofNat fields.length)
  | .str s => .ok (.ofNat s.length)
  | _ => .error (.argumentKind "count")

/-- The text of a value that is one. -/
def textOf (function : String) : Value → Except Fault String
  | .str s => .ok s
  | _ => .error (.argumentKind function)

/-- The items of an array or the members of a set. -/
def itemsOf (function : String) : Value → Except Fault (List Value)
  | .arr items | .set items => .ok items
  | _ => .error (.argumentKind function)

/-- The number that a text writes as JSON does, without blanks around it. -/
def numberOfText? (s : String) : Option Value :=
  match Json.parse s with
  | .ok (.num n) => if s.toList.any Json.isBlank then none else some (.ofJson (.num n))
  | _ => none

/-- The number that a value stands for. -/
def numberOf : Value → Except Fault Value
  | .null => .ok (.ofNat 0)
  | .bool b => .ok (.ofNat b.toNat)
  | .num n => .ok (.num n)
  | .str s =>
    match numberOfText? s with
    | some n => .ok n
    | none => .error (.argumentKind "to_number")
  | _ => .error (.argumentKind "to_number")

/-- The keys of an object. -/
def keysOf : Value → Except Fault Value
  | .obj fields => .ok (.set (fields.map Prod.fst))
  | _ => .error (.argumentKind "object.keys")

/-- The functions that every module knows, by name. -/
inductive Builtin where
  | concat
  | count
  | objectKeys
  | sprintf
  | startsWith
  | toNumber
  | upper
deriving DecidableEq, Repr

namespace Builtin

/-- The function of a name. -/
def ofName? : String → Option Builtin
  | "concat" => some .concat
  | "count" => some .count
  | "object.keys" => some .objectKeys
  | "sprintf" => some .sprintf
  | "startswith" => some .startsWith
  | "to_number" => some .toNumber
  | "upper" => some .upper
  | _ => none

/-- The value of a function. -/
def apply : Builtin → List Value → Except Fault Value
  | .concat, [delimiter, parts] => do
    let delimiter ← textOf "concat" delimiter
    let parts ← (← itemsOf "concat" parts).mapM (textOf "concat")
    .ok (.str (delimiter.intercalate parts))
  | .concat, _ => .error (.argumentCount "concat")
  | .count, [v] => sizeOf v
  | .count, _ => .error (.argumentCount "count")
  | .objectKeys, [v] => keysOf v
  | .objectKeys, _ => .error (.argumentCount "object.keys")
  | .sprintf, [.str format, .arr args] =>
    (formatText format.toList args).map fun cs => .str (String.ofList cs)
  | .sprintf, [_, _] => .error (.argumentKind "sprintf")
  | .sprintf, _ => .error (.argumentCount "sprintf")
  | .startsWith, [s, start] => do
    let s ← textOf "startswith" s
    let start ← textOf "startswith" start
    .ok (.bool (start.toList.isPrefixOf s.toList))
  | .startsWith, _ => .error (.argumentCount "startswith")
  | .toNumber, [v] => numberOf v
  | .toNumber, _ => .error (.argumentCount "to_number")
  | .upper, [v] => (textOf "upper" v).map fun s => .str (Text.upper s)
  | .upper, _ => .error (.argumentCount "upper")

end Builtin
end PolicyScan.Rego
