import PolicyScan.Json.Reader
import PolicyScan.Yaml.Token

/-!
# Values of YAML scalars

A plain scalar is nothing, a truth value, a number or a text, by its spelling.
A quoted one is a text.  A tag of the standard schema asks for one kind, and
any other global tag for a text; local tags have no meaning.
-/

namespace PolicyScan.Yaml

/-- The spellings of nothing, the empty one aside. -/
def isNullWord (text : List Char) : Bool :=
  ["null", "Null", "NULL", "~"].contains (String.ofList text)

/-- The truth value of a word. -/
def boolWord? (text : List Char) : Option Bool :=
  let word := String.ofList text
  if ["true", "True", "TRUE"].contains word then some true
  else if ["false", "False", "FALSE"].contains word then some false
  else none

/-- The number of a row of digits of a base. -/
def digitsIn? (base : Nat) (digits : List Char) : Option Nat :=
  if digits = [] then none
  else digits.foldlM (fun n d =>
    (Json.hexValue? d).bind fun v => if v < base then some (n * base + v) else none) 0

/-- The base that a letter after a zero stands for. -/
def base? : Char → Option Nat
  | 'x' => some 16
  | 'o' => some 8
  | 'b' => some 2
  | _ => none

/-- Digits with an optional mark of their base. -/
def magnitude? (text : List Char) : Option Nat :=
  match text with
  | '0' :: mark :: digits =>
    match base? mark with
    | some base => digitsIn? base digits
    | none => digitsIn? 10 text
  | text => digitsIn? 10 text

/-- Decimal digits that start with a needless zero make no number. -/
def hasLeadingZero (text : List Char) : Bool :=
  let digits := match text with
    | '-' :: rest => rest
    | '+' :: rest => rest
    | text => text
  match digits with
  | '0' :: rest => rest ≠ [] && rest.all Json.isDigit
  | _ => false

/-- A whole number: digits with an optional sign. -/
def wholeNumber? (text : List Char) : Option Int :=
  if hasLeadingZero text then none
  else match text with
    | '+' :: rest => (magnitude? rest).map Int.ofNat
    | '-' :: rest => (magnitude? rest).map fun n => -(n : Int)
    | text => (magnitude? text).map Int.ofNat

/-- A decimal number with a point or an exponent or neither, without a sign:
its digits as a whole number and the power of ten of the last one. -/
def decimal? (text : List Char) : Option (Nat × Int) :=
  let (whole, rest) := Json.digits text
  let (fraction, rest) := match rest with
    | '.' :: rest => Json.digits rest
    | rest => ([], rest)
  if whole = [] ∧ fraction = [] then none
  else
    let value := Json.decimalValue (whole ++ fraction)
    let places : Int := fraction.length
    let exponent (s : List Char) : Option (Nat × Int) :=
      let (down, s) := Json.exponentSign s
      match Json.digits s with
      | ([], _) => none
      | (ds, []) =>
        let e : Int := Json.decimalValue ds
        some (value, (if down then -e else e) - places)
      | _ => none
    match rest with
    | [] => some (value, -places)
    | 'e' :: rest => exponent rest
    | 'E' :: rest => exponent rest
    | _ => none

/-- A number as a text writes it, which may be none that JSON can hold. -/
inductive Real where
  | finite (value : Binary64)
  | infinite
  | undefined

/-- The number of a text that is no whole number. -/
def real? (text : List Char) : Option Real :=
  let word := String.ofList text
  let unsigned := match text with
    | '+' :: rest => rest
    | text => text
  if text.head? = some '+' ∧ (unsigned.head? = some '+' ∨ unsigned.head? = some '-') then none
  else if [".inf", ".Inf", ".INF"].contains (String.ofList unsigned) then some .infinite
  else if ["-.inf", "-.Inf", "-.INF"].contains word then some .infinite
  else if [".nan", ".NaN", ".NAN"].contains word then some .undefined
  else
    let (negative, digits) := match unsigned with
      | '-' :: rest => (true, rest)
      | '+' :: rest => (false, rest)
      | rest => (false, rest)
    (decimal? digits).bind fun (n, e) => (Binary64.ofDecimal negative n e).map .finite

/-- A number as a value; infinities and undefined ones are nothing. -/
def Real.toJson : Real → Json
  | .finite value => .num (.float value)
  | .infinite => .null
  | .undefined => .null

/-- A whole number as a value.  One that 128 bits can hold must fit 64 bits; a
larger one is left to be read as a real number. -/
def wholeValue? (text : List Char) : Except Fault (Option Json) :=
  match wholeNumber? text with
  | none => .ok none
  | some n =>
    match Number.ofInt? n with
    | some n => .ok (some (.num n))
    | none =>
      if -0x80000000000000000000000000000000 ≤ n ∧ n < 0x100000000000000000000000000000000 then
        .error .numberOutOfRange
      else .ok none

/-- The value of a plain scalar without a tag. -/
def plainValue (text : List Char) : Except Fault Json := do
  if text = [] ∨ isNullWord text then return .null
  if let some b := boolWord? text then return .bool b
  if let some value ← wholeValue? text then return value
  if !hasLeadingZero text then
    if let some value := real? text then return value.toJson
  return .str (String.ofList text)

/-- The value of a scalar. -/
def scalarValue (tag : Option (List Char)) (plain : Bool) (text : List Char) :
    Except Fault Json := do
  match tag.map String.ofList with
  | none => if plain then plainValue text else return .str (String.ofList text)
  | some "tag:yaml.org,2002:null" =>
    if isNullWord text then return .null else throw .valueDoesNotFitTag
  | some "tag:yaml.org,2002:bool" =>
    match boolWord? text with
    | some b => return .bool b
    | none => throw .valueDoesNotFitTag
  | some "tag:yaml.org,2002:int" =>
    match ← wholeValue? text with
    | some value => return value
    | none => throw .valueDoesNotFitTag
  | some "tag:yaml.org,2002:float" =>
    match real? text with
    | some value => return value.toJson
    | none => throw .valueDoesNotFitTag
  | some tag =>
    if tag.toList.head? = some '!' then throw .tagNotSupported
    else return .str (String.ofList text)

end PolicyScan.Yaml
