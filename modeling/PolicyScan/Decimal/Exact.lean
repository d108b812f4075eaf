import PolicyScan.Decimal.Binary64

/-!
# Exact decimal numbers

A decimal number is a whole number of units of a power of ten.  Sums,
differences and products are exact; a quotient is cut off after a hundred
digits when it does not end before.
-/

namespace PolicyScan

/-- The number `units * 10 ^ exponent`. -/
structure Decimal where
  units : Int
  exponent : Int := 0
deriving DecidableEq, Repr, Inhabited

namespace Decimal

/-- A whole number. -/
def ofInt (n : Int) : Decimal := ⟨n, 0⟩

/-- The units of a number when the last digit stands at `10 ^ e`, for `e` not
above the exponent. -/
def unitsAt (x : Decimal) (e : Int) : Int := x.units * Int.pow 10 (x.exponent - e).toNat

/-- The lower of two exponents. -/
def commonExponent (x y : Decimal) : Int := min x.exponent y.exponent

/-- The order of two numbers. -/
def cmp (x y : Decimal) : Ordering :=
  let e := commonExponent x y
  compare (x.unitsAt e) (y.unitsAt e)

/-- The same number without trailing zeros in its units. -/
def strip (x : Decimal) : Decimal :=
  if x.units = 0 then ⟨0, 0⟩
  else
    let n := x.units.natAbs
    let (n, e) := Binary64.stripZeros (Binary64.digitCount n) n x.exponent
    ⟨if x.units < 0 then -(n : Int) else n, e⟩

/-- The sum. -/
def add (x y : Decimal) : Decimal :=
  let e := commonExponent x y
  strip ⟨x.unitsAt e + y.unitsAt e, e⟩

/-- The number with the other sign. -/
def neg (x : Decimal) : Decimal := ⟨-x.units, x.exponent⟩

/-- The difference. -/
def sub (x y : Decimal) : Decimal := add x y.neg

/-- The product. -/
def mul (x y : Decimal) : Decimal := strip ⟨x.units * y.units, x.exponent + y.exponent⟩

/-- The number of digits that a quotient is cut off after. -/
def precision : Nat := 100

/-- The quotient; none by zero. -/
def div? (x y : Decimal) : Option Decimal :=
  if y.units = 0 then none
  else
    let shift := precision + Binary64.digitCount y.units.natAbs
    some (strip ⟨Int.tdiv (x.units * Int.pow 10 shift) y.units, x.exponent - y.exponent - shift⟩)

/-- The number as a whole one, if it is. -/
def toInt? (x : Decimal) : Option Int :=
  let x := x.strip
  if x.exponent ≥ 0 then some (x.units * Int.pow 10 x.exponent.toNat) else none

/-- The number that a binary64 value's shortest digits write. -/
def ofBinary64 (x : Binary64) : Decimal :=
  let (digits, e) := x.shortest
  ⟨if x.negative then -(digits : Int) else digits, e⟩

/-- The binary64 value nearest to the number. -/
def toBinary64? (x : Decimal) : Option Binary64 :=
  Binary64.ofDecimal (x.units < 0) x.units.natAbs x.exponent

/-- The digits of the number, without an exponent. -/
def text (x : Decimal) : String :=
  let x := x.strip
  Binary64.positional (x.units < 0) x.units.natAbs x.exponent false

end Decimal
end PolicyScan
