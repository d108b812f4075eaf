/-!
# Finite binary64 values

A finite binary64 value is kept as its 64 bits.  The magnitude is a natural
significand times a power of two, and every operation is exact arithmetic on
naturals followed by one rounding: `ofRatio` rounds a quotient to the nearest
value, ties to the even significand, and is the only place that rounds.

`shortest` finds the least number of decimal digits that reads back as the
same value: it tries one digit, then two, and so on, and on each decimal grid
looks only at the two neighbours of the value.
-/

namespace PolicyScan

/-- A finite binary64 value, given by its bits. -/
structure Binary64 where
  /-- Sign, biased exponent and fraction, from the highest bit down. -/
  bits : UInt64
  /-- The exponent field is not the one of infinities and NaNs. -/
  finite : (bits >>> 52) &&& 0x7FF ≠ 0x7FF
deriving DecidableEq

namespace Binary64

/-- The value with the given bits, when these are the bits of a finite value. -/
def ofBits? (bits : UInt64) : Option Binary64 :=
  if h : (bits >>> 52) &&& 0x7FF ≠ 0x7FF then some ⟨bits, h⟩ else none

@[simp]
theorem ofBits?_bits (x : Binary64) : ofBits? x.bits = some x := by
  simp [ofBits?, x.finite]

instance : Inhabited Binary64 := ⟨⟨0, by decide⟩⟩

/-- Positive zero. -/
def zero : Binary64 := ⟨0, by decide⟩

/-- Whether the sign bit is set; zero has both signs. -/
def negative (x : Binary64) : Bool := x.bits >>> 63 == 1

/-- The biased exponent field. -/
def exponentField (x : Binary64) : Nat := ((x.bits >>> 52) &&& 0x7FF).toNat

/-- The fraction field. -/
def fraction (x : Binary64) : Nat := (x.bits &&& 0xFFFFFFFFFFFFF).toNat

/-- The unit of the bit in front of the fraction, `2 ^ 52`. -/
def hiddenBit : Nat := 0x10000000000000

/-- The magnitude is `significand * 2 ^ exponent`. -/
def significand (x : Binary64) : Nat :=
  if x.exponentField = 0 then x.fraction else hiddenBit + x.fraction

/-- The power of two of the significand's unit. -/
def exponent (x : Binary64) : Int :=
  if x.exponentField = 0 then -1074 else (x.exponentField : Int) - 1075

/-- The value with the other sign. -/
def neg (x : Binary64) : Binary64 :=
  (ofBits? (x.bits ^^^ 0x8000000000000000)).getD x

/-- `a / b` as a fraction of naturals scaled by `2 ^ e`. -/
def scaleRatio (num den : Nat) (e : Int) : Nat × Nat :=
  if e ≥ 0 then (num, den * Nat.pow 2 e.toNat) else (num * Nat.pow 2 (-e).toNat, den)

/-- The nearest whole number to `num / den`, a tie going to the even one. -/
def roundQuotient (num den : Nat) : Nat :=
  let q := num / den
  let r := num % den
  if 2 * r < den then q
  else if 2 * r = den then q + q % 2
  else q + 1

/-- The power of two in whose units `num / den` has a 53-bit quotient, never
below the least one. -/
def unitExponent (num den : Nat) : Int :=
  let guess : Int := (Nat.log2 num : Int) - (Nat.log2 den : Int) - 52
  let (n, d) := scaleRatio num den guess
  let exact := if n / d < hiddenBit then guess - 1 else guess
  max exact (-1074)

/-- The bits of `q * 2 ^ e` for a rounded quotient `q` of at most 53 bits. -/
def assemble (negative : Bool) (q : Nat) (e : Int) : Option Binary64 :=
  let (q, e) := if q = 2 * hiddenBit then (hiddenBit, e + 1) else (q, e)
  if e > 971 then none
  else
    let magnitude := if q < hiddenBit then q else (e + 1075).toNat * hiddenBit + (q - hiddenBit)
    let sign := if negative then 0x8000000000000000 else 0
    ofBits? (UInt64.ofNat (sign + magnitude))

/-- The value nearest to `num / den`, ties to even; none when it lies beyond
the greatest finite value. -/
def ofRatio (negative : Bool) (num den : Nat) : Option Binary64 :=
  if num = 0 then some (if negative then zero.neg else zero)
  else
    let e := unitExponent num den
    let (n, d) := scaleRatio num den e
    assemble negative (roundQuotient n d) e

/-- The number of decimal digits of a natural number. -/
def digitCount (n : Nat) : Nat := (Nat.toDigits 10 n).length

/-- The value nearest to `digits * 10 ^ e`.  Decimals far outside the range are
settled by their magnitude alone. -/
def ofDecimal (negative : Bool) (digits : Nat) (e : Int) : Option Binary64 :=
  let top : Int := digitCount digits + e
  if digits = 0 ∨ top < -330 then ofRatio negative 0 1
  else if top > 310 then none
  else if e ≥ 0 then ofRatio negative (digits * Nat.pow 10 e.toNat) 1
  else ofRatio negative digits (Nat.pow 10 (-e).toNat)

/-- The nearest value to a natural number. -/
def ofNat? (n : Nat) : Option Binary64 := ofRatio false n 1

/-- The magnitude as a quotient of naturals. -/
def ratio (x : Binary64) : Nat × Nat :=
  if x.exponent ≥ 0 then (x.significand * Nat.pow 2 x.exponent.toNat, 1)
  else (x.significand, Nat.pow 2 (-x.exponent).toNat)

/-- The rounded product. -/
def mul? (x y : Binary64) : Option Binary64 :=
  let (a, b) := x.ratio
  let (c, d) := y.ratio
  ofRatio (x.negative != y.negative) (a * c) (b * d)

/-- The rounded quotient; none when dividing by zero or out of range. -/
def div? (x y : Binary64) : Option Binary64 :=
  let (a, b) := x.ratio
  let (c, d) := y.ratio
  if c = 0 then none else ofRatio (x.negative != y.negative) (a * d) (b * c)

/-! ## Shortest decimal text -/

/-- Compare `a * 10 ^ p` with `b * 2 ^ s`. -/
def compareScaled (a : Nat) (p : Int) (b : Nat) (s : Int) : Ordering :=
  let left := a * Nat.pow 10 p.toNat * Nat.pow 2 (-s).toNat
  let right := b * Nat.pow 2 s.toNat * Nat.pow 10 (-p).toNat
  compare left right

/-- The greatest `k` with `10 ^ k ≤ num / den`, for a positive numerator. -/
def floorLog10 (num den : Nat) : Int :=
  let guess : Int := ((Nat.log2 num : Int) - (Nat.log2 den : Int)) * 1233 / 4096
  let reaches (k : Int) : Bool :=
    Nat.pow 10 k.toNat * den ≤ num * Nat.pow 10 (-k).toNat
  if reaches (guess + 1) then guess + 1
  else if reaches guess then guess
  else guess - 1

/-- The decimals that read back as `x` form an interval around it; its ends are
`lower` and `upper` quarters of the significand's unit, and belong to it when
the significand is even. -/
def readsBack (x : Binary64) (digits : Nat) (p : Int) : Bool :=
  let m := x.significand
  let s := x.exponent - 2
  let lower := if x.fraction = 0 ∧ x.exponentField > 1 then 4 * m - 1 else 4 * m - 2
  let upper := 4 * m + 2
  let closed := m % 2 == 0
  match compareScaled digits p lower s, compareScaled digits p upper s with
  | .gt, .lt => true
  | .eq, _ => closed
  | _, .eq => closed
  | _, _ => false

/-- The better of the two neighbours of `x` on the grid of `n` digits, if one of
them reads back. -/
def onGrid (x : Binary64) (top : Int) (n : Nat) : Option (Nat × Int) :=
  let (num, den) := x.ratio
  let p := top - n + 1
  let scaledNum := num * Nat.pow 10 (-p).toNat
  let scaledDen := den * Nat.pow 10 p.toNat
  let below := scaledNum / scaledDen
  let above := below + 1
  let twiceRest := 2 * (scaledNum % scaledDen)
  match readsBack x below p, readsBack x above p with
  | true, true =>
    if twiceRest < scaledDen ∨ (twiceRest = scaledDen ∧ below % 2 = 0) then some (below, p)
    else some (above, p)
  | true, false => some (below, p)
  | false, true => some (above, p)
  | false, false => none

/-- Drop trailing zeros of a positive number, raising the exponent. -/
def stripZeros : Nat → Nat → Int → Nat × Int
  | 0, digits, p => (digits, p)
  | fuel + 1, digits, p =>
    if digits % 10 = 0 ∧ digits ≠ 0 then stripZeros fuel (digits / 10) (p + 1) else (digits, p)

/-- The fewest digits that read back, with the power of ten of the last one. -/
def shortest (x : Binary64) : Nat × Int :=
  if x.significand = 0 then (0, 0)
  else
    let top := floorLog10 x.ratio.1 x.ratio.2
    let found := (List.range 17).findSome? fun k => onGrid x top (k + 1)
    let (digits, p) := found.getD (x.ratio.1 / x.ratio.2, 0)
    stripZeros 20 digits p

/-- A whole value as an integer, if the value is whole. -/
def toInt? (x : Binary64) : Option Int :=
  let (num, den) := x.ratio
  if num % den = 0 then
    let n : Int := ((num / den : Nat) : Int)
    some (if x.negative then -n else n)
  else none

/-! ## Decimal layout -/

/-- A finite decimal expansion without exponent: whole digits, a point, and the
fraction if there is one. -/
def positional (negative : Bool) (digits : Nat) (p : Int) (pointZero : Bool) : String :=
  let ds := Nat.toDigits 10 digits
  let sign := if negative then "-" else ""
  if p ≥ 0 then
    let whole := ds ++ List.replicate (if digits = 0 then 0 else p.toNat) '0'
    sign ++ String.ofList whole ++ (if pointZero then ".0" else "")
  else
    let places := (-p).toNat
    let padded := List.replicate (places + 1 - ds.length) '0' ++ ds
    let (whole, frac) := padded.splitAt (padded.length - places)
    sign ++ String.ofList whole ++ "." ++ String.ofList frac

/-- The text with no exponent, ending in `.0` for a whole value if asked. -/
def plainText (x : Binary64) (pointZero : Bool) : String :=
  let (digits, p) := x.shortest
  positional x.negative digits p pointZero

/-- The text with no exponent when the leading digit stands between `10 ^ -5`
and `10 ^ 15`, otherwise one digit before the point and an exponent, whose sign
is written as `plus` when it is not negative. -/
def scientificText (plus : String) (x : Binary64) : String :=
  let (digits, p) := x.shortest
  let count := digitCount digits
  let lead : Int := p + count - 1
  if digits = 0 ∨ (-5 ≤ lead ∧ lead < 16) then positional x.negative digits p true
  else
    let ds := Nat.toDigits 10 digits
    let sign := if x.negative then "-" else ""
    let body := match ds with
      | [] => ""
      | [d] => String.singleton d
      | d :: rest => String.singleton d ++ "." ++ String.ofList rest
    let mark := if lead < 0 then "e-" else "e" ++ plus
    sign ++ body ++ mark ++ toString lead.natAbs

/-- The text used in documents: a positive exponent has its sign. -/
def documentText (x : Binary64) : String := x.scientificText "+"

end Binary64
end PolicyScan
