import PolicyScan.Toml.Lexeme

/-!
# Numbers, dates and booleans of TOML

What is written without quotes or brackets is taken as a whole first and then
told apart by its form.  Underscores may stand between digits.  A time may
leave out its seconds.
-/

namespace PolicyScan.Toml

/-! ## Numbers -/

/-- Digits with underscores between them, and the text after them. -/
def spacedDigits (isDigit : Char → Bool) : List Char → List Char × List Char
  | [] => ([], [])
  | '_' :: c :: rest =>
    if isDigit c then
      let (ds, rest) := spacedDigits isDigit rest
      (c :: ds, rest)
    else ([], '_' :: c :: rest)
  | c :: rest =>
    if isDigit c then
      let (ds, rest) := spacedDigits isDigit rest
      (c :: ds, rest)
    else ([], c :: rest)

/-- Digits of which the first one has no underscore in front; at least one. -/
def digits? (isDigit : Char → Bool) (s : List Char) : Option (List Char × List Char) :=
  if s.head?.any isDigit then some (spacedDigits isDigit s) else none

/-- The value of digits in a base. -/
def digitsValue (base : Nat) (ds : List Char) : Nat :=
  ds.foldl (fun n d => n * base + (Json.hexValue? d).getD 0) 0

/-- A whole number within the range that documents can hold. -/
def wholeNumber (n : Int) : Except Fault Value :=
  if -0x80000000000000000000000000000000 ≤ n ∧ n < 0x100000000000000000000000000000000 then .ok (.integer n) else .error .numberOutOfRange

/-- A whole number in a base other than ten. -/
def basedNumber (base : Nat) (isDigit : Char → Bool) (s : List Char) : Except Fault Value :=
  match digits? isDigit s with
  | some (ds, []) => wholeNumber (digitsValue base ds)
  | _ => .error .number

/-- A finite number. -/
def finiteNumber (negative : Bool) (units : Nat) (exponent : Int) : Except Fault Value :=
  match Binary64.ofDecimal negative units exponent with
  | some x => .ok (.float (some x))
  | none => .error .numberOutOfRange

/-- The exponent of a number, up to the end of the text. -/
def exponent (s : List Char) : Except Fault Int :=
  let (down, s) := Json.exponentSign s
  match digits? Json.isDigit s with
  | some (ds, []) =>
    let n : Int := digitsValue 10 ds
    .ok (if down then -n else n)
  | _ => .error .number

/-- A number in base ten after its sign. -/
def decimalNumber (negative : Bool) (s : List Char) : Except Fault Value := do
  let some (whole, rest) := digits? Json.isDigit s | throw .number
  if whole.length > 1 && whole.head? = some '0' then throw .number
  let n := digitsValue 10 whole
  match rest with
  | [] => wholeNumber (if negative then -(n : Int) else n)
  | '.' :: rest =>
    let some (fraction, rest) := digits? Json.isDigit rest | throw .number
    let units := digitsValue 10 (whole ++ fraction)
    match rest with
    | [] => finiteNumber negative units (-(fraction.length : Int))
    | c :: rest =>
      if c ≠ 'e' && c ≠ 'E' then throw .number
      finiteNumber negative units ((← exponent rest) - fraction.length)
  | c :: rest =>
    if c ≠ 'e' && c ≠ 'E' then throw .number
    finiteNumber negative n (← exponent rest)

/-- A number with or without a sign. -/
def number (s : List Char) : Except Fault Value :=
  let signed (negative : Bool) (s : List Char) : Except Fault Value :=
    if s = ['i', 'n', 'f'] || s = ['n', 'a', 'n'] then .ok (.float none)
    else decimalNumber negative s
  match s with
  | '0' :: 'x' :: rest => basedNumber 16 (fun c => (Json.hexValue? c).isSome) rest
  | '0' :: 'o' :: rest => basedNumber 8 (fun c => '0' ≤ c && c ≤ '7') rest
  | '0' :: 'b' :: rest => basedNumber 2 (fun c => c = '0' || c = '1') rest
  | '+' :: rest => signed false rest
  | '-' :: rest => signed true rest
  | s => signed false s

/-! ## Dates -/

/-- The value of `n` digits. -/
def fixedDigits (n : Nat) (s : List Char) : Except Fault (Nat × List Char) :=
  let ds := s.take n
  if ds.length = n && ds.all Json.isDigit then .ok (digitsValue 10 ds, s.drop n)
  else .error .date

/-- The number of days of a month. -/
def daysOf (year month : Nat) : Nat :=
  if month = 2 then
    if year % 4 = 0 ∧ (year % 100 ≠ 0 ∨ year % 400 = 0) then 29 else 28
  else if month ∈ [4, 6, 9, 11] then 30
  else 31

/-- Pass a day. -/
def skipDay (s : List Char) : Except Fault (List Char) := do
  let (year, s) ← fixedDigits 4 s
  let (month, s) ← fixedDigits 2 (← expect '-' s)
  let (day, s) ← fixedDigits 2 (← expect '-' s)
  if 1 ≤ month ∧ month ≤ 12 ∧ 1 ≤ day ∧ day ≤ daysOf year month then .ok s else .error .date

/-- Pass hours and minutes. -/
def skipMinutes (s : List Char) : Except Fault (List Char) := do
  let (hour, s) ← fixedDigits 2 s
  let (minute, s) ← fixedDigits 2 (← expect ':' s)
  if hour ≤ 23 ∧ minute ≤ 59 then .ok s else .error .date

/-- Pass a time of day. -/
def skipTime (s : List Char) : Except Fault (List Char) := do
  match ← skipMinutes s with
  | ':' :: s =>
    let (second, s) ← fixedDigits 2 s
    if second > 60 then throw .date
    match s with
    | '.' :: s =>
      match s.span Json.isDigit with
      | ([], _) => throw .date
      | (_, s) => return s
    | s => return s
  | s => return s

/-- Pass the offset of a time, if there is one. -/
def skipOffset (s : List Char) : Except Fault (List Char) :=
  match s with
  | 'Z' :: s => .ok s
  | 'z' :: s => .ok s
  | '+' :: s => skipMinutes s
  | '-' :: s => skipMinutes s
  | s => .ok s

/-- Check a date, a time or both. -/
def checkDate (s : List Char) : Except Fault Unit := do
  let rest ←
    if s[2]? = some ':' then skipTime s
    else do
      match ← skipDay s with
      | [] => pure []
      | c :: rest =>
        if c = 'T' || c = 't' || c = ' ' then skipOffset (← skipTime rest)
        else throw .date
  if rest = [] then .ok () else .error .date

/-! ## Telling them apart -/

/-- A character of a value without quotes or brackets. -/
def isScalar (c : Char) : Bool :=
  isBare c || c = '+' || c = '.' || c = ':'

/-- The text of a value without quotes or brackets; a blank between a day and a
time belongs to it. -/
def scalarText (s : List Char) : List Char × List Char :=
  let (first, rest) := s.span isScalar
  match rest with
  | ' ' :: c :: more =>
    if first.length = 10 && first[4]? = some '-' && Json.isDigit c then
      let (second, rest) := (c :: more).span isScalar
      (first ++ ' ' :: second, rest)
    else (first, rest)
  | rest => (first, rest)

/-- Whether a text has the form of a date or a time. -/
def looksLikeDate (s : List Char) : Bool :=
  s.head?.any Json.isDigit && (s[2]? = some ':' || s[4]? = some '-')

/-- A value without quotes or brackets. -/
def scalar (s : List Char) : Except Fault (Value × List Char) := do
  match scalarText s with
  | ([], _) => throw (.expected "value")
  | (text, rest) =>
    if text = "true".toList then return (.boolean true, rest)
    if text = "false".toList then return (.boolean false, rest)
    if looksLikeDate text then
      checkDate text
      return (.date (String.ofList text), rest)
    return (← number text, rest)

end PolicyScan.Toml
