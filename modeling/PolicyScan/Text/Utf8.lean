/-!
# UTF-8

Bytes are split into well-formed sequences and, where none starts, into the
longest pieces that begin one.  Strict decoding refuses such pieces, lossy
decoding puts the replacement character for each.
-/

namespace PolicyScan.Utf8

/-- A byte that continues a sequence. -/
def isContinuation (b : UInt8) : Bool := 0x80 ≤ b && b ≤ 0xBF

/-- Whether `b` may follow the first byte `a` of a sequence of three. -/
def secondOfThree (a b : UInt8) : Bool :=
  if a = 0xE0 then 0xA0 ≤ b && b ≤ 0xBF
  else if a = 0xED then 0x80 ≤ b && b ≤ 0x9F
  else isContinuation b

/-- Whether `b` may follow the first byte `a` of a sequence of four. -/
def secondOfFour (a b : UInt8) : Bool :=
  if a = 0xF0 then 0x90 ≤ b && b ≤ 0xBF
  else if a = 0xF4 then 0x80 ≤ b && b ≤ 0x8F
  else isContinuation b

/-- The six low bits of a continuation byte. -/
def payload (b : UInt8) : Nat := b.toNat % 64

/-- The characters that the bytes write, with none for each piece that writes
no character. -/
def pieces : List UInt8 → List (Option Char)
  | [] => []
  | a :: s =>
    if a < 0x80 then some (Char.ofNat a.toNat) :: pieces s
    else if 0xC2 ≤ a && a ≤ 0xDF then
      match s with
      | b :: s' =>
        if isContinuation b then
          some (Char.ofNat (a.toNat % 32 * 64 + payload b)) :: pieces s'
        else none :: pieces (b :: s')
      | [] => [none]
    else if 0xE0 ≤ a && a ≤ 0xEF then
      match s with
      | b :: s' =>
        if secondOfThree a b then
          match s' with
          | c :: s'' =>
            if isContinuation c then
              some (Char.ofNat ((a.toNat % 16 * 64 + payload b) * 64 + payload c)) :: pieces s''
            else none :: pieces (c :: s'')
          | [] => [none]
        else none :: pieces (b :: s')
      | [] => [none]
    else if 0xF0 ≤ a && a ≤ 0xF4 then
      match s with
      | b :: s' =>
        if secondOfFour a b then
          match s' with
          | c :: s'' =>
            if isContinuation c then
              match s'' with
              | d :: s''' =>
                if isContinuation d then
                  some (Char.ofNat
                    (((a.toNat % 8 * 64 + payload b) * 64 + payload c) * 64 + payload d))
                    :: pieces s'''
                else none :: pieces (d :: s''')
              | [] => [none]
            else none :: pieces (c :: s'')
          | [] => [none]
        else none :: pieces (b :: s')
      | [] => [none]
    else none :: pieces s

/-- The text of well-formed bytes. -/
def decode? (bytes : List UInt8) : Option String :=
  ((pieces bytes).mapM id).map String.ofList

/-- The text of any bytes, with `U+FFFD` for what is not well formed. -/
def decodeLossy (bytes : List UInt8) : String :=
  String.ofList ((pieces bytes).map fun c => c.getD '\ufffd')

/-- The bytes of a text. -/
def encode (text : String) : List UInt8 := text.toList.flatMap String.utf8EncodeChar

end PolicyScan.Utf8
