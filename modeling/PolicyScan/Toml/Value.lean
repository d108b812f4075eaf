import PolicyScan.Decimal.Binary64

/-!
# Values of TOML

A document is a table.  Of floats and dates only that much is kept which tells
them apart from the other kinds.
-/

namespace PolicyScan.Toml

/-- Why a text is not a document. -/
inductive Fault where
  | expected (what : String)
  /-- A key has two values, or a table is defined twice. -/
  | duplicate (key : String)
  /-- A key leads below a value that is closed. -/
  | notExtensible (key : String)
  | escape
  | number
  | numberOutOfRange
  | date
  | nestedTooDeep
deriving DecidableEq, Repr

/-- The fault in words. -/
def Fault.message : Fault → String
  | .expected what => "expected " ++ what
  | .duplicate key => "duplicate key `" ++ key ++ "`"
  | .notExtensible key => "`" ++ key ++ "` cannot be extended"
  | .escape => "invalid escape"
  | .number => "invalid number"
  | .numberOutOfRange => "number out of range"
  | .date => "invalid date or time"
  | .nestedTooDeep => "nested too deep"

/-- A value. -/
inductive Value where
  | string (text : String)
  | integer (value : Int)
  /-- A number with a fraction or an exponent; none if it is not finite. -/
  | float (value : Option Binary64)
  | boolean (value : Bool)
  /-- A date, a time or both, as written. -/
  | date (text : String)
  | array (items : List Value)
  | table (fields : List (String × Value))
deriving Inhabited

/-- The fields of a table. -/
abbrev Table := List (String × Value)

end PolicyScan.Toml
