/-!
# Failures of evaluation

An expression without a value is no failure; what is listed here ends the whole
evaluation.
-/

namespace PolicyScan.Rego

/-- Why an evaluation has no result. -/
inductive Fault where
  /-- A variable is used that nothing gives a value to. -/
  | unsafeVariable (name : String)
  /-- What was asked for is not the path of a rule. -/
  | notARule (path : String)
  /-- A rule needs its own value, or a function calls itself. -/
  | recursion (path : String)
  /-- A rule or a function has two values at once. -/
  | conflict (path : String)
  /-- Two entries of an object share a key. -/
  | duplicateKey
  /-- A value would have to be put below one that is not an object. -/
  | notAnObject (path : String)
  /-- The members of a value are asked for that has none. -/
  | notACollection
  | unknownFunction (name : String)
  /-- A function is called with too many arguments or too few. -/
  | argumentCount (function : String)
  /-- A function or an operator is given a value of the wrong kind. -/
  | argumentKind (function : String)
  | divisionByZero
  /-- A remainder is asked for of numbers that are not whole. -/
  | remainderOfFraction
  /-- A text does not fit the values that are to be put into it. -/
  | format
  /-- The result has no JSON text. -/
  | noText
deriving DecidableEq, Repr

/-- The failure in words. -/
def Fault.message : Fault → String
  | .unsafeVariable name => "variable `" ++ name ++ "` has no value"
  | .notARule path => "`" ++ path ++ "` is not the path of a rule"
  | .recursion path => "recursion through `" ++ path ++ "`"
  | .conflict path => "`" ++ path ++ "` has several values"
  | .duplicateKey => "an object has several values for one key"
  | .notAnObject path => "`" ++ path ++ "` is not below an object"
  | .notACollection => "the value is not a collection"
  | .unknownFunction name => "no function `" ++ name ++ "`"
  | .argumentCount function => "wrong number of arguments for `" ++ function ++ "`"
  | .argumentKind function => "wrong kind of argument for `" ++ function ++ "`"
  | .divisionByZero => "division by zero"
  | .remainderOfFraction => "remainder of a number that is not whole"
  | .format => "the format does not fit its values"
  | .noText => "the result is not a JSON value"

end PolicyScan.Rego
