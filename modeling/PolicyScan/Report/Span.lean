/-!
# Styled texts

A report is a row of spans, each with a style.  With colour a styled span
stands between the escape sequence of its style and a reset; a reset inside of
its text is followed by the sequence again, so that the style goes on.
-/

namespace PolicyScan.Report

/-- How a span looks. -/
inductive Style where
  | normal
  | bold
  | green
  | yellow
  | boldRed
  | boldMagenta
deriving DecidableEq, Repr

/-- The parameters of the escape sequence of a style. -/
def Style.parameters? : Style → Option String
  | .normal => none
  | .bold => some "1"
  | .green => some "32"
  | .yellow => some "33"
  | .boldRed => some "1;31"
  | .boldMagenta => some "1;35"

/-- The escape sequence of parameters. -/
def escape (parameters : String) : List Char :=
  '\x1b' :: '[' :: parameters.toList ++ ['m']

/-- The sequence that ends a style. -/
def reset : List Char := escape "0"

/-- A text in which `start` follows every reset. -/
def reopen (start : List Char) : List Char → List Char
  | '\x1b' :: '[' :: '0' :: 'm' :: rest => reset ++ start ++ reopen start rest
  | c :: rest => c :: reopen start rest
  | [] => []

/-- A text in a style. -/
def paint (style : Style) (text : List Char) : List Char :=
  match style.parameters? with
  | none => text
  | some parameters => escape parameters ++ reopen (escape parameters) text ++ reset

/-- A piece of a report. -/
structure Span where
  style : Style
  text : String
deriving DecidableEq, Repr

namespace Span

/-- A piece without a style. -/
def normal (text : String) : Span := ⟨.normal, text⟩

/-- The characters of a piece. -/
def chars (colour : Bool) (span : Span) : List Char :=
  if colour then paint span.style span.text.toList else span.text.toList

end Span

/-- The text of pieces. -/
def spansText (colour : Bool) (spans : List Span) : String :=
  String.ofList (spans.flatMap (Span.chars colour))

end PolicyScan.Report
