/-!
# Positions in a text

A place in a text is named by a line, counted from one, and a column, the
number of bytes since the last line feed.
-/

namespace PolicyScan

/-- A line and a column. -/
structure Position where
  line : Nat
  column : Nat
deriving DecidableEq, Repr

/-- The number of bytes of a text in UTF-8. -/
def utf8Length (text : List Char) : Nat := text.foldl (fun n c => n + c.utf8Size) 0

namespace Position

/-- The position after `offset` bytes of the text; an offset past the end means
the end. -/
def after (offset : Nat) (text : List Char) : Position :=
  go offset ⟨1, 0⟩ text
where
  /-- Walk on from a position with `left` bytes to go. -/
  go (left : Nat) (here : Position) : List Char → Position
    | [] => here
    | c :: rest =>
      if left = 0 then here
      else if left < c.utf8Size then ⟨here.line, here.column + left⟩
      else if c = '\n' then go (left - 1) ⟨here.line + 1, 0⟩ rest
      else go (left - c.utf8Size) ⟨here.line, here.column + c.utf8Size⟩ rest

end Position
end PolicyScan
