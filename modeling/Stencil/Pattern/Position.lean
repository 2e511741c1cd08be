/-!
# Positions in a text

Lines and columns are counted from one, columns in bytes.  Both are words of 32 bits.
-/

namespace Stencil

/-- A line, and a column on it. -/
structure Position where
  line : UInt32
  column : UInt32
deriving DecidableEq

namespace Position

/-- The position before the first character. -/
def start : Position := ⟨1, 1⟩

/-- The position behind one more character. -/
def step (p : Position) (c : Char) : Position :=
  if c = '\n' then ⟨p.line + 1, 1⟩ else ⟨p.line, p.column + UInt32.ofNat c.utf8Size⟩

/-- The position behind some more characters. -/
def advance (p : Position) (cs : List Char) : Position := cs.foldl step p

@[simp] theorem advance_nil (p : Position) : p.advance [] = p := rfl

@[simp] theorem advance_append (p : Position) (cs ds : List Char) :
    p.advance (cs ++ ds) = (p.advance cs).advance ds := List.foldl_append

/-- Line and column with a colon between them. -/
def display (p : Position) : String := s!"{p.line.toNat}:{p.column.toNat}"

end Position

/-- A stretch of text: where it starts and how many bytes it takes. -/
structure Extent where
  position : Position
  length : UInt32
deriving DecidableEq

end Stencil
