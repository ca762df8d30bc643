/-
  Places in a text and the stretches between them.

  A `Position` counts characters: `offset` from the start of the text, `line` and `column` from zero.
  A line feed ends a line, and every other character, a carriage return and a tab included, is one
  column wide.

  * `Position.advance` passes one character and `Position.advanceBy` a list of them; `advance?` and
    `advanceBy?` are the same steps inside machine words.
  * `Position.advanceBy_append`: passing `a ++ b` is passing `a`, then `b`.
  * `Position.offset_advanceBy`: passing a list moves the offset by its length.
  * `Span.merge` covers two spans; a tie of offsets goes to the second one.
-/
import Descent.Text.Word

namespace Descent

/-- A place in a text: characters from its start, line and column, all from zero. -/
structure Position where
  offset : Nat
  line : Nat
  column : Nat
deriving DecidableEq, Repr

namespace Position

/-- The start of every text. -/
def start : Position := ⟨0, 0, 0⟩

instance : Inhabited Position := ⟨start⟩

/-- The place after one character. -/
def advance (p : Position) (c : Char) : Position :=
  if c = '\n' then ⟨p.offset + 1, p.line + 1, 0⟩ else ⟨p.offset + 1, p.line, p.column + 1⟩

/-- The place after a list of characters. -/
def advanceBy (p : Position) (cs : List Char) : Position := cs.foldl advance p

/-- The place after one character, as long as its coordinates are machine words. -/
def advance? (p : Position) (c : Char) : Except Fault Position := do
  let offset ← Word.add? p.offset 1
  if c = '\n' then return ⟨offset, ← Word.add? p.line 1, 0⟩
  else return ⟨offset, p.line, ← Word.add? p.column 1⟩

/-- The place after a list of characters, as long as all coordinates on the way are machine words. -/
def advanceBy? (p : Position) (cs : List Char) : Except Fault Position := cs.foldlM advance? p

/-- Positions are ordered by offset, then line, then column. -/
def compare (a b : Position) : Ordering :=
  (Ord.compare a.offset b.offset).then ((Ord.compare a.line b.line).then (Ord.compare a.column b.column))

/-- The later of two positions; the second one if they are equal. -/
def max (a b : Position) : Position := if a.compare b = .gt then a else b

/-- `line:column` -/
def render (p : Position) : String := s!"{p.line}:{p.column}"

@[simp] theorem advanceBy_nil (p : Position) : p.advanceBy [] = p := rfl

@[simp] theorem advanceBy_cons (p : Position) (c : Char) (cs : List Char) :
    p.advanceBy (c :: cs) = (p.advance c).advanceBy cs := rfl

theorem advanceBy_append (p : Position) (a b : List Char) :
    p.advanceBy (a ++ b) = (p.advanceBy a).advanceBy b := List.foldl_append ..

@[simp] theorem offset_advance (p : Position) (c : Char) : (p.advance c).offset = p.offset + 1 := by
  unfold advance; split <;> rfl

theorem offset_advanceBy (p : Position) (cs : List Char) :
    (p.advanceBy cs).offset = p.offset + cs.length := by
  induction cs generalizing p with
  | nil => rfl
  | cons c cs ih => simp [ih, Nat.add_assoc, Nat.add_comm 1]

end Position

/-- A stretch of text, from `start` up to but not including `stop`. -/
structure Span where
  start : Position
  stop : Position
deriving DecidableEq, Repr

namespace Span

/-- The span between two places, the first of which must not come after the second. -/
def between? (start stop : Position) : Except Fault Span :=
  if start.offset ≤ stop.offset then .ok ⟨start, stop⟩ else .error .reversedSpan

/-- The empty span at a place. -/
def point (p : Position) : Span := ⟨p, p⟩

/-- The stretch from the earlier start to the later end; equal offsets take the second span's. -/
def merge (a b : Span) : Span where
  start := if a.start.offset < b.start.offset then a.start else b.start
  stop := if a.stop.offset > b.stop.offset then a.stop else b.stop

/-- The number of characters covered. -/
def length? (s : Span) : Except Fault Nat := Word.sub? s.stop.offset s.start.offset

/-- Whether start and end have one offset. -/
def isEmpty (s : Span) : Bool := s.start.offset == s.stop.offset

/-- Whether a place lies in the span. -/
def contains (s : Span) (p : Position) : Bool := s.start.offset ≤ p.offset && p.offset < s.stop.offset

/-- `line:column-column` on one line and `line:column-line:column` across lines. -/
def render (s : Span) : String :=
  if s.start.line = s.stop.line then s!"{s.start.line}:{s.start.column}-{s.stop.column}"
  else s!"{s.start.render}-{s.stop.render}"

end Span

end Descent
