/-
  Bracketed character classes.

  A class is a union of characters, ranges, named classes and classes in brackets, and of what the
  operators `&&`, `--` and `~~` make of two unions; all three bind alike and to the left.  Case is
  ignored, where the flags say so, in both operands of an operator and in every whole class, before it
  is negated.  Without the Unicode flag a class may hold ASCII characters only, so none can be negated.

  * `Sized` pairs what was read with the depth of its nesting, which is limited.
  * `Class.read` reads a class after its opening bracket.
-/
import Descent.Pattern.Escape
import Descent.Pattern.Flags

namespace Descent.Pattern

/-- A part of a pattern with the depth of its nesting. -/
structure Sized (α : Type) where
  value : α
  depth : Nat

namespace Class

/-- The classes that are named between colons; all of them are ASCII. -/
def named : List (String × CharSet) := [
  ("alnum", ⟨[(0x30, 0x39), (0x41, 0x5A), (0x61, 0x7A)]⟩),
  ("alpha", ⟨[(0x41, 0x5A), (0x61, 0x7A)]⟩),
  ("ascii", ⟨[(0x00, 0x7F)]⟩),
  ("blank", ⟨[(0x09, 0x09), (0x20, 0x20)]⟩),
  ("cntrl", ⟨[(0x00, 0x1F), (0x7F, 0x7F)]⟩),
  ("digit", ⟨[(0x30, 0x39)]⟩),
  ("graph", ⟨[(0x21, 0x7E)]⟩),
  ("lower", ⟨[(0x61, 0x7A)]⟩),
  ("print", ⟨[(0x20, 0x7E)]⟩),
  ("punct", ⟨[(0x21, 0x2F), (0x3A, 0x40), (0x5B, 0x60), (0x7B, 0x7E)]⟩),
  ("space", ⟨[(0x09, 0x0D), (0x20, 0x20)]⟩),
  ("upper", ⟨[(0x41, 0x5A)]⟩),
  ("word", ⟨[(0x30, 0x39), (0x41, 0x5A), (0x5F, 0x5F), (0x61, 0x7A)]⟩),
  ("xdigit", ⟨[(0x30, 0x39), (0x41, 0x46), (0x61, 0x66)]⟩)]

/-- Close a set under change of case, if case is ignored. -/
def fold (flags : Flags) (s : CharSet) : CharSet :=
  if flags.ignoreCase then (if flags.unicode then Unicode.CaseOrbit.close s else s.foldAscii) else s

/-- Negate a set, if asked to; without the Unicode flag the result would leave ASCII. -/
def negate? (flags : Flags) (negated : Bool) (s : CharSet) : Option CharSet :=
  if negated then (if flags.unicode then some s.complement else none) else some s

/-- The set of a class letter. -/
def shorthandSet? (flags : Flags) (kind : Shorthand) (negated : Bool) : Option CharSet :=
  negate? flags negated <|
    if flags.unicode then
      match kind with
      | .digit => Unicode.digits
      | .blank => Unicode.blanks
      | .word => Unicode.wordChars
    else
      match kind with
      | .digit => ⟨[(0x30, 0x39)]⟩
      | .blank => ⟨[(0x09, 0x0D), (0x20, 0x20)]⟩
      | .word => ⟨[(0x30, 0x39), (0x41, 0x5A), (0x5F, 0x5F), (0x61, 0x7A)]⟩

/-- The set of a property class; it needs the Unicode flag. -/
def propertySet? (flags : Flags) (query : Unicode.Query) (negated : Bool) : Option CharSet :=
  if flags.unicode then query.set?.bind fun s => negate? flags negated (fold flags s) else none

/-- Whether a character may stand in a class under the flags. -/
def allowed (flags : Flags) (c : Char) : Bool := flags.unicode || c.toNat < 0x80

/-- An item before it is known whether a range follows. -/
inductive Item where
  | char (c : Char)
  | set (s : CharSet)

/-- The set of an item. -/
def Item.set? (flags : Flags) : Item → Option CharSet
  | char c => if allowed flags c then some (.singleton c) else none
  | set s => some s

/-- Read one item. -/
def readItem (flags : Flags) (cs : List Char) : Option (Item × List Char) :=
  match cs with
  | [] => none
  | '\\' :: cs => do
    let (escape, rest) ← Escape.read flags.verbose cs
    match escape with
    | .literal c _ => return (.char c, rest)
    | .shorthand kind negated => return (.set (← shorthandSet? flags kind negated), rest)
    | .property query negated => return (.set (← propertySet? flags query negated), rest)
    | _ => none
  | c :: cs => some (.char c, cs)

/-- The first character of `cs` that is no blank and opens no comment; if there is none, the first of
all.  It tells a range from a hyphen that stands for itself. -/
def peekFrom (start : List Char) (inComment : Bool) : List Char → Option Char
  | [] => start.head?
  | c :: cs =>
    if Unicode.blanks.has c then peekFrom start inComment cs
    else if !inComment && c == '#' then peekFrom start true cs
    else some c

/-- The character that decides what a hyphen means. -/
def peek (verbose : Bool) (cs : List Char) : Option Char :=
  if verbose then peekFrom cs false cs else cs.head?

/-- Read an item or a range of characters. -/
def readRange (flags : Flags) (cs : List Char) : Option (CharSet × List Char) := do
  let (item, rest) ← readItem flags cs
  match skip flags.verbose rest with
  | [] => none
  | '-' :: more =>
    let next := peek flags.verbose more
    if next = some ']' ∨ next = some '-' then return (← item.set? flags, '-' :: more)
    match skip flags.verbose more with
    | [] => none
    | more =>
      let (last, rest) ← readItem flags more
      match item, last with
      | .char a, .char b =>
        if allowed flags a && allowed flags b && a ≤ b then
          return (⟨[(a.toNat, b.toNat)]⟩, rest)
        else none
      | _, _ => none
  | rest => return (← item.set? flags, rest)

/-- Read a class that is named between colons, after its bracket, and whether it is negated; anything
else is left alone. -/
def readNamed : List Char → Option (CharSet × Bool × List Char)
  | ':' :: cs =>
    let (negated, cs) := match cs with
      | '^' :: cs => (true, cs)
      | cs => (false, cs)
    match cs.dropWhile (· != ':') with
    | ':' :: ']' :: rest =>
      let name := String.ofList (cs.takeWhile (· != ':'))
      (named.find? (·.1 == name)).map fun entry => (entry.2, negated, rest)
    | _ => none
  | _ => none

/-- How two unions are combined. -/
inductive Operator where
  | inter
  | diff
  | symmDiff
deriving DecidableEq, Repr

/-- What an operator makes of two sets. -/
def Operator.apply : Operator → CharSet → CharSet → CharSet
  | inter => CharSet.inter
  | diff => CharSet.diff
  | symmDiff => CharSet.symmDiff

/-- A class that is not finished: whether it is negated, what its union holds so far, and the left side
of an operator, if one came before the union. -/
structure Open where
  negated : Bool
  left : Option (Operator × Sized CharSet)
  items : List (Sized CharSet)

/-- The union of the items. -/
def Open.union (o : Open) : Sized CharSet :=
  match o.items with
  | [] => ⟨.empty, 0⟩
  | [item] => item
  | items => ⟨.ofRanges (items.flatMap (·.value.ranges)), 1 + (items.map (·.depth)).foldl Nat.max 0⟩

/-- The union, combined with the left side of the operator before it. -/
def Open.body (flags : Flags) (o : Open) : Sized CharSet :=
  match o.left with
  | none => o.union
  | some (op, left) =>
    let right := o.union
    ⟨op.apply (fold flags left.value) (fold flags right.value), 1 + Nat.max left.depth right.depth⟩

/-- The whole class, negated if it is to be. -/
def Open.close (flags : Flags) (o : Open) : Option (Sized CharSet) := do
  let body := o.body flags
  return ⟨← negate? flags o.negated (fold flags body.value), 1 + body.depth⟩

/-- Add an item. -/
def Open.push (o : Open) (item : Sized CharSet) : Open := { o with items := item :: o.items }

/-- Put an operator after what was read. -/
def Open.operator (flags : Flags) (op : Operator) (o : Open) : Open :=
  { o with left := some (op, o.body flags), items := [] }

/-- The hyphens at the start of a class stand for themselves. -/
def readHyphens (verbose : Bool) (o : Open) : Nat → List Char → Option (Open × List Char)
  | 0, _ => none
  | fuel + 1, cs =>
    match cs with
    | [] => none
    | '-' :: cs => readHyphens verbose (o.push ⟨.singleton '-', 0⟩) fuel (skip verbose cs)
    | cs => some (o, cs)

/-- Read the start of a class after its bracket: a caret, hyphens, or a closing bracket that stands for
itself. -/
def readOpening (verbose : Bool) (cs : List Char) : Option (Open × List Char) := do
  let cs := skip verbose cs
  let (negated, cs) := match cs with
    | '^' :: cs => (true, skip verbose cs)
    | cs => (false, cs)
  let (o, cs) ← readHyphens verbose ⟨negated, none, []⟩ (cs.length + 1) cs
  match o.items, cs with
  | [], ']' :: rest =>
    match skip verbose rest with
    | [] => none
    | rest => return (o.push ⟨.singleton ']', 0⟩, rest)
  | _, cs => return (o, cs)

/-- Read on inside a class; `outer` holds the classes around it, the nearest first.  Every round passes
a character. -/
def readFrom (flags : Flags) : Nat → List Open → Open → List Char → Option (Sized CharSet × List Char)
  | 0, _, _, _ => none
  | fuel + 1, outer, o, cs =>
    match skip flags.verbose cs with
    | [] => none
    | '[' :: rest =>
      match readNamed rest with
      | some (set, negated, rest) => do
        let set ← negate? flags negated (fold flags set)
        readFrom flags fuel outer (o.push ⟨set, 0⟩) rest
      | none => do
        let (inner, rest) ← readOpening flags.verbose rest
        readFrom flags fuel (o :: outer) inner rest
    | ']' :: rest => do
      let done ← o.close flags
      match outer with
      | [] => return (done, rest)
      | next :: outer => readFrom flags fuel outer (next.push done) rest
    | '&' :: '&' :: rest => readFrom flags fuel outer (o.operator flags .inter) rest
    | '-' :: '-' :: rest => readFrom flags fuel outer (o.operator flags .diff) rest
    | '~' :: '~' :: rest => readFrom flags fuel outer (o.operator flags .symmDiff) rest
    | cs => do
      let (set, rest) ← readRange flags cs
      readFrom flags fuel outer (o.push ⟨set, 0⟩) rest

/-- Read a class after its opening bracket. -/
def read (flags : Flags) (cs : List Char) : Option (Sized CharSet × List Char) := do
  let (o, rest) ← readOpening flags.verbose cs
  readFrom flags (rest.length + 1) [] o rest

end Class

end Descent.Pattern
