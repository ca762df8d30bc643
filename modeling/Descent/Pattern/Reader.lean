/-
  Reading patterns.

  A pattern is read from left to right under flags.  A directive such as `(?i)` changes them up to the
  end of the group it stands in; `(?i:…)` changes them inside its own group.  What is not an operator, a
  group, a class or an escape stands for itself.

  * `Reader` is the state between two parts: the group being read and those around it.
  * `read` reads a whole pattern.  It fails on anything it does not understand, on a group name that is
    used twice, and on nesting deeper than `depthLimit`.
-/
import Descent.Pattern.Class

namespace Descent.Pattern

/-- How deep groups, repetitions, choices, sequences and classes may be nested. -/
def depthLimit : Nat := 250

/-- A part of a sequence; a directive is a part too, but cannot be repeated. -/
structure Part where
  expr : Sized Expr
  isDirective : Bool

/-- A group that is being read: the flags to go back to at its end, whether its match is remembered, its
finished alternatives and the parts of the present one, last first. -/
structure Group where
  outside : Flags
  remembered : Bool
  branches : List (Sized Expr)
  parts : List Part

namespace Group

/-- The sequence read so far. -/
def sequence (g : Group) : Sized Expr :=
  match g.parts with
  | [] => ⟨.empty, 0⟩
  | [part] => part.expr
  | parts => ⟨.sequence (parts.reverse.map (·.expr.value)), 1 + (parts.map (·.expr.depth)).foldl Nat.max 0⟩

/-- The choice read so far. -/
def choice (g : Group) : Sized Expr :=
  match g.branches with
  | [] => g.sequence
  | branches =>
    let all := (g.sequence :: branches).reverse
    ⟨.choice (all.map (·.value)), 1 + (all.map (·.depth)).foldl Nat.max 0⟩

end Group

/-- The state between two parts of a pattern. -/
structure Reader where
  flags : Flags
  names : List String
  group : Group
  around : List Group

namespace Reader

/-- The state before a pattern. -/
def start : Reader := ⟨{}, [], ⟨{}, false, [], []⟩, []⟩

/-- Add a part. -/
def push (r : Reader) (expr : Expr) (depth : Nat) : Reader :=
  { r with group := { r.group with parts := ⟨⟨expr, depth⟩, false⟩ :: r.group.parts } }

/-- Add a character that stands for itself.  Under the flag for case it stands for all that differ from
it by case; without the Unicode flag, for ASCII letters alone. -/
def literal (r : Reader) (c : Char) : Reader :=
  r.push (.one (if r.flags.unicode ∨ c.toNat < 0x80 then Class.fold r.flags (.singleton c) else .singleton c)) 0

/-- Any character, but for those that end a line. -/
def dot? (flags : Flags) : Option Expr :=
  if flags.unicode then
    some <| .one <|
      if flags.dotMatchesLineFeed then .all
      else if flags.returnEndsLine then CharSet.complement ⟨[(0x0A, 0x0A), (0x0D, 0x0D)]⟩
      else CharSet.complement ⟨[(0x0A, 0x0A)]⟩
  else none

/-- The condition of a caret. -/
def lineStart (flags : Flags) : Look :=
  if flags.multiLine then (if flags.returnEndsLine then .returnLineStart else .lineStart) else .textStart

/-- The condition of a dollar sign. -/
def lineEnd (flags : Flags) : Look :=
  if flags.multiLine then (if flags.returnEndsLine then .returnLineEnd else .lineEnd) else .textEnd

/-- What counts as a word under the flags. -/
def wordKind (flags : Flags) : WordKind := if flags.unicode then .unicode else .ascii

/-- Read an escape after its backslash.  Without the Unicode flag a byte above ASCII is no character. -/
def escape (r : Reader) (cs : List Char) : Option (Reader × List Char) := do
  let (escape, rest) ← Escape.read r.flags.verbose cs
  let kind := wordKind r.flags
  let r ← match escape with
    | .literal c isByte =>
      if isByte && !r.flags.unicode && 0x80 ≤ c.toNat then none else some (r.literal c)
    | .shorthand kind negated => (Class.shorthandSet? r.flags kind negated).map fun s => r.push (.one s) 0
    | .property query negated => (Class.propertySet? r.flags query negated).map fun s => r.push (.one s) 0
    | .textStart => some (r.push (.look .textStart) 0)
    | .textEnd => some (r.push (.look .textEnd) 0)
    | .wordBoundary => some (r.push (.look (.wordBoundary kind)) 0)
    | .notWordBoundary => some (r.push (.look (.notWordBoundary kind)) 0)
    | .wordStart => some (r.push (.look (.wordStart kind)) 0)
    | .wordEnd => some (r.push (.look (.wordEnd kind)) 0)
    | .wordStartHalf => some (r.push (.look (.wordStartHalf kind)) 0)
    | .wordEndHalf => some (r.push (.look (.wordEndHalf kind)) 0)
  return (r, rest)

/-- Open a group. -/
def openGroup (r : Reader) (flags : Flags) (remembered : Bool) : Reader :=
  { r with flags, group := ⟨r.flags, remembered, [], []⟩, around := r.group :: r.around }

/-- Close the innermost group. -/
def closeGroup (r : Reader) : Option Reader :=
  match r.around with
  | [] => none
  | outer :: around =>
    let inner := r.group.choice
    let expr := if r.group.remembered then .group inner.value else inner.value
    some (push { r with flags := r.group.outside, group := outer, around } expr (1 + inner.depth))

/-- Whether a character may stand in a group name. -/
def isNameChar (first : Bool) (c : Char) : Bool :=
  c == '_' || if first then Unicode.letters.has c
    else c == '.' || c == '[' || c == ']' || Unicode.lettersAndNumbers.has c

/-- Read a group name up to its closing angle bracket. -/
def readName (cs : List Char) : Option (String × List Char) :=
  let name := cs.takeWhile (· != '>')
  match name, cs.drop name.length with
  | first :: more, '>' :: rest =>
    if isNameChar true first && more.all (isNameChar false) then some (String.ofList name, rest) else none
  | _, _ => none

/-- Read a named group after its opening angle bracket. -/
def namedGroup (r : Reader) (cs : List Char) : Option (Reader × List Char) := do
  let (name, rest) ← readName cs
  if r.names.contains name then none
  return ({ r with names := name :: r.names }.openGroup r.flags true, rest)

/-- Read what follows an opening parenthesis: the start of a group or a whole directive. -/
def parenthesis (r : Reader) (cs : List Char) : Option (Reader × List Char) :=
  match skip r.flags.verbose cs with
  | '?' :: '=' :: _ | '?' :: '!' :: _ | '?' :: '<' :: '=' :: _ | '?' :: '<' :: '!' :: _ => none
  | '?' :: 'P' :: '<' :: rest => r.namedGroup rest
  | '?' :: '<' :: rest => r.namedGroup rest
  | '?' :: rest => do
    let (directive, rest) ← Directive.read [] rest
    let flags := Directive.apply true r.flags directive
    match rest with
    | ':' :: rest => return (r.openGroup flags false, rest)
    | _ :: rest =>
      if directive.isEmpty then none
      let parts := ⟨⟨.empty, 0⟩, true⟩ :: r.group.parts
      return ({ r with flags, group := { r.group with parts } }, rest)
    | [] => none
  | rest => some (r.openGroup r.flags true, rest)

/-- Start another alternative. -/
def alternative (r : Reader) : Reader :=
  { r with group := { r.group with branches := r.group.sequence :: r.group.branches, parts := [] } }

/-- Repeat the part before. -/
def repeatLast (r : Reader) (least : Nat) (most : Option Nat) (lazily : Bool) : Option Reader :=
  match r.group.parts with
  | ⟨part, false⟩ :: parts =>
    let greedy := lazily == r.flags.swapGreed
    let again : Part := ⟨⟨.rep part.value least most greedy, 1 + part.depth⟩, false⟩
    some { r with group := { r.group with parts := again :: parts } }
  | _ => none

/-- Read a repetition sign's question mark. -/
def readLazy : List Char → Bool × List Char
  | '?' :: cs => (true, cs)
  | cs => (false, cs)

/-- Read decimal digits, between which a verbose pattern may hold blanks. -/
def readDigits (verbose : Bool) : Nat → Option Nat → List Char → Option Nat × List Char
  | 0, value, cs => (value, cs)
  | fuel + 1, value, cs =>
    match cs with
    | [] => (value, [])
    | c :: rest =>
      if c.isDigit then
        readDigits verbose fuel (some (value.getD 0 * 10 + (c.toNat - '0'.toNat))) (skip verbose rest)
      else (value, cs)

/-- Skip blanks whatever the flags, and with them what a verbose pattern lets skip. -/
def skipBlanks (verbose : Bool) : Nat → List Char → List Char
  | 0, cs => cs
  | fuel + 1, cs =>
    match cs with
    | [] => []
    | c :: rest => if Unicode.blanks.has c then skipBlanks verbose fuel (skip verbose rest) else cs

/-- The first number that is too great for the count of a repetition. -/
def countLimit : Nat := 0x100000000

/-- Read a count; blanks may stand around it. -/
def readCount (verbose : Bool) (cs : List Char) : Option Nat × List Char :=
  let cs := cs.dropWhile Unicode.blanks.has
  let (value, cs) := readDigits verbose (cs.length + 1) none cs
  (value.bind fun v => if v < countLimit then some v else none, skipBlanks verbose (cs.length + 1) cs)

/-- Read a counted repetition after its brace. -/
def counted (r : Reader) (cs : List Char) : Option (Reader × List Char) := do
  let verbose := r.flags.verbose
  let (first, cs) := readCount verbose (skip verbose cs)
  let least ← first
  let (most, cs) ← match cs with
    | ',' :: cs =>
      match skip verbose cs with
      | [] => none
      | '\x7d' :: cs => some (none, '\x7d' :: cs)
      | cs =>
        let (last, cs) := readCount verbose cs
        last.map fun n => (some n, cs)
    | cs => some (some least, cs)
  match cs with
  | '\x7d' :: cs =>
    if most.any (· < least) then none
    let (lazily, rest) := readLazy (skip verbose cs)
    return (← r.repeatLast least most lazily, rest)
  | _ => none

/-- Read a repetition sign. -/
def sign (r : Reader) (least : Nat) (most : Option Nat) (cs : List Char) : Option (Reader × List Char) :=
  let (lazily, rest) := readLazy cs
  (r.repeatLast least most lazily).map fun r => (r, rest)

/-- Read one part of a pattern, given its first character. -/
def step (r : Reader) (c : Char) (cs : List Char) : Option (Reader × List Char) :=
  match c with
  | '(' => r.parenthesis cs
  | ')' => r.closeGroup.map fun r => (r, cs)
  | '|' => some (r.alternative, cs)
  | '[' => (Class.read r.flags cs).map fun (set, rest) => (r.push (.one set.value) set.depth, rest)
  | '?' => r.sign 0 (some 1) cs
  | '*' => r.sign 0 none cs
  | '+' => r.sign 1 none cs
  | '\x7b' => r.counted cs
  | '\\' => r.escape cs
  | '.' => (dot? r.flags).map fun e => (r.push e 0, cs)
  | '^' => some (r.push (.look (lineStart r.flags)) 0, cs)
  | '$' => some (r.push (.look (lineEnd r.flags)) 0, cs)
  | c => some (r.literal c, cs)

/-- Read parts up to the end of the pattern.  Every round passes a character. -/
def run : Nat → Reader → List Char → Option Reader
  | 0, _, _ => none
  | fuel + 1, r, cs =>
    match skip r.flags.verbose cs with
    | [] => some r
    | c :: cs => do
      let (r, rest) ← r.step c cs
      run fuel r rest

end Reader

/-- Read a whole pattern. -/
def read (cs : List Char) : Option Expr := do
  let r ← Reader.start.run (cs.length + 1) cs
  if !r.around.isEmpty then none
  let whole := r.group.choice
  if whole.depth ≤ depthLimit then return whole.value else none

end Descent.Pattern
