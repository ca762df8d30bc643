/-
  Escapes: what a backslash in a pattern stands for.

  `Escape.read` reads what follows a backslash.  In verbose patterns blanks and comments may stand
  between the parts of an escape: `advance` passes one character and what may be skipped after it.
-/
import Descent.Pattern.Expr
import Descent.Text.Digits

namespace Descent.Pattern

/-- Skip blanks and comments; a comment runs to the end of its line. -/
def skipVerbose (inComment : Bool) : List Char → List Char
  | [] => []
  | c :: cs =>
    if inComment then skipVerbose (c != '\n') cs
    else if Unicode.blanks.has c then skipVerbose false cs
    else if c == '#' then skipVerbose true cs
    else c :: cs

/-- Skip what a verbose pattern may hold between its parts. -/
def skip (verbose : Bool) (cs : List Char) : List Char :=
  if verbose then skipVerbose false cs else cs

/-- Pass one character and what may be skipped after it. -/
def advance (verbose : Bool) (cs : List Char) : List Char := skip verbose (cs.drop 1)

/-- The classes that have a letter of their own. -/
inductive Shorthand where
  | digit
  | blank
  | word
deriving DecidableEq, Repr

/-- What an escape stands for. -/
inductive Escape where
  /-- A character; `isByte` if it was written as a byte, with two hexadecimal digits. -/
  | literal (char : Char) (isByte : Bool)
  | shorthand (kind : Shorthand) (negated : Bool)
  | property (query : Unicode.Query) (negated : Bool)
  | textStart
  | textEnd
  | wordBoundary
  | notWordBoundary
  | wordStart
  | wordEnd
  | wordStartHalf
  | wordEndHalf
deriving DecidableEq, Repr

namespace Escape

/-- Read exactly `count` hexadecimal digits. -/
def readHexDigits (verbose : Bool) : Nat → Nat → List Char → Option (Nat × List Char)
  | 0, value, cs => some (value, cs)
  | _ + 1, _, [] => none
  | count + 1, value, c :: cs => do
    let d ← Digits.value? c
    readHexDigits verbose count (value * 16 + d) (skip verbose cs)

/-- Read hexadecimal digits up to a closing brace. -/
def readHexBrace (verbose : Bool) : Nat → Option Nat → List Char → Option (Nat × List Char)
  | 0, _, _ => none
  | fuel + 1, value, cs =>
    match cs with
    | [] => none
    | '\x7d' :: cs => value.map fun v => (v, skip verbose cs)
    | c :: cs => do
      let d ← Digits.value? c
      readHexBrace verbose fuel (some (value.getD 0 * 16 + d)) (skip verbose cs)

/-- Read a code point in braces, or one of `count` digits. -/
def readHex (verbose : Bool) (count : Nat) (cs : List Char) : Option (Escape × List Char) := do
  match skip verbose cs with
  | [] => none
  | '\x7b' :: cs =>
    let cs := skip verbose cs
    let (value, rest) ← readHexBrace verbose (cs.length + 1) none cs
    return (.literal (← Digits.char? value) false, rest)
  | cs =>
    let (value, rest) ← readHexDigits verbose count 0 cs
    return (.literal (← Digits.char? value) (count == 2), rest)

/-- Split a text at the first place where another one stands. -/
def splitAround (mark : List Char) (before : List Char) : List Char → Option (List Char × List Char)
  | [] => none
  | c :: cs =>
    if mark.isPrefixOf (c :: cs) then some (before.reverse, (c :: cs).drop mark.length)
    else splitAround mark (c :: before) cs

/-- The query in the braces of a property class, and whether it asks for inequality. -/
def query (body : List Char) : Unicode.Query × Bool :=
  let valued (parts : List Char × List Char) : Unicode.Query :=
    .valued (String.ofList parts.1) (String.ofList parts.2)
  match splitAround ['!', '='] [] body with
  | some parts => (valued parts, true)
  | none =>
    match (splitAround [':'] [] body).or (splitAround ['='] [] body) with
    | some parts => (valued parts, false)
    | none => (.single (String.ofList body), false)

/-- Read the characters up to a closing brace. -/
def readBrace (verbose : Bool) : Nat → List Char → List Char → Option (List Char × List Char)
  | 0, _, _ => none
  | fuel + 1, body, cs =>
    match cs with
    | [] => none
    | '\x7d' :: cs => some (body.reverse, cs)
    | c :: cs => readBrace verbose fuel (c :: body) (skip verbose cs)

/-- Read a property class after its letter. -/
def readProperty (verbose negated : Bool) (cs : List Char) : Option (Escape × List Char) := do
  match skip verbose cs with
  | [] => none
  | '\x7b' :: cs =>
    let cs := skip verbose cs
    let (body, rest) ← readBrace verbose (cs.length + 1) [] cs
    let (query, unequal) := query body
    return (.property query (negated != unequal), rest)
  | '\\' :: _ => none
  | c :: cs => return (.property (.single c.toString) negated, skip verbose cs)

/-- The characters that the name of a kind of word boundary is made of. -/
def isBoundaryChar (c : Char) : Bool := c.isAlpha || c == '-'

/-- Read the name of a kind of word boundary. -/
def readBoundaryName (verbose : Bool) : Nat → List Char → List Char → List Char × List Char
  | 0, name, cs => (name.reverse, cs)
  | fuel + 1, name, cs =>
    match cs with
    | [] => (name.reverse, [])
    | c :: rest =>
      if isBoundaryChar c then readBoundaryName verbose fuel (c :: name) (skip verbose rest)
      else (name.reverse, cs)

/-- Read what follows `\b`.  A brace opens the name of a kind of boundary if a letter or a hyphen comes
next, and is left to be read as a repetition otherwise. -/
def readBoundary (verbose : Bool) (cs : List Char) : Option (Escape × List Char) :=
  match cs with
  | '\x7b' :: rest =>
    match skip verbose rest with
    | [] => none
    | c :: more =>
      if isBoundaryChar c then
        match readBoundaryName verbose (more.length + 2) [] (c :: more) with
        | (name, '\x7d' :: after) =>
          match String.ofList name with
          | "start" => some (.wordStart, after)
          | "end" => some (.wordEnd, after)
          | "start-half" => some (.wordStartHalf, after)
          | "end-half" => some (.wordEndHalf, after)
          | _ => none
        | _ => none
      else some (.wordBoundary, cs)
  | _ => some (.wordBoundary, cs)

/-- Whether a character may have a backslash before it without gaining a meaning. -/
def isEscapable (c : Char) : Bool := c.toNat < 0x80 && !c.isAlphanum && c != '<' && c != '>'

/-- Read what follows a backslash. -/
def read (verbose : Bool) (cs : List Char) : Option (Escape × List Char) :=
  match cs with
  | [] => none
  | c :: cs =>
    if isEscapable c then some (.literal c false, cs)
    else
      match c with
      | 'x' => readHex verbose 2 cs
      | 'u' => readHex verbose 4 cs
      | 'U' => readHex verbose 8 cs
      | 'p' => readProperty verbose false cs
      | 'P' => readProperty verbose true cs
      | 'd' => some (.shorthand .digit false, cs)
      | 'D' => some (.shorthand .digit true, cs)
      | 's' => some (.shorthand .blank false, cs)
      | 'S' => some (.shorthand .blank true, cs)
      | 'w' => some (.shorthand .word false, cs)
      | 'W' => some (.shorthand .word true, cs)
      | 'a' => some (.literal '\x07' false, cs)
      | 'f' => some (.literal '\x0c' false, cs)
      | 't' => some (.literal '\t' false, cs)
      | 'n' => some (.literal '\n' false, cs)
      | 'r' => some (.literal '\r' false, cs)
      | 'v' => some (.literal '\x0b' false, cs)
      | 'A' => some (.textStart, cs)
      | 'z' => some (.textEnd, cs)
      | 'b' => readBoundary verbose cs
      | 'B' => some (.notWordBoundary, cs)
      | '<' => some (.wordStart, cs)
      | '>' => some (.wordEnd, cs)
      | _ => none

end Escape

end Descent.Pattern
