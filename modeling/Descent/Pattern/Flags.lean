/-
  The flags under which a pattern is read, and how it changes them.

  `Flags` holds what is on; a directive such as `i-s` in a group switches some flags on and some off.
  No flag and no hyphen may occur twice in it, and a hyphen must have a flag after it.
-/

namespace Descent.Pattern

/-- What a letter in a directive switches. -/
inductive Flag where
  | ignoreCase
  | multiLine
  | dotMatchesLineFeed
  | swapGreed
  | unicode
  | returnEndsLine
  | verbose
deriving DecidableEq, Repr

/-- The flag of a letter. -/
def Flag.ofChar? : Char → Option Flag
  | 'i' => some ignoreCase
  | 'm' => some multiLine
  | 's' => some dotMatchesLineFeed
  | 'U' => some swapGreed
  | 'u' => some unicode
  | 'R' => some returnEndsLine
  | 'x' => some verbose
  | _ => none

/-- The flags in force at a place in a pattern. -/
structure Flags where
  ignoreCase : Bool := false
  multiLine : Bool := false
  dotMatchesLineFeed : Bool := false
  swapGreed : Bool := false
  unicode : Bool := true
  returnEndsLine : Bool := false
  verbose : Bool := false
deriving DecidableEq, Repr

/-- Switch one flag. -/
def Flags.switch (flags : Flags) (on : Bool) : Flag → Flags
  | .ignoreCase => { flags with ignoreCase := on }
  | .multiLine => { flags with multiLine := on }
  | .dotMatchesLineFeed => { flags with dotMatchesLineFeed := on }
  | .swapGreed => { flags with swapGreed := on }
  | .unicode => { flags with unicode := on }
  | .returnEndsLine => { flags with returnEndsLine := on }
  | .verbose => { flags with verbose := on }

/-- A directive as written: flags and hyphens, the latter as `none`. -/
abbrev Directive := List (Option Flag)

/-- Read a directive up to its colon or closing parenthesis. -/
def Directive.read (done : Directive) : List Char → Option (Directive × List Char)
  | [] => none
  | ':' :: cs => if done.getLast? = some none then none else some (done, ':' :: cs)
  | ')' :: cs => if done.getLast? = some none then none else some (done, ')' :: cs)
  | '-' :: cs => if done.contains none then none else Directive.read (done ++ [none]) cs
  | c :: cs =>
    match Flag.ofChar? c with
    | none => none
    | some flag => if done.contains (some flag) then none else Directive.read (done ++ [some flag]) cs

/-- Apply a directive: what comes before the hyphen is switched on, the rest off. -/
def Directive.apply (on : Bool) (flags : Flags) : Directive → Flags
  | [] => flags
  | none :: rest => apply false flags rest
  | some flag :: rest => apply on (flags.switch on flag) rest

end Descent.Pattern
