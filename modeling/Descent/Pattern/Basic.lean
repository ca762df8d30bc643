/-
  Patterns ready for use.

  `Pattern.compile` reads a pattern, checks its size and writes its program; what can go wrong is a
  `PatternError`.  `Pattern.lexeme?` is the preferred match at the start of a text and `Pattern.matchAt?`
  the one at a byte offset into a text.

  * `Pattern.source_of_compile`: a pattern keeps its text.
  * `Pattern.lexeme?_prefix`: a lexeme is a first part of the text.
-/
import Descent.Pattern.Budget
import Descent.Pattern.Match
import Descent.Pattern.Reader
import Descent.Text.Utf8
import Descent.Text.Word

namespace Descent

/-- Why a pattern is refused. -/
inductive PatternError where
  /-- The pattern is malformed, or asks for what patterns cannot do. -/
  | malformed
  /-- The pattern is too large. -/
  | tooLarge
deriving DecidableEq, Repr

/-- The wording of a refusal. -/
def PatternError.message : PatternError → String
  | malformed => "error parsing pattern 0"
  | tooLarge => "error building NFA"

/-- A pattern as written, with its program. -/
structure Pattern where
  source : String
  program : Pattern.Program

namespace Pattern

/-- Read a pattern and write its program. -/
def compile (source : String) : Except PatternError Pattern :=
  match read source.toList with
  | none => .error .malformed
  | some e => if Budget.fits e then .ok ⟨source, .ofExpr e⟩ else .error .tooLarge

theorem source_of_compile {source : String} {p : Pattern} (h : compile source = .ok p) : p.source = source := by
  unfold compile at h
  split at h
  · cases h
  · split at h
    · cases h; rfl
    · cases h

/-- The preferred match at the start of a text that follows the character `before`. -/
def lexeme? (p : Pattern) (before : Option Char) (cs : List Char) : Option (List Char) :=
  (p.program.matchLength? before cs).map cs.take

theorem lexeme?_prefix {p : Pattern} {before : Option Char} {cs lexeme : List Char}
    (h : p.lexeme? before cs = some lexeme) : lexeme <+: cs := by
  obtain ⟨n, -, rfl⟩ := Option.map_eq_some_iff.1 h
  exact List.take_prefix n cs

/-- The preferred match at a byte offset into a text.  Nothing matches between the bytes of a character
or one byte past the end; an offset further on is a fault. -/
def matchAt? (p : Pattern) (text : String) (offset : Nat) : Except Fault (Option String) :=
  let cs := text.toList
  if Utf8.size cs + 1 < offset then .error .offsetPastEnd
  else .ok do
    let (before, rest) ← Utf8.seek? none offset cs
    (p.lexeme? before rest).map String.ofList

end Pattern

end Descent
