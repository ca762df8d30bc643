/-
  Reading the fields of records out of JSON values.

  A record is an object, whose members of other names do not count and whose fields occur once at most,
  or an array of the fields in order.

  * `fields?` are the values of named fields, each of which may be missing.
  * `required` and `orElse` read a field that must be there, and one that has a default.
-/
import Descent.Json.Value
import Descent.Text.Word

namespace Descent.Json

/-- The member of a name, if there is one; two of them are refused. -/
def member? (name : String) (members : List (String × Value)) : Option (Option Value) :=
  match members.filter fun m => m.1 == name with
  | [] => some none
  | [m] => some (some m.2)
  | _ => none

/-- The values of named fields.  An array must not be longer than the names, nor shorter if it has to be
`full`. -/
def fields? (full : Bool) (names : List String) : Value → Option (List (Option Value))
  | .obj members => names.mapM fun name => member? name members
  | .arr items =>
    if names.length < items.length ∨ (full ∧ items.length < names.length) then none
    else some (items.map some ++ List.replicate (names.length - items.length) none)
  | _ => none

/-- Read a field that must be there. -/
def required {α : Type} (read : Value → Option α) (field : Option Value) : Option α := field.bind read

/-- Read a field that has a default. -/
def orElse {α : Type} (default : α) (read : Value → Option α) : Option Value → Option α
  | none => some default
  | some v => read v

/-! ## Single values -/

/-- Read a truth value. -/
def bool? : Value → Option Bool
  | .bool b => some b
  | _ => none

/-- Read a text. -/
def text? : Value → Option String
  | .str s => some s
  | _ => none

/-- Read a text of one character. -/
def char? : Value → Option Char
  | .str s =>
    match s.toList with
    | [c] => some c
    | _ => none
  | _ => none

/-- Read an unsigned word. -/
def word? : Value → Option Nat
  | .int n => Word.ofInt? n
  | _ => none

/-- Read a signed word. -/
def signed? : Value → Option Int
  | .int n => Word.signed? n
  | _ => none

/-- Read nothing, which is null. -/
def nothing? {α : Type} (_ : Value) : Option α := none

/-- Read a value or null. -/
def nullable? {α : Type} (read : Value → Option α) : Value → Option (Option α)
  | .null => some none
  | v => (read v).map some

end Descent.Json
