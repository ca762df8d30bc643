/-
  Character sets by the name of a property.

  Names match loosely: case, blanks, hyphens, underscores and a leading `is` do not count.  A single
  name is a binary property, a general category or a script, in this order; a name with a value is one
  of the properties that have values.

  * `looseName` reduces a name to the form in which the tables hold it.
  * `Query.set?` finds the set of a query, or nothing if the name or the value is unknown.
-/
import Descent.Unicode.Age
import Descent.Unicode.CaseOrbit
import Descent.Unicode.Category
import Descent.Unicode.Property
import Descent.Unicode.Script
import Descent.Unicode.ScriptExtension
import Descent.Unicode.Segmentation

namespace Descent.Unicode

/-- Whether a name starts with `is` in any case. -/
def startsWithIs : List Char → Bool
  | i :: s :: _ => (i == 'i' || i == 'I') && (s == 's' || s == 'S')
  | _ => false

/-- A name reduced to small letters, digits and marks.  `isc` keeps its `is`: it is the short name of a
property and not that of the category `C`. -/
def looseName (name : String) : String :=
  let cs := name.toList
  let body := if startsWithIs cs then cs.drop 2 else cs
  let kept := (body.filter fun c => c.toNat < 0x80 && c != ' ' && c != '_' && c != '-').map Char.toLower
  if startsWithIs cs && kept == ['c'] then "isc" else String.ofList kept

/-- What a pattern may ask of the character tables. -/
inductive Query where
  /-- A single name, such as `Greek`. -/
  | single (name : String)
  /-- A property and a value of it, such as `sc=Greek`. -/
  | valued (property value : String)
deriving DecidableEq, Repr

/-- The characters of a general category, or of one of the three sets that are written like one. -/
def categorySet? : String → Option CharSet
  | "any" => some .all
  | "ascii" => some ⟨[(0, 0x7F)]⟩
  | "assigned" => some (Category.set ["Cn"]).complement
  | name => (Category.members name).map Category.set

/-- The characters of a script. -/
def scriptSet? (name : String) : Option CharSet := (Script.code? name).map Script.set

/-- Single names that mean a general category although a property shares their short form. -/
def categoryFirst : List String := ["cf", "sc", "lc"]

/-- The characters that a query asks for. -/
def Query.set? : Query → Option CharSet
  | .single name =>
    let name := looseName name
    let property := if categoryFirst.contains name then none else Property.set? name
    (property.or (categorySet? name)).or (scriptSet? name)
  | .valued property value =>
    let value := looseName value
    match looseName property with
    | "gc" | "generalcategory" => categorySet? value
    | "sc" | "script" => scriptSet? value
    | "scx" | "scriptextensions" => (Script.code? value).map ScriptExtension.set
    | "age" => (Age.upTo? value).map Age.set
    | "gcb" | "graphemeclusterbreak" => Segmentation.set? Segmentation.clusterTable Segmentation.clusterNames value
    | "wb" | "wordbreak" => Segmentation.set? Segmentation.wordTable Segmentation.wordNames value
    | "sb" | "sentencebreak" => Segmentation.set? Segmentation.sentenceTable Segmentation.sentenceNames value
    | _ => none

/-- The decimal digits of all scripts. -/
def digits : CharSet := Category.set ["Nd"]

/-- White space. -/
def blanks : CharSet := Run.ofDistances Property.whiteSpace

/-- Letters with their marks, digits and what joins them into words. -/
def wordChars : CharSet :=
  ((Run.ofDistances Property.alphabetic).union (Category.set ["Mc", "Me", "Mn", "Nd", "Pc"])).union
    (Run.ofDistances Property.joinControl)

/-- Letters. -/
def letters : CharSet := Run.ofDistances Property.alphabetic

/-- Letters and numbers. -/
def lettersAndNumbers : CharSet := letters.union (Category.set ["Nd", "Nl", "No"])

end Descent.Unicode
