/-
  Values of settings.

  A setting is a truth value, a character or a level: `Setting.Kind`.

  * `Setting.Kind.Holds` says what stands for a value in a document, and that is what is read there
    (`Setting.Kind.decoder_eq_ok`).
  * `Setting.Kind.Spells` says what stands for a value in the environment, and that is what is read there
    (`Setting.Kind.read?_eq_some`).
-/
import Descent.Proofs.Config.Section

namespace Descent

open Toml (Extent Node)

/-! ## What stands for a value -/

/-- The words for a level, in small letters. -/
def Level.words : Level → List String
  | error => ["error", "0"]
  | warning => ["warning", "warn", "1"]
  | info => ["info", "2"]
  | debug => ["debug", "3"]

namespace Toml.Node

/-- There is nothing in a table or an array. -/
def IsEmpty : Node → Prop
  | table _ _ entries => entries = []
  | array _ items | tables items => items = []
  | leaf .. => False

end Toml.Node

/-- A truth value in a document. -/
def Toml.Node.HoldsTruth (n : Node) (b : Bool) : Prop := ∃ extent, n = .leaf extent (.bool b)

/-- A character in a document is a text of one character. -/
def Toml.Node.HoldsCharacter (n : Node) (c : Char) : Prop := ∃ extent s, n = .leaf extent (.str s) ∧ s.toList = [c]

/-- A level in a document is its name, or a table with its name as the only key and nothing beside it. -/
def Toml.Node.HoldsLevel (n : Node) (least : Level) : Prop :=
  (∃ extent, n = .leaf extent (.str least.name)) ∨
  ∃ extent origin key m, n = .table extent origin [(key, m)] ∧ key.name = least.name ∧ m.IsEmpty

/-- The kinds of settings. -/
inductive Setting.Kind where
  | truth
  | character
  | level

namespace Setting.Kind

/-- The values of a kind. -/
def Value : Kind → Type
  | truth => Bool
  | character => Char
  | level => Level

/-- What stands for a value in a document. -/
def Holds : (k : Kind) → Node → k.Value → Prop
  | truth => Node.HoldsTruth
  | character => Node.HoldsCharacter
  | level => Node.HoldsLevel

/-- What stands for a value in the environment: `true` or `false`, a text that starts with the character, or a word for
the level in any case. -/
def Spells : (k : Kind) → String → k.Value → Prop
  | truth => fun text (b : Bool) => text = if b then "true" else "false"
  | character => fun text (c : Char) => text.toList.head? = some c
  | level => fun text (least : Level) => text.toLower ∈ least.words

/-- How a value is read from the environment. -/
def read? : (k : Kind) → String → Option k.Value
  | truth => Environment.readBool?
  | character => fun text => text.toList.head?
  | level => Level.read?

/-- How a value is read from a document. -/
def decoder : (k : Kind) → Decoder k.Value
  | truth => Decoder.bool
  | character => Decoder.char
  | level => Decoder.level

/-! ## What is read -/

theorem readBool?_eq_some {text : String} {b : Bool} :
    Environment.readBool? text = some b ↔ text = if b then "true" else "false" := by
  unfold Environment.readBool?
  split
  · cases b <;> simp
  · cases b <;> simp
  · next htrue hfalse =>
    refine ⟨fun h => ?_, fun h => ?_⟩
    · cases h
    · cases b
      · exact (hfalse h).elim
      · exact (htrue h).elim

theorem levelRead?_eq_some {text : String} {least : Level} :
    Level.read? text = some least ↔ text.toLower ∈ least.words := by
  unfold Level.read?
  split <;> cases least <;> simp_all [Level.words]

theorem read?_eq_some {k : Kind} {text : String} {x : k.Value} : k.read? text = some x ↔ k.Spells text x := by
  cases k with
  | truth => exact readBool?_eq_some
  | character => exact Iff.rfl
  | level => exact levelRead?_eq_some

theorem refuse_ne_ok {α : Type} {fallback : Extent} {n : Node} {reason : Mismatch} {x : α} :
    Decoder.refuse fallback n reason ≠ .ok x := by
  rintro ⟨⟩

theorem bool_eq_ok {fallback : Extent} {n : Node} {b : Bool} : Decoder.bool fallback n = .ok b ↔ n.HoldsTruth b := by
  unfold Decoder.bool
  split
  · constructor
    · rintro ⟨⟩
      exact ⟨_, rfl⟩
    · rintro ⟨extent, heq⟩
      cases heq
      rfl
  · next hother =>
    refine iff_of_false refuse_ne_ok ?_
    rintro ⟨extent, rfl⟩
    exact hother _ _ rfl

theorem char_eq_ok {fallback : Extent} {n : Node} {c : Char} :
    Decoder.char fallback n = .ok c ↔ n.HoldsCharacter c := by
  unfold Decoder.char
  split
  · next extent s =>
    split
    · next d hs =>
      constructor
      · rintro ⟨⟩
        exact ⟨extent, s, rfl, hs⟩
      · rintro ⟨extent', s', heq, hs'⟩
        cases heq
        cases hs.symm.trans hs'
        rfl
    · next hother =>
      refine iff_of_false refuse_ne_ok ?_
      rintro ⟨extent', s', heq, hs'⟩
      cases heq
      exact hother c hs'
  · next hother =>
    refine iff_of_false refuse_ne_ok ?_
    rintro ⟨extent, s, rfl, -⟩
    exact hother _ _ rfl

theorem levelName_eq_ok {extent : Extent} {name : String} {least : Level} :
    Decoder.levelName extent name = .ok least ↔ name = least.name := by
  unfold Decoder.levelName
  constructor
  · intro h
    cases hlevel : Level.ofName? name with
    | none =>
      rw [hlevel] at h
      cases h
    | some level =>
      rw [hlevel] at h
      cases h
      have hname := List.find?_some (p := fun level : Level => level.name == name) hlevel
      exact (beq_iff_eq.1 hname).symm
  · rintro rfl
    rw [Level.ofName?_name]

theorem nothing_eq_ok {fallback : Extent} {n : Node} : Decoder.nothing fallback n = .ok () ↔ n.IsEmpty := by
  cases n with
  | leaf => exact iff_of_false (fun h => by cases h) id
  | array extent items => cases items <;> simp [Decoder.nothing, Toml.Node.IsEmpty, refuse_ne_ok]
  | tables items => cases items <;> simp [Decoder.nothing, Toml.Node.IsEmpty, refuse_ne_ok]
  | table extent origin entries => cases entries <;> simp [Decoder.nothing, Toml.Node.IsEmpty, refuse_ne_ok]

theorem level_eq_ok {fallback : Extent} {n : Node} {least : Level} :
    Decoder.level fallback n = .ok least ↔ n.HoldsLevel least := by
  unfold Decoder.level
  split
  · next extent s =>
    rw [levelName_eq_ok]
    constructor
    · rintro rfl
      exact .inl ⟨extent, rfl⟩
    · rintro (⟨extent', heq⟩ | ⟨_, _, _, _, heq, -⟩) <;> cases heq
      rfl
  · next extent origin key m =>
    simp only [bind_eq_ok, levelName_eq_ok]
    constructor
    · rintro ⟨level, hname, ⟨⟩, hm, ⟨⟩⟩
      exact .inr ⟨_, _, _, _, rfl, hname, nothing_eq_ok.1 hm⟩
    · rintro (⟨extent', heq⟩ | ⟨_, _, _, _, heq, hname, hm⟩) <;> cases heq
      exact ⟨least, hname, (), nothing_eq_ok.2 hm, rfl⟩
  · refine iff_of_false refuse_ne_ok ?_
    rintro (⟨extent', heq⟩ | ⟨_, _, _, _, heq, -⟩) <;> cases heq
  · next hother _ =>
    refine iff_of_false refuse_ne_ok ?_
    rintro (⟨extent', heq⟩ | ⟨_, _, _, _, heq, -⟩) <;> cases heq
    exact hother _ _ rfl
  · next hname htable _ _ =>
    refine iff_of_false refuse_ne_ok ?_
    rintro (⟨extent', rfl⟩ | ⟨_, _, _, _, rfl, -⟩)
    · exact hname _ _ rfl
    · exact htable _ _ _ _ rfl

theorem decoder_eq_ok {k : Kind} {fallback : Extent} {n : Node} {x : k.Value} :
    k.decoder fallback n = .ok x ↔ k.Holds n x := by
  cases k with
  | truth => exact bool_eq_ok
  | character => exact char_eq_ok
  | level => exact level_eq_ok

end Setting.Kind

end Descent
