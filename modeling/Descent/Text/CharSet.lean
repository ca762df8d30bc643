/-
  Sets of characters as sorted lists of code point ranges.

  `ofRanges` sorts any list of ranges and joins those that touch; `has` searches it; `union`,
  `complement` and what follows from them are the Boolean operations.  Surrogate code points are no
  characters and are never members of a complement.
-/

namespace Descent

/-- A set of characters: ranges of code points, ends included, in order and apart. -/
structure CharSet where
  ranges : List (Nat × Nat)
deriving DecidableEq, Repr

namespace CharSet

/-- Join the current range with those that touch it. -/
def joinFrom (current : Nat × Nat) : List (Nat × Nat) → List (Nat × Nat)
  | [] => [current]
  | r :: rs =>
    if r.1 ≤ current.2 + 1 then joinFrom (current.1, Nat.max current.2 r.2) rs
    else current :: joinFrom r rs

/-- The set that covers the given ranges. -/
def ofRanges (ranges : List (Nat × Nat)) : CharSet :=
  match (ranges.filter fun r => r.1 ≤ r.2).mergeSort (fun a b => a.1 ≤ b.1) with
  | [] => ⟨[]⟩
  | r :: rs => ⟨joinFrom r rs⟩

/-- The set of one character. -/
def singleton (c : Char) : CharSet := ⟨[(c.toNat, c.toNat)]⟩

/-- The set without members. -/
def empty : CharSet := ⟨[]⟩

/-- Whether a code point lies in one of the ranges. -/
def hasIn (n : Nat) : List (Nat × Nat) → Bool
  | [] => false
  | r :: rs => if n < r.1 then false else if n ≤ r.2 then true else hasIn n rs

/-- Whether a code point is a member. -/
def hasCode (s : CharSet) (n : Nat) : Bool := hasIn n s.ranges

/-- Whether a character is a member. -/
def has (s : CharSet) (c : Char) : Bool := s.hasCode c.toNat

/-- Whether the set has no members. -/
def isEmpty (s : CharSet) : Bool := s.ranges.isEmpty

/-- Whether all members are ASCII characters. -/
def isAscii (s : CharSet) : Bool := s.ranges.all fun r => r.2 < 0x80

/-- The members of either set. -/
def union (a b : CharSet) : CharSet := ofRanges (a.ranges ++ b.ranges)

/-- The greatest code point. -/
def lastCode : Nat := 0x10FFFF

/-- The code points from `next` on that lie in none of the ranges. -/
def gapsFrom (next : Nat) : List (Nat × Nat) → List (Nat × Nat)
  | [] => if next ≤ lastCode then [(next, lastCode)] else []
  | r :: rs => if next < r.1 then (next, r.1 - 1) :: gapsFrom (r.2 + 1) rs else gapsFrom (r.2 + 1) rs

/-- The characters that are no members. -/
def complement (s : CharSet) : CharSet :=
  ⟨gapsFrom 0 (ofRanges ((0xD800, 0xDFFF) :: s.ranges)).ranges⟩

/-- The members of both sets. -/
def inter (a b : CharSet) : CharSet := (a.complement.union b.complement).complement

/-- The members of the first set alone. -/
def diff (a b : CharSet) : CharSet := a.inter b.complement

/-- The members of exactly one of the sets. -/
def symmDiff (a b : CharSet) : CharSet := (a.union b).diff (a.inter b)

/-- All characters. -/
def all : CharSet := empty.complement

/-- Close a set of ASCII characters under a change of case. -/
def foldAscii (s : CharSet) : CharSet :=
  let upper := s.inter ⟨[(0x41, 0x5A)]⟩
  let lower := s.inter ⟨[(0x61, 0x7A)]⟩
  s.union (ofRanges (upper.ranges.map (fun r => (r.1 + 32, r.2 + 32)) ++
    lower.ranges.map (fun r => (r.1 - 32, r.2 - 32))))

end CharSet

end Descent
