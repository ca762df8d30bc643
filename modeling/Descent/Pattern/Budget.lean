/-
  How large a pattern may be.

  A pattern's size is that of the two automata over UTF-8 bytes that recognise it, one reading forward
  and one backward: `stateSize` bytes for a state, `arcSize` for an arc of a state with many, `branchSize`
  for a branch of a state that reads nothing.  Neither may exceed `sizeLimit`.  Repetitions count once
  per round, so sizes are computed and nothing is built.

  * `byteRanges` cuts a range of code points into sequences of byte ranges.
  * `forwardClass` shares equal states that lead to the end of a character, `backwardClass` equal
    beginnings of the sequences.
  * `fits` is the test a pattern has to pass.
-/
import Descent.Pattern.Expr
import Std.Data.HashMap

namespace Descent.Pattern.Budget

/-- The greatest size of either automaton, in bytes. -/
def sizeLimit : Nat := 10 * 1024 * 1024

def stateSize : Nat := 32

def arcSize : Nat := 8

def branchSize : Nat := 4

/-- A range of bytes. -/
abbrev ByteRange := Nat × Nat

/-- The bytes of a code point in UTF-8. -/
def bytes (n : Nat) : List Nat :=
  if n < 0x80 then [n]
  else if n < 0x800 then [0xC0 + n / 64, 0x80 + n % 64]
  else if n < 0x10000 then [0xE0 + n / 4096, 0x80 + n / 64 % 64, 0x80 + n % 64]
  else [0xF0 + n / 262144, 0x80 + n / 4096 % 64, 0x80 + n / 64 % 64, 0x80 + n % 64]

/-- Where a range of code points has to be cut because its ends differ in the length of their bytes. -/
def lengthCut (lo hi : Nat) : Option Nat := [0x7F, 0x7FF, 0xFFFF].find? fun m => lo ≤ m && m < hi

/-- Where a range has to be cut because its ends differ before their last `i` bytes, which then must run
through all values. -/
def blockCut (lo hi : Nat) : Option Nat :=
  [64, 4096, 262144].findSome? fun block =>
    if lo / block == hi / block then none
    else if lo % block != 0 then some (lo / block * block + block - 1)
    else if hi % block != block - 1 then some (hi / block * block - 1)
    else none

/-- The sequences of byte ranges of a range of code points, in order; surrogates have none. -/
def byteRanges : Nat → Nat → Nat → List (List ByteRange)
  | 0, _, _ => []
  | fuel + 1, lo, hi =>
    if hi < lo then []
    else if lo < 0xE000 ∧ 0xD7FF < hi then byteRanges fuel lo 0xD7FF ++ byteRanges fuel 0xE000 hi
    else
      match (lengthCut lo hi).or (if hi < 0x80 then none else blockCut lo hi) with
      | some cut => byteRanges fuel lo cut ++ byteRanges fuel (cut + 1) hi
      | none => [(bytes lo).zip (bytes hi)]

/-- The sequences of byte ranges of a set. -/
def sequences (s : CharSet) : List (List ByteRange) :=
  s.ranges.flatMap fun r => byteRanges 64 r.1 r.2

/-- A state with its arcs, each leading to a numbered state. -/
abbrev Arcs := List (ByteRange × Nat)

/-- The states built so far, with their numbers. -/
abbrev States := Std.HashMap Arcs Nat

/-- Collect neighbouring sequences that start with the same byte range. -/
def groupFirst : List (List ByteRange) → List (ByteRange × List (List ByteRange))
  | [] => []
  | [] :: rest => groupFirst rest
  | (r :: tail) :: rest =>
    match groupFirst rest with
    | (r', tails) :: groups => if r == r' then (r, tail :: tails) :: groups else (r, [tail]) :: (r', tails) :: groups
    | [] => [(r, [tail])]

/-- Number the state that reads the given sequences, of at most `depth` bytes; state 0 is the end. -/
def number : Nat → List (List ByteRange) → States → Nat × States
  | 0, _, states => (0, states)
  | depth + 1, seqs, states =>
    if seqs.all (·.isEmpty) then (0, states)
    else
      let (arcs, states) := (groupFirst seqs).foldl (fun (arcs, states) (r, tails) =>
        let (target, states) := number depth tails states
        ((r, target) :: arcs, states)) (([] : Arcs), states)
      match states[arcs]? with
      | some n => (n, states)
      | none => (states.size + 1, states.insert arcs (states.size + 1))

/-- The size of the forward automaton of a set. -/
def forwardClass (s : CharSet) : Nat :=
  let states := (number 4 (sequences s) {}).2
  states.fold (fun size arcs _ => size + stateSize + arcSize * arcs.length) stateSize

/-- How many different beginnings the sequences have; equal ones are neighbours. -/
def countPrefixes (before : List ByteRange) : List (List ByteRange) → Nat
  | [] => 0
  | seq :: rest =>
    let shared := ((before.zip seq).takeWhile fun (a, b) => a == b).length
    (seq.length - shared) + countPrefixes seq rest

/-- The size of the backward automaton of a set. -/
def backwardClass (s : CharSet) : Nat :=
  let seqs := sequences s
  2 * stateSize + stateSize * countPrefixes [] seqs + branchSize * seqs.length

/-- The size of a set: a single character is its bytes, an ASCII set one state, and other sets are built
by `size`. -/
def classSize (size : CharSet → Nat) (s : CharSet) : Nat :=
  match s.ranges with
  | [(lo, hi)] =>
    if lo = hi then stateSize * (bytes lo).length
    else if s.isAscii then 2 * stateSize + arcSize
    else size s
  | ranges => if s.isAscii then 2 * stateSize + arcSize * ranges.length else size s

/-- The size of a repetition whose body has a given size. -/
def rounds (body : Nat) (mayBeEmpty : Bool) (least : Nat) : Option Nat → Nat
  | none =>
    if least = 0 then
      if mayBeEmpty then body + 3 * stateSize + 4 * branchSize else body + stateSize + 2 * branchSize
    else least * body + stateSize + 2 * branchSize
  | some most =>
    let optional := (most - least) * (body + stateSize + 2 * branchSize)
    if least = most then least * body
    else if least = 0 ∧ most = 1 then optional + stateSize
    else Nat.max stateSize (least * body) + stateSize + optional

/-- The size of an expression, given the size of a set and of what remembers a group. -/
def size (set : CharSet → Nat) (memory : Nat) : Expr → Nat
  | .empty | .look _ => stateSize
  | .one s => classSize set s
  | .seq a b => size set memory a + size set memory b
  | .alt a b =>
    size set memory a + size set memory b +
      match b with
      | .alt _ _ => branchSize
      | _ => 2 * stateSize + 2 * branchSize
  | .many e least most _ => rounds (size set memory e) e.mayBeEmpty least most
  | .group e => size set memory e + memory

/-- What surrounds every pattern: the loop that starts a search, and the states at its ends. -/
def frame : Nat := 6 * stateSize + 3 * arcSize

/-- Whether both automata of an expression are within the limit. -/
def fits (e : Expr) : Bool :=
  frame + size forwardClass (2 * stateSize) e ≤ sizeLimit && frame + size backwardClass 0 e ≤ sizeLimit

end Descent.Pattern.Budget
