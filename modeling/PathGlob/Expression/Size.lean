import PathGlob.Expression.Basic
import PathGlob.Expression.Ranges

/-!
# PathGlob.Expression.Size

How many bytes the automaton of an expression takes. It reads bytes, and a text from its end to its
start: a character takes one state for each byte of its UTF-8 form. Sets of characters are taken by
their ranges, so it does not matter how a set is written; sequences share the states of what they
start with.
-/

namespace PathGlob.Expression

/-- The bytes of a state. -/
def stateSize : Nat := 32

/-- The bytes that a state takes more for each range of bytes that leads on from it, if there may be
several of them. -/
def rangeSize : Nat := 8

/-- The bytes that a state takes more for each of the states between which it chooses. -/
def edgeSize : Nat := 4

/-! ### Sets of characters -/

/-- The forms of characters: the first and the last code point of each form, what is added to the
first byte, and the number of bytes that follow it. -/
def forms : List (Nat × Nat × Nat × Nat) :=
  [(0, 0x7F, 0, 0), (0x80, 0x7FF, 0xC0, 1), (0x800, 0xFFFF, 0xE0, 2),
    (0x10000, 0x10FFFF, 0xF0, 3)]

/-- How many numbers there are in `count` bytes of six bits each. -/
def room : Nat → Nat
  | 0 => 1
  | count + 1 => room count * 64

/-- The sequences of ranges of bytes that make up a range of numbers which are written in a first
byte and `more` bytes of six bits each. -/
def sequences (lead : Nat) : Nat → Nat → Nat → List (List (Nat × Nat))
  | 0, first, last => [[(lead + first, lead + last)]]
  | more + 1, first, last =>
    let block := room (more + 1)
    let inBlock := fun top first last =>
      (sequences 0x80 more first last).map ((lead + top, lead + top) :: ·)
    let low := first / block
    let high := last / block
    if low = high then inBlock low (first % block) (last % block)
    else
      -- Only the blocks at the ends may be there in part
      let front := if first % block = 0 then [] else inBlock low (first % block) (block - 1)
      let back := if last % block = block - 1 then [] else inBlock high 0 (last % block)
      let low := if first % block = 0 then low else low + 1
      let high := if last % block = block - 1 then high + 1 else high
      let whole :=
        if low < high then
          [(lead + low, lead + (high - 1)) :: List.replicate (more + 1) (0x80, 0xBF)]
        else []
      front ++ whole ++ back

/-- The sequences of ranges of bytes that make up a range of code points. -/
def byteRanges (range : Nat × Nat) : List (List (Nat × Nat)) :=
  forms.flatMap fun (first, last, lead, more) =>
    let first := max first range.1
    let last := min last range.2
    if first ≤ last then sequences lead more first last else []

/-- How many items two lists have in common at their start. -/
def shared {α : Type} [DecidableEq α] : List α → List α → Nat
  | a :: as, b :: bs => if a = b then shared as bs + 1 else 0
  | _, _ => 0

/-- The number of states for sequences: one for each item up to which a sequence is not the same as
the one before it. -/
def newStates {α : Type} [DecidableEq α] (before : List α) : List (List α) → Nat
  | [] => 0
  | sequence :: more => sequence.length - shared before sequence + newStates sequence more

/-- The code point that makes up the ranges, if there is only one. -/
def only? : List (Nat × Nat) → Option Nat
  | [(first, last)] => if first = last then some first else none
  | _ => none

/-- The bytes that the states for one character of the given ranges take. -/
def rangesSize (ranges : List (Nat × Nat)) : Nat :=
  let sequences := ranges.flatMap byteRanges
  if (only? ranges).isSome then stateSize * newStates [] sequences
  else if ranges.all (·.2 < 0x80) then 2 * stateSize + rangeSize * ranges.length
  else 2 * stateSize + edgeSize * sequences.length + stateSize * newStates [] sequences

/-- The bytes that the states for one character of a set take. -/
def CharClass.size (set : CharClass) : Nat :=
  rangesSize set.ranges

/-! ### Choices -/

def total (sizes : List Nat) : Nat :=
  sizes.foldl (· + ·) 0

/-- The bytes of a state that leads on by the given number of bytes and of the edge to it. -/
def branchSize : Nat → Nat
  | 0 => 0
  | 1 => edgeSize + stateSize
  | count => edgeSize + stateSize + rangeSize * count

/-- The bytes of the states for words of fewer than `depth` bytes, in the order in which they are
tried. Words share states up to where they part, but not beyond a word that ends there and is tried
between them. -/
def triesSize : Nat → List (List UInt8) → Nat
  | 0, _ => 0
  | depth + 1, words =>
    if words.all List.isEmpty then 0
    else
      let groups := words.splitOn []
      let groupSize := fun (group : List (List UInt8)) =>
        let firsts := (group.filterMap List.head?).eraseDups
        let below := firsts.map fun first =>
          triesSize depth ((group.filter (·.head? = some first)).map List.tail)
        branchSize firsts.length + total below
      stateSize + edgeSize * (groups.length - 1) + total (groups.map groupSize)

/-- The bytes of the states for a choice between parts of the given sizes. -/
def choiceSize (sizes : List Nat) : Nat :=
  2 * stateSize + total (sizes.map fun size => edgeSize + max stateSize size)

/-- The bytes of the states for a choice between words. Single characters are a set. -/
def wordsSize (words : List Text) : Nat :=
  if words.all (·.length = 1) then
    (CharClass.ofRanges (words.flatten.map fun c => (c, c))).size
  else if words.any List.isEmpty then choiceSize (words.map (stateSize * Text.byteLength ·))
  else
    let reversed := words.map fun word => word.toBytes.reverse
    stateSize + triesSize ((reversed.map List.length).foldl max 0 + 1) reversed

/-! ### Expressions -/

/-- The parts between which the expression chooses, in front of others. -/
def parts : Expr → List Expr → List Expr
  | .either a b, more => parts a (parts b more)
  | e, more => e :: more

/-- The word that the expression spells. -/
def word? : Expr → Option Text
  | .empty => some []
  | .one set => (only? set.ranges).map fun n => [Char.ofNat n]
  | .seq a b => do return (← word? a) ++ (← word? b)
  | _ => none

/-- The bytes of the states of an expression whose parts have the given sizes. -/
def sizeOfParts (e : Expr) : List Nat → Nat
  | [size] => size
  | sizes =>
    match (parts e []).mapM word? with
    | some words => wordsSize words
    | none => choiceSize sizes

/-- The sizes of the parts between which the expression chooses, in front of others. -/
def partSizes : Expr → List Nat → List Nat
  | .empty, more => 0 :: more
  | .start, more | .finish, more => stateSize :: more
  | .one set, more => set.size :: more
  | .seq a b, more =>
    (sizeOfParts a (partSizes a []) + sizeOfParts b (partSizes b [])) :: more
  | .either a b, more => partSizes a (partSizes b more)
  | .star a, more => (sizeOfParts a (partSizes a []) + (stateSize + 2 * edgeSize)) :: more

/-- The bytes that the automaton of an expression takes. Four states are for the bounds of the match
and for its ends. -/
def size (e : Expr) : Nat :=
  sizeOfParts e (partSizes e []) + 4 * stateSize

end PathGlob.Expression
