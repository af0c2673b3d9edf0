import CodingAgent.Text.CodePoints

/-!
# Searching a text for a text

A text is searched for another code point by code point: the marked pairs and the stand-ins
of the encoding (`Text.codeChars`) are single code points here, so a stand-in is never found
inside the pair of a code point of the top range.

`occurs` tells whether a text is a piece of another, `occurrenceCount` counts the pieces that
do not overlap, from the left, and `replaceOccurrences` replaces them, all of them or the
first few.
-/

namespace CodingAgent.Text

variable {α : Type} [BEq α]

/-- Whether `needle` starts the list at some place of `hay`; the empty list starts every
list. -/
def infixOf (needle : List α) : List α → Bool
  | [] => needle.isEmpty
  | c :: rest => needle.isPrefixOf (c :: rest) || infixOf needle rest

/-- The number of non-overlapping occurrences of a non-empty `needle` in `hay`, from the
left. -/
def countInfix (needle : List α) (hay : List α) : Nat :=
  match hay with
  | [] => 0
  | c :: rest =>
    if h : needle ≠ [] ∧ needle.isPrefixOf (c :: rest) = true then
      have : 0 < needle.length := List.length_pos_iff.mpr h.1
      1 + countInfix needle ((c :: rest).drop needle.length)
    else countInfix needle rest
termination_by hay.length

/-- Replace the non-overlapping occurrences of a non-empty `needle` in `hay` by `new`, from
the left, at most `limit` of them when a limit is given. -/
def replaceInfix (needle new : List α) (limit : Option Nat) (hay : List α) : List α :=
  match hay with
  | [] => []
  | c :: rest =>
    if h : limit ≠ some 0 ∧ needle ≠ [] ∧ needle.isPrefixOf (c :: rest) = true then
      have : 0 < needle.length := List.length_pos_iff.mpr h.2.1
      new ++ replaceInfix needle new (limit.map (· - 1)) ((c :: rest).drop needle.length)
    else c :: replaceInfix needle new limit rest
termination_by hay.length

/-- Whether the text `needle` is a piece of the text `hay`, by code points; the empty text
is a piece of every text. -/
def occurs (needle hay : String) : Bool :=
  infixOf (codePoints needle.toList) (codePoints hay.toList)

/-- The number of non-overlapping occurrences of a non-empty text in a text, by code
points. -/
def occurrenceCount (needle hay : String) : Nat :=
  countInfix (codePoints needle.toList) (codePoints hay.toList)

/-- Replace the non-overlapping occurrences of a non-empty text, by code points, at most
`limit` of them when a limit is given. -/
def replaceOccurrences (needle new : String) (limit : Option Nat) (hay : String) : String :=
  ofCodePoints (replaceInfix (codePoints needle.toList) (codePoints new.toList) limit
    (codePoints hay.toList))

end CodingAgent.Text
