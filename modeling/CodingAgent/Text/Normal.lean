import CodingAgent.Text.Combining
import CodingAgent.Text.CanonicalTable

/-!
# Normalization form C

A sequence of code points is put in normalization form C (Unicode 14.0) in three passes:

* full canonical decomposition, Hangul syllables by arithmetic;
* canonical ordering: each run of code points with a combining class other than 0 is sorted
  by class, code points of one class keeping their order;
* canonical composition: from the left, a code point joins the last starter (combining class
  0) before it when nothing between blocks it (a code point of class 0, or of a class at least
  its own) and the two form a primary composite.

A text is in the form when normalizing it changes nothing (`isNormalC`).
-/

namespace CodingAgent.Text

/-- The first Hangul syllable. -/
def syllableBase : Nat := 0xAC00

/-- The number of Hangul syllables. -/
def syllableCount : Nat := 11172

/-- The first leading consonant. -/
def leadBase : Nat := 0x1100

/-- The first vowel. -/
def vowelBase : Nat := 0x1161

/-- The code point before the first trailing consonant. -/
def trailBase : Nat := 0x11A7

/-- The number of leading consonants. -/
def leadCount : Nat := 19

/-- The number of vowels. -/
def vowelCount : Nat := 21

/-- The number of trailing consonants, with none counted. -/
def trailCount : Nat := 28

/-- Whether a code point is a Hangul syllable. -/
def isSyllable (n : Nat) : Bool :=
  syllableBase ≤ n && n < syllableBase + syllableCount

/-- The full canonical decomposition of a code point; `fuel` bounds the nesting of the
mapping, which is at most four deep. -/
def decomposeCode : Nat → Nat → List Nat
  | 0, n => [n]
  | fuel + 1, n =>
    if isSyllable n then
      let s := n - syllableBase
      let lead := leadBase + s / (vowelCount * trailCount)
      let vowel := vowelBase + s % (vowelCount * trailCount) / trailCount
      let trail := s % trailCount
      if trail == 0 then [lead, vowel] else [lead, vowel, trailBase + trail]
    else
      match decompositionTable.find? n with
      | some (a, 0) => decomposeCode fuel a
      | some (a, b) => decomposeCode fuel a ++ decomposeCode fuel b
      | none => [n]

/-- A run of code points of classes other than 0, sorted by class, stably. -/
def sortRun (run : List Nat) : List Nat :=
  run.mergeSort (fun a b => combiningClass a ≤ combiningClass b)

/-- Canonical ordering, with the run read so far (reversed). -/
def orderFrom : List Nat → List Nat → List Nat
  | [], run => sortRun run.reverse
  | n :: rest, run =>
    if combiningClass n == 0 then sortRun run.reverse ++ n :: orderFrom rest []
    else orderFrom rest (n :: run)

/-- Canonical ordering of a decomposed sequence. -/
def canonicalOrder (ns : List Nat) : List Nat :=
  orderFrom ns []

/-- The primary composite of two code points, if they form one; Hangul syllables are
composed by arithmetic. -/
def composePair (a b : Nat) : Option Nat :=
  if leadBase ≤ a && a < leadBase + leadCount && vowelBase ≤ b && b < vowelBase + vowelCount then
    some (syllableBase + ((a - leadBase) * vowelCount + (b - vowelBase)) * trailCount)
  else if isSyllable a && (a - syllableBase) % trailCount == 0 && trailBase < b &&
      b < trailBase + trailCount then
    some (a + (b - trailBase))
  else (compositionTable.find? (pairKey a b)).map (·.1)

/-- The state of canonical composition: the code points so far, the place of the last
starter, and the class of the last code point after it (none when there is none). -/
structure Composing where
  out : Array Nat := #[]
  starter : Option Nat := none
  lastClass : Option Nat := none

/-- Append a code point that joins nothing. -/
def Composing.append (st : Composing) (n : Nat) : Composing :=
  let c := combiningClass n
  if c == 0 then { out := st.out.push n, starter := some st.out.size, lastClass := none }
  else { st with out := st.out.push n, lastClass := some c }

/-- Take the next code point: it joins the last starter when nothing blocks it and the two
form a primary composite; otherwise it is appended. -/
def Composing.take (st : Composing) (n : Nat) : Composing :=
  let blocked := match st.lastClass with
    | none => false
    | some l => combiningClass n ≤ l
  match st.starter with
  | some s =>
    if blocked then st.append n
    else
      match composePair (st.out.getD s 0) n with
      | some p => { st with out := st.out.setIfInBounds s p }
      | none => st.append n
  | none => st.append n

/-- The normalization form C of a sequence of code points. -/
def normalC (ns : List Nat) : List Nat :=
  let ordered := canonicalOrder (ns.flatMap (decomposeCode 8))
  (ordered.foldl Composing.take {}).out.toList

/-- Whether a sequence of code points is in normalization form C. -/
def isNormalC (ns : List Nat) : Bool :=
  normalC ns == ns

end CodingAgent.Text
