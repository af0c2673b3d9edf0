/-!
# Code point range tables

A character property given by the Unicode data is stored as a sorted array of disjoint,
inclusive code point ranges. Tables are written as texts of hex words, two per range, and
membership is a binary search. A property with values (`RangeMap`) adds the value as a third
word; a mapping of single keys to two numbers (`KeyTable`) is written three words an entry.
-/

namespace CodingAgent.Text

/-- The value of a word of hex digits; other characters count as zero. -/
def hexWord (s : String) : Nat :=
  s.toList.foldl (fun acc c =>
    let d := if '0' ≤ c && c ≤ '9' then c.toNat - '0'.toNat
      else if 'a' ≤ c && c ≤ 'f' then c.toNat - 'a'.toNat + 10
      else if 'A' ≤ c && c ≤ 'F' then c.toNat - 'A'.toNat + 10
      else 0
    acc * 16 + d) 0

/-- The values of the hex words of a text separated by spaces. -/
def parseHexWords (s : String) : List Nat :=
  ((s.splitOn " ").filter (· ≠ "")).map hexWord

/-- Sorted, disjoint, inclusive code point ranges. -/
structure RangeTable where
  ranges : Array (Nat × Nat)

/-- Pair up consecutive numbers. -/
def pairUp : List Nat → List (Nat × Nat)
  | a :: b :: rest => (a, b) :: pairUp rest
  | _ => []

/-- A table from hex words, two per range. -/
def RangeTable.ofPacked (s : String) : RangeTable :=
  ⟨(pairUp (parseHexWords s)).toArray⟩

/-- Binary search between indices `lo` (inclusive) and `hi` (exclusive). -/
def RangeTable.search (t : RangeTable) (n : Nat) : Nat → Nat → Nat → Bool
  | 0, _, _ => false
  | fuel + 1, lo, hi =>
    if lo < hi then
      let mid := (lo + hi) / 2
      let (a, b) := t.ranges.getD mid (0, 0)
      if n < a then t.search n fuel lo mid
      else if b < n then t.search n fuel (mid + 1) hi
      else true
    else false

/-- Whether a code point lies in one of the ranges. -/
def RangeTable.contains (t : RangeTable) (n : Nat) : Bool :=
  t.search n 64 0 t.ranges.size

/-- Group consecutive numbers in threes. -/
def tripleUp : List Nat → List (Nat × Nat × Nat)
  | a :: b :: c :: rest => (a, b, c) :: tripleUp rest
  | _ => []

/-- Sorted, disjoint, inclusive code point ranges, each with a value. -/
structure RangeMap where
  entries : Array (Nat × Nat × Nat)

/-- A map from hex words, three per range: first, last and value. -/
def RangeMap.ofPacked (s : String) : RangeMap :=
  ⟨(tripleUp (parseHexWords s)).toArray⟩

/-- Binary search between indices `lo` (inclusive) and `hi` (exclusive). -/
def RangeMap.search (t : RangeMap) (n : Nat) : Nat → Nat → Nat → Option Nat
  | 0, _, _ => none
  | fuel + 1, lo, hi =>
    if lo < hi then
      let mid := (lo + hi) / 2
      let (a, b, v) := t.entries.getD mid (0, 0, 0)
      if n < a then t.search n fuel lo mid
      else if b < n then t.search n fuel (mid + 1) hi
      else some v
    else none

/-- The value of the range a code point lies in. -/
def RangeMap.find? (t : RangeMap) (n : Nat) : Option Nat :=
  t.search n 64 0 t.entries.size

/-- Entries sorted by key, each with two numbers. -/
structure KeyTable where
  entries : Array (Nat × Nat × Nat)

/-- A table from hex words, three per entry: the key and its two numbers. -/
def KeyTable.ofPacked (s : String) : KeyTable :=
  ⟨(tripleUp (parseHexWords s)).toArray⟩

/-- The key of a pair of code points. -/
def pairKey (a b : Nat) : Nat :=
  a * 0x110000 + b

/-- A table keyed by pairs of code points, from hex words, three per entry: the pair and the
number it maps to (the second number is `0`). -/
def KeyTable.ofPairs (s : String) : KeyTable :=
  ⟨((tripleUp (parseHexWords s)).map (fun (a, b, c) => (pairKey a b, c, 0))).toArray⟩

/-- Binary search between indices `lo` (inclusive) and `hi` (exclusive). -/
def KeyTable.search (t : KeyTable) (k : Nat) : Nat → Nat → Nat → Option (Nat × Nat)
  | 0, _, _ => none
  | fuel + 1, lo, hi =>
    if lo < hi then
      let mid := (lo + hi) / 2
      let (key, a, b) := t.entries.getD mid (0, 0, 0)
      if k < key then t.search k fuel lo mid
      else if key < k then t.search k fuel (mid + 1) hi
      else some (a, b)
    else none

/-- The numbers of a key. -/
def KeyTable.find? (t : KeyTable) (k : Nat) : Option (Nat × Nat) :=
  t.search k 64 0 t.entries.size

end CodingAgent.Text
