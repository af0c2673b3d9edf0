import CodingAgent.Decimal.Binary

/-!
# The order of a set of numbers

A set built from the keys of a mapping is read back in the order of its slot table, not in
the order of the keys. This module computes that order for keys whose hashes are known:
integers, reals and booleans.

* A number's hash is its value modulo the prime `2^61 - 1`, with the sign of the number;
  a real `m * 2^q` weighs `m` by `2^q`, where `2^61` counts as one. The hash `-1` is taken
  as `-2`. Infinities hash to `±314159`; NaN has no fixed hash.
* The table has a power-of-two number of slots, at least 8. An item goes to the slot its
  hash selects (`hash mod size`, the hash read as an unsigned 64-bit word); when that slot is
  taken, the nine slots after it are tried if they fit in the table, and then the next start
  is `5 * i + 1 + perturb`, where `perturb` starts as the hash and loses five bits each time.
* Before the keys go in, a table too small for all of them grows to hold twice their number;
  after each key, a table filled to three fifths grows to hold four times its items (twice,
  past 50000). Growing moves the items, in slot order, to the first free slot of their own
  probe sequence.

`setOrder` gives the keys in slot order, or in their own order when a key's hash is not
known.
-/

namespace CodingAgent.Yaml

open CodingAgent.Decimal

/-- The prime that hashes of numbers are taken modulo, `2^61 - 1`. -/
def hashModulus : Nat := Nat.pow 2 61 - 1

/-- A hash with `-1`, which marks a failure, replaced by `-2`. -/
def fixHash (h : Int) : Int :=
  if h == -1 then -2 else h

/-- The hash of an integer: its magnitude modulo `hashModulus`, with its sign. -/
def intHash (n : Int) : Int :=
  let h : Nat := n.natAbs % hashModulus
  fixHash (if n < 0 then -(h : Int) else h)

/-- The hash of a real, equal to that of an integer of the same value; none for NaN. -/
def floatHash (x : Float) : Option Int :=
  match Kind.ofFloat x with
  | .nan => none
  | .infinite neg => some (if neg then -314159 else 314159)
  | .finite b =>
    let weight := Nat.pow 2 (b.q % 61).toNat
    let h : Nat := (b.m % hashModulus) * weight % hashModulus
    some (fixHash (if b.neg then -(h : Int) else h))

/-- A hash read as an unsigned 64-bit word. -/
def hashWord (h : Int) : Nat :=
  if h < 0 then (Nat.pow 2 64 - h.natAbs) else h.toNat

/-- The tried slots are the first one and this many after it, when they fit. -/
def linearProbes : Nat := 9

/-- A slot table: each slot empty or holding an item with the word of its hash. -/
abbrev Slots := Array (Option (Nat × Nat))

/-- The first free slot in the probe sequence from slot `i` with `perturb` left; at most
`fuel` starts are tried. Once `perturb` is zero the starts run through every slot of the
table, which always has a free one, so `fuel` of 64 plus the table size is enough. -/
def freeSlot (slots : Slots) (mask : Nat) : Nat → Nat → Nat → Option Nat
  | 0, _, _ => none
  | fuel + 1, i, perturb =>
    let run := if i + linearProbes ≤ mask then List.range (linearProbes + 1) else [0]
    match run.find? (fun j => (slots.getD (i + j) none).isNone) with
    | some j => some (i + j)
    | none =>
      let perturb := perturb / 32
      freeSlot slots mask fuel ((i * 5 + 1 + perturb) % (mask + 1)) perturb

/-- Put an item with the word of its hash into the first free slot of its sequence. -/
def placeItem (slots : Slots) (item : Nat × Nat) : Slots :=
  let mask := slots.size - 1
  match freeSlot slots mask (64 + slots.size) (item.2 % slots.size) item.2 with
  | some i => slots.set! i (some item)
  | none => slots

/-- The items of a table in slot order. -/
def Slots.items (slots : Slots) : List (Nat × Nat) :=
  slots.toList.filterMap id

/-- The size of a table grown to hold `least` items: the first power of two above it, from
8 up. -/
def grownSize (least : Nat) : Nat :=
  (List.range 64).foldl (fun size _ => if size ≤ least then size * 2 else size) 8

/-- A table grown to hold `least` items, its items moved in slot order. -/
def grow (slots : Slots) (least : Nat) : Slots :=
  slots.items.foldl placeItem (Array.replicate (grownSize least) none)

/-- Whether a table with `fill` taken slots is full enough to grow. -/
def isCrowded (slots : Slots) (fill : Nat) : Bool :=
  fill * 5 ≥ (slots.size - 1) * 3

/-- Add new items, none equal to another, to an empty table of 8 slots. -/
def addAll (items : List (Nat × Nat)) : Slots :=
  let start : Slots := Array.replicate 8 none
  let start := if isCrowded start items.length then grow start (items.length * 2) else start
  let (slots, _) := items.foldl (fun (acc : Slots × Nat) item =>
      let slots := placeItem acc.1 item
      let fill := acc.2 + 1
      if isCrowded slots fill then
        (grow slots (if fill > 50000 then fill * 2 else fill * 4), fill)
      else (slots, fill))
    (start, 0)
  slots

/-- Distinct keys in the order of a set built from them, given each key's hash when it is
known; keys in their own order when one is not. -/
def setOrder (keys : List (Nat × Option Int)) : List Nat :=
  match keys.mapM (fun (k, h) => h.map (fun h => (k, hashWord h))) with
  | some hashed => (addAll hashed).items.map Prod.fst
  | none => keys.map Prod.fst

end CodingAgent.Yaml
