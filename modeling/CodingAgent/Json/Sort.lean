import CodingAgent.Json.Order

/-!
# Sorting values

`sortValues` sorts a list of values stably by `Value.less`, asking exactly the comparisons
of the adaptive merge sort the program sorts with, in the same order. That matters twice:
when some pair cannot be ordered, the error is the one of the first such pair asked about;
and a NaN, which is neither less nor greater than anything, ends up where that sort leaves
it.

The sort, for `n` items:

* a *minimum run* length is taken from `n`: its top six bits, plus one when any lower bit
  is set (all of `n` below 64);
* runs are cut from the front: the longest strictly descending prefix (reversed in place)
  or non-descending prefix, extended to the minimum run (or the rest) by binary insertion;
* each run found is given a *power*, the depth in a balanced merge tree over the whole list
  at which it and the run before it would meet (`runPower`); runs on the stack with a
  greater power than the new one are merged first;
* at the end the stack is merged from the top, the middle run of the top three merged with
  the smaller of its neighbours;
* two runs are merged by first skipping what is already in place (a *gallop* from either
  end), then merging from the shorter side, one item at a time until one side has won
  `minGallop` times in a row, then by galloping while a gallop moves at least seven items.
  The threshold `minGallop` starts at seven, and it drops while galloping pays and rises
  when it stops paying, over the whole sort.

A gallop looks for the place of a key among sorted items by probing at distances 1, 3, 7,
15, ... from a hint, then by binary search within the last step.
-/

namespace CodingAgent.Json

/-- A comparison that may fail. -/
abbrev Ordered := Except ShapeError

/-- The item at `i`, or null past the end. -/
def itemAt (a : Array Value) (i : Nat) : Value :=
  a.getD i .null

/-- Probe at offsets 1, 3, 7, ... below `maxofs` while `further` holds at the offset; the
last offset where it held (0 if none) and the first where it did not, or `maxofs`. -/
def gallopSteps (further : Nat → Ordered Bool) (maxofs : Nat) :
    Nat → Nat → Nat → Ordered (Nat × Nat)
  | 0, lastofs, ofs => .ok (lastofs, min ofs maxofs)
  | fuel + 1, lastofs, ofs =>
    if ofs < maxofs then do
      if ← further ofs then gallopSteps further maxofs fuel ofs (2 * ofs + 1)
      else pure (lastofs, ofs)
    else .ok (lastofs, maxofs)

/-- Binary search between `lo` and `hi` for the first place `m` where `leftOf m` holds,
`leftOf` holding from some place on. -/
def narrow (leftOf : Nat → Ordered Bool) : Nat → Nat → Nat → Ordered Nat
  | 0, lo, _ => .ok lo
  | fuel + 1, lo, hi =>
    if lo < hi then do
      let m := lo + (hi - lo) / 2
      if ← leftOf m then narrow leftOf fuel lo m else narrow leftOf fuel (m + 1) hi
    else .ok lo

/-- The place of `key` among the `n` sorted items of `a` from `off`, before every item
that is not less than it, searched from the hint. -/
def gallopLeft (key : Value) (a : Array Value) (off n hint : Nat) : Ordered Nat := do
  let item := fun i => itemAt a (off + i)
  let (lo, hi) ←
    if ← (item hint).less key then do
      let (lastofs, ofs) ← gallopSteps (fun o => (item (hint + o)).less key) (n - hint)
        (n + 1) 0 1
      pure (hint + lastofs + 1, hint + ofs)
    else do
      let (lastofs, ofs) ← gallopSteps (fun o => do pure !(← (item (hint - o)).less key))
        (hint + 1) (n + 1) 0 1
      pure (hint + 1 - ofs, hint - lastofs)
  narrow (fun m => do pure !(← (item m).less key)) (n + 1) lo hi

/-- The place of `key` among the `n` sorted items of `a` from `off`, after every item it is
not less than, searched from the hint. -/
def gallopRight (key : Value) (a : Array Value) (off n hint : Nat) : Ordered Nat := do
  let item := fun i => itemAt a (off + i)
  let (lo, hi) ←
    if ← key.less (item hint) then do
      let (lastofs, ofs) ← gallopSteps (fun o => key.less (item (hint - o))) (hint + 1)
        (n + 1) 0 1
      pure (hint + 1 - ofs, hint - lastofs)
    else do
      let (lastofs, ofs) ← gallopSteps (fun o => do pure !(← key.less (item (hint + o))))
        (n - hint) (n + 1) 0 1
      pure (hint + lastofs + 1, hint + ofs)
  narrow (fun m => key.less (item m)) (n + 1) lo hi

/-- The items of `a` from `i` up to `j`. -/
def slice (a : Array Value) (i j : Nat) : Array Value :=
  a.extract i j

/-- A merge from the low end: the rest of run `a` from `ia`, the rest of run `b` from `ib`,
the merged front, and the gallop threshold. -/
structure LowMerge where
  a : Array Value
  ia : Nat
  b : Array Value
  ib : Nat
  out : Array Value
  minGallop : Nat

namespace LowMerge

/-- Items left in `a`. -/
def na (m : LowMerge) : Nat := m.a.size - m.ia

/-- Items left in `b`. -/
def nb (m : LowMerge) : Nat := m.b.size - m.ib

/-- The merged items once either side stops: the front, then what is left of each run. -/
def finish (m : LowMerge) : Array Value × Nat :=
  (m.out ++ slice m.a m.ia m.a.size ++ slice m.b m.ib m.b.size, m.minGallop)

/-- The merged items when one item of `a` is left: it goes after the rest of `b`. -/
def lastOfA (m : LowMerge) : Array Value × Nat :=
  (m.out ++ slice m.b m.ib m.b.size ++ slice m.a m.ia m.a.size, m.minGallop)

/-- Move the first `k` items of `a` to the front. -/
def takeA (m : LowMerge) (k : Nat) : LowMerge :=
  { m with out := m.out ++ slice m.a m.ia (m.ia + k), ia := m.ia + k }

/-- Move the first `k` items of `b` to the front. -/
def takeB (m : LowMerge) (k : Nat) : LowMerge :=
  { m with out := m.out ++ slice m.b m.ib (m.ib + k), ib := m.ib + k }

/-- The merge one item at a time (`wins` counts the wins of `a`, or of `b`, in a row) and,
once a side has won `minGallop` times, by galloping. Every step moves an item. -/
def run : Nat → LowMerge → Option (Bool × Nat) → Ordered (Array Value × Nat)
  | 0, m, _ => .ok m.finish
  | fuel + 1, m, some (aWon, wins) => do
    if ← (itemAt m.b m.ib).less (itemAt m.a m.ia) then
      let m := m.takeB 1
      let wins := if aWon then 1 else wins + 1
      if m.nb == 0 then pure m.finish
      else if wins ≥ m.minGallop then run fuel { m with minGallop := m.minGallop + 1 } none
      else run fuel m (some (false, wins))
    else
      let m := m.takeA 1
      let wins := if aWon then wins + 1 else 1
      if m.na == 1 then pure m.lastOfA
      else if wins ≥ m.minGallop then run fuel { m with minGallop := m.minGallop + 1 } none
      else run fuel m (some (true, wins))
  | fuel + 1, m, none => do
    let m := { m with minGallop := if m.minGallop > 1 then m.minGallop - 1 else m.minGallop }
    let k ← gallopRight (itemAt m.b m.ib) m.a m.ia m.na 0
    let m := m.takeA k
    if m.na == 1 then return m.lastOfA
    if m.na == 0 then return m.finish
    let m := m.takeB 1
    if m.nb == 0 then return m.finish
    let k2 ← gallopLeft (itemAt m.a m.ia) m.b m.ib m.nb 0
    let m := m.takeB k2
    if m.nb == 0 then return m.finish
    let m := m.takeA 1
    if m.na == 1 then return m.lastOfA
    if k ≥ 7 || k2 ≥ 7 then run fuel m none
    else run fuel { m with minGallop := m.minGallop + 1 } (some (true, 0))

end LowMerge

/-- Merge the sorted runs `a` and `b` (`a` not longer), from the low end. -/
def mergeLow (a b : Array Value) (minGallop : Nat) : Ordered (Array Value × Nat) :=
  let m : LowMerge :=
    { a := a, ia := 0, b := b, ib := 1, out := #[itemAt b 0], minGallop := minGallop }
  if m.nb == 0 then .ok m.finish
  else if m.na == 1 then .ok m.lastOfA
  else LowMerge.run (a.size + b.size + 1) m (some (true, 0))

/-- A merge from the high end: the first `na` items of run `a` and the first `nb` of run
`b` are left, `tail` is the merged back, and the gallop threshold. -/
structure HighMerge where
  a : Array Value
  na : Nat
  b : Array Value
  nb : Nat
  tail : Array Value
  minGallop : Nat

namespace HighMerge

/-- The merged items once either side stops: what is left of each run, then the back. -/
def finish (m : HighMerge) : Array Value × Nat :=
  (slice m.a 0 m.na ++ slice m.b 0 m.nb ++ m.tail, m.minGallop)

/-- The merged items when one item of `b` is left: it goes before the rest of `a`. -/
def firstOfB (m : HighMerge) : Array Value × Nat :=
  (slice m.b 0 m.nb ++ slice m.a 0 m.na ++ m.tail, m.minGallop)

/-- Move the last `k` items of `a` to the back. -/
def takeA (m : HighMerge) (k : Nat) : HighMerge :=
  { m with tail := slice m.a (m.na - k) m.na ++ m.tail, na := m.na - k }

/-- Move the last `k` items of `b` to the back. -/
def takeB (m : HighMerge) (k : Nat) : HighMerge :=
  { m with tail := slice m.b (m.nb - k) m.nb ++ m.tail, nb := m.nb - k }

/-- The merge from the high end, one item at a time and then by galloping, as
`LowMerge.run` from the low end. -/
def run : Nat → HighMerge → Option (Bool × Nat) → Ordered (Array Value × Nat)
  | 0, m, _ => .ok m.finish
  | fuel + 1, m, some (aWon, wins) => do
    if ← (itemAt m.b (m.nb - 1)).less (itemAt m.a (m.na - 1)) then
      let m := m.takeA 1
      let wins := if aWon then wins + 1 else 1
      if m.na == 0 then pure m.finish
      else if wins ≥ m.minGallop then run fuel { m with minGallop := m.minGallop + 1 } none
      else run fuel m (some (true, wins))
    else
      let m := m.takeB 1
      let wins := if aWon then 1 else wins + 1
      if m.nb == 1 then pure m.firstOfB
      else if wins ≥ m.minGallop then run fuel { m with minGallop := m.minGallop + 1 } none
      else run fuel m (some (false, wins))
  | fuel + 1, m, none => do
    let m := { m with minGallop := if m.minGallop > 1 then m.minGallop - 1 else m.minGallop }
    let r ← gallopRight (itemAt m.b (m.nb - 1)) m.a 0 m.na (m.na - 1)
    let k := m.na - r
    let m := m.takeA k
    if m.na == 0 then return m.finish
    let m := m.takeB 1
    if m.nb == 1 then return m.firstOfB
    let r2 ← gallopLeft (itemAt m.a (m.na - 1)) m.b 0 m.nb (m.nb - 1)
    let k2 := m.nb - r2
    let m := m.takeB k2
    if m.nb == 1 then return m.firstOfB
    if m.nb == 0 then return m.finish
    let m := m.takeA 1
    if m.na == 0 then return m.finish
    if k ≥ 7 || k2 ≥ 7 then run fuel m none
    else run fuel { m with minGallop := m.minGallop + 1 } (some (true, 0))

end HighMerge

/-- Merge the sorted runs `a` and `b` (`b` shorter), from the high end. -/
def mergeHigh (a b : Array Value) (minGallop : Nat) : Ordered (Array Value × Nat) :=
  let m : HighMerge :=
    { a := a, na := a.size - 1, b := b, nb := b.size, tail := #[itemAt a (a.size - 1)],
      minGallop := minGallop }
  if m.na == 0 then .ok m.finish
  else if m.nb == 1 then .ok m.firstOfB
  else HighMerge.run (a.size + b.size + 1) m (some (true, 0))

/-- A run waiting to be merged: where it starts, its length, and its power. -/
structure PendingRun where
  base : Nat
  len : Nat
  power : Nat := 0

/-- The state of a sort: the items as they stand, the runs waiting, and the gallop
threshold. -/
structure SortState where
  items : Array Value
  runs : Array PendingRun := #[]
  minGallop : Nat := 7

/-- Merge the waiting runs `i` and `i + 1`. -/
def SortState.mergeAt (st : SortState) (i : Nat) : Ordered SortState := do
  let ra := st.runs.getD i ⟨0, 0, 0⟩
  let rb := st.runs.getD (i + 1) ⟨0, 0, 0⟩
  let runs := (st.runs.set! i { ra with len := ra.len + rb.len }).eraseIdx! (i + 1)
  let st := { st with runs := runs }
  let k ← gallopRight (itemAt st.items rb.base) st.items ra.base ra.len 0
  let baseA := ra.base + k
  let na := ra.len - k
  if na == 0 then return st
  let nb ← gallopLeft (itemAt st.items (baseA + na - 1)) st.items rb.base rb.len (rb.len - 1)
  if nb == 0 then return st
  let a := slice st.items baseA (baseA + na)
  let b := slice st.items rb.base (rb.base + nb)
  let (merged, minGallop) ← if na ≤ nb then mergeLow a b st.minGallop
    else mergeHigh a b st.minGallop
  let items := slice st.items 0 baseA ++ merged ++ slice st.items (rb.base + nb) st.items.size
  return { st with items := items, minGallop := minGallop }

/-- The power of the run of length `n1` at `s1` before a run of length `n2`, in a list of
`n` items: the first bit where the binary fractions of their midpoints, `(s1 + n1/2)/n` and
`(s1 + n1 + n2/2)/n`, differ. -/
def runPower (s1 n1 n2 n : Nat) : Nat :=
  go (2 * n + 4) (2 * s1 + n1) (2 * s1 + 2 * n1 + n2) 1
where
  go : Nat → Nat → Nat → Nat → Nat
    | 0, _, _, result => result
    | fuel + 1, a, b, result =>
      if a ≥ n then go fuel (2 * (a - n)) (2 * (b - n)) (result + 1)
      else if b ≥ n then result
      else go fuel (2 * a) (2 * b) (result + 1)

/-- Merge the runs on top while the one below the top has a greater power than `power`. -/
def SortState.collapseAbove (power : Nat) : Nat → SortState → Ordered SortState
  | 0, st => .ok st
  | fuel + 1, st =>
    if st.runs.size > 1 && (st.runs.getD (st.runs.size - 2) ⟨0, 0, 0⟩).power > power then do
      let st ← st.mergeAt (st.runs.size - 2)
      SortState.collapseAbove power fuel st
    else .ok st

/-- Take a new run of length `n2` in: merge what its arrival calls for, then wait. -/
def SortState.foundRun (st : SortState) (base n2 : Nat) : Ordered SortState := do
  let st ← match st.runs.back? with
    | none => pure st
    | some top => do
      let power := runPower top.base top.len n2 st.items.size
      let st ← SortState.collapseAbove power st.runs.size st
      pure { st with runs := st.runs.modify (st.runs.size - 1) (fun r => { r with power := power }) }
  return { st with runs := st.runs.push { base := base, len := n2 } }

/-- Merge all waiting runs: the two on top, or the two below them when the run under those
is shorter than the top one. -/
def SortState.collapseAll : Nat → SortState → Ordered SortState
  | 0, st => .ok st
  | fuel + 1, st =>
    if st.runs.size > 1 then do
      let n := st.runs.size - 2
      let n := if n > 0 && (st.runs.getD (n - 1) ⟨0, 0, 0⟩).len <
          (st.runs.getD (n + 1) ⟨0, 0, 0⟩).len then n - 1 else n
      let st ← st.mergeAt n
      SortState.collapseAll fuel st
    else .ok st

/-- The length of the run that starts at `lo`, below `hi`, and whether it strictly
descends. -/
def runAt (items : Array Value) (lo hi : Nat) : Ordered (Nat × Bool) := do
  if lo + 1 ≥ hi then return (1, false)
  let down ← (itemAt items (lo + 1)).less (itemAt items lo)
  let rec extend : Nat → Nat → Ordered Nat
    | 0, n => .ok n
    | fuel + 1, n =>
      if lo + n < hi then do
        let less ← (itemAt items (lo + n)).less (itemAt items (lo + n - 1))
        if less == down then extend fuel (n + 1) else pure n
      else .ok n
  let n ← extend (hi - lo) 2
  return (n, down)

/-- Sort the items from `lo` below `start` being sorted, up to `hi`, by binary insertion. -/
def insertionSort (items : Array Value) (lo start hi : Nat) : Ordered (Array Value) :=
  go (hi - start) start items
where
  go : Nat → Nat → Array Value → Ordered (Array Value)
    | 0, _, items => .ok items
    | fuel + 1, i, items => do
      if i ≥ hi then return items
      let pivot := itemAt items i
      let place ← narrow (fun p => pivot.less (itemAt items p)) (i - lo + 1) lo i
      let moved := slice items 0 place ++ #[pivot] ++ slice items place i ++
        slice items (i + 1) items.size
      go fuel (i + 1) moved

/-- The minimum run length for `n` items. -/
def minRun (n : Nat) : Nat :=
  go 64 n 0
where
  go : Nat → Nat → Nat → Nat
    | 0, n, r => n + r
    | fuel + 1, n, r => if n ≥ 64 then go fuel (n / 2) (r ||| n % 2) else n + r

/-- Cut runs from `lo` on, with `left` items left, sorting each to the minimum run and
taking it in. -/
def SortState.cutRuns (minrun : Nat) : Nat → Nat → Nat → SortState → Ordered SortState
  | 0, _, _, st => .ok st
  | fuel + 1, lo, left, st => do
    if left == 0 then return st
    let (n, down) ← runAt st.items lo (lo + left)
    let items := if down then
        slice st.items 0 lo ++ (slice st.items lo (lo + n)).reverse ++
          slice st.items (lo + n) st.items.size
      else st.items
    let force := min left minrun
    let (items, n) ← if n < minrun then do
        pure (← insertionSort items lo (lo + n) (lo + force), force)
      else pure (items, n)
    let st ← { st with items := items }.foundRun lo n
    SortState.cutRuns minrun fuel (lo + n) (left - n) st

/-- The items sorted stably by `Value.less`, or the error of the first pair that cannot be
ordered. -/
def sortValues (xs : List Value) : Ordered (List Value) := do
  let n := xs.length
  if n < 2 then return xs
  let st ← SortState.cutRuns (minRun n) (n + 1) 0 n { items := xs.toArray }
  let st ← SortState.collapseAll (st.runs.size + 1) st
  return st.items.toList

end CodingAgent.Json
