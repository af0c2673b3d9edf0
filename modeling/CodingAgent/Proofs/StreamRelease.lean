import Mathlib.Data.Finset.Sort
import CodingAgent.Stream.Aggregator

/-!
# Releasing streamed tool calls

An aggregator keeps one builder per tool-call index and updates it in place as fragments
arrive. This module describes what it releases without builders: a `Window` keeps the raw
fragments given since the last release, and `releaseOf` reads them as a whole. For each
index that received a fragment, in ascending order, it gives the call made of the last name
that counts as true, the last such id (or a fresh one), and the arguments read from the
index's argument slices joined in arrival order; an index that got no name gives nothing.

* `Builder.apply_ofFragments`, `Aggregator.onDeltas_window`: taking in fragments keeps the
  builders equal to the builders of the fragments read as a whole.
* `Aggregator.flush_window`: a release gives `releaseOf` of the window and empties it, so no
  fragment takes part in two releases.
* `Aggregator.run_window`: a whole run of events gives the chunks the window machine gives.
* `stream_releases_by_window`: from a fresh aggregator, that, and the turn made of the chunks
  has the text of the text events, the released calls in order, and is cut off exactly when
  a finish reason said so.
-/

namespace CodingAgent

open CodingAgent.Json

/-! ## Runs of an aggregator -/

/-- An event of a streamed response as the aggregator takes it: text, tool-call fragments, a
finish reason, the end of the stream with its usage (`null` for none), or an explicit
release of the collected calls. -/
inductive StreamEvent where
  | text (s : String)
  | deltas (ds : List Delta)
  | finish (reason : String)
  | close (usage : Value)
  | release

namespace StreamEvent

/-- The text of a text event. -/
def text? : StreamEvent → Option String
  | .text s => some s
  | _ => none

/-- Whether the event is a finish reason that says the text was cut off. -/
def cutsOff : StreamEvent → Bool
  | .finish reason => cutOffReason (.str reason)
  | _ => false

end StreamEvent

namespace Aggregator

/-- Take in one event. -/
def step (room : Nat) (a : Aggregator) (ids : IdSource) : StreamEvent → Except ShapeError Fed
  | .text s => .ok ⟨textChunks s, a, ids⟩
  | .deltas ds => (a.onDeltas ds).map fun a => ⟨[], a, ids⟩
  | .finish reason => a.onFinish room reason ids
  | .close usage => a.onEnd room usage ids
  | .release => a.flush room ids

/-- Take in events in order, gathering the chunks they give. -/
def run (room : Nat) : List StreamEvent → Aggregator → IdSource → Except ShapeError Fed
  | [], a, ids => .ok ⟨[], a, ids⟩
  | e :: es, a, ids => do
    let f ← a.step room ids e
    let g ← run room es f.agg f.ids
    pure ⟨f.chunks ++ g.chunks, g.agg, g.ids⟩

end Aggregator

/-! ## Fragments read as a whole -/

/-- The argument slice of a fragment as text; an absent slice is empty. -/
def Delta.slice (d : Delta) : String :=
  match d.arguments with
  | some (.str s) => s
  | _ => ""

/-- A fragment as the decoder gives it: an id or a name is present only when it counts as
true, and an argument slice is text. -/
def Delta.typed (d : Delta) : Bool :=
  d.id.all Value.truthy && d.name.all Value.truthy && d.arguments.all (· matches .str _)

theorem presentField_all (v : Value) : (presentField v).all Value.truthy = true := by
  unfold presentField
  split <;> simp_all

/-- The decoder gives an id or a name only when it counts as true, so a decoded fragment is
as `Delta.typed` asks once its argument slice, if any, is text. -/
theorem Delta.ofPayload_typed {payload : Value} {d : Delta} (h : Delta.ofPayload payload = .ok d)
    (hargs : d.arguments.all (· matches .str _) = true) : d.typed = true := by
  simp only [Delta.ofPayload, bind, Except.bind] at h
  -- each access either fails, and the decoding with it, or passes its value on
  repeat (split at h; · cases h)
  cases h
  simp only [Delta.typed, presentField_all, hargs, Bool.and_self]

/-- Whether the fragments of an event are all as the decoder gives them. -/
def StreamEvent.typed : StreamEvent → Bool
  | .deltas ds => ds.all Delta.typed
  | _ => true

/-- The last of the given values that counts as true. -/
def lastTrue (vs : List (Option Value)) : Option Value :=
  ((vs.filterMap id).filter Value.truthy).getLast?

/-- The indices that received fragments, each once, in ascending order. -/
def indicesOf (ds : List Delta) : List Int :=
  (ds.map Delta.index).toFinset.sort (· ≤ ·)

/-- The fragments of one index, in arrival order. -/
def fragmentsAt (ds : List Delta) (i : Int) : List Delta :=
  ds.filter (·.index == i)

/-- The call that the fragments of one index stand for, if one of them named it: the last
name, the last id or else a fresh one, and the arguments read from the slices joined in
order. -/
def callOf (room : Nat) (g : List Delta) (ids : IdSource) :
    Except ShapeError (Option ToolCall × IdSource) :=
  match lastTrue (g.map (·.name)) with
  | none => .ok (none, ids)
  | some name =>
    let (id, ids) := match lastTrue (g.map (·.id)) with
      | some v => (v, ids)
      | none => (.str ids.fresh.1, ids.fresh.2)
    (parseArguments room (.str (String.join (g.map Delta.slice)))).map
      fun arguments => (some { id, name, arguments }, ids)

/-- The calls released for the fragments `ds`: for each index that received one, in
ascending order, the call its fragments stand for. -/
def releaseOf (room : Nat) (ds : List Delta) (ids : IdSource) :
    Except ShapeError (List ToolCall × IdSource) :=
  go (indicesOf ds) ids
where
  go : List Int → IdSource → Except ShapeError (List ToolCall × IdSource)
    | [], ids => .ok ([], ids)
    | i :: is, ids => do
      let (call, ids) ← callOf room (fragmentsAt ds i) ids
      let (more, ids) ← go is ids
      pure (call.toList ++ more, ids)

/-- A streamed response described by the fragments given since the last release and whether
its end chunk was given. -/
structure Window where
  fragments : List Delta := []
  finished : Bool := false

namespace Window

/-- The chunks one event gives, read off the window. A release reads the arguments two calls
below the event, a release by a finish reason or by the end three. -/
def step (room : Nat) (w : Window) (ids : IdSource) :
    StreamEvent → Except ShapeError (List Chunk × Window × IdSource)
  | .text s => .ok (textChunks s, w, ids)
  | .deltas ds => .ok ([], { w with fragments := w.fragments ++ ds }, ids)
  | .finish reason =>
    if reason == "tool_calls" then
      (releaseOf (room - 3) w.fragments ids).map fun (calls, ids) =>
        (calls.map .call ++ [.done (.str reason) .null], { finished := true }, ids)
    else .ok ([.done (.str reason) .null], { w with finished := true }, ids)
  | .close usage =>
    (releaseOf (room - 3) w.fragments ids).map fun (calls, ids) =>
      (calls.map .call ++ (if !w.finished || usage.truthy then [.done .null usage] else []),
        { finished := true }, ids)
  | .release =>
    (releaseOf (room - 2) w.fragments ids).map fun (calls, ids) =>
      (calls.map .call, { w with fragments := [] }, ids)

/-- The chunks events give in order, read off the window. -/
def run (room : Nat) : List StreamEvent → Window → IdSource →
    Except ShapeError (List Chunk × Window × IdSource)
  | [], w, ids => .ok ([], w, ids)
  | e :: es, w, ids => do
    let (cs, w, ids) ← w.step room ids e
    let (more, w, ids) ← run room es w ids
    pure (cs ++ more, w, ids)

end Window

/-! ## The builders of a window -/

/-- The indices of fragments, each once, in the order they first appeared. -/
def firstIndices (ds : List Delta) : List Int :=
  ds.foldl (fun is d => if d.index ∈ is then is else is ++ [d.index]) []

/-- The builder holding fragments read as a whole. -/
def Builder.ofFragments (g : List Delta) : Builder :=
  { id := lastTrue (g.map (·.id)), name := lastTrue (g.map (·.name)),
    arguments := String.join (g.map Delta.slice) }

/-- The aggregator that has taken in a window's fragments. -/
def Window.toAggregator (w : Window) : Aggregator :=
  { builders := (firstIndices w.fragments).map fun i => (i, .ofFragments (fragmentsAt w.fragments i))
    finished := w.finished }

theorem firstIndices_append_single (ds : List Delta) (d : Delta) :
    firstIndices (ds ++ [d]) =
      if d.index ∈ firstIndices ds then firstIndices ds else firstIndices ds ++ [d.index] := by
  rw [firstIndices, List.foldl_append]
  rfl

theorem mem_firstIndices {ds : List Delta} {i : Int} :
    i ∈ firstIndices ds ↔ ∃ d ∈ ds, d.index = i := by
  induction ds using List.reverseRecOn generalizing i with
  | nil => simp [firstIndices]
  | append_singleton ds d ih =>
    rw [firstIndices_append_single]
    by_cases h : d.index ∈ firstIndices ds
    · -- the index is already there: a fragment of `ds` witnesses it
      obtain ⟨e, he, hei⟩ := ih.1 h
      rw [if_pos h, ih]
      constructor
      · rintro ⟨d', hd', rfl⟩
        exact ⟨d', List.mem_append_left _ hd', rfl⟩
      · rintro ⟨d', hd', rfl⟩
        rcases List.mem_append.1 hd' with hd' | hd'
        · exact ⟨d', hd', rfl⟩
        · rw [List.mem_singleton.1 hd']
          exact ⟨e, he, hei⟩
    · rw [if_neg h]
      simp [ih, or_and_right, exists_or, eq_comm]

theorem nodup_firstIndices (ds : List Delta) : (firstIndices ds).Nodup := by
  induction ds using List.reverseRecOn with
  | nil => simp [firstIndices]
  | append_singleton ds d ih =>
    rw [firstIndices_append_single]
    split
    · exact ih
    · exact ih.append (List.nodup_singleton _) (by simpa)

theorem fragmentsAt_append_single (ds : List Delta) (d : Delta) (i : Int) :
    fragmentsAt (ds ++ [d]) i = fragmentsAt ds i ++ if d.index = i then [d] else [] := by
  by_cases h : d.index = i <;> simp [fragmentsAt, List.filter_append, h]

theorem fragmentsAt_of_not_mem {ds : List Delta} {i : Int} (h : i ∉ firstIndices ds) :
    fragmentsAt ds i = [] := by
  simp only [fragmentsAt, List.filter_eq_nil_iff, beq_iff_eq]
  exact fun d hd hi => h (mem_firstIndices.2 ⟨d, hd, hi⟩)

theorem lastTrue_append_single (vs : List (Option Value)) {o : Option Value}
    (h : o.all Value.truthy = true) : lastTrue (vs ++ [o]) = o.or (lastTrue vs) := by
  cases o with
  | none => simp [lastTrue]
  | some v => simp_all [lastTrue, List.filter_append]

@[simp] theorem Builder.ofFragments_nil : Builder.ofFragments [] = {} := rfl

/-- Taking in a fragment turns the builder of the earlier fragments into the builder of all. -/
theorem Builder.apply_ofFragments (g : List Delta) {d : Delta} (hd : d.typed = true) :
    (Builder.ofFragments g).apply d = .ok (.ofFragments (g ++ [d])) := by
  simp only [Delta.typed, Bool.and_eq_true] at hd
  obtain ⟨⟨hid, hname⟩, hargs⟩ := hd
  have hid' := lastTrue_append_single (g.map (·.id)) hid
  have hname' := lastTrue_append_single (g.map (·.name)) hname
  simp only [Builder.ofFragments, List.map_append, List.map_cons, List.map_nil, hid', hname',
    String.join_append]
  obtain ⟨index, id, name, arguments⟩ := d
  rcases arguments with _ | ⟨_ | _ | _ | _ | s | _ | _⟩ <;> simp at hargs <;>
    cases id <;> cases name <;> simp [Builder.apply, Delta.slice]

/-- Looking an index up in builders listed by index. -/
theorem lookup_map_pair (is : List Int) (f : Int → Builder) (j : Int) :
    (is.map fun i => (i, f i)).lookup j = if j ∈ is then some (f j) else none := by
  induction is with
  | nil => simp
  | cons i is ih =>
    by_cases h : j = i
    · simp [h]
    · simp [List.lookup_cons, beq_false_of_ne h, h, ih]

/-- Taking in a fragment extends the window. -/
theorem Aggregator.applyDelta_window (w : Window) {d : Delta} (hd : d.typed = true) :
    w.toAggregator.applyDelta d = .ok { w with fragments := w.fragments ++ [d] }.toAggregator := by
  unfold Aggregator.applyDelta
  simp only [Window.toAggregator, lookup_map_pair, firstIndices_append_single]
  by_cases h : d.index ∈ firstIndices w.fragments
  · -- the index has a builder: it takes the fragment, the others stay as they are
    simp only [if_pos h, Builder.apply_ofFragments _ hd, bind, Except.bind, pure, Except.pure,
      List.map_map, Except.ok.injEq, Aggregator.mk.injEq, and_true]
    apply List.map_congr_left
    intro i _
    by_cases hi : i = d.index
    · simp [hi, fragmentsAt_append_single]
    · simp [hi, fragmentsAt_append_single, Ne.symm hi]
  · -- a new index: its builder goes last, and no earlier index is the new one
    simp only [if_neg h, Builder.ofFragments_nil.symm, Builder.apply_ofFragments _ hd, bind,
      Except.bind, pure, Except.pure, List.map_append, List.map_cons, List.map_nil,
      Except.ok.injEq, Aggregator.mk.injEq, and_true, fragmentsAt_append_single, if_pos,
      fragmentsAt_of_not_mem h, List.nil_append]
    congr 1
    apply List.map_congr_left
    intro i hi
    have hne : d.index ≠ i := fun he => h (he ▸ hi)
    simp [hne]

/-- Taking in fragments extends the window by them. -/
theorem Aggregator.onDeltas_window (w : Window) {ds : List Delta} (hds : ds.all Delta.typed = true) :
    w.toAggregator.onDeltas ds = .ok { w with fragments := w.fragments ++ ds }.toAggregator := by
  induction ds generalizing w with
  | nil => simp [Aggregator.onDeltas]
  | cons d ds ih =>
    simp only [List.all_cons, Bool.and_eq_true] at hds
    simp only [Aggregator.onDeltas, applyDelta_window w hds.1, bind, Except.bind,
      ih _ hds.2, List.append_assoc, List.singleton_append]

/-- Sorting the indices in the order they first appeared gives each index once, ascending. -/
theorem mergeSort_firstIndices (ds : List Delta) :
    (firstIndices ds).mergeSort (fun x y => decide (x ≤ y)) = indicesOf ds := by
  apply List.SortedLT.eq_of_mem_iff
  · -- sorted by a total order, and without repeats since the indices have none
    have hsorted := @List.pairwise_mergeSort Int (fun x y => decide (x ≤ y))
      (fun a b c hab hbc => by simp only [decide_eq_true_eq] at *; omega)
      (fun a b => by simp only [Bool.or_eq_true, decide_eq_true_eq]; omega) (firstIndices ds)
    have hnodup := (List.mergeSort_perm (firstIndices ds) (fun x y => decide (x ≤ y))).nodup_iff.2
      (nodup_firstIndices ds)
    exact (List.sortedLE_iff_pairwise.2 (by simpa using hsorted)).sortedLT_of_nodup hnodup
  · exact Finset.sortedLT_sort _
  · intro i
    simp [indicesOf, List.mem_mergeSort, mem_firstIndices]

/-- Builders listed by first appearance, sorted by index, are listed by ascending index. -/
theorem mergeSort_builders (ds : List Delta) (f : Int → Builder) :
    ((firstIndices ds).map fun i => (i, f i)).mergeSort (fun x y => decide (x.1 ≤ y.1)) =
      (indicesOf ds).map fun i => (i, f i) := by
  rw [← mergeSort_firstIndices, List.map_mergeSort]
  intro _ _ _ _
  rfl

/-- The builder of fragments builds the call they stand for. -/
theorem Builder.build_ofFragments (room : Nat) (g : List Delta) (ids : IdSource) :
    (Builder.ofFragments g).build room ids = callOf (room - 1) g ids := by
  simp only [Builder.build, callOf, Builder.ofFragments]
  cases lastTrue (g.map (·.name)) with
  | none => rfl
  | some name =>
    cases lastTrue (g.map (·.id)) <;>
      cases parseArguments (room - 1) (.str (String.join (g.map Delta.slice))) <;> rfl

theorem buildAll_ofFragments (room : Nat) (ds : List Delta) (is : List Int) (ids : IdSource) :
    buildAll room (is.map fun i => .ofFragments (fragmentsAt ds i)) ids =
      (releaseOf.go (room - 2) ds is ids).map fun (calls, ids) => (calls.map .call, ids) := by
  induction is generalizing ids with
  | nil => rfl
  | cons i is ih =>
    simp only [List.map_cons, buildAll, releaseOf.go, Builder.build_ofFragments, Nat.sub_sub]
    cases callOf (room - 2) (fragmentsAt ds i) ids with
    | error e => rfl
    | ok r =>
      obtain ⟨call, ids'⟩ := r
      simp only [bind, Except.bind, ih]
      cases releaseOf.go (room - 2) ds is ids' with
      | error e => rfl
      | ok r => cases call <;> rfl

/-- A release gives the calls of the window's fragments read as a whole, and empties it. -/
theorem Aggregator.flush_window (room : Nat) (w : Window) (ids : IdSource) :
    w.toAggregator.flush room ids =
      (releaseOf (room - 2) w.fragments ids).map fun (calls, ids) =>
        ⟨calls.map .call, { w with fragments := [] }.toAggregator, ids⟩ := by
  simp only [Aggregator.flush, Window.toAggregator, mergeSort_builders, List.map_map]
  have hsnd : (Prod.snd ∘ fun i => (i, Builder.ofFragments (fragmentsAt w.fragments i))) =
      fun i => Builder.ofFragments (fragmentsAt w.fragments i) := rfl
  rw [hsnd, buildAll_ofFragments, releaseOf]
  cases releaseOf.go (room - 2) w.fragments (indicesOf w.fragments) ids <;> rfl

/-! ## Runs -/

/-- Each event gives what the window machine gives, from the aggregator of the window. -/
theorem Aggregator.step_window (room : Nat) (w : Window) (ids : IdSource) {e : StreamEvent}
    (he : e.typed = true) :
    w.toAggregator.step room ids e =
      (w.step room ids e).map fun (cs, w, ids) => ⟨cs, w.toAggregator, ids⟩ := by
  cases e with
  | text s => rfl
  | deltas ds =>
    simp only [step, Window.step, onDeltas_window w he]
    rfl
  | finish reason =>
    simp only [step, Window.step, onFinish]
    by_cases hr : reason == "tool_calls"
    · simp only [hr, if_true, flush_window, Nat.sub_sub]
      cases releaseOf (room - 3) w.fragments ids <;> rfl
    · simp only [hr]
      rfl
  | close usage =>
    simp only [step, Window.step, onEnd, flush_window, Nat.sub_sub]
    cases releaseOf (room - 3) w.fragments ids <;> rfl
  | release =>
    simp only [step, Window.step, flush_window]
    cases releaseOf (room - 2) w.fragments ids <;> rfl

/-- A run of events gives what the window machine gives: the step lemma, carried along the
run by induction on the events. -/
theorem Aggregator.run_window (room : Nat) (evs : List StreamEvent) (w : Window)
    (ids : IdSource) (hevs : evs.all StreamEvent.typed = true) :
    w.toAggregator.run room evs ids =
      (w.run room evs ids).map fun (cs, w, ids) => ⟨cs, w.toAggregator, ids⟩ := by
  induction evs generalizing w ids with
  | nil => rfl
  | cons e es ih =>
    simp only [List.all_cons, Bool.and_eq_true] at hevs
    simp only [run, Window.run, step_window room w ids hevs.1]
    cases w.step room ids e with
    | error err => rfl
    | ok r =>
      obtain ⟨cs, w', ids'⟩ := r
      simp only [Except.map, bind, Except.bind, ih w' ids' hevs.2]
      cases w'.run room es ids' <;> rfl

/-! ## The turn of a run -/

/-- The text of a text chunk. -/
def Chunk.text? : Chunk → Option String
  | .text s => some s
  | _ => none

/-- The call of a call chunk. -/
def Chunk.call? : Chunk → Option ToolCall
  | .call c => some c
  | _ => none

@[simp] theorem Chunk.text?_text (s : String) : (Chunk.text s).text? = some s := rfl
@[simp] theorem Chunk.text?_call (c : ToolCall) : (Chunk.call c).text? = none := rfl
@[simp] theorem Chunk.text?_done (r u : Value) : (Chunk.done r u).text? = none := rfl
@[simp] theorem Chunk.call?_text (s : String) : (Chunk.text s).call? = none := rfl
@[simp] theorem Chunk.call?_call (c : ToolCall) : (Chunk.call c).call? = some c := rfl
@[simp] theorem Chunk.call?_done (r u : Value) : (Chunk.done r u).call? = none := rfl
@[simp] theorem Chunk.isTruncation_text (s : String) : (Chunk.text s).isTruncation = false := rfl
@[simp] theorem Chunk.isTruncation_call (c : ToolCall) : (Chunk.call c).isTruncation = false := rfl
@[simp] theorem Chunk.isTruncation_done (r u : Value) :
    (Chunk.done r u).isTruncation = cutOffReason r := rfl

theorem Turn.add_view (t : Turn) (c : Chunk) :
    (t.add c).segments = t.segments ++ c.text?.toList ∧
      (t.add c).calls = t.calls ++ c.call?.toList ∧
      (t.add c).truncated = (t.truncated || c.isTruncation) := by
  cases c with
  | text s => simp [Turn.add, Chunk.text?, Chunk.call?, Chunk.isTruncation]
  | call c => simp [Turn.add, Chunk.text?, Chunk.call?, Chunk.isTruncation]
  | done reason usage =>
    by_cases hr : cutOffReason reason <;> by_cases hu : usage.truthy <;>
      simp [Turn.add, Chunk.text?, Chunk.call?, Chunk.isTruncation, hr, hu]

/-- A turn holds the text pieces and the calls of its chunks in order, and is cut off when
one of them says so. -/
theorem Turn.ofChunks_view (cs : List Chunk) :
    (Turn.ofChunks cs).segments = cs.filterMap Chunk.text? ∧
      (Turn.ofChunks cs).calls = cs.filterMap Chunk.call? ∧
      (Turn.ofChunks cs).truncated = cs.any Chunk.isTruncation := by
  -- the fold from any turn adds to what that turn holds
  suffices h : ∀ t : Turn, (cs.foldl Turn.add t).segments = t.segments ++ cs.filterMap Chunk.text? ∧
      (cs.foldl Turn.add t).calls = t.calls ++ cs.filterMap Chunk.call? ∧
      (cs.foldl Turn.add t).truncated = (t.truncated || cs.any Chunk.isTruncation) by
    simpa [Turn.ofChunks] using h {}
  induction cs with
  | nil => simp
  | cons c cs ih =>
    intro t
    obtain ⟨hs, hc, htr⟩ := Turn.add_view t c
    obtain ⟨hs', hc', htr'⟩ := ih (t.add c)
    refine ⟨?_, ?_, ?_⟩
    · rw [List.foldl_cons, hs', hs]
      cases c <;> simp [List.filterMap_cons, Chunk.text?]
    · rw [List.foldl_cons, hc', hc]
      cases c <;> simp [List.filterMap_cons, Chunk.call?]
    · rw [List.foldl_cons, htr', htr, List.any_cons, Bool.or_assoc]

/-- The text and the cut-off of the chunks one event gives. -/
theorem Window.step_view {room : Nat} {w : Window} {ids : IdSource} {e : StreamEvent}
    {cs : List Chunk} {w' : Window} {ids' : IdSource} (h : w.step room ids e = .ok (cs, w', ids')) :
    cs.filterMap Chunk.text? = (e.text?.filter (!·.isEmpty)).toList ∧
      cs.any Chunk.isTruncation = e.cutsOff := by
  cases e with
  | text s =>
    simp only [step, Except.ok.injEq, Prod.mk.injEq] at h
    obtain ⟨rfl, -, -⟩ := h
    by_cases hs : s.isEmpty <;> simp [textChunks, hs, Option.filter, StreamEvent.text?,
      StreamEvent.cutsOff, Chunk.text?, Chunk.isTruncation]
  | deltas ds =>
    simp only [step, Except.ok.injEq, Prod.mk.injEq] at h
    obtain ⟨rfl, -, -⟩ := h
    simp [StreamEvent.text?, StreamEvent.cutsOff]
  | finish reason =>
    simp only [step] at h
    split at h
    · cases hr : releaseOf (room - 3) w.fragments ids with
      | error _ => simp [hr, Except.map] at h
      | ok r =>
        simp only [hr, Except.map, Except.ok.injEq, Prod.mk.injEq] at h
        obtain ⟨rfl, -, -⟩ := h
        simp [StreamEvent.text?, StreamEvent.cutsOff, Chunk.text?, Chunk.isTruncation]
    · simp only [Except.ok.injEq, Prod.mk.injEq] at h
      obtain ⟨rfl, -, -⟩ := h
      simp [StreamEvent.text?, StreamEvent.cutsOff, Chunk.text?, Chunk.isTruncation]
  | close usage =>
    simp only [step] at h
    cases hr : releaseOf (room - 3) w.fragments ids with
    | error _ => simp [hr, Except.map] at h
    | ok r =>
      simp only [hr, Except.map, Except.ok.injEq, Prod.mk.injEq] at h
      obtain ⟨rfl, -, -⟩ := h
      split <;> simp [StreamEvent.text?, StreamEvent.cutsOff, Chunk.text?, Chunk.isTruncation,
        cutOffReason]
  | release =>
    simp only [step] at h
    cases hr : releaseOf (room - 2) w.fragments ids with
    | error _ => simp [hr, Except.map] at h
    | ok r =>
      simp only [hr, Except.map, Except.ok.injEq, Prod.mk.injEq] at h
      obtain ⟨rfl, -, -⟩ := h
      simp [StreamEvent.text?, StreamEvent.cutsOff, Chunk.text?, Chunk.isTruncation]

/-- The text and the cut-off of the chunks a run gives: the step lemma along the run. -/
theorem Window.run_view {room : Nat} {evs : List StreamEvent} {w : Window} {ids : IdSource}
    {cs : List Chunk} {w' : Window} {ids' : IdSource} (h : w.run room evs ids = .ok (cs, w', ids')) :
    cs.filterMap Chunk.text? = (evs.filterMap StreamEvent.text?).filter (!·.isEmpty) ∧
      cs.any Chunk.isTruncation = evs.any StreamEvent.cutsOff := by
  induction evs generalizing w ids cs w' ids' with
  | nil =>
    simp only [run, Except.ok.injEq, Prod.mk.injEq] at h
    obtain ⟨rfl, -, -⟩ := h
    simp
  | cons e es ih =>
    simp only [run] at h
    cases hs : w.step room ids e with
    | error _ => simp [hs, bind, Except.bind] at h
    | ok r =>
      obtain ⟨cs₁, w₁, ids₁⟩ := r
      cases hr : w₁.run room es ids₁ with
      | error _ => simp [hs, hr, bind, Except.bind] at h
      | ok r' =>
        obtain ⟨cs₂, w₂, ids₂⟩ := r'
        simp only [hs, hr, bind, Except.bind, pure, Except.pure, Except.ok.injEq,
          Prod.mk.injEq] at h
        obtain ⟨rfl, -, -⟩ := h
        obtain ⟨ht₁, hc₁⟩ := step_view hs
        obtain ⟨ht₂, hc₂⟩ := ih hr
        refine ⟨?_, ?_⟩
        · rw [List.filterMap_append, ht₁, ht₂]
          cases e with
          | text s => by_cases hs : s.isEmpty <;> simp [StreamEvent.text?, Option.filter, hs]
          | _ => simp [List.filterMap_cons, StreamEvent.text?]
        · rw [List.any_append, hc₁, hc₂, List.any_cons]

/-! ## Main statement -/

/-- From a fresh aggregator, a run of events whose fragments are as the decoder gives them
gives what the window machine gives. So each release (an explicit one, a finish reason
`tool_calls`, or the end) gives, for each index that received fragments since the previous
release, in ascending order, the call of the last name, the last id (or a fresh one) and the
arguments read from the joined slices, and leaves no builder behind. The turn made of the
chunks has the text of the non-empty text events, the released calls in order, and is cut
off exactly when a finish reason said so. -/
theorem stream_releases_by_window (room : Nat) (evs : List StreamEvent) (ids : IdSource)
    (hevs : evs.all StreamEvent.typed = true) :
    ({} : Aggregator).run room evs ids =
        (({} : Window).run room evs ids).map (fun (cs, w, ids) => ⟨cs, w.toAggregator, ids⟩) ∧
      ∀ f : Fed, ({} : Aggregator).run room evs ids = .ok f →
        (Turn.ofChunks f.chunks).text =
            String.join ((evs.filterMap StreamEvent.text?).filter (!·.isEmpty)) ∧
          (Turn.ofChunks f.chunks).calls = f.chunks.filterMap Chunk.call? ∧
          (Turn.ofChunks f.chunks).truncated = evs.any StreamEvent.cutsOff := by
  have hrun : ({} : Aggregator).run room evs ids = _ := Aggregator.run_window room evs {} ids hevs
  refine ⟨hrun, fun f hf => ?_⟩
  rw [hrun] at hf
  cases hw : ({} : Window).run room evs ids with
  | error e => simp [hw, Except.map] at hf
  | ok r =>
    obtain ⟨cs, w, ids'⟩ := r
    simp only [hw, Except.map, Except.ok.injEq] at hf
    subst hf
    obtain ⟨ht, hcut⟩ := Window.run_view hw
    obtain ⟨hs, hc, htr⟩ := Turn.ofChunks_view cs
    exact ⟨by rw [Turn.text, hs, ht], hc, htr.trans hcut⟩

/-- Text, then fragments of two calls with the higher index first, the lower one's arguments
in two slices, released by the finish reason. -/
def twoCallEvents : List StreamEvent :=
  [.text "Looking", .deltas [{ index := 1, id := some (.str "b"), name := some (.str "list") },
      { index := 0, id := some (.str "a"), name := some (.str "read"),
        arguments := some (.str "\x7b\"path\": ") }],
    .deltas [{ index := 0, arguments := some (.str "\"x\"\x7d") }], .finish "tool_calls"]

theorem stream_releases_two_calls :
    twoCallEvents.all StreamEvent.typed = true ∧
      (({} : Aggregator).run entryRoom twoCallEvents {} =
          (({} : Window).run entryRoom twoCallEvents {}).map
            (fun (cs, w, ids) => ⟨cs, w.toAggregator, ids⟩) ∧
        ∀ f : Fed, ({} : Aggregator).run entryRoom twoCallEvents {} = .ok f →
          (Turn.ofChunks f.chunks).text =
              String.join ((twoCallEvents.filterMap StreamEvent.text?).filter (!·.isEmpty)) ∧
            (Turn.ofChunks f.chunks).calls = f.chunks.filterMap Chunk.call? ∧
            (Turn.ofChunks f.chunks).truncated = twoCallEvents.any StreamEvent.cutsOff) :=
  ⟨by decide, stream_releases_by_window entryRoom twoCallEvents {} (by decide)⟩

end CodingAgent
