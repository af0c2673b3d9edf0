import CodingAgent.Proofs.StreamRelease
import CodingAgent.Proofs.ReadingRoom
import CodingAgent.Stream.Completion

/-!
# A complete response and its stream

A model sends a response either whole, as one body, or as a stream of chunk objects. This
module compares the two readings of one response: `completionChunks` on the body, and an
aggregator fed the response's canonical stream (its content, one fragment per call holding
all of the call, then its finish reason) and then the end sentinel.

Calls are compared up to their ids (`ToolCall.named`). A release of the stream is read up to
ids as a `filterMapM` of one view per index (`releaseOf_go_named`), and the fragments of the
canonical stream have one index per call, in order, so it reads the calls in order.

Main statement: for a response whose calls have names without surrounding blanks and text
arguments, both readings succeed and give turns with the same text, the same cut-off flag and
the same calls up to ids, provided the arguments are read within the room of the stream's
deeper reading. Arguments given as an object are taken whole but stop the stream, whose
argument slices are text.
-/

namespace CodingAgent

open CodingAgent.Json CodingAgent.Text

/-! ## A response and its two forms -/

/-- A tool call of a response: its id, its name and its arguments text. -/
structure CallSpec where
  id : String
  name : String
  arguments : String

/-- A response: its content, its calls in order and its finish reason (`none` for null). -/
structure Completion where
  content : Value
  calls : List CallSpec
  reason : Option String

/-- A finish reason as a value. -/
def reasonValue : Option String → Value
  | none => .null
  | some s => .str s

/-- The function object of a call. -/
def CallSpec.function (k : CallSpec) : Value :=
  .obj [("name", .str k.name), ("arguments", .str k.arguments)]

/-- The entry of a call in the `tool_calls` of a whole body. -/
def CallSpec.entry (k : CallSpec) : Value :=
  .obj [("id", .str k.id), ("function", k.function)]

/-- The fragment of a call at position `index` of a stream: all of the call at once. -/
def CallSpec.fragment (k : CallSpec) (index : Nat) : Value :=
  .obj [("index", .int index), ("id", .str k.id), ("function", k.function)]

/-- The fragment as the decoder gives it. -/
def CallSpec.delta (k : CallSpec) (index : Nat) : Delta :=
  { index, id := presentField (.str k.id), name := presentField (.str k.name),
    arguments := presentField (.str k.arguments) }

/-- A chunk object of a stream with one choice. -/
def streamChunk (choice : Members) : Value :=
  .obj [("choices", .arr [.obj choice])]

/-- The whole body of a response. -/
def Completion.body (c : Completion) : Value :=
  .obj [("choices", .arr [.obj [("message", .obj [("content", c.content),
      ("tool_calls", .arr (c.calls.map CallSpec.entry))]), ("finish_reason", reasonValue c.reason)]])]

/-- The chunk objects of the canonical stream of a response: its content, one fragment per
call with the call's position as index, then its finish reason. -/
def Completion.streamed (c : Completion) : List Value :=
  streamChunk [("delta", .obj [("content", c.content)])] ::
    (c.calls.zipIdx.map fun p => streamChunk [("delta", .obj [("tool_calls", .arr [p.1.fragment p.2])])]) ++
    [streamChunk [("delta", .obj []), ("finish_reason", reasonValue c.reason)]]

/-- Feed chunk objects in order, gathering the chunks they give. -/
def Aggregator.feedAll (room : Nat) : List Value → Aggregator → IdSource → Except ShapeError Fed
  | [], a, ids => .ok ⟨[], a, ids⟩
  | v :: vs, a, ids => do
    let f ← a.feed room v ids
    let g ← feedAll room vs f.agg f.ids
    pure ⟨f.chunks ++ g.chunks, g.agg, g.ids⟩

/-- The chunks of a stream whose lines are read at `room`: each line `data: <object>` hands
its object to a fresh aggregator one level down, and the end sentinel ends it there. -/
def streamedChunks (room : Nat) (payloads : List Value) (ids : IdSource) :
    Except ShapeError (List Chunk) := do
  let f ← ({} : Aggregator).feedAll (room - 1) payloads ids
  let e ← f.agg.onEnd (room - 1) .null f.ids
  pure (f.chunks ++ e.chunks)

/-! ## Calls up to their ids -/

/-- A call up to its id: its name and its arguments. -/
def ToolCall.named (t : ToolCall) : Value × Value :=
  (t.name, t.arguments)

/-- A call of a response up to its id, its arguments read at `room`. -/
def CallSpec.named (room : Nat) (k : CallSpec) : Except ShapeError (Value × Value) :=
  (parseArguments room (.str k.arguments)).map fun v => (.str k.name, v)

/-- The call that fragments stand for, up to its id. -/
def viewOf (room : Nat) (g : List Delta) : Except ShapeError (Option (Value × Value)) :=
  match lastTrue (g.map (·.name)) with
  | none => .ok none
  | some name =>
    (parseArguments room (.str (String.join (g.map Delta.slice)))).map fun v => some (name, v)

/-- Up to its id, the call of some fragments does not depend on the id source. -/
theorem callOf_named (room : Nat) (g : List Delta) (ids : IdSource) :
    (callOf room g ids).map (·.1.map ToolCall.named) = viewOf room g := by
  unfold callOf viewOf
  cases lastTrue (g.map (·.name)) with
  | none => rfl
  | some name =>
    cases lastTrue (g.map (·.id)) <;>
      cases parseArguments room (.str (String.join (g.map Delta.slice))) <;> rfl

/-- Up to ids, a release is one view per index, in the order of the indices. -/
theorem releaseOf_go_named (room : Nat) (ds : List Delta) (is : List Int) (ids : IdSource) :
    (releaseOf.go room ds is ids).map (·.1.map ToolCall.named) =
      is.filterMapM fun i => viewOf room (fragmentsAt ds i) := by
  induction is generalizing ids with
  | nil => rfl
  | cons i is ih =>
    rw [List.filterMapM_cons, ← callOf_named room _ ids]
    simp only [releaseOf.go]
    cases callOf room (fragmentsAt ds i) ids with
    | error e => rfl
    | ok p =>
      obtain ⟨call, ids'⟩ := p
      rw [← ih ids']
      cases hgo : releaseOf.go room ds is ids' with
      | error e => cases call <;> simp [hgo, bind, Except.bind, Except.map]
      | ok q => cases call <;> simp [hgo, bind, Except.bind, Except.map, pure, Except.pure]

/-! ## The fragments of the canonical stream -/

/-- The fragments of calls in order, the call at position `n` with index `j + n`. -/
def CallSpec.deltas (ks : List CallSpec) (j : Nat) : List Delta :=
  (ks.zipIdx j).map fun p => p.1.delta p.2

theorem CallSpec.deltas_cons (k : CallSpec) (ks : List CallSpec) (j : Nat) :
    deltas (k :: ks) j = k.delta j :: deltas ks (j + 1) := by
  simp [deltas, List.zipIdx_cons]

theorem CallSpec.le_index_of_mem_deltas {ks : List CallSpec} {j : Nat} {d : Delta}
    (h : d ∈ deltas ks j) : (j : Int) ≤ d.index := by
  simp only [deltas, List.mem_map] at h
  obtain ⟨⟨k, i⟩, hmem, rfl⟩ := h
  have := (List.mem_zipIdx hmem).1
  simp only [CallSpec.delta]
  omega

/-- Each call's index holds its fragment alone. -/
theorem CallSpec.fragmentsAt_deltas (ks : List CallSpec) (j : Nat) :
    ∀ p ∈ ks.zipIdx j, fragmentsAt (deltas ks j) p.2 = [p.1.delta p.2] := by
  induction ks generalizing j with
  | nil => simp
  | cons k ks ih =>
    intro p hp
    rw [deltas_cons]
    rw [List.zipIdx_cons, List.mem_cons] at hp
    rcases hp with rfl | hp
    · -- the later fragments have higher indices
      have hrest : (deltas ks (j + 1)).filter (·.index == (j : Int)) = [] := by
        simp only [List.filter_eq_nil_iff, beq_iff_eq]
        intro d hd hdj
        have := le_index_of_mem_deltas hd
        omega
      simp [fragmentsAt, CallSpec.delta, hrest]
    · have hj := (List.mem_zipIdx hp).1
      have hne : (j : Int) ≠ p.2 := by omega
      simp only [fragmentsAt, List.filter_cons, CallSpec.delta, beq_iff_eq, hne, if_false]
      exact ih (j + 1) p hp

/-- The indices of the fragments are the positions of the calls, in order. -/
theorem CallSpec.indicesOf_deltas (ks : List CallSpec) (j : Nat) :
    indicesOf (deltas ks j) = (ks.zipIdx j).map fun p => (p.2 : Int) := by
  apply List.SortedLT.eq_of_mem_iff (Finset.sortedLT_sort _)
  · have hmap : ((ks.zipIdx j).map fun p => (p.2 : Int)) = (List.range' j ks.length).map (↑) := by
      rw [← List.zipIdx_map_snd j ks, List.map_map]
      rfl
    rw [hmap, List.sortedLT_iff_pairwise]
    exact (List.pairwise_map.2 ((List.pairwise_lt_range' 1 (by omega)).imp (by omega)))
  · intro i
    simp [deltas, CallSpec.delta]

theorem CallSpec.slice_delta (k : CallSpec) (i : Nat) : (k.delta i).slice = k.arguments := by
  by_cases ha : k.arguments = "" <;> simp [Delta.slice, CallSpec.delta, presentField, Value.truthy, ha]

/-- A named call's fragment stands for the call. -/
theorem CallSpec.viewOf_delta (room : Nat) (k : CallSpec) (i : Nat) (hname : k.name ≠ "") :
    viewOf room [k.delta i] = (k.named room).map some := by
  have hlast : lastTrue [(k.delta i).name] = some (.str k.name) := by
    simp [lastTrue, CallSpec.delta, presentField, Value.truthy, hname]
  simp only [viewOf, List.map_cons, List.map_nil, hlast, slice_delta, String.join_cons,
    String.join_nil, String.append_empty, CallSpec.named]
  cases parseArguments room (.str k.arguments) <;> rfl

/-- The views of the canonical fragments, index by index, are the calls in order. -/
theorem CallSpec.filterMapM_views (room : Nat) (ds : List Delta) (ks : List CallSpec) (j : Nat)
    (hfrag : ∀ p ∈ ks.zipIdx j, fragmentsAt ds p.2 = [p.1.delta p.2])
    (hnames : ∀ k ∈ ks, k.name ≠ "") :
    ((ks.zipIdx j).map fun p => (p.2 : Int)).filterMapM (fun i => viewOf room (fragmentsAt ds i)) =
      ks.mapM (named room) := by
  induction ks generalizing j with
  | nil => rfl
  | cons k ks ih =>
    have hhead : fragmentsAt ds j = [k.delta j] := hfrag (k, j) (by simp [List.zipIdx_cons])
    have htail := ih (j + 1) (fun p hp => hfrag p (by simp [List.zipIdx_cons, hp]))
      (fun k' hk => hnames k' (List.mem_cons_of_mem _ hk))
    simp only [List.zipIdx_cons, List.map_cons, List.filterMapM_cons, List.mapM_cons, hhead,
      viewOf_delta room k j (hnames k List.mem_cons_self), htail]
    cases named room k <;> rfl

/-- A release of the canonical fragments gives the calls in order. -/
theorem CallSpec.releaseOf_deltas (room : Nat) (ks : List CallSpec) (ids : IdSource)
    (hnames : ∀ k ∈ ks, k.name ≠ "") :
    (releaseOf room (deltas ks 0) ids).map (·.1.map ToolCall.named) = ks.mapM (named room) := by
  rw [releaseOf, releaseOf_go_named, indicesOf_deltas]
  exact filterMapM_views room _ ks 0 (fragmentsAt_deltas ks 0) hnames

/-! ## The whole body -/

/-- A call's entry in a whole body gives the call under its name, its arguments read one
level down. -/
theorem CallSpec.completionCall_entry (room i : Nat) (k : CallSpec)
    (hname : k.name ≠ "" ∧ trim k.name = k.name) :
    (completionCall room i k.entry).map (·.map ToolCall.named) = (k.named (room - 1)).map some := by
  have hempty : k.name.isEmpty = false := by
    simpa [String.isEmpty_iff] using hname.1
  simp [completionCall, CallSpec.entry, CallSpec.function, Value.field?, Members.get?, bind,
    Except.bind, pure, Except.pure, Value.orEmpty, Value.orElse, Value.truthy, Value.display,
    hname.2, hempty, named]
  cases parseArguments (room - 1) (.str k.arguments) <;> rfl

/-- The entries of a whole body give the calls in order. -/
theorem CallSpec.completionCalls (room : Nat) (ks : List CallSpec) (j : Nat)
    (hnames : ∀ k ∈ ks, k.name ≠ "" ∧ trim k.name = k.name) :
    Except.map (List.map ToolCall.named)
        (((ks.map entry).zipIdx j).filterMapM fun p => completionCall room p.2 p.1) =
      ks.mapM (named (room - 1)) := by
  induction ks generalizing j with
  | nil => rfl
  | cons k ks ih =>
    have hk := completionCall_entry room j k (hnames k List.mem_cons_self)
    have htail := ih (j + 1) (fun k' hk' => hnames k' (List.mem_cons_of_mem _ hk'))
    simp only [List.map_cons, List.zipIdx_cons, List.filterMapM_cons, List.mapM_cons]
    -- the entry gives a call exactly when the call reads
    cases hc : completionCall room j k.entry with
    | error e =>
      cases hn : named (room - 1) k with
      | error e' =>
        simp only [hc, hn, Except.map, Except.error.injEq] at hk
        subst hk
        rfl
      | ok b => simp [hc, hn, Except.map] at hk
    | ok o =>
      cases hn : named (room - 1) k with
      | error e' => simp [hc, hn, Except.map] at hk
      | ok b =>
        simp only [hc, hn, Except.map, Except.ok.injEq] at hk
        obtain ⟨t, rfl, ht⟩ := Option.map_eq_some_iff.1 hk
        rw [← htail]
        cases (((ks.map entry).zipIdx (j + 1)).filterMapM fun p => completionCall room p.2 p.1) <;>
          simp [bind, Except.bind, Except.map, pure, Except.pure, ht]

theorem orElse_arr (xs : List Value) : (Value.arr xs).orElse (.arr []) = .arr xs := by
  cases xs <;> simp [Value.orElse, Value.truthy]

theorem orElse_obj_cons (m : String × Value) (ms : Members) (v : Value) :
    (Value.obj (m :: ms)).orElse v = .obj (m :: ms) := rfl

theorem truthy_arr_cons (x : Value) (xs : List Value) : (Value.arr (x :: xs)).truthy = true := rfl

theorem truthy_null : Value.null.truthy = false := rfl

theorem display_str (s : String) : (Value.str s).display = s := rfl

theorem truthy_obj_cons (m : String × Value) (ms : Members) : (Value.obj (m :: ms)).truthy = true :=
  rfl

/-- The whole body gives the content as text when it counts as true, the calls in order, and
an end with the finish reason. -/
theorem completionChunks_view (room : Nat) (c : Completion)
    (hnames : ∀ k ∈ c.calls, k.name ≠ "" ∧ trim k.name = k.name) {views : List (Value × Value)}
    (hviews : c.calls.mapM (CallSpec.named (room - 1)) = .ok views) :
    ∃ cs, completionChunks room c.body = .ok cs ∧
      cs.filterMap Chunk.text? = (if c.content.truthy then [c.content.display] else []) ∧
      (cs.filterMap Chunk.call?).map ToolCall.named = views ∧
      cs.any Chunk.isTruncation = cutOffReason (reasonValue c.reason) := by
  have hc := CallSpec.completionCalls room c.calls 0 hnames
  rw [hviews] at hc
  cases hcalls : ((c.calls.map CallSpec.entry).zipIdx 0).filterMapM
      (fun p => completionCall room p.2 p.1) with
  | error e => simp [hcalls, Except.map] at hc
  | ok calls =>
    simp only [hcalls, Except.map, Except.ok.injEq] at hc
    refine ⟨(if c.content.truthy then [.text c.content.display] else []) ++ calls.map .call ++
      [.done (reasonValue c.reason) .null], ?_, ?_, ?_, ?_⟩
    · simp [completionChunks, Completion.body, Value.field?, Members.get?, Value.firstItem?,
        walkItems, orElse_arr, orElse_obj_cons, truthy_arr_cons, truthy_null, hcalls, completionUsage, bind,
        Except.bind, pure, Except.pure, Value.orEmpty]
    · cases c.content.truthy <;>
        simp [List.filterMap_append, List.filterMap_map, Function.comp_def, Chunk.text?]
    · cases c.content.truthy <;>
        simp [List.filterMap_cons, List.filterMap_append, List.filterMap_map, Function.comp_def,
          Chunk.call?, hc]
    · cases c.content.truthy <;> simp [List.any_append, Chunk.isTruncation]

/-! ## The stream -/

theorem deltaIndex_int (n : Int) : deltaIndex (.int n) = .ok n := by
  unfold deltaIndex Value.orElse
  by_cases h : n = 0 <;> simp [h, Value.truthy, Value.toInt]

theorem CallSpec.ofPayload_fragment (k : CallSpec) (i : Nat) :
    Delta.ofPayload (k.fragment i) = .ok (k.delta i) := by
  simp [Delta.ofPayload, CallSpec.fragment, CallSpec.function, CallSpec.delta, Value.field?,
    Members.get?, deltaIndex_int, bind, Except.bind, pure, Except.pure, Value.orEmpty,
    Value.orElse, Value.truthy]

/-- The fragment of a call is as the decoder gives it: the decoder reads it from the payload. -/
theorem CallSpec.delta_typed (k : CallSpec) (i : Nat) : (k.delta i).typed = true := by
  refine Delta.ofPayload_typed (k.ofPayload_fragment i) ?_
  -- the arguments, present or not, are a text
  simp only [CallSpec.delta]
  unfold presentField
  split <;> rfl

theorem Aggregator.feed_content (room : Nat) (a : Aggregator) (v : Value) (ids : IdSource) :
    a.feed room (streamChunk [("delta", .obj [("content", v)])]) ids =
      .ok ⟨textChunks (v.orElse (.str "")).display, a, ids⟩ := by
  simp [Aggregator.feed, streamChunk, Value.field?, Members.get?, Value.firstItem?, bind,
    Except.bind, pure, Except.pure, Value.orEmpty, Value.orElse, Value.truthy]

theorem Aggregator.feed_fragment (room : Nat) (a : Aggregator) (k : CallSpec) (i : Nat)
    (ids : IdSource) :
    a.feed room (streamChunk [("delta", .obj [("tool_calls", .arr [k.fragment i])])]) ids =
      (a.onDeltas [k.delta i]).map fun a => ⟨[], a, ids⟩ := by
  have hobj : (k.fragment i).isObj = true := rfl
  simp [Aggregator.feed, streamChunk, Value.field?, Members.get?, Value.firstItem?, bind,
    Except.bind, pure, Except.pure, Value.orEmpty, Value.orElse, Value.truthy, decodeDeltas,
    CallSpec.ofPayload_fragment, hobj, textChunks, Value.display]
  cases a.onDeltas [k.delta i] <;> rfl

theorem Aggregator.feed_finish (room : Nat) (a : Aggregator) (r : Value) (ids : IdSource) :
    a.feed room (streamChunk [("delta", .obj []), ("finish_reason", r)]) ids =
      if r.truthy then a.onFinish (room - 1) r.display ids else .ok ⟨[], a, ids⟩ := by
  by_cases hr : r.truthy = true <;>
    simp [Aggregator.feed, streamChunk, Value.field?, Members.get?, Value.firstItem?, bind,
      Except.bind, pure, Except.pure, Value.orEmpty, Value.orElse, truthy_arr_cons,
      truthy_obj_cons, truthy_null, textChunks, display_str, hr]
  -- with a reason, what is left is the shape of the finish's result
  cases onFinish (room - 1) a r.display ids <;> rfl

/-- Feeding the fragments of calls extends the window by them. -/
theorem Aggregator.feedAll_fragments (room : Nat) (ks : List CallSpec) (j : Nat) (w : Window)
    (ids : IdSource) :
    w.toAggregator.feedAll room ((ks.zipIdx j).map fun p =>
        streamChunk [("delta", .obj [("tool_calls", .arr [p.1.fragment p.2])])]) ids =
      .ok ⟨[], { w with fragments := w.fragments ++ CallSpec.deltas ks j }.toAggregator, ids⟩ := by
  induction ks generalizing j w with
  | nil => simp [feedAll, CallSpec.deltas]
  | cons k ks ih =>
    have htyped : [k.delta j].all Delta.typed = true := by simp [CallSpec.delta_typed]
    simp only [List.zipIdx_cons, List.map_cons, feedAll, feed_fragment, onDeltas_window w htyped,
      Except.map, bind, Except.bind]
    rw [ih (j + 1)]
    simp [CallSpec.deltas_cons, pure, Except.pure]

theorem Aggregator.feedAll_append (room : Nat) (xs ys : List Value) (a : Aggregator)
    (ids : IdSource) :
    a.feedAll room (xs ++ ys) ids = (do
      let f ← a.feedAll room xs ids
      let g ← f.agg.feedAll room ys f.ids
      pure ⟨f.chunks ++ g.chunks, g.agg, g.ids⟩) := by
  induction xs generalizing a ids with
  | nil =>
    simp only [List.nil_append, feedAll, bind, Except.bind, pure, Except.pure, List.nil_append]
    cases a.feedAll room ys ids <;> rfl
  | cons x xs ih =>
    simp only [List.cons_append, feedAll, ih, bind, Except.bind, pure, Except.pure]
    cases a.feed room x ids with
    | error e => rfl
    | ok f =>
      dsimp only
      cases f.agg.feedAll room xs f.ids with
      | error e => rfl
      | ok g =>
        dsimp only
        cases g.agg.feedAll room ys g.ids with
        | error e => rfl
        | ok h => simp

/-- Text chunks hold no call and no cut-off. -/
theorem textChunks_view (s : String) :
    (textChunks s).filterMap Chunk.call? = [] ∧ (textChunks s).any Chunk.isTruncation = false := by
  unfold textChunks
  split <;> simp

/-- Nothing is released from no fragments. -/
theorem releaseOf_nil (room : Nat) (ids : IdSource) : releaseOf room [] ids = .ok ([], ids) := by
  simp [releaseOf, indicesOf, releaseOf.go]

theorem Aggregator.onFinish_window (room : Nat) (w : Window) (reason : String) (ids : IdSource) :
    w.toAggregator.onFinish room reason ids =
      (w.step room ids (.finish reason)).map fun (cs, w, ids) => ⟨cs, w.toAggregator, ids⟩ :=
  @step_window room w ids (.finish reason) rfl

theorem Aggregator.onEnd_window (room : Nat) (w : Window) (usage : Value) (ids : IdSource) :
    w.toAggregator.onEnd room usage ids =
      (w.step room ids (.close usage)).map fun (cs, w, ids) => ⟨cs, w.toAggregator, ids⟩ :=
  @step_window room w ids (.close usage) rfl

/-- A finish reason that says the text was cut off counts as true. -/
theorem truthy_of_cutOffReason {v : Value} (h : cutOffReason v = true) : v.truthy = true := by
  unfold cutOffReason at h
  split at h
  · rfl
  · rfl
  · cases h

theorem streamedChunks_view (room : Nat) (c : Completion) (ids : IdSource)
    (hnames : ∀ k ∈ c.calls, k.name ≠ "") {views : List (Value × Value)}
    (hviews : ∀ r, room - 5 ≤ r → c.calls.mapM (CallSpec.named r) = .ok views) :
    ∃ cs, streamedChunks room c.streamed ids = .ok cs ∧
      cs.filterMap Chunk.text? =
        (textChunks (c.content.orElse (.str "")).display).filterMap Chunk.text? ∧
      (cs.filterMap Chunk.call?).map ToolCall.named = views ∧
      cs.any Chunk.isTruncation = cutOffReason (reasonValue c.reason) := by
  -- a release of the fragments reads the calls alike at every room from the deepest on
  have hrel : ∀ r, room - 5 ≤ r → ∃ calls ids', releaseOf r (CallSpec.deltas c.calls 0) ids =
      .ok (calls, ids') ∧ calls.map ToolCall.named = views := by
    intro r hr
    have h := CallSpec.releaseOf_deltas r c.calls ids hnames
    rw [hviews r hr] at h
    cases hr' : releaseOf r (CallSpec.deltas c.calls 0) ids with
    | error e => simp [hr', Except.map] at h
    | ok p => exact ⟨p.1, p.2, rfl, by simpa [hr', Except.map] using h⟩
  obtain ⟨calls5, ids5, hrel5, hv5⟩ := hrel (room - 5) le_rfl
  obtain ⟨calls4, ids4, hrel4, hv4⟩ := hrel (room - 4) (by omega)
  have hfrag : ({} : Aggregator).feedAll (room - 1) (c.calls.zipIdx.map fun p =>
      streamChunk [("delta", .obj [("tool_calls", .arr [p.1.fragment p.2])])]) ids =
      .ok ⟨[], ({ fragments := CallSpec.deltas c.calls 0 } : Window).toAggregator, ids⟩ := by
    have h := Aggregator.feedAll_fragments (room - 1) c.calls 0 {} ids
    simp only [List.nil_append] at h
    exact h
  simp only [streamedChunks, Completion.streamed, Aggregator.feedAll, Aggregator.feed_content,
    Aggregator.feedAll_append, hfrag, Aggregator.feed_finish, bind, Except.bind, pure,
    Except.pure]
  by_cases htr : (reasonValue c.reason).truthy = true
  · -- a finish reason that counts: some text that is not empty
    obtain ⟨s, hs⟩ : ∃ s, c.reason = some s := by
      cases hr : c.reason with
      | none => simp [hr, reasonValue, truthy_null] at htr
      | some s => exact ⟨s, rfl⟩
    simp only [hs, reasonValue] at htr ⊢
    simp only [htr, if_true, display_str, Aggregator.onFinish_window, Window.step, Nat.sub_sub]
    by_cases ht : s = "tool_calls"
    · -- the finish reason releases the calls, and the end nothing more
      subst ht
      simp only [beq_self_eq_true, if_true, hrel5, Except.map, Aggregator.onEnd_window,
        Window.step, Nat.sub_sub, releaseOf_nil, List.map_nil, Bool.not_true, truthy_null,
        Bool.or_false, Bool.false_eq_true, if_false]
      refine ⟨_, rfl, ?_, ?_, ?_⟩ <;>
        simp [List.filterMap_append, List.filterMap_map, Function.comp_def, textChunks_view,
          hv5, cutOffReason]
    · -- another finish reason ends the response, and the end releases the calls
      have hne : (s == "tool_calls") = false := by simpa using ht
      simp only [hne, Bool.false_eq_true, if_false, Except.map, Aggregator.onEnd_window,
        Window.step, Nat.sub_sub, hrel4, Bool.not_true, truthy_null, Bool.or_false, if_false]
      refine ⟨_, rfl, ?_, ?_, ?_⟩ <;>
        simp [List.filterMap_append, List.filterMap_cons, List.filterMap_map, Function.comp_def,
          textChunks_view, hv4, cutOffReason]
  · -- no finish reason, or an empty one: the end releases the calls and ends the response
    have hcut : cutOffReason (reasonValue c.reason) = false :=
      Bool.eq_false_iff.2 fun h => htr (truthy_of_cutOffReason h)
    have hnull : cutOffReason .null = false := rfl
    simp only [htr, Bool.false_eq_true, if_false, Aggregator.onEnd_window, Window.step,
      Nat.sub_sub, hrel4, Except.map, Bool.not_false, Bool.true_or, if_true]
    refine ⟨_, rfl, ?_, ?_, ?_⟩ <;>
      simp [List.filterMap_append, List.filterMap_map, Function.comp_def, textChunks_view, hv4,
        hcut, hnull]

/-! ## Main statement -/

/-- Calls whose arguments read at some room are read alike with more. -/
theorem CallSpec.mapM_named_stable {ks : List CallSpec} {r r' : Nat} {views : List (Value × Value)}
    (hle : r ≤ r') (h : ks.mapM (named r) = .ok views) : ks.mapM (named r') = .ok views := by
  induction ks generalizing views with
  | nil =>
    simp only [List.mapM_nil] at h ⊢
    exact h
  | cons k ks ih =>
    simp only [List.mapM_cons, named, bind, Except.bind] at h ⊢
    cases hk : parseArguments r (.str k.arguments) with
    | error e => simp [hk, Except.map] at h
    | ok v =>
      rw [parseArguments_room_stable hle hk]
      simp only [hk, Except.map] at h ⊢
      cases hks : ks.mapM (named r) with
      | error e => simp [hks] at h
      | ok rest =>
        simp only [hks] at h
        rw [ih hks]
        exact h

/-- Calls whose arguments all read give their views. -/
theorem CallSpec.mapM_named_ok {ks : List CallSpec} {r : Nat}
    (h : ∀ k ∈ ks, ∃ v, parseArguments r (.str k.arguments) = .ok v) :
    ∃ views, ks.mapM (named r) = .ok views := by
  induction ks with
  | nil => exact ⟨[], rfl⟩
  | cons k ks ih =>
    obtain ⟨v, hv⟩ := h k List.mem_cons_self
    obtain ⟨views, hviews⟩ := ih fun k' hk => h k' (List.mem_cons_of_mem _ hk)
    exact ⟨(.str k.name, v) :: views, by simp [named, hv, hviews, Except.map, bind, Except.bind,
      pure, Except.pure]⟩

/-- The content gives the same text whole, where it counts when true, and streamed, where it
is read as text with false values empty. -/
theorem content_text (v : Value) :
    String.join (if v.truthy then [v.display] else []) =
      String.join ((textChunks (v.orElse (.str "")).display).filterMap Chunk.text?) := by
  unfold textChunks Value.orElse
  by_cases hv : v.truthy = true
  · by_cases he : v.display.isEmpty = true
    · simp [hv, String.isEmpty_iff.1 he]
    · simp [hv, he]
  · simp [hv, display_str]

/-- A response whose calls have names without surrounding blanks and text arguments reads
alike whole and streamed: both readings succeed, and give turns with the same text, the same
cut-off flag and the same calls up to ids, provided the arguments are read within the room of
the stream's deeper reading, five levels below its lines. -/
theorem whole_and_streamed_agree (room : Nat) (c : Completion) (ids : IdSource)
    (hnames : ∀ k ∈ c.calls, k.name ≠ "" ∧ trim k.name = k.name)
    (hargs : ∀ k ∈ c.calls, ∃ v, parseArguments (room - 5) (.str k.arguments) = .ok v) :
    ∃ whole streamed, completionChunks room c.body = .ok whole ∧
      streamedChunks room c.streamed ids = .ok streamed ∧
      (Turn.ofChunks whole).text = (Turn.ofChunks streamed).text ∧
      (Turn.ofChunks whole).truncated = (Turn.ofChunks streamed).truncated ∧
      (Turn.ofChunks whole).calls.map ToolCall.named =
        (Turn.ofChunks streamed).calls.map ToolCall.named := by
  -- the calls read at the deepest room, and so at every room above it
  obtain ⟨views, hviews⟩ := CallSpec.mapM_named_ok hargs
  have hstable : ∀ r, room - 5 ≤ r → c.calls.mapM (CallSpec.named r) = .ok views :=
    fun r hr => CallSpec.mapM_named_stable hr hviews
  obtain ⟨whole, hwhole, hwt, hwc, hwcut⟩ :=
    completionChunks_view room c hnames (hstable (room - 1) (by omega))
  obtain ⟨streamed, hstream, hst, hsc, hscut⟩ :=
    streamedChunks_view room c ids (fun k hk => (hnames k hk).1) hstable
  obtain ⟨hws, hwcalls, hwtr⟩ := Turn.ofChunks_view whole
  obtain ⟨hss, hscalls, hstr⟩ := Turn.ofChunks_view streamed
  refine ⟨whole, streamed, hwhole, hstream, ?_, ?_, ?_⟩
  · rw [Turn.text, Turn.text, hws, hss, hwt, hst, content_text]
  · rw [hwtr, hstr, hwcut, hscut]
  · rw [hwcalls, hscalls, hwc, hsc]

/-- A response with some text and one call reading a path. -/
def readingResponse : Completion :=
  { content := .str "reading",
    calls := [⟨"a", "read", "\x7b\"path\": \"notes.txt\"\x7d"⟩],
    reason := some "tool_calls" }

theorem whole_and_streamed_agree_on_reading :
    (∀ k ∈ readingResponse.calls, k.name ≠ "" ∧ trim k.name = k.name) ∧
      (∀ k ∈ readingResponse.calls,
        ∃ v, parseArguments (entryRoom - 5) (.str k.arguments) = .ok v) ∧
      ∃ whole streamed, completionChunks entryRoom readingResponse.body = .ok whole ∧
        streamedChunks entryRoom readingResponse.streamed {} = .ok streamed ∧
        (Turn.ofChunks whole).text = (Turn.ofChunks streamed).text ∧
        (Turn.ofChunks whole).truncated = (Turn.ofChunks streamed).truncated ∧
        (Turn.ofChunks whole).calls.map ToolCall.named =
          (Turn.ofChunks streamed).calls.map ToolCall.named := by
  have hnames : ∀ k ∈ readingResponse.calls, k.name ≠ "" ∧ trim k.name = k.name := by
    simp only [readingResponse, List.mem_singleton, forall_eq]
    decide
  have hargs : ∀ k ∈ readingResponse.calls,
      ∃ v, parseArguments (entryRoom - 5) (.str k.arguments) = .ok v := by
    simp only [readingResponse, List.mem_singleton, forall_eq]
    -- the elaborator's reduction gets stuck inside the reader, the kernel's does not
    have hread : (parseArguments (entryRoom - 5)
        (.str "\x7b\"path\": \"notes.txt\"\x7d")).isOk = true := by decide +kernel
    cases h : parseArguments (entryRoom - 5) (.str "\x7b\"path\": \"notes.txt\"\x7d") with
    | ok v => exact ⟨v, rfl⟩
    | error e => simp [h, Except.isOk, Except.toBool] at hread
  exact ⟨hnames, hargs, whole_and_streamed_agree entryRoom readingResponse {} hnames hargs⟩

/-- A call fragment whose arguments come as an object rather than as text. -/
def objectArgumentsCall : Value :=
  .obj [("index", .int 0), ("id", .str "a"),
    ("function", .obj [("name", .str "f"), ("arguments", .obj [("q", .int 1)])])]

/-- Arguments given as an object are taken whole, but the stream carrying them stops on the
fragment, whose argument slice is no text. -/
theorem object_arguments_stop_stream :
    (∃ whole, completionChunks entryRoom
        (.obj [("choices", .arr [.obj [("message", .obj [("tool_calls", .arr [objectArgumentsCall])]),
          ("finish_reason", .str "tool_calls")]])]) = .ok whole) ∧
      streamedChunks entryRoom
        [streamChunk [("delta", .obj [("tool_calls", .arr [objectArgumentsCall])])],
          streamChunk [("delta", .obj []), ("finish_reason", .str "tool_calls")]] {} =
        .error (.notText "dict") :=
  ⟨⟨_, rfl⟩, rfl⟩

end CodingAgent
