import CodingAgent.Proofs.ArgumentText
import CodingAgent.Proofs.TaggedFormat

/-!
# Calls found in text with objects written into it

`inlineObjects` reads a JSON value at each `{` of a text, and after a value it has read goes on
behind it. For a text made of prose without braces and the texts of JSON objects
(`withObjects`), it finds exactly the objects, in order: the search meets each object at its
opening brace, reads it whole (`scanValue_render`), and so never stops at a brace inside it,
nested or in a string.

The calls are then the objects that name a call (`objectCall`): a name that is text and not
blank, and arguments that are an object or text holding one. Text arguments are read, and a
reading that fails for the reader's limits stops everything (`ArgumentsDecode` asks that it does
not).

* `nextBrace_found`, `nextBrace_none`: the search for the next brace;
* `inlineObjects_withObjects`: the objects of such a text are found, in order;
* `objectCalls_eq`: the calls of the objects are the objects that name a call;
* `inlineCalls_withObjects`: the calls of the text are those of its objects, also as the calls
  of a text without tagged calls;
* `inlineCalls_long_arguments`: text arguments holding an integer of 4301 digits stop the
  search with the reader's refusal, where the object would only be passed over.
-/

namespace CodingAgent.Recovery

open CodingAgent.Json CodingAgent.Text

/-- A lead text, then objects each followed by the text after it. -/
def withObjects (st : Style) (lead : String) : List (Members × String) → String
  | [] => lead
  | (ms, s) :: rest => lead ++ ((Value.obj ms).render st ++ withObjects st s rest)

theorem toList_withObjects_cons (st : Style) (lead : String) (ms : Members) (s : String)
    (rest : List (Members × String)) :
    (withObjects st lead ((ms, s) :: rest)).toList =
      lead.toList ++ ((Value.obj ms).render st).toList ++ (withObjects st s rest).toList := by
  simp [withObjects, List.append_assoc]

/-! ## The next brace -/

section NextBrace

variable {L : List Char}

/-- Characters without a brace are passed over. -/
theorem nextBrace_go_skip {A s B : List Char} (hL : L = A ++ s ++ B) (hs : '\x7b' ∉ s) :
    ∀ fuel, nextBrace.go L.toArray (fuel + s.length) A.length =
      nextBrace.go L.toArray fuel (A.length + s.length) := by
  induction s generalizing A with
  | nil => intro fuel; rfl
  | cons c s ih =>
    intro fuel
    have hc : c ≠ '\x7b' := fun h => hs (h ▸ List.mem_cons_self)
    have hlen : A.length < L.length := by
      rw [hL]
      simp
    have hget : L.toArray.getD A.length ' ' = c := by
      rw [hL]
      simp [Array.getD]
    rw [List.length_cons, ← Nat.add_assoc, nextBrace.go, if_neg (by simpa using hlen), hget,
      if_neg (by simpa using hc)]
    have h := ih (A := A ++ [c]) (by rw [hL]; simp) (fun h => hs (List.mem_cons_of_mem c h)) fuel
    simp only [List.length_append, List.length_singleton] at h
    rw [h, Nat.add_assoc, Nat.add_comm 1]

/-- The search stops at the first brace. -/
theorem nextBrace_found {A s B : List Char} (hL : L = A ++ s ++ '\x7b' :: B) (hs : '\x7b' ∉ s) :
    nextBrace L.toArray A.length = some (A.length + s.length) := by
  have hsize : L.toArray.size - A.length = B.length + s.length + 1 := by
    rw [List.size_toArray, hL]
    simp
    omega
  unfold nextBrace
  rw [hsize, Nat.add_right_comm, nextBrace_go_skip hL hs, nextBrace.go,
    if_neg (by rw [List.size_toArray, hL]; simp), if_pos (by rw [hL]; simp [Array.getD])]

/-- A text without a brace has none. -/
theorem nextBrace_none {A s : List Char} (hL : L = A ++ s) (hs : '\x7b' ∉ s) :
    nextBrace L.toArray A.length = none := by
  have hsize : L.toArray.size - A.length = 0 + s.length := by
    rw [List.size_toArray, hL]
    simp
  unfold nextBrace
  rw [hsize, nextBrace_go_skip (B := []) (by rw [hL, List.append_nil]) hs]
  rfl

end NextBrace

/-! ## The objects of the text -/

/-- A value read at the start of its text, inside a longer text. -/
theorem readPrefix_render {st : Style} (hst : st.Separated) {doc : String} {A R : List Char}
    {v : Value} (hdoc : doc.toList = A ++ (v.render st).toList ++ R) (hv : v.Readable st.asciiOnly)
    {room : Nat} (hn : v.nesting ≤ room) (hf : Follows v R) :
    readPrefix room doc A.length = .ok (v, A.length + (v.render st).length) := by
  have hdrop : doc.toList.drop A.length = (v.render st).toList ++ R := by
    rw [hdoc, List.append_assoc, List.drop_left]
  unfold readPrefix
  simp only [hdrop]
  rw [scanValue_render hst v hv room _ hn (by rw [List.length_append, String.length_toList]; omega) R hf
    A.length]

/-- **The objects are found, in order**, from the start of the prose before the first. -/
theorem inlineObjects_go_withObjects {st : Style} (hst : st.Separated) {room : Nat} {text : String} :
    ∀ (objs : List (Members × String)) (A : List Char) (s : String) (fuel : Nat),
      text.toList = A ++ (withObjects st s objs).toList → '\x7b' ∉ s.toList →
      (∀ p ∈ objs, '\x7b' ∉ p.2.toList) →
      (∀ p ∈ objs, MembersReadable st.asciiOnly p.1 ∧ (Value.obj p.1).nesting ≤ room) →
      objs.length < fuel →
      inlineObjects.go room text text.toList.toArray fuel (nextBrace text.toList.toArray A.length) =
        (objs.map Prod.fst, none)
  | [], A, s, fuel, htext, hs, _, _, hfuel => by
    obtain ⟨f, rfl⟩ : ∃ f, fuel = f + 1 := ⟨fuel - 1, by simp at hfuel; omega⟩
    rw [nextBrace_none htext hs]
    rfl
  | (ms, s') :: rest, A, s, fuel, htext, hs, hprose, hobj, hfuel => by
    obtain ⟨f, rfl⟩ : ∃ f, fuel = f + 1 := ⟨fuel - 1, by simp at hfuel; omega⟩
    obtain ⟨hr, hn⟩ := hobj (ms, s') List.mem_cons_self
    have hJ := toList_render_obj st ms
    rw [toList_withObjects_cons] at htext
    -- the search meets the opening brace of the object
    have hfound : nextBrace text.toList.toArray A.length = some (A ++ s.toList).length := by
      rw [List.length_append]
      refine nextBrace_found (B := (renderMembers st ms).toList ++ ['\x7d'] ++
        (withObjects st s' rest).toList) ?_ hs
      rw [htext, hJ]
      simp
    have hread := readPrefix_render hst (A := A ++ s.toList) (R := (withObjects st s' rest).toList)
      (by rw [htext]; simp only [List.append_assoc]) (show (Value.obj ms).Readable st.asciiOnly from hr) hn trivial
    -- behind the object the search goes on over the rest of the text
    have hmore := inlineObjects_go_withObjects hst rest (A ++ s.toList ++ ((Value.obj ms).render st).toList)
      s' f (by rw [htext]; simp only [List.append_assoc]) (hprose (ms, s') List.mem_cons_self)
      (fun p hp => hprose p (List.mem_cons_of_mem _ hp)) (fun p hp => hobj p (List.mem_cons_of_mem _ hp))
      (by simp at hfuel; omega)
    rw [@List.length_append _ (A ++ s.toList), String.length_toList] at hmore
    rw [hfound, inlineObjects.go, hread]
    simp only [hmore, List.map_cons]

/-- Every object adds at least a character to the text. -/
theorem length_le_withObjects (st : Style) :
    ∀ (lead : String) (objs : List (Members × String)), objs.length ≤ (withObjects st lead objs).toList.length
  | _, [] => Nat.zero_le _
  | lead, (ms, s) :: rest => by
    have h := length_le_withObjects st s rest
    rw [toList_withObjects_cons, toList_render_obj]
    simp only [List.length_cons, List.length_append]
    omega

/-- **The objects of a text of prose and objects are found, in order**, and nothing stops the
search. -/
theorem inlineObjects_withObjects {st : Style} (hst : st.Separated) {room : Nat} {lead : String}
    {objs : List (Members × String)} (hlead : '\x7b' ∉ lead.toList)
    (hprose : ∀ p ∈ objs, '\x7b' ∉ p.2.toList)
    (hobj : ∀ p ∈ objs, MembersReadable st.asciiOnly p.1 ∧ (Value.obj p.1).nesting ≤ room) :
    inlineObjects room (withObjects st lead objs) = (objs.map Prod.fst, none) := by
  unfold inlineObjects
  have h := inlineObjects_go_withObjects hst objs [] lead
    ((withObjects st lead objs).toList.toArray.size + 1) rfl hlead hprose hobj
    (by have := length_le_withObjects st lead objs; simp; omega)
  exact h

/-! ## The calls of the objects -/

/-- Text arguments of an object read without running into the reader's limits. -/
def ArgumentsDecode (room : Nat) (ms : Members) : Prop :=
  ∀ s, Members.get? ms "arguments" = some (.str s) → ∃ o, readLenient room s = .ok o

/-- The call an object names: a name that is text and not blank, trimmed, and arguments that
are an object, or text that reads as one. -/
def objectCall (room : Nat) (ms : Members) : Option (String × Value) :=
  match Members.get? ms "name" with
  | some (.str n) =>
    if isBlankText n then none
    else match Members.get? ms "arguments" with
      | some (.obj args) => some (trim n, .obj args)
      | some (.str s) =>
        match readLenient room s with
        | .ok (some (.obj args)) => some (trim n, .obj args)
        | _ => none
      | _ => none
  | _ => none

theorem inlineCall?_eq {room : Nat} {ms : Members} (h : ArgumentsDecode room ms) :
    inlineCall? room ms = .ok (objectCall room ms) := by
  unfold inlineCall? objectCall
  -- text arguments are read first; by the hypothesis that reading succeeds
  rcases hA : Members.get? ms "arguments" with _ | ⟨_ | _ | _ | _ | s | _ | args⟩
  case some.str =>
    obtain ⟨o, ho⟩ := h s hA
    simp only [ho]
    rcases o with _ | ⟨_ | _ | _ | _ | _ | _ | args⟩ <;>
      rcases Members.get? ms "name" with _ | ⟨_ | _ | _ | _ | n | _ | _⟩ <;> simp <;> rfl
  all_goals
    rcases Members.get? ms "name" with _ | ⟨_ | _ | _ | _ | n | _ | _⟩ <;> simp <;> rfl

/-- The call and argument pairs of calls. -/
abbrev callPairs (calls : List ToolCall) : List (Value × Value) :=
  calls.map fun c => (c.name, c.arguments)

/-- **The calls of objects are the objects that name a call**, in order, when no text of
arguments runs into the reader's limits. -/
theorem objectCalls_eq {room : Nat} :
    ∀ (objs : List Members) (ids : IdSource), (∀ ms ∈ objs, ArgumentsDecode room ms) →
      ∃ calls ids', objectCalls room objs ids = .ok (calls, ids') ∧
        callPairs calls = (objs.filterMap (objectCall room)).map fun p => (.str p.1, p.2)
  | [], ids, _ => ⟨[], ids, rfl, rfl⟩
  | ms :: rest, ids, h => by
    have hrest := fun ids => objectCalls_eq rest ids fun m hm => h m (List.mem_cons_of_mem _ hm)
    rw [objectCalls, inlineCall?_eq (h ms List.mem_cons_self)]
    cases hc : objectCall room ms with
    | none =>
      obtain ⟨calls, ids', hcalls, hmap⟩ := hrest ids
      exact ⟨calls, ids', hcalls, by simp [hc, hmap]⟩
    | some call =>
      obtain ⟨name, args⟩ := call
      obtain ⟨calls, ids', hcalls, hmap⟩ := hrest ids.freshText.2
      refine ⟨{ id := .str ids.freshText.1, name := .str name, arguments := args } :: calls, ids',
        ?_, by simp [hc, hmap]⟩
      simp only [bind, Except.bind, hcalls]
      rfl

/-! ## Texts without tagged calls -/

/-- Every tagged block of a text lacks a name or parameters: the text has no tagged call. -/
def NoTaggedCall (text : String) : Prop :=
  ∀ nb ∈ taggedBlocks text.toList, (trim nb.1).isEmpty ∨ (blockArguments nb.2).isEmpty

/-- Blocks without a name or parameters are skipped, so a text without tagged calls gives none
and takes no id. -/
theorem taggedCalls_of_noTaggedCall {text : String} (h : NoTaggedCall text) (ids : IdSource) :
    taggedCalls text ids = ([], ids) := by
  unfold taggedCalls
  unfold NoTaggedCall at h
  -- the fold keeps its start at every block
  generalize taggedBlocks text.toList = bs at h
  induction bs with
  | nil => rfl
  | cons nb bs ih =>
    have hskip : ((trim nb.1).isEmpty || (blockArguments nb.2).isEmpty) = true := by
      simpa using h nb List.mem_cons_self
    rw [List.foldl_cons, if_pos hskip]
    exact ih fun nb' hm => h nb' (List.mem_cons_of_mem _ hm)

theorem taggedBlocks_of_no_lt {cs : List Char} (h : '<' ∉ cs) : taggedBlocks cs = [] := by
  have hskip := blocksGo_skip h [] cs.length le_rfl
  rw [List.append_nil] at hskip
  rw [taggedBlocks, hskip, Nat.sub_self, blocksGo_nil]

/-- A text without `<` has no tagged block at all. -/
theorem noTaggedCall_of_no_lt {text : String} (h : '<' ∉ text.toList) : NoTaggedCall text := by
  intro nb hnb
  rw [taggedBlocks_of_no_lt h] at hnb
  cases hnb

/-! ## The calls of the text -/

/-- **The calls of a text of prose and objects are those of its objects**, in order: one for
each object whose name is text and not blank and whose arguments are an object or text that
reads as one, named by the trimmed name, with those arguments. Objects nested in another and
objects that name no call give none. When the text has no tagged call, the calls of the text
are these. -/
theorem inlineCalls_withObjects {st : Style} (hst : st.Separated) {room : Nat} {lead : String}
    {objs : List (Members × String)} (hlead : '\x7b' ∉ lead.toList)
    (hprose : ∀ p ∈ objs, '\x7b' ∉ p.2.toList)
    (hobj : ∀ p ∈ objs, MembersReadable st.asciiOnly p.1 ∧ (Value.obj p.1).nesting ≤ room + 1)
    (hargs : ∀ p ∈ objs, ArgumentsDecode room p.1) (ids : IdSource) :
    ∃ calls ids', inlineCalls room (withObjects st lead objs) ids = .ok (calls, ids') ∧
      callPairs calls = ((objs.map Prod.fst).filterMap (objectCall room)).map
        (fun p => (.str p.1, p.2)) ∧
      (NoTaggedCall (withObjects st lead objs) →
        textCalls (room + 1) (withObjects st lead objs) ids = .ok (calls, ids')) := by
  obtain ⟨calls, ids', hcalls, hpairs⟩ := objectCalls_eq (objs.map Prod.fst) ids (by simpa using hargs)
  have hinline : inlineCalls room (withObjects st lead objs) ids = .ok (calls, ids') := by
    unfold inlineCalls
    rw [inlineObjects_withObjects hst hlead hprose hobj]
    simp only [bind, Except.bind, hcalls]
    rfl
  refine ⟨calls, ids', hinline, hpairs, fun htag => ?_⟩
  unfold textCalls
  rw [taggedCalls_of_noTaggedCall htag]
  exact hinline

theorem call_in_prose_found :
    let text := withObjects { asciiOnly := true } "see "
      [([("name", .str " f "), ("arguments", .obj [("x", .int 1)])], " then")]
    ∃ calls ids', inlineCalls (entryRoom - 1) text {} = .ok (calls, ids') ∧
      callPairs calls = [(.str "f", .obj [("x", .int 1)])] ∧
      (NoTaggedCall text → textCalls (entryRoom - 1 + 1) text {} = .ok (calls, ids')) := by
  intro text
  have hr : MembersReadable true [("name", .str " f "), ("arguments", .obj [("x", .int 1)])] := by
    refine ⟨readableText_of_all (by decide) _, by simp, readableText_of_all (by decide) _,
      readableText_of_all (by decide) _, by simp,
      ⟨readableText_of_all (by decide) _, by simp, ?_, trivial⟩, trivial⟩
    simp only [Value.Readable, digitLimit]
    decide
  obtain ⟨calls, ids', h, hpairs, htext⟩ := @inlineCalls_withObjects { asciiOnly := true }
    ⟨separated_default.item, separated_default.key⟩ (entryRoom - 1) "see "
    [([("name", .str " f "), ("arguments", .obj [("x", .int 1)])], " then")] (by decide)
    (by decide) (by simpa using ⟨hr, by decide⟩)
    (by simp [ArgumentsDecode, Members.get?]) {}
  refine ⟨calls, ids', h, ?_, htext⟩
  have hblank : isBlankText " f " = false := by decide
  have htrim : trim " f " = "f" := by decide
  simp [hpairs, objectCall, Members.get?, hblank, htrim]

/-! ## Arguments past the digit limit -/

/-- The characters of an integer's text, a sign and digits, lie below the surrogates. -/
theorem toString_int_lt_surrogates (n : Int) : ∀ c ∈ (toString n).toList, c.toNat < 0xD800 := by
  intro c hc
  rw [toList_toString_int, List.mem_append] at hc
  rcases hc with hc | hc
  · split at hc <;> simp at hc
    subst hc
    decide
  · have := isDigit_iff.1 (Nat.isDigit_of_mem_toDigits (by norm_num) (by norm_num) hc)
    omega

/-- The text of an integer past the digit limit is refused, at its first character. -/
theorem readLenient_long_int {n : Int} (hlong : digitLimit < (Nat.toDigits 10 n.natAbs).length)
    (room : Nat) :
    readLenient room (toString n) = .error ⟨.tooManyDigits (Nat.toDigits 10 n.natAbs).length, 0⟩ := by
  obtain ⟨c, cs, hcs, hc⟩ :=
    @numberChars_lead (decide (n < 0)) _ [] none (intDigits_toDigits n.natAbs)
  have htext : (toString n).toList = c :: cs := by rw [toList_toString_numberChars, hcs]
  have hread : readText room (toString n) =
      .error ⟨.tooManyDigits (Nat.toDigits 10 n.natAbs).length, 0⟩ := by
    refine readText_scan_error htext hc.1 ?_
    have h := @scanValue_long_int n hlong [] (by simp [NumberEnd]) (cs.length + 1) 0 room
    rwa [List.append_nil, htext] at h
  exact readLenient_error (by rw [htext]; simpa using hc.2.2.2) hread rfl

/-- An object that names a call with text arguments holding an integer past the digit limit
stops the search for calls with the reader's refusal. -/
theorem inlineCalls_long_int_arguments {n : Int}
    (hlong : digitLimit < (Nat.toDigits 10 n.natAbs).length) (room : Nat) (ids : IdSource) :
    inlineCalls (room + 1) ((Value.obj [("name", .str "f"), ("arguments", .str (toString n))]).render
        { asciiOnly := true }) ids =
      .error (.beyondLimits ⟨.tooManyDigits (Nat.toDigits 10 n.natAbs).length, 0⟩) := by
  have hr : MembersReadable true [("name", .str "f"), ("arguments", .str (toString n))] :=
    ⟨readableText_of_all (by decide) _, by simp, readableText_of_all (by decide) _,
      ⟨readableText_of_all (by decide) _, by simp,
        readableText_of_lt_surrogates (toString_int_lt_surrogates n) _, trivial⟩⟩
  have hobjs := @inlineObjects_withObjects { asciiOnly := true }
    ⟨separated_default.item, separated_default.key⟩ (room + 1 + 1) ""
    [([("name", .str "f"), ("arguments", .str (toString n))], "")] (by simp) (by simp)
    (by simpa using ⟨hr, by simp [Value.nesting, membersNesting]⟩)
  have hcall : inlineCall? (room + 1) [("name", .str "f"), ("arguments", .str (toString n))] =
      .error (.beyondLimits ⟨.tooManyDigits (Nat.toDigits 10 n.natAbs).length, 0⟩) := by
    have hget : Members.get? [("name", .str "f"), ("arguments", .str (toString n))] "arguments" =
        some (.str (toString n)) := rfl
    unfold inlineCall?
    rw [hget]
    simp only [readLenient_long_int hlong]
    rfl
  unfold inlineCalls
  simp only [withObjects, String.append_empty, String.empty_append, List.map_cons, List.map_nil]
    at hobjs
  rw [hobjs]
  simp only [objectCalls, hcall]
  rfl

/-- Text arguments holding an integer of 4301 digits stop the search for calls. -/
theorem inlineCalls_long_arguments :
    inlineCalls entryRoom ((Value.obj [("name", .str "f"),
        ("arguments", .str (toString (10 ^ 4300 : Int)))]).render { asciiOnly := true }) {} =
      .error (.beyondLimits ⟨.tooManyDigits 4301, 0⟩) := by
  have hdigits : (Nat.toDigits 10 (10 ^ 4300 : Int).natAbs).length = 4301 :=
    length_toDigits_ten_pow 4300
  have h := inlineCalls_long_int_arguments (n := 10 ^ 4300) (by rw [hdigits]; decide) 990 {}
  rwa [hdigits] at h

end CodingAgent.Recovery
