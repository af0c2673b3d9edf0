import CodingAgent.Proofs.LoopRules

/-!
# Repeated calls are refused

A task lets each call through a `DuplicateGuard` before it runs. The guard exempts the
completion tool and the condense tool; for every other call it compares the signature with
those of the calls it let through before, in any earlier turn of the task and across
condensations, which rebuild the conversation but keep the guard.

`DuplicateGuard.Remembers` says what the guard holds in terms of a set of signatures, and
`Remembers.check` what it then decides: a call is refused exactly when it is not exempt and its
signature is remembered, and afterwards the signature of every call that is not exempt is.

The steps of a task show the same thing without the guard. `Screened` is the language of the
steps of a running task in which every call started is classified: a call that `Repeats` a call
started before it is refused, reported with `duplicateRefusal`, and any other call is
dispatched. `Guarded` adds that the guard remembers the signatures of the calls started so far;
it is the invariant of the loop, carried through the rules of `LoopRules` as `Transcript`
carries its own.

`runCalls_refused` is what a refusal does: two steps and a tool message, the session otherwise
unchanged (the call is neither previewed nor run) and the counters of the loop untouched.
`repeated_calls_refused` puts it together with the steps of every run: the refused calls are
exactly the repeats, and no two calls dispatched in a run that are not exempt share a
signature.
-/

namespace CodingAgent.Recovery

open CodingAgent CodingAgent.Json CodingAgent.Text

/-- A call the guard may stop: its name is text, and in lower case it is no exempt tool's. -/
def NonExempt (E : List String) (c : ToolCall) : Prop :=
  ∃ n, c.nameText? "lower" = .ok n ∧ lower n ∉ E

/-- The guard exempts the tools `E` and remembers exactly the signatures `P`. -/
structure DuplicateGuard.Remembers (g : DuplicateGuard) (E : List String) (P : String → Prop) :
    Prop where
  exempt : g.exempt = E
  seen : ∀ sig, sig ∈ g.seen ↔ P sig

namespace DuplicateGuard

variable {g g' : DuplicateGuard} {c : ToolCall} {dup : Bool}

/-- Every way a check can pass: the name is text, and the call is exempt, or its signature is
one the guard has seen, or it is new and the guard remembers it. -/
theorem check_cases (h : g.check c = .ok (dup, g')) :
    ∃ n, c.nameOrEmpty = .str n ∧
      ((lower n ∈ g.exempt ∧ dup = false ∧ g' = g) ∨
        (lower n ∉ g.exempt ∧ ∃ sig, signature c = .ok sig ∧
          ((sig ∈ g.seen ∧ dup = true ∧ g' = g) ∨
            (sig ∉ g.seen ∧ dup = false ∧ g' = { g with seen := g.seen ++ [sig] })))) := by
  unfold check isExempt ToolCall.nameText? at h
  split at h
  · rename_i n hn
    refine ⟨n, hn, ?_⟩
    simp only [bind, Except.bind, pure, Except.pure] at h
    by_cases hex : lower n ∈ g.exempt
    · rw [if_pos (List.contains_iff_mem.2 hex)] at h
      simp only [Except.ok.injEq, Prod.mk.injEq] at h
      exact .inl ⟨hex, h.1.symm, h.2.symm⟩
    rw [if_neg (by simpa using hex)] at h
    refine .inr ⟨hex, ?_⟩
    split at h
    · cases h
    rename_i sig hsig
    refine ⟨sig, hsig, ?_⟩
    split at h <;> rename_i hseen <;> simp only [Except.ok.injEq, Prod.mk.injEq] at h
    · exact .inl ⟨by simpa using hseen, h.1.symm, h.2.symm⟩
    · exact .inr ⟨by simpa using hseen, h.1.symm, h.2.symm⟩
  · simp [bind, Except.bind] at h

variable {E : List String} {P : String → Prop}

/-- What the guard decides, in terms of the signatures it remembers: a call is refused exactly
when it is not exempt and its signature is remembered; afterwards the guard remembers the
signature of every call that is not exempt. -/
theorem Remembers.check (hg : g.Remembers E P) (h : g.check c = .ok (dup, g')) :
    (dup = true ↔ NonExempt E c ∧ ∃ sig, signature c = .ok sig ∧ P sig) ∧
      g'.Remembers E (fun sig => P sig ∨ NonExempt E c ∧ signature c = .ok sig) := by
  obtain ⟨n, hn, hcase⟩ := check_cases h
  have hE : NonExempt E c ↔ lower n ∉ E := by simp [NonExempt, ToolCall.nameText?, hn]
  rw [hg.exempt] at hcase
  rcases hcase with ⟨hex, rfl, rfl⟩ |
    ⟨hex, sig, hsig, ⟨hseen, rfl, rfl⟩ | ⟨hseen, rfl, rfl⟩⟩
  · -- an exempt call passes and is not remembered
    refine ⟨by simp [hE, hex], hg.exempt, fun x => ?_⟩
    simp [hg.seen, hE, hex]
  · -- a remembered signature is refused, and nothing new is remembered
    have hP : P sig := (hg.seen sig).1 hseen
    refine ⟨by simp [hE.2 hex, hsig, hP], hg.exempt, fun x => ?_⟩
    rw [hg.seen]
    constructor
    · exact .inl
    · rintro (hx | ⟨-, hx⟩)
      · exact hx
      · rw [hsig, Except.ok.injEq] at hx
        exact hx ▸ hP
  · -- a new signature passes and is remembered
    have hP : ¬ P sig := fun hP => hseen ((hg.seen sig).2 hP)
    refine ⟨by simp [hE.2 hex, hsig, hP], rfl, fun x => ?_⟩
    simp [hg.seen, hE.2 hex, hsig, eq_comm]

/-- A refusal leaves the guard as it was. -/
theorem check_refused (h : g.check c = .ok (true, g')) : g' = g := by
  obtain ⟨n, -, ⟨-, hdup, -⟩ | ⟨-, sig, -, ⟨-, -, rfl⟩ | ⟨-, hdup, -⟩⟩⟩ :=
    check_cases h
  · cases hdup
  · rfl
  · cases hdup

end DuplicateGuard

end CodingAgent.Recovery

namespace CodingAgent.Agent

open CodingAgent CodingAgent.Json CodingAgent.Model CodingAgent.Tool CodingAgent.Recovery
open CodingAgent.Text

/-! ## Repeats in the steps of a task -/

/-- Some call started in the steps `w` that is not exempt has the signature `sig`. -/
def SignedIn (E : List String) (w : List Step) (sig : String) : Prop :=
  ∃ c, .toolStart c ∈ w ∧ NonExempt E c ∧ signature c = .ok sig

/-- The call repeats a call started in `w`: neither is exempt, and their signatures agree. -/
def Repeats (E : List String) (w : List Step) (c : ToolCall) : Prop :=
  NonExempt E c ∧ ∃ sig, signature c = .ok sig ∧ SignedIn E w sig

/-- Steps of a running task in which each call started is classified: a call that repeats an
earlier one is refused, any other is dispatched (`ds` are the dispatched calls, in order). -/
inductive Screened (E : List String) : List Step → List ToolCall → Prop
  | nil : Screened E [] []
  | text {w : List Step} {ds : List ToolCall} (x : String) :
      Screened E w ds → Screened E (w ++ [.text x]) ds
  | refused {w : List Step} {ds : List ToolCall} (c : ToolCall) :
      Repeats E w c → Screened E w ds →
      Screened E (w ++ [.toolStart c, .toolResult c (duplicateRefusal c)]) ds
  | ran {w : List Step} {ds : List ToolCall} (c : ToolCall) (r : ToolResult) :
      ¬ Repeats E w c → Screened E w ds →
      Screened E (w ++ [.toolStart c, .toolResult c r]) (ds ++ [c])

section Screened

variable {E : List String} {w : List Step} {ds : List ToolCall}

theorem signedIn_texts (texts : List String) (sig : String) :
    SignedIn E (w ++ texts.map Step.text) sig ↔ SignedIn E w sig := by
  simp [SignedIn]

theorem signedIn_call (c : ToolCall) (r : ToolResult) (sig : String) :
    SignedIn E (w ++ [.toolStart c, .toolResult c r]) sig ↔
      SignedIn E w sig ∨ NonExempt E c ∧ signature c = .ok sig := by
  constructor
  · rintro ⟨c', hc', hne, hsig⟩
    simp only [List.mem_append, List.mem_cons, Step.toolStart.injEq, reduceCtorEq,
      List.not_mem_nil, or_false] at hc'
    rcases hc' with hc' | rfl
    · exact .inl ⟨c', hc', hne, hsig⟩
    · exact .inr ⟨hne, hsig⟩
  · rintro (⟨c', hc', hne, hsig⟩ | ⟨hne, hsig⟩)
    · exact ⟨c', by simp [hc'], hne, hsig⟩
    · exact ⟨c, by simp, hne, hsig⟩

theorem Screened.texts {w : List Step} (h : Screened E w ds) :
    ∀ texts : List String, Screened E (w ++ texts.map Step.text) ds
  | [] => by simpa using h
  | x :: rest => by
    simpa [List.append_assoc] using Screened.texts (Screened.text x h) rest

/-- A dispatched call was started. -/
theorem Screened.started (h : Screened E w ds) {d : ToolCall} (hd : d ∈ ds) :
    .toolStart d ∈ w := by
  induction h with
  | nil => simp at hd
  | text x _ ih => exact List.mem_append_left _ (ih hd)
  | refused c _ _ ih => exact List.mem_append_left _ (ih hd)
  | ran c r _ _ ih =>
    rcases List.mem_append.1 hd with hd | hd
    · exact List.mem_append_left _ (ih hd)
    · simp at hd
      simp [hd]

/-- No two dispatched calls that are not exempt share a signature: the later one would have
repeated the earlier. -/
theorem Screened.dispatched_apart (h : Screened E w ds) :
    ds.Pairwise (fun d c => NonExempt E d → NonExempt E c →
      ∀ sig, signature d = .ok sig → signature c ≠ .ok sig) := by
  induction h with
  | nil => exact .nil
  | text _ _ ih => exact ih
  | refused _ _ _ ih => exact ih
  | ran c r hnew hw ih =>
    refine List.pairwise_append.2 ⟨ih, List.pairwise_singleton _ _, ?_⟩
    intro d hd c' hc' hd_ne hc_ne sig hdsig hcsig
    rw [List.mem_singleton] at hc'
    subst hc'
    exact hnew ⟨hc_ne, sig, hcsig, d, hw.started hd, hd_ne, hdsig⟩

end Screened

/-! ## The invariant of the loop -/

/-- The steps after `base` are screened, and the guard remembers the calls they started. -/
def Guarded (E : List String) (base : List Step) (g : DuplicateGuard) (steps : List Step) :
    Prop :=
  ∃ w ds, steps = base ++ w ∧ Screened E w ds ∧ g.Remembers E (SignedIn E w)

/-- The steps after `base` are screened. -/
def ScreenedFrom (E : List String) (base steps : List Step) : Prop :=
  ∃ w ds, steps = base ++ w ∧ Screened E w ds

/-- The steps after `base` are screened and then end with a terminal step. -/
def ScreenedRun (E : List String) (base steps : List Step) : Prop :=
  ∃ w t ds, steps = base ++ w ++ [t] ∧ t.isTerminal ∧ Screened E w ds

/-- What the steps after `base` are once the loop has decided how to go on. -/
def GuardedAfter (E : List String) (base : List Step) : Flow → Session → Prop
  | .stop, s => ScreenedRun E base s.steps
  | .next l, s => Guarded E base l.guard s.steps

section Guarded

variable {E : List String} {b u : List Step} {g g' : DuplicateGuard}

theorem Guarded.screened (h : Guarded E b g u) : ScreenedFrom E b u := by
  obtain ⟨w, ds, hu, hw, -⟩ := h
  exact ⟨w, ds, hu, hw⟩

theorem ScreenedFrom.finish (h : ScreenedFrom E b u) {t : Step} (ht : t.isTerminal) :
    ScreenedRun E b (u ++ [t]) := by
  obtain ⟨w, ds, rfl, hw⟩ := h
  exact ⟨w, t, ds, rfl, ht, hw⟩

theorem Guarded.texts (h : Guarded E b g u) (texts : List String) :
    Guarded E b g (u ++ texts.map Step.text) := by
  obtain ⟨w, ds, rfl, hw, hg⟩ := h
  refine ⟨w ++ texts.map Step.text, ds, by simp, hw.texts texts, hg.exempt, fun sig => ?_⟩
  rw [signedIn_texts, hg.seen]

theorem Guarded.follows {H : List Message → Prop} {s s' : Session} (h : Guarded E b g s.steps)
    (hs : s.Follows H s') : Guarded E b g s'.steps := by
  obtain ⟨texts, htexts⟩ := hs.texts
  rw [htexts]
  exact h.texts texts

/-- Whatever the check decides, the guard then remembers the calls started up to the checked
one, whatever its result. -/
theorem remembers_after_check {w : List Step} {c : ToolCall} {dup : Bool}
    (hg : g.Remembers E (SignedIn E w)) (hc : g.check c = .ok (dup, g')) (r : ToolResult) :
    g'.Remembers E (SignedIn E (w ++ [.toolStart c, .toolResult c r])) := by
  obtain ⟨-, hg'⟩ := hg.check hc
  refine ⟨hg'.exempt, fun sig => ?_⟩
  rw [hg'.seen, signedIn_call]

/-- A call the guard refuses repeats a call started before it. -/
theorem repeats_of_refused {w : List Step} {c : ToolCall} (hg : g.Remembers E (SignedIn E w))
    (hc : g.check c = .ok (true, g')) : Repeats E w c :=
  (hg.check hc).1.1 rfl

/-- A call the guard lets through repeats no call started before it. -/
theorem not_repeats_of_passed {w : List Step} {c : ToolCall} (hg : g.Remembers E (SignedIn E w))
    (hc : g.check c = .ok (false, g')) : ¬ Repeats E w c :=
  fun hrep => Bool.false_ne_true ((hg.check hc).1.2 hrep)

theorem Guarded.refused (h : Guarded E b g u) {c : ToolCall} (hc : g.check c = .ok (true, g')) :
    Guarded E b g' (u ++ [.toolStart c, .toolResult c (duplicateRefusal c)]) := by
  obtain ⟨w, ds, rfl, hw, hg⟩ := h
  exact ⟨_, ds, by simp, .refused c (repeats_of_refused hg hc) hw, remembers_after_check hg hc _⟩

theorem Guarded.ran (h : Guarded E b g u) {c : ToolCall} (hc : g.check c = .ok (false, g'))
    (r : ToolResult) : Guarded E b g' (u ++ [.toolStart c, .toolResult c r]) := by
  obtain ⟨w, ds, rfl, hw, hg⟩ := h
  exact ⟨_, ds ++ [c], by simp, .ran c r (not_repeats_of_passed hg hc) hw,
    remembers_after_check hg hc r⟩

end Guarded

/-! ## The loop keeps the guard in step with the steps -/

section Loop

variable {E : List String} {b : List Step} {t : Task}

theorem runCalls_guarded (turn : Turn) :
    ∀ (calls : List ToolCall) (l : Loop) (s : Session), Guarded E b l.guard s.steps →
      wp (runCalls t turn calls l) (GuardedAfter E b) (fun s' => ScreenedFrom E b s'.steps) s
  | [], l, s, h => wp_afterCalls (fun _ => h.screened.finish rfl) (fun _ _ => h)
  | call :: rest, l, s, h => by
    refine wp_runCalls_cons (fun _ => h.screened.finish rfl) (fun _ _ _ => h.screened)
      (fun _ g hc => runCalls_guarded turn rest _ _ (h.refused hc))
      (fun _ g hc s' c x hsteps _ _ => ?_)
    have h' : Guarded E b g s'.steps := hsteps ▸ h.ran hc _
    exact ⟨h'.screened.finish rfl, h'.texts [condensedNotice],
      runCalls_guarded turn rest _ s' h'⟩

theorem reply_guarded {l : Loop} {turn : Turn} {s : Session} (h : Guarded E b l.guard s.steps) :
    wp (reply t l turn) (GuardedAfter E b) (fun s' => ScreenedFrom E b s'.steps) s :=
  wp_reply (fun _ hs => (h.follows hs).screened)
    (fun _ _ hs => (h.follows hs).screened.finish rfl)
    (fun _ _ _ _ hs _ => h.follows hs)
    (fun _ _ calls _ hs _ => runCalls_guarded _ calls _ _ (h.follows hs))

theorem turnOnce_guarded {l : Loop} {s : Session} (h : Guarded E b l.guard s.steps) :
    wp (turnOnce t l) (GuardedAfter E b) (fun s' => ScreenedFrom E b s'.steps) s :=
  wp_turnOnce (H := fun _ => True) (fun _ _ _ _ _ _ => trivial) trivial
    (fun _ _ hs => (h.follows hs).screened.finish rfl) (fun _ hs => (h.follows hs).screened)
    (fun _ _ _ _ hs _ => reply_guarded (h.follows hs))

theorem loop_screened (fuel : Nat) (l : Loop) {s : Session} (h : Guarded E b l.guard s.steps) :
    wp (loop t fuel l) (fun _ s' => ScreenedRun E b s'.steps)
      (fun s' => ScreenedFrom E b s'.steps) s := by
  refine wp_loop (fun l s => Guarded E b l.guard s.steps) (fun l s h => ?_)
    (fun _ _ _ h => h.screened.finish rfl) (fun _ _ _ h => h) fuel l s h
  refine wp_mono (turnOnce_guarded h) (fun f s' hf => ?_) (fun _ h => h)
  cases f with
  | stop => exact hf
  | next l' => exact hf

end Loop

/-- A refused call reports its start and the refusal, answers the model with the refusal, and
changes nothing else: the call is neither previewed nor run, and the counters and the guard of
the loop stay as they were. -/
theorem runCalls_refused {t : Task} {turn : Turn} {call : ToolCall} {rest : List ToolCall}
    {l : Loop} {s : Session} {g : DuplicateGuard} (hs : s.host.signalled = false)
    (hc : l.guard.check call = .ok (true, g)) :
    (runCalls t turn (call :: rest) l).run.run s =
      (runCalls t turn rest { l with history := l.history ++
          [toolMessage ("Error: " ++ (duplicateRefusal call).error.getD "None") call] }).run.run
        { s with steps := s.steps ++
            [.toolStart call, .toolResult call (duplicateRefusal call)] } := by
  have hg : g = l.guard := DuplicateGuard.check_refused hc
  subst hg
  have hcancel : ∀ f : Bool → AgentM Flow,
      (Session.cancelled >>= f).run.run s = (f s.host.signalled).run.run s := fun _ => rfl
  have hemit : ∀ (st : Step) (m : AgentM Flow) (s' : Session),
      (Session.emit st >>= fun _ => m).run.run s' =
        m.run.run { s' with steps := s'.steps ++ [st] } := fun _ _ _ => rfl
  rw [runCalls, hcancel, hs, hc]
  simp only [Bool.false_eq_true, if_false, Session.shaped, pure_bind, if_true, hemit]
  simp

/-- The tools a task never refuses, in lower case: its completion tool and its condense tool. -/
def exemptTools (settings : Settings) : List String :=
  [lower settings.policy.completionTool, lower settings.policy.condenseTool]

/-- The steps of every run are screened: its refused calls are exactly its repeats. -/
theorem run_screened (s : Session) (settings : Settings) (prompt : String) (request : Value) :
    ScreenedRun (exemptTools settings) s.steps (s.run settings prompt request).steps := by
  refine run_of_wp (P := fun s' => ScreenedRun (exemptTools settings) s.steps s'.steps) ?_
  -- the guard a task starts with exempts its two tools and remembers nothing
  have hstart : Guarded (exemptTools settings) s.steps (Loop.start settings prompt request).guard
      s.steps :=
    ⟨[], [], by simp, .nil, rfl,
      fun sig => by simp [SignedIn, Loop.start, DuplicateGuard.exempting]⟩
  refine wp_runTask (fun _ => hstart.screened.finish rfl) (fun _ => ?_)
  refine wp_mono (loop_screened _ _ hstart) (fun _ _ h => h) ?_
  intro s' h e
  exact h.finish rfl

/-- A call that reaches the duplicate check is refused exactly when it is not exempt and an
earlier call of the same task that was not exempt had its signature, in any earlier turn and
across condensations. A refused call reports its start and the refusal and answers the model
with the refusal; it is neither previewed nor run, and the counters of the loop, the mistakes
among them, stay as they were. So no two calls a task dispatches that are not exempt share a
signature. -/
theorem repeated_calls_refused :
    (∀ (t : Task) (turn : Turn) (call : ToolCall) (rest : List ToolCall) (l : Loop)
        (s : Session) (g : DuplicateGuard),
      s.host.signalled = false → l.guard.check call = .ok (true, g) →
      (runCalls t turn (call :: rest) l).run.run s =
        (runCalls t turn rest { l with history := l.history ++
            [toolMessage ("Error: " ++ (duplicateRefusal call).error.getD "None") call] }).run.run
          { s with steps := s.steps ++
              [.toolStart call, .toolResult call (duplicateRefusal call)] }) ∧
    ∀ (s : Session) (settings : Settings) (prompt : String) (request : Value),
      ∃ w t ds, (s.run settings prompt request).steps = s.steps ++ w ++ [t] ∧ t.isTerminal ∧
        Screened (exemptTools settings) w ds ∧
        ds.Pairwise (fun d c => NonExempt (exemptTools settings) d →
          NonExempt (exemptTools settings) c →
          ∀ sig, signature d = .ok sig → signature c ≠ .ok sig) := by
  refine ⟨fun _ _ _ _ _ _ _ hs hc => runCalls_refused hs hc,
    fun s settings prompt request => ?_⟩
  obtain ⟨w, t, ds, hsteps, ht, hw⟩ := run_screened s settings prompt request
  exact ⟨w, t, ds, hsteps, ht, hw, hw.dispatched_apart⟩

end CodingAgent.Agent
