import CodingAgent.Proofs.DuplicateCalls

/-!
# The streak of failed calls

A task counts the calls that failed in a row. A dispatched call that succeeds ends the streak
and one that fails extends it, whatever its tool, the completion and condense tools included;
a call refused as a repeat, like a reply without calls, leaves the streak as it was. A batch of
calls does not stop for the streak: once it has run to its end, a streak at its limit ends the
task with the error that counts it (`mistakesError`).

`Dispatched` is the language of the steps of a running task together with the results of the
calls it dispatched, in order, and `streak` counts the failures at the end of those results.
`Tracked` is the invariant of the loop: the steps are dispatches, the guard remembers their
calls (so that a refusal is told apart from a run), and the counter of mistakes is the streak.
`BatchAfter` is what a batch of calls leaves: the invariant when it goes on, and when it
stops, a last step that is the streak's error exactly when the batch reported every one of its
calls, stopped on an error and had reached the limit. `TalliedRun` is what a whole run leaves.

The messages that end a task are told apart by their first character, which is all the
distinctness the proofs need.
-/

namespace CodingAgent.Agent

open CodingAgent CodingAgent.Json CodingAgent.Model CodingAgent.Tool CodingAgent.Recovery

/-! ## Streaks -/

/-- The failed results at the end of `rs`: those since the last success. -/
def streak (rs : List ToolResult) : Nat :=
  (rs.reverse.takeWhile fun r => !r.success).length

@[simp] theorem streak_nil : streak [] = 0 := rfl

@[simp] theorem streak_concat (rs : List ToolResult) (r : ToolResult) :
    streak (rs ++ [r]) = if r.success then 0 else streak rs + 1 := by
  unfold streak
  cases h : r.success <;> simp [h]

/-! ## The errors that end a task -/

/-- The step is the error that counts a streak of failed calls. -/
def Step.IsStreakError (st : Step) : Prop :=
  ∃ n, st = .error (mistakesError n)

theorem head_append_of_head {a : String} {ch : Char} (b : String) (h : a.toList.head? = some ch) :
    (a ++ b).toList.head? = some ch := by
  rw [String.toList_append, List.head?_append, h]
  rfl

theorem mistakesError_head (n : Nat) : (mistakesError n).toList.head? = some 'T' := by
  unfold mistakesError
  refine head_append_of_head _ (head_append_of_head _ (head_append_of_head _ ?_))
  simp

/-- An error whose message begins with another character than the streak's error is not it. -/
theorem not_isStreakError_of_head {m : String} {ch : Char} (h : m.toList.head? = some ch)
    (hch : ch ≠ 'T') : ¬ (Step.error m).IsStreakError := by
  rintro ⟨n, hn⟩
  cases hn
  rw [mistakesError_head] at h
  exact hch (Option.some.inj h).symm

theorem complete_not_isStreakError (x : String) : ¬ (Step.complete x).IsStreakError := by
  rintro ⟨n, hn⟩
  cases hn

/-- The error of a cancelled task, of a failed request, of a task out of turns and of a crash
is none of them the streak's error. -/
theorem other_errors_not_isStreakError {m : String}
    (hm : m = cancelledTask ∨ (∃ e, m = "LLM communication error: " ++ e) ∨
      (∃ n, m = iterationsError n) ∨ ∃ e, m = "Agent error: " ++ e) :
    ¬ (Step.error m).IsStreakError := by
  rcases hm with rfl | ⟨e, rfl⟩ | ⟨n, rfl⟩ | ⟨e, rfl⟩
  · exact not_isStreakError_of_head
      (show cancelledTask.toList.head? = some 'O' by simp [cancelledTask]) (by decide)
  · exact not_isStreakError_of_head
      (head_append_of_head e (show "LLM communication error: ".toList.head? = some 'L' by simp))
      (by decide)
  · have h : (iterationsError n).toList.head? = some 'M' := by
      unfold iterationsError
      exact head_append_of_head _ (head_append_of_head _ (by simp))
    exact not_isStreakError_of_head h (by decide)
  · exact not_isStreakError_of_head
      (head_append_of_head e (show "Agent error: ".toList.head? = some 'A' by simp)) (by decide)

/-! ## Dispatches in the steps of a task -/

/-- Steps of a running task with the results of the calls it dispatched, in order: a call that
repeats an earlier one is refused and adds no result. -/
inductive Dispatched (E : List String) : List Step → List ToolResult → Prop
  | nil : Dispatched E [] []
  | text {w : List Step} {rs : List ToolResult} (x : String) :
      Dispatched E w rs → Dispatched E (w ++ [.text x]) rs
  | refused {w : List Step} {rs : List ToolResult} (c : ToolCall) :
      Repeats E w c → Dispatched E w rs →
      Dispatched E (w ++ [.toolStart c, .toolResult c (duplicateRefusal c)]) rs
  | ran {w : List Step} {rs : List ToolResult} (c : ToolCall) (r : ToolResult) :
      ¬ Repeats E w c → Dispatched E w rs →
      Dispatched E (w ++ [.toolStart c, .toolResult c r]) (rs ++ [r])

theorem Dispatched.texts {E : List String} {w : List Step} {rs : List ToolResult}
    (h : Dispatched E w rs) : ∀ texts : List String, Dispatched E (w ++ texts.map Step.text) rs
  | [] => by simpa using h
  | x :: rest => by
    simpa [List.append_assoc] using Dispatched.texts (Dispatched.text x h) rest

/-- Steps that report each of `calls` in order, by its start and its result. -/
inductive Reports : List ToolCall → List Step → Prop
  | nil : Reports [] []
  | cons {c : ToolCall} {rest : List ToolCall} {v : List Step} (r : ToolResult) :
      Reports rest v → Reports (c :: rest) (.toolStart c :: .toolResult c r :: v)

/-- The steps after `pre` report every call of `calls`, and nothing else. -/
def ReportsAll (calls : List ToolCall) (pre steps : List Step) : Prop :=
  ∃ v, steps = pre ++ v ∧ Reports calls v

section Reports

variable {c : ToolCall} {rest calls : List ToolCall} {pre steps : List Step} {r : ToolResult}

/-- Once a call is reported, the batch reports all its calls exactly when it reports the rest
after it. -/
theorem reportsAll_cons (h : pre ++ [.toolStart c, .toolResult c r] <+: steps) :
    ReportsAll (c :: rest) pre steps ↔
      ReportsAll rest (pre ++ [.toolStart c, .toolResult c r]) steps := by
  obtain ⟨u, rfl⟩ := h
  constructor
  · rintro ⟨v, hv, hrep⟩
    cases hrep with
    | cons r' hrest =>
      -- both sides begin with `pre`, and what follows it names the result and the rest
      simp only [List.append_assoc, List.cons_append, List.nil_append, List.append_cancel_left_eq,
        List.cons.injEq, Step.toolResult.injEq, true_and] at hv
      obtain ⟨rfl, rfl⟩ := hv
      exact ⟨_, by simp, hrest⟩
  · rintro ⟨v, hv, hrep⟩
    exact ⟨_, by simp [hv], .cons r hrep⟩

theorem not_reportsAll_cons_self : ¬ ReportsAll (c :: rest) pre pre := by
  rintro ⟨v, hv, hrep⟩
  obtain rfl : v = [] := by simpa using hv
  cases hrep

theorem not_reportsAll_text (x : String) : ¬ ReportsAll calls pre (pre ++ [.text x]) := by
  rintro ⟨v, hv, hrep⟩
  obtain rfl : v = [.text x] := (List.append_cancel_left hv).symm
  cases hrep

end Reports

/-! ## The invariant of the loop -/

/-- The steps after `base` are dispatches. -/
def DispatchedFrom (E : List String) (base steps : List Step) : Prop :=
  ∃ w rs, steps = base ++ w ∧ Dispatched E w rs

/-- The invariant of the loop: the steps after `base` are dispatches, the guard remembers the
calls they started, and the counter of mistakes is the streak of their results, with the limit
`M`. -/
def Tracked (E : List String) (M : Int) (base : List Step) (l : Loop) (steps : List Step) :
    Prop :=
  ∃ w rs, steps = base ++ w ∧ Dispatched E w rs ∧ l.guard.Remembers E (SignedIn E w) ∧
    l.counters.mistakes = streak rs ∧ l.counters.maxMistakes = M

/-- The steps after `base` are dispatches and a last step, which is the error of a streak only
when the streak of the results reached the limit `M`, and then counts that streak. -/
def TalliedRun (E : List String) (M : Int) (base steps : List Step) : Prop :=
  ∃ w rs final, steps = base ++ w ++ [final] ∧ final.isTerminal ∧ Dispatched E w rs ∧
    (final.IsStreakError → final = .error (mistakesError (streak rs)) ∧ M ≤ streak rs)

/-- What a batch of `calls`, begun at the steps `pre`, leaves once it has decided how to go on.
Going on, the loop is tracked, and a batch that reported all its calls and nothing more had a
streak below the limit. Stopping, the steps after `base` are dispatches and a last step, which
is the error of a streak exactly when the batch reported all its calls, stopped on an error and
had reached the limit; that error counts the streak. -/
def BatchAfter (E : List String) (M : Int) (base pre : List Step) (calls : List ToolCall) :
    Flow → Session → Prop
  | .next l, s => pre <+: s.steps ∧ Tracked E M base l s.steps ∧
      (ReportsAll calls pre s.steps → (l.counters.mistakes : Int) < M)
  | .stop, s => ∃ w rs final, s.steps = base ++ w ++ [final] ∧ pre <+: base ++ w ∧
      Dispatched E w rs ∧ final.isTerminal ∧
      (final.IsStreakError ↔ ReportsAll calls pre (base ++ w) ∧ (∃ m, final = .error m) ∧
        M ≤ streak rs) ∧
      (final.IsStreakError → final = .error (mistakesError (streak rs)))

/-- What a turn leaves: the invariant when the loop goes on, a tallied run when it stops. -/
def TurnAfter (E : List String) (M : Int) (base : List Step) : Flow → Session → Prop
  | .stop, s => TalliedRun E M base s.steps
  | .next l, s => Tracked E M base l s.steps

section Tracked

variable {E : List String} {M : Int} {base u : List Step} {l : Loop} {s : Session}

theorem Tracked.dispatched (h : Tracked E M base l u) : DispatchedFrom E base u := by
  obtain ⟨w, rs, hu, hw, -⟩ := h
  exact ⟨w, rs, hu, hw⟩

/-- Only the guard and the streak of the counters matter to the invariant. -/
theorem Tracked.congr {l' : Loop} (h : Tracked E M base l u) (hg : l'.guard = l.guard)
    (hc : l.counters.SameStreak l'.counters) : Tracked E M base l' u := by
  obtain ⟨w, rs, hu, hw, hrem, hm, hM⟩ := h
  exact ⟨w, rs, hu, hw, hg ▸ hrem, hc.1.trans hm, hc.2.trans hM⟩

theorem Tracked.texts (h : Tracked E M base l u) (texts : List String) :
    Tracked E M base l (u ++ texts.map Step.text) := by
  obtain ⟨w, rs, rfl, hw, hrem, hm, hM⟩ := h
  refine ⟨w ++ texts.map Step.text, rs, by simp, hw.texts texts, ⟨hrem.exempt, fun sig => ?_⟩,
    hm, hM⟩
  rw [signedIn_texts, hrem.seen]

theorem Tracked.follows {H : List Message → Prop} {s' : Session} (h : Tracked E M base l s.steps)
    (hs : s.Follows H s') : Tracked E M base l s'.steps := by
  obtain ⟨texts, htexts⟩ := hs.texts
  rw [htexts]
  exact h.texts texts

/-- A refused call adds no result, and the streak stays. -/
theorem Tracked.refused {c : ToolCall} {g : DuplicateGuard} {l' : Loop} (h : Tracked E M base l u)
    (hc : l.guard.check c = .ok (true, g)) (hg : l'.guard = g)
    (hcount : l.counters.SameStreak l'.counters) :
    Tracked E M base l' (u ++ [.toolStart c, .toolResult c (duplicateRefusal c)]) := by
  obtain ⟨w, rs, rfl, hw, hrem, hm, hM⟩ := h
  exact ⟨_, rs, by simp, .refused c (repeats_of_refused hrem hc) hw,
    hg ▸ remembers_after_check hrem hc _, hcount.1.trans hm, hcount.2.trans hM⟩

/-- A call that ran adds its result, and the streak follows it. -/
theorem Tracked.ran {c : ToolCall} {g : DuplicateGuard} {l' : Loop} (h : Tracked E M base l u)
    (hc : l.guard.check c = .ok (false, g)) (r : ToolResult) (hg : l'.guard = g)
    (hcount : l.counters.AfterResult l'.counters r) :
    Tracked E M base l' (u ++ [.toolStart c, .toolResult c r]) := by
  obtain ⟨w, rs, rfl, hw, hrem, hm, hM⟩ := h
  obtain ⟨hm', hM', -⟩ := hcount
  refine ⟨_, rs ++ [r], by simp, .ran c r (not_repeats_of_passed hrem hc) hw,
    hg ▸ remembers_after_check hrem hc r, ?_, hM'.trans hM⟩
  rw [hm', streak_concat, hm]

/-- A call that ran adds its result to the dispatches. -/
theorem Tracked.ran_dispatched {c : ToolCall} {g : DuplicateGuard} (h : Tracked E M base l u)
    (hc : l.guard.check c = .ok (false, g)) (r : ToolResult) :
    DispatchedFrom E base (u ++ [.toolStart c, .toolResult c r]) := by
  obtain ⟨w, rs, rfl, hw, hrem, -⟩ := h
  exact ⟨_, rs ++ [r], by simp, .ran c r (not_repeats_of_passed hrem hc) hw⟩

/-- A run that ends with a last step other than the streak's error is tallied. -/
theorem DispatchedFrom.finish (h : DispatchedFrom E base u) {final : Step}
    (ht : final.isTerminal) (hn : ¬ final.IsStreakError) : TalliedRun E M base (u ++ [final]) := by
  obtain ⟨w, rs, rfl, hw⟩ := h
  exact ⟨w, rs, final, rfl, ht, hw, fun hs => absurd hs hn⟩

end Tracked

/-! ## A batch of calls -/

section Batch

variable {E : List String} {M : Int} {base pre : List Step} {l : Loop} {s : Session}
  {calls : List ToolCall}

/-- A batch may go on with the history it likes when its streak is below the limit. -/
theorem Tracked.below (h : Tracked E M base l s.steps)
    (hlim : l.counters.mistakeLimitReached = false) (hist : List Message) :
    BatchAfter E M base s.steps [] (.next { l with history := hist }) s := by
  refine ⟨List.prefix_refl _, h, fun _ => ?_⟩
  obtain ⟨-, -, -, -, -, -, hM⟩ := h
  simp only [Counters.mistakeLimitReached, decide_eq_false_iff_not] at hlim
  show (l.counters.mistakes : Int) < M
  omega

/-- A batch whose streak reached the limit after its last call stops with the error counting
it. -/
theorem Tracked.limit (h : Tracked E M base l s.steps)
    (hlim : l.counters.mistakeLimitReached = true) :
    BatchAfter E M base s.steps [] .stop
      { s with steps := s.steps ++ [.error (mistakesError l.counters.mistakes)] } := by
  obtain ⟨w, rs, hsteps, hw, -, hm, hM⟩ := h
  have hle : M ≤ streak rs := by
    simp only [Counters.mistakeLimitReached, decide_eq_true_eq] at hlim
    omega
  refine ⟨w, rs, .error (mistakesError l.counters.mistakes), by simp [hsteps],
    hsteps ▸ List.prefix_refl _, hw, rfl, ⟨fun _ => ?_, fun _ => ⟨_, rfl⟩⟩, fun _ => by rw [hm]⟩
  exact ⟨⟨[], by simp [hsteps], .nil⟩, ⟨_, rfl⟩, hle⟩

/-- A batch that stops on a last step other than the streak's error, where it cannot have
reported all its calls and stopped on an error, leaves its steps. -/
theorem DispatchedFrom.stop (h : DispatchedFrom E base s.steps) {final : Step}
    (ht : final.isTerminal) (hn : ¬ final.IsStreakError)
    (hr : ¬ (ReportsAll calls s.steps s.steps ∧ ∃ m, final = .error m)) :
    BatchAfter E M base s.steps calls .stop { s with steps := s.steps ++ [final] } := by
  obtain ⟨w, rs, hsteps, hw⟩ := h
  refine ⟨w, rs, final, by simp [hsteps], hsteps ▸ List.prefix_refl _, hw, ht,
    ⟨fun hs => absurd hs hn, fun ⟨hall, herr, _⟩ => absurd ⟨hsteps ▸ hall, herr⟩ hr⟩,
    fun hs => absurd hs hn⟩

/-- What the rest of a batch leaves after a call was reported is what the whole batch
leaves. -/
theorem BatchAfter.cons {c : ToolCall} {rest : List ToolCall} {r : ToolResult} {f : Flow}
    (h : BatchAfter E M base (pre ++ [.toolStart c, .toolResult c r]) rest f s) :
    BatchAfter E M base pre (c :: rest) f s := by
  cases f with
  | next l =>
    obtain ⟨hpre, htr, hlt⟩ := h
    exact ⟨(List.prefix_append _ _).trans hpre, htr,
      fun hall => hlt ((reportsAll_cons hpre).1 hall)⟩
  | stop =>
    obtain ⟨w, rs, final, hsteps, hpre, hw, ht, hiff, hcount⟩ := h
    refine ⟨w, rs, final, hsteps, (List.prefix_append _ _).trans hpre, hw, ht, ?_, hcount⟩
    rw [reportsAll_cons hpre]
    exact hiff

theorem BatchAfter.turnAfter {f : Flow} (h : BatchAfter E M base pre calls f s) :
    TurnAfter E M base f s := by
  cases f with
  | next l => exact h.2.1
  | stop =>
    obtain ⟨w, rs, final, hsteps, -, hw, ht, hiff, hcount⟩ := h
    exact ⟨w, rs, final, hsteps, ht, hw, fun hs => ⟨hcount hs, (hiff.1 hs).2.2⟩⟩

variable (t : Task) (turn : Turn)

/-- A batch of calls keeps the invariant call by call, and stops with the streak's error
exactly when it ran to its end with the streak at the limit. -/
theorem runCalls_tracked :
    ∀ (calls : List ToolCall) (l : Loop) (s : Session), Tracked E M base l s.steps →
      wp (runCalls t turn calls l) (BatchAfter E M base s.steps calls)
        (fun s' => DispatchedFrom E base s'.steps) s
  | [], l, s, h => wp_afterCalls_counted (fun hlim => h.limit hlim) (fun hlim _ _ => h.below hlim _)
  | call :: rest, l, s, h => by
    refine wp_runCalls_cons_counted
      (fun _ => h.dispatched.stop rfl (other_errors_not_isStreakError (.inl rfl))
        fun ⟨hall, _⟩ => not_reportsAll_cons_self hall)
      (fun _ _ _ => h.dispatched) (fun _ g hc => ?_) (fun _ g hc s' hsteps _ _ => ?_)
    · exact wp_mono (runCalls_tracked rest _ _ (h.refused hc rfl ⟨rfl, rfl⟩))
        (fun _ _ hf => hf.cons) (fun _ h => h)
    -- the call ran: what follows starts from its reported result
    generalize (s.registry.execute call t.timeout (s.registry.preview call s.host)).1 = r
      at hsteps ⊢
    have hran : ∀ {l' : Loop}, l'.guard = g → l.counters.AfterResult l'.counters r →
        Tracked E M base l' s'.steps := fun hg hc' => hsteps ▸ h.ran hc r hg hc'
    refine ⟨fun x => BatchAfter.cons (r := r) ?_, fun c hc' => ⟨fun x => ?_, ?_⟩⟩
    · -- a completion stops the batch on no error
      rw [← hsteps]
      exact (hsteps ▸ h.ran_dispatched hc r).stop rfl (complete_not_isStreakError x)
        fun ⟨_, _, hm⟩ => by cases hm
    · -- a condensation goes on after a notice, so the batch did not just report its calls
      refine BatchAfter.cons (r := r) ?_
      rw [← hsteps]
      exact ⟨List.prefix_append _ _, (hran rfl hc').texts [condensedNotice],
        fun hall => absurd hall (not_reportsAll_text _)⟩
    · exact wp_mono (runCalls_tracked rest _ s' (hran rfl hc'))
        (fun _ _ hf => BatchAfter.cons (r := r) (hsteps ▸ hf)) (fun _ h => h)

end Batch

/-! ## Turns and runs -/

section Run

variable {E : List String} {M : Int} {base : List Step} {t : Task}

theorem reply_tracked {l : Loop} {turn : Turn} {s : Session} (h : Tracked E M base l s.steps) :
    wp (reply t l turn) (TurnAfter E M base) (fun s' => DispatchedFrom E base s'.steps) s :=
  wp_reply_counted (fun _ hs => (h.follows hs).dispatched)
    (fun _ x hs => (h.follows hs).dispatched.finish rfl (complete_not_isStreakError x))
    (fun _ _ _ _ hs hc _ => (h.follows hs).congr rfl hc)
    (fun _ _ calls _ hs hc _ =>
      wp_mono (runCalls_tracked t turn calls _ _ ((h.follows hs).congr rfl hc))
        (fun _ _ hf => hf.turnAfter) (fun _ h => h))

theorem turnOnce_tracked {l : Loop} {s : Session} (h : Tracked E M base l s.steps) :
    wp (turnOnce t l) (TurnAfter E M base) (fun s' => DispatchedFrom E base s'.steps) s :=
  wp_turnOnce_counted (H := fun _ => True) (fun _ _ _ _ _ _ => trivial) trivial
    (fun _ _ hs hm => (h.follows hs).dispatched.finish rfl
      (other_errors_not_isStreakError (hm.imp_right .inl)))
    (fun _ hs => (h.follows hs).dispatched)
    (fun _ _ _ _ hs _ hc => reply_tracked ((h.follows hs).congr rfl hc))

theorem loop_tallied (fuel : Nat) (l : Loop) {s : Session} (h : Tracked E M base l s.steps) :
    wp (loop t fuel l) (fun _ s' => TalliedRun E M base s'.steps)
      (fun s' => DispatchedFrom E base s'.steps) s := by
  refine wp_loop_counted (fun l s => Tracked E M base l s.steps) (fun l s h => ?_)
    (fun _ _ _ h hm => h.dispatched.finish rfl
      (other_errors_not_isStreakError (hm.imp id fun h => .inr (.inl ⟨_, h⟩))))
    (fun _ _ _ h hc => h.congr rfl hc) fuel l s h
  refine wp_mono (turnOnce_tracked h) (fun f s' hf => ?_) (fun _ h => h)
  cases f with
  | stop => exact hf
  | next l' => exact hf

/-- A task starts with no dispatches, a guard that remembers nothing and no streak. -/
theorem start_tracked (settings : Settings) (prompt : String) (request : Value)
    (steps : List Step) :
    Tracked (exemptTools settings) settings.agent.maxConsecutiveMistakes steps
      (Loop.start settings prompt request) steps :=
  ⟨[], [], by simp, .nil,
    ⟨rfl, fun sig => by simp [SignedIn, Loop.start, DuplicateGuard.exempting]⟩, rfl, rfl⟩

theorem run_tallied (s : Session) (settings : Settings) (prompt : String) (request : Value) :
    TalliedRun (exemptTools settings) settings.agent.maxConsecutiveMistakes s.steps
      (s.run settings prompt request).steps := by
  refine run_of_wp (P := fun s' => TalliedRun (exemptTools settings)
    settings.agent.maxConsecutiveMistakes s.steps s'.steps) ?_
  -- a crash ends the run with its own error, which is not the streak's
  have hcrash : ∀ u, DispatchedFrom (exemptTools settings) s.steps u → ∀ e : Crash,
      TalliedRun (exemptTools settings) settings.agent.maxConsecutiveMistakes s.steps
        (u ++ [.error ("Agent error: " ++ e.message)]) :=
    fun _ h _ => h.finish rfl (other_errors_not_isStreakError (.inr (.inr (.inr ⟨_, rfl⟩))))
  have hstart := start_tracked settings prompt request s.steps
  refine wp_runTask (fun _ => hcrash _ hstart.dispatched _) (fun _ => ?_)
  exact wp_mono (loop_tallied _ _ hstart) (fun _ _ h => h) (fun _ h => hcrash _ h)

end Run

/-- The counter of mistakes is, at every point of a task, the streak of failures at the end of
the results of the calls the task dispatched, whatever their tools; a call refused as a repeat
and a reply without calls leave it as it was. It holds at the start, and each batch of calls
and each turn keeps it. A batch stops with the error of a streak exactly when it reported every
one of its calls, stopped on an error (so on no completion, no condensation and no cancellation)
and the streak had reached the limit, and that error counts the streak; a batch that reported
all its calls and goes on had a streak below the limit. So a run ends with that error only when
its streak reached the limit, and the error counts it. -/
theorem mistakes_count_failed_streak :
    (∀ (settings : Settings) (prompt : String) (request : Value) (s : Session),
      Tracked (exemptTools settings) settings.agent.maxConsecutiveMistakes s.steps
        (Loop.start settings prompt request) s.steps) ∧
    (∀ (E : List String) (M : Int) (base : List Step) (t : Task) (turn : Turn)
        (calls : List ToolCall) (l : Loop) (s : Session),
      Tracked E M base l s.steps →
      wp (runCalls t turn calls l) (BatchAfter E M base s.steps calls)
        (fun s' => DispatchedFrom E base s'.steps) s) ∧
    (∀ (E : List String) (M : Int) (base : List Step) (t : Task) (l : Loop) (s : Session),
      Tracked E M base l s.steps →
      wp (turnOnce t l) (TurnAfter E M base) (fun s' => DispatchedFrom E base s'.steps) s) ∧
    ∀ (s : Session) (settings : Settings) (prompt : String) (request : Value),
      TalliedRun (exemptTools settings) settings.agent.maxConsecutiveMistakes s.steps
        (s.run settings prompt request).steps :=
  ⟨fun settings prompt request s => start_tracked settings prompt request s.steps,
    fun _ _ _ t turn calls l s h => runCalls_tracked t turn calls l s h,
    fun _ _ _ _ _ _ h => turnOnce_tracked h, run_tallied⟩

end CodingAgent.Agent
