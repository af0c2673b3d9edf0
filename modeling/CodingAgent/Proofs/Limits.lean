import CodingAgent.Proofs.LoopRules

/-!
# How long a task runs and how often it asks the model

The loop takes a turn only while its iteration is below `maxIterations`, and each turn counts
one iteration; asking the model tries at most `maxRetries + 1` times. Negative limits count as
zero. Three results follow.

* Each turn hands on exactly one more iteration (`turnOnce_iteration`), whatever the reply
  does: the calls of a reply, their refusals, condensing the conversation and the nudges after
  a reply without calls all keep the count (`runCalls_iteration`, `reply_iteration`).
* The loop needs no more fuel than the turns left to it: from iteration `i`, any fuel beyond
  `maxIterations - i` changes nothing (`loop_fuel_add`). So the loop stops by its own test,
  after at most `maxIterations` turns from the start.
* A task asks the model at most `maxIterations * (maxRetries + 1)` times (`run_asksAtMost`).
  The requests are counted in the scripted model's record, which holds one entry per request.

`s.AsksAtMost n s'` bounds the requests recorded between two sessions; `wp_and` puts two
properties of one computation together, and `bind_congr_wp` replaces a continuation by one
that agrees with it on every value the computation can return.
-/

namespace CodingAgent.Agent

open CodingAgent CodingAgent.Json CodingAgent.Model CodingAgent.Tool CodingAgent.Recovery

variable {α β : Type}

/-! ## Two rules of `wp` -/

section Rules

variable {Q Q' : α → Session → Prop} {E E' : Session → Prop} {s : Session}

/-- Two properties of the exits of one computation hold together. -/
theorem wp_and {m : AgentM α} (h : wp m Q E s) (h' : wp m Q' E' s) :
    wp m (fun a s' => Q a s' ∧ Q' a s') (fun s' => E s' ∧ E' s') s := by
  unfold wp at h h' ⊢
  rcases hr : (m.run.run s).run with ⟨_ | a, s'⟩ <;> rw [hr] at h h' <;> exact ⟨h, h'⟩

/-- A continuation may be replaced by one that agrees with it on every value the computation
returns, from any session. -/
theorem bind_congr_wp {m : AgentM α} {f g : α → AgentM β} {P : α → Prop}
    (hm : ∀ s, wp m (fun a _ => P a) (fun _ => True) s) (hfg : ∀ a, P a → f a = g a) :
    m >>= f = m >>= g := by
  apply ExceptT.ext
  apply StateT.ext
  intro s
  have h := hm s
  unfold wp at h
  simp only [ExceptT.run_bind, StateT.run_bind]
  -- the computation's exit decides which continuation runs, if any
  split at h <;> rename_i heq
  · rw [show StateT.run (ExceptT.run m) s = _ from heq]
    show StateT.run (ExceptT.run (f _)) _ = StateT.run (ExceptT.run (g _)) _
    rw [hfg _ h]
  · rw [show StateT.run (ExceptT.run m) s = _ from heq]
    rfl

end Rules

/-! ## Counting requests -/

/-- `s'` holds at most `n` more requests to the model than `s`. -/
def Session.AsksAtMost (n : Nat) (s s' : Session) : Prop :=
  s'.provider.asked.length ≤ s.provider.asked.length + n

namespace Session

variable {s s' s'' : Session} {m n : Nat}

theorem AsksAtMost.refl (s : Session) : s.AsksAtMost 0 s := Nat.le_refl _

theorem AsksAtMost.mono (h : s.AsksAtMost m s') (hmn : m ≤ n) : s.AsksAtMost n s' := by
  unfold AsksAtMost at *
  omega

theorem AsksAtMost.trans (h : s.AsksAtMost m s') (h' : s'.AsksAtMost n s'') :
    s.AsksAtMost (m + n) s'' := by
  unfold AsksAtMost at *
  omega

/-- Following by texts alone asks nothing. -/
theorem Shows.asksAtMost (h : s.Shows s') : s.AsksAtMost 0 s' := by
  obtain ⟨new, hnew, hall⟩ := h.asked
  have hnil : new = [] := List.eq_nil_iff_forall_not_mem.2 hall
  simp [AsksAtMost, hnew, hnil]

end Session

/-- Sending a conversation records at most one request. -/
theorem Provider.asked_send_length (p : Provider) (room : Nat) (h : List Message)
    (d : List ToolDefinition) (c : Bool) (ids : IdSource) :
    (p.send room h d c ids).2.1.asked.length ≤ p.asked.length + 1 := by
  obtain ⟨new, hnew, hlen, -⟩ := p.asked_send room h d c ids
  rw [hnew, List.length_append]
  omega

/-- One try asks the model once at most. -/
theorem attempt_asksAtMost (history : List Message) (tools : List ToolDefinition) (s : Session) :
    wp (Session.attempt history tools) (fun _ => s.AsksAtMost 1) (s.AsksAtMost 1) s := by
  simp only [Session.attempt, wp_bind, wp_get, wp_set]
  have hsend := Provider.asked_send_length s.provider Session.answerRoom history tools
    s.host.signalled s.ids
  generalize s.provider.send Session.answerRoom history tools s.host.signalled s.ids = sent
    at hsend ⊢
  obtain ⟨events, provider, ids⟩ := sent
  have hsent : s.AsksAtMost 1 { s with provider := provider, ids := ids } := hsend
  exact wp_mono (consume_shows _ _ _) (fun _ _ h => hsent.trans h.asksAtMost)
    (fun _ h => hsent.trans h.asksAtMost)

section Requests

variable {t : Task}

/-- Asking with `fuel` tries left asks the model at most `fuel` times: each try asks once,
and a retry spends one try. -/
theorem askWithRetries_asksAtMost (t : Task) (n : Nat) :
    ∀ (fuel k : Nat) (history : List Message) (budget : Int) (s : Session),
      wp (askWithRetries t n fuel k history budget) (fun _ => s.AsksAtMost fuel)
        (s.AsksAtMost fuel) s
  | 0, _, _, _, s => Session.AsksAtMost.refl s
  | fuel + 1, k, history, budget, s => by
    refine wp_askWithRetries_succ (wp_mono (attempt_asksAtMost history t.definitions s)
      (fun a s1 h1 => ?_) (fun s1 h1 => h1.mono (by omega)))
    have hdone : s.AsksAtMost (fuel + 1) s1 := h1.mono (by omega)
    -- a retry comes after one notice, which asks nothing
    have hnoticed : ∀ text, s.AsksAtMost 1 { s1 with steps := s1.steps ++ [.text text] } :=
      fun text => by simpa using h1.trans (Session.Shows.texts_append s1 [text]).asksAtMost
    refine ⟨fun _ _ _ => hdone, hdone, fun text =>
      ⟨fun _ => (hnoticed text).mono (by omega), (hnoticed text).mono (by omega),
        fun h' budget' _ => ?_⟩⟩
    exact wp_mono (askWithRetries_asksAtMost t n fuel _ h' budget' _)
      (fun _ _ h => by simpa [Nat.add_comm] using (hnoticed text).trans h)
      (fun _ h => by simpa [Nat.add_comm] using (hnoticed text).trans h)

/-- The calls of a reply ask the model nothing. -/
theorem runCalls_asksAtMost (turn : Turn) :
    ∀ (calls : List ToolCall) (l : Loop) (s : Session),
      wp (runCalls t turn calls l) (fun _ => s.AsksAtMost 0) (s.AsksAtMost 0) s
  | [], l, s => wp_afterCalls (fun _ => Session.AsksAtMost.refl s) (fun _ _ => Session.AsksAtMost.refl s)
  | call :: rest, l, s => by
    refine wp_runCalls_cons (fun _ => Session.AsksAtMost.refl s)
      (fun _ _ _ => Session.AsksAtMost.refl s) (fun _ g _ => runCalls_asksAtMost turn rest _ _)
      (fun _ g _ s' c x _ hasked _ => ?_)
    have hs' : s.AsksAtMost 0 s' := by simp [Session.AsksAtMost, hasked]
    exact ⟨hs', hs', wp_mono (runCalls_asksAtMost turn rest _ s') (fun _ _ h => hs'.trans h)
      (fun _ h => hs'.trans h)⟩

/-- A reply asks the model nothing. -/
theorem reply_asksAtMost {l : Loop} {turn : Turn} (s : Session) :
    wp (reply t l turn) (fun _ => s.AsksAtMost 0) (s.AsksAtMost 0) s :=
  wp_reply (fun _ h => h.asksAtMost) (fun _ _ h => h.asksAtMost)
    (fun _ _ _ _ h _ => h.asksAtMost)
    (fun s' _ calls _ h _ => wp_mono (runCalls_asksAtMost turn calls _ s')
      (fun _ _ h' => h.asksAtMost.trans h') (fun _ h' => h.asksAtMost.trans h'))

end Requests

/-! ## The iteration of a turn -/

/-- The loop state a flow goes on with satisfies `P`; a flow that stops satisfies every `P`. -/
def Flow.HandsOn (P : Loop → Prop) : Flow → Prop
  | .stop => True
  | .next l => P l

section Iteration

variable {t : Task} {turn : Turn} {s : Session}

/-- The calls of a reply hand on the iteration they are given: no run, refusal or
condensation counts a turn. -/
theorem runCalls_iteration (turn : Turn) :
    ∀ (calls : List ToolCall) (l : Loop) (s : Session),
      wp (runCalls t turn calls l)
        (fun f _ => f.HandsOn (·.counters.iteration = l.counters.iteration)) (fun _ => True) s
  | [], l, s => wp_afterCalls (fun _ => trivial) (fun _ _ => rfl)
  | call :: rest, l, s => by
    -- a call changes the streaks and the last tool only, whichever way it goes
    refine wp_runCalls_cons_counted (fun _ => trivial) (fun _ _ _ => trivial)
      (fun _ _ _ => runCalls_iteration turn rest _ _)
      (fun _ _ _ _ _ _ _ => ⟨fun _ => trivial, fun c hc => ⟨fun _ => hc.2.2, ?_⟩⟩)
    refine wp_mono (runCalls_iteration turn rest _ _) (fun f _ hf => ?_) (fun _ h => h)
    cases f with
    | stop => trivial
    | next l' => exact hf.trans hc.2.2

/-- A reply without calls hands on the iteration it is given. -/
theorem replyWithoutCalls_iteration {l : Loop} {text : String} {deferred : Bool} :
    wp (replyWithoutCalls l turn text deferred)
      (fun f _ => f.HandsOn (·.counters.iteration = l.counters.iteration)) (fun _ => True) s := by
  simp only [replyWithoutCalls, wp_bind, wp_ite, wp_emit, wp_pure]
  split
  · rfl
  · split
    · trivial
    · split
      · trivial
      · rfl

/-- A reply hands on the iteration it is given. -/
theorem reply_iteration {l : Loop} :
    wp (reply t l turn)
      (fun f _ => f.HandsOn (·.counters.iteration = l.counters.iteration)) (fun _ => True) s :=
  wp_reply_exact (fun _ _ => trivial) (fun _ _ _ _ => trivial)
    (fun _ _ _ _ => replyWithoutCalls_iteration) (fun _ _ _ _ _ => runCalls_iteration turn _ _ _)

end Iteration

/-! ## A turn -/

section Turn

variable {t : Task} {l : Loop} {s : Session}

/-- Trimming the conversation to the budget leaves the session as it is. -/
theorem trimToBudget_keeps (history : List Message) :
    wp (trimToBudget t history) (fun _ s' => s' = s) (fun s' => s' = s) s := by
  rw [trimToBudget, wp_ite]
  split
  · rw [wp_shaped]
    split <;> rfl
  · rfl

/-- A turn asks the model at most `maxRetries + 1` times and hands on one more iteration. -/
theorem turnOnce_limits :
    wp (turnOnce t l)
      (fun f s' => s.AsksAtMost (t.settings.agent.maxRetries.toNat + 1) s' ∧
        f.HandsOn (·.counters.iteration = l.counters.iteration + 1))
      (s.AsksAtMost (t.settings.agent.maxRetries.toNat + 1)) s := by
  simp only [turnOnce, wp_bind]
  refine wp_mono (trimToBudget_keeps l.history) (fun h s1 h1 => ?_)
    (fun s1 h1 => by subst s1; exact (Session.AsksAtMost.refl s).mono (Nat.zero_le _))
  subst s1
  refine wp_mono (askWithRetries_asksAtMost t _ _ 0 h _ s) (fun p s2 h2 => ?_) (fun _ h => h)
  obtain ⟨result, history⟩ := p
  simp only
  split
  · simp only [wp_bind, wp_emit, wp_pure]
    exact ⟨h2, trivial⟩
  · refine wp_mono (wp_and (reply_asksAtMost s2) reply_iteration) (fun f s3 h => ?_)
      (fun s3 h => h2.trans h.1)
    exact ⟨h2.trans h.1, h.2⟩
  · simp only [wp_bind, wp_emit, wp_pure]
    exact ⟨h2, trivial⟩

theorem turnOnce_iteration :
    wp (turnOnce t l) (fun f _ => f.HandsOn (·.counters.iteration = l.counters.iteration + 1))
      (fun _ => True) s :=
  wp_mono turnOnce_limits (fun _ _ h => h.2) (fun _ _ => trivial)

end Turn

/-! ## The turns of a task -/

section Loop

variable {t : Task}

/-- At the limit the loop's test fails, whatever the signal and the counters say. -/
theorem goesOn_bind_of_limit {c : Counters} {k : Bool → AgentM β}
    (hc : t.settings.agent.maxIterations.toNat ≤ c.iteration) :
    (goesOn t c >>= k) = k false := by
  have hlt : ¬ ((c.iteration : Int) < t.settings.agent.maxIterations) := by omega
  simp only [goesOn, hlt, decide_false, Bool.false_and, bind_assoc, pure_bind]
  rfl

/-- At the limit the loop takes no turn, whatever fuel it has. -/
theorem loop_of_limit {l : Loop} (hl : t.settings.agent.maxIterations.toNat ≤ l.counters.iteration) :
    ∀ fuel, loop t fuel l = loop t 0 l
  | 0 => rfl
  | fuel + 1 => by
    simp only [loop]
    congr 1
    funext st
    exact goesOn_bind_of_limit hl

/-- From iteration `i`, fuel beyond the `maxIterations - i` turns left changes nothing: each
turn counts one iteration, and the loop stops by its own test once the count reaches the
limit. -/
theorem loop_fuel_add (k : Nat) :
    ∀ (fuel : Nat) (l : Loop), t.settings.agent.maxIterations.toNat ≤ l.counters.iteration + fuel →
      loop t (fuel + k) l = loop t fuel l
  | 0, l, hl => by
    rw [Nat.zero_add]
    exact loop_of_limit (by simpa using hl) k
  | fuel + 1, l, hl => by
    rw [show fuel + 1 + k = fuel + k + 1 by omega]
    simp only [loop]
    congr 1
    funext st
    congr 1
    funext b
    split
    · -- the turn hands on one more iteration, which leaves one turn less to the limit
      refine bind_congr_wp (fun _ => turnOnce_iteration) (fun f hf => ?_)
      cases f with
      | stop => rfl
      | next l' =>
        have hl' : l'.counters.iteration = l.counters.iteration + 1 := hf
        exact loop_fuel_add k fuel l' (by omega)
    · rfl

/-- The loop with `fuel` turns asks the model at most `fuel * (maxRetries + 1)` times. -/
theorem loop_asksAtMost :
    ∀ (fuel : Nat) (l : Loop) (s : Session),
      wp (loop t fuel l) (fun _ => s.AsksAtMost (fuel * (t.settings.agent.maxRetries.toNat + 1)))
        (s.AsksAtMost (fuel * (t.settings.agent.maxRetries.toNat + 1))) s
  | 0, l, s => by
    simp only [loop, wp_bind, wp_get]
    exact wp_finish fun _ => (Session.AsksAtMost.refl s).mono (Nat.zero_le _)
  | fuel + 1, l, s => by
    simp only [loop, wp_bind, wp_get, goesOn, wp_cancelled, wp_pure, wp_ite]
    have hturns : t.settings.agent.maxRetries.toNat + 1 +
        fuel * (t.settings.agent.maxRetries.toNat + 1) =
        (fuel + 1) * (t.settings.agent.maxRetries.toNat + 1) := by
      rw [Nat.succ_mul, Nat.add_comm]
    split
    · refine wp_mono turnOnce_limits (fun f s' h => ?_)
        (fun s' h => h.mono (hturns ▸ Nat.le_add_right _ _))
      cases f with
      | stop => exact h.1.mono (hturns ▸ Nat.le_add_right _ _)
      | next l' =>
        exact wp_mono (loop_asksAtMost fuel l' s') (fun _ _ h' => hturns ▸ h.1.trans h')
          (fun _ h' => hturns ▸ h.1.trans h')
    · exact wp_finish fun _ => (Session.AsksAtMost.refl s).mono (Nat.zero_le _)

/-- A task asks the model at most `maxIterations * (maxRetries + 1)` times, a crash
included. -/
theorem run_asksAtMost (settings : Settings) (prompt : String) (request : Value) (s : Session) :
    s.AsksAtMost (settings.agent.maxIterations.toNat * (settings.agent.maxRetries.toNat + 1))
      (s.run settings prompt request) := by
  refine run_of_wp (P := s.AsksAtMost _) ?_
  refine wp_runTask (fun _ => (Session.AsksAtMost.refl s).mono (Nat.zero_le _)) (fun _ => ?_)
  exact wp_mono (loop_asksAtMost _ _ s) (fun _ _ h => h) (fun _ h _ => h)

end Loop

/-- A task's turns and requests are bounded by its settings, whatever the model answers and
the tools do. Each turn counts one iteration. From iteration `i` the loop takes at most
`maxIterations - i` turns, so that more fuel changes nothing: started at iteration `0`, the
count never passes `maxIterations`. A whole task asks the model at most
`maxIterations * (maxRetries + 1)` times. Negative limits count as zero. -/
theorem task_turns_and_requests_bounded (t : Task) (prompt : String) (s : Session) :
    (∀ (l : Loop) (s' : Session), wp (turnOnce t l)
      (fun f _ => f.HandsOn (·.counters.iteration = l.counters.iteration + 1)) (fun _ => True) s') ∧
    (∀ (l : Loop) (k : Nat),
      loop t (t.settings.agent.maxIterations.toNat - l.counters.iteration + k) l =
        loop t (t.settings.agent.maxIterations.toNat - l.counters.iteration) l) ∧
    (s.run t.settings prompt t.request).provider.asked.length ≤
      s.provider.asked.length +
        t.settings.agent.maxIterations.toNat * (t.settings.agent.maxRetries.toNat + 1) :=
  ⟨fun _ _ => turnOnce_iteration, fun l k => loop_fuel_add k _ l (by omega),
    run_asksAtMost t.settings prompt t.request s⟩

end CodingAgent.Agent
