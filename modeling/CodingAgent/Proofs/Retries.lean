import CodingAgent.Proofs.Wp
import Mathlib

/-!
# How a request to the model is retried

A turn asks the model through `askWithRetries`, which retries an overfull context with a
shorter conversation and a transient failure after a pause, each while a retry is left: a
request makes at most `maxRetries + 1` tries, a negative limit counting as zero. This file
says what a request does whatever the model answers.

A `Try` is one request to the model as it went: the conversation sent, the session it was
sent from, what came back and the session it left. `RetryRun` is the retry policy as a
declarative trace of tries, one rule for each way a try can be followed. It counts two
things: the index of the try, which must be below the limit for a retry, and the overflows so
far, which fix the budget of the next cut in closed form. The `j`-th overflow cuts the
conversation to `overflowBudget B j`, that is `max 1 ⌊B / 2 ^ j⌋`, whatever transient
failures come between: halving the budget and rounding down, one overflow after another, is
the same as dividing once (`halve_budgetAfter`).

`askWithRetries_retryRun` shows that a request makes exactly the tries of a trace, crash or
not. From the trace follow
* at most `maxRetries + 1` tries (`RetryRun.length_le`);
* what the request returns, as a function of its last try (`RetryRun.returns_settled`): an
  overflow of the last allowed try is `contextExhausted`, a transient failure with a retry
  left was cut short by a cancelled pause, and anything else is returned as it came;
* the steps it shows: its notices, one before each retry, and one more when it ends in a
  pause (`RetryRun.notices`), since the notice of a transient failure comes before the pause.

`request_retries_follow_policy` puts them together for `ask`, the request of a turn.
`cancelled_pause_shows_notice` is a request whose pause is cancelled: it shows one notice and
makes no retry; and one whose single try fails with the very text of `contextExhausted`.
-/

namespace CodingAgent.Agent

open CodingAgent CodingAgent.Json CodingAgent.Model CodingAgent.Tool

/-! ## The budget of each cut -/

/-- The budget of the `j`-th cut of a request given the budget `B`: `B` halved `j` times,
rounded down, and at least 1. -/
def overflowBudget (B : Int) (j : Nat) : Int :=
  max 1 (B.fdiv (2 ^ j))

/-- The budget a request holds after `j` overflows: the one it was given, and after an
overflow the budget of its last cut. -/
def budgetAfter (B : Int) : Nat → Int
  | 0 => B
  | j + 1 => overflowBudget B (j + 1)

/-- Halving the budget once more, rounding down and keeping at least 1, gives the budget of
the next cut: the floor of a floor is the floor of the whole quotient, and once the quotient
has fallen below 1 the budget stays 1. -/
theorem halve_budgetAfter (B : Int) (j : Nat) :
    max 1 ((budgetAfter B j).fdiv 2) = overflowBudget B (j + 1) := by
  cases j with
  | zero => simp [budgetAfter, overflowBudget]
  | succ j =>
    have hfloor : B.fdiv (2 ^ (j + 1 + 1)) = (B.fdiv (2 ^ (j + 1))).fdiv 2 := by
      rw [Int.fdiv_fdiv_eq_fdiv_mul _ (Int.pow_nonneg (by decide)) (by decide), Int.pow_succ]
    have hhalf : ∀ q : Int, q.fdiv 2 = q / 2 := fun q => Int.fdiv_eq_ediv_of_nonneg q (by decide)
    simp only [budgetAfter, overflowBudget, hfloor, hhalf]
    omega

/-! ## Tries -/

/-- One try of a request as it went: sent from session `before` with the conversation `sent`,
it came back with `result`, an attempt or a crash, in session `after`. -/
structure Try (defs : List ToolDefinition) where
  sent : List Message
  before : Session
  result : Except Crash Attempt
  after : Session
  ran : ((Session.attempt sent defs).run.run before).run = (result, after)

/-- The session with one more text shown. -/
def Session.noted (s : Session) (text : String) : Session :=
  { s with steps := s.steps ++ [.text text] }

namespace Try

variable {d : List ToolDefinition}

/-- The try sent the conversation `h` from session `s`. -/
def Sent (x : Try d) (h : List Message) (s : Session) : Prop :=
  x.sent = h ∧ x.before = s

/-- A `wp` of a request to the model holds when its postcondition holds of every try that
comes back with an attempt and its crash condition of every try that crashes. -/
theorem wp_attempt {h : List Message} {s : Session} {Q : Attempt → Session → Prop}
    {E : Session → Prop}
    (hq : ∀ (x : Try d) a, x.Sent h s → x.result = .ok a → Q a x.after)
    (he : ∀ (x : Try d) e, x.Sent h s → x.result = .error e → E x.after) :
    wp (Session.attempt h d) Q E s := by
  unfold wp
  split <;> rename_i heq
  · exact hq ⟨h, s, _, _, heq⟩ _ ⟨rfl, rfl⟩ rfl
  · exact he ⟨h, s, _, _, heq⟩ _ ⟨rfl, rfl⟩ rfl

end Try

/-! ## A try shows nothing -/

theorem recordUsage_steps (usage : Value) (s : Session) :
    wp (Session.recordUsage usage) (fun _ s' => s'.steps = s.steps)
      (fun s' => s'.steps = s.steps) s := by
  unfold Session.recordUsage
  simp only [wp_bind, wp_pure, wp_ite, wp_shaped, wp_modify]
  -- every exit only records usage
  repeat' (first | split | trivial)

theorem consume_steps (events : List Event) (turn : Turn) (s : Session) :
    wp (Session.consume events turn) (fun _ s' => s'.steps = s.steps)
      (fun s' => s'.steps = s.steps) s := by
  induction events generalizing turn s with
  | nil =>
    simp only [Session.consume, wp_bind, wp_cancelled, wp_ite, wp_pure]
    split
    · trivial
    · exact recordUsage_steps _ s
  | cons e rest ih =>
    cases e with
    | chunk c =>
      simp only [Session.consume, wp_bind, wp_cancelled, wp_ite, wp_pure]
      split
      · trivial
      · exact ih _ s
    | failure f => trivial
    | cancel =>
      simp only [Session.consume, wp_bind, wp_cancel]
      exact ih turn _
    | halt =>
      simp only [Session.consume, wp_bind, wp_halt]
      exact ih turn _

/-- A request to the model shows no step. -/
theorem attempt_steps (h : List Message) (d : List ToolDefinition) (s : Session) :
    wp (Session.attempt h d) (fun _ s' => s'.steps = s.steps) (fun s' => s'.steps = s.steps) s := by
  simp only [Session.attempt, wp_bind, wp_get, wp_set]
  exact consume_steps _ _ _

theorem Try.after_steps {d : List ToolDefinition} (x : Try d) : x.after.steps = x.before.steps := by
  obtain ⟨sent, before, result, after, ran⟩ := x
  have h := attempt_steps sent d before
  unfold wp at h
  rw [ran] at h
  cases result <;> exact h

/-! ## The retry policy -/

section Policy

variable (t : Task) (n : Nat) (B : Int)

/-- The tries of a request of task `t` with retry limit `n` and budget `B`, as the retry
policy makes them: from try `i`, after `j` overflows, with the conversation `h` in session
`s`, the tries `xs` end the request with `r` in session `s'`, where `r` is `none` when the
request crashed. -/
inductive RetryRun :
    Nat → Nat → List Message → Session → List (Try t.definitions) →
      Option (Attempt × List Message) → Session → Prop
  /-- A try that crashes ends the request. -/
  | crashed {i j h s e} (x : Try t.definitions) (hx : x.Sent h s) (he : x.result = .error e) :
      RetryRun i j h s [x] none x.after
  /-- A success, a cancellation, a fatal failure, and a transient failure with no retry left
  are returned as they came, with the conversation sent. -/
  | returned {i j h s a} (x : Try t.definitions) (hx : x.Sent h s) (ha : x.result = .ok a)
      (ho : a.outcome = .success ∨ a.outcome = .cancelled ∨ a.outcome = .fatal ∨
        a.outcome = .transient ∧ n ≤ i) :
      RetryRun i j h s [x] (some (a, h)) x.after
  /-- An overflow first cuts the conversation to the budget of the `(j + 1)`-th cut; a cut
  that fails crashes the request. -/
  | cutFailed {i j h s a e} (x : Try t.definitions) (hx : x.Sent h s) (ha : x.result = .ok a)
      (ho : a.outcome = .contextExceeded)
      (hcut : Context.truncate h (.whole (overflowBudget B (j + 1)))
        t.settings.agent.keepRecentMessages = .error e) :
      RetryRun i j h s [x] none x.after
  /-- An overflow of the last allowed try fails the request, with the cut conversation. -/
  | exhausted {i j h s a h'} (x : Try t.definitions) (hx : x.Sent h s) (ha : x.result = .ok a)
      (ho : a.outcome = .contextExceeded)
      (hcut : Context.truncate h (.whole (overflowBudget B (j + 1)))
        t.settings.agent.keepRecentMessages = .ok h') (hi : n ≤ i) :
      RetryRun i j h s [x]
        (some ({ outcome := .fatal, turn := a.turn, message := contextExhausted }, h')) x.after
  /-- An overflow with a retry left retries the cut conversation after a notice. -/
  | overflowed {i j h s a h' xs r s'} (x : Try t.definitions) (hx : x.Sent h s)
      (ha : x.result = .ok a) (ho : a.outcome = .contextExceeded)
      (hcut : Context.truncate h (.whole (overflowBudget B (j + 1)))
        t.settings.agent.keepRecentMessages = .ok h') (hi : i < n)
      (rest : RetryRun (i + 1) (j + 1) h' (x.after.noted contextRetryNotice) xs r s') :
      RetryRun i j h s (x :: xs) r s'
  /-- A transient failure with a retry left shows a notice and pauses; a pause too long to be
  waited crashes the request. -/
  | pauseFailed {i j h s a} (x : Try t.definitions) (hx : x.Sent h s) (ha : x.result = .ok a)
      (ho : a.outcome = .transient) (hi : i < n)
      (hp : Session.pauseOverflows (retryDelay t.settings.agent.retryDelaysMs i) = true) :
      RetryRun i j h s [x] none (x.after.noted (retryNotice (i + 1) n))
  /-- The pause of a cancelled task ends the request as cancelled. -/
  | pauseCancelled {i j h s a} (x : Try t.definitions) (hx : x.Sent h s)
      (ha : x.result = .ok a) (ho : a.outcome = .transient) (hi : i < n)
      (hp : Session.pauseOverflows (retryDelay t.settings.agent.retryDelaysMs i) = false)
      (hc : x.after.host.signalled = true) :
      RetryRun i j h s [x] (some ({ outcome := .cancelled, turn := a.turn }, h))
        (x.after.noted (retryNotice (i + 1) n))
  /-- Otherwise the same conversation is tried again after the pause. -/
  | retried {i j h s a xs r s'} (x : Try t.definitions) (hx : x.Sent h s)
      (ha : x.result = .ok a) (ho : a.outcome = .transient) (hi : i < n)
      (hp : Session.pauseOverflows (retryDelay t.settings.agent.retryDelaysMs i) = false)
      (hc : x.after.host.signalled = false)
      (rest : RetryRun (i + 1) j h (x.after.noted (retryNotice (i + 1) n)) xs r s') :
      RetryRun i j h s (x :: xs) r s'

/-- What `askWithRetries`, from try `i` after `j` overflows, ends with: a trace of the
policy, whether it returns or crashes. -/
def FollowsPolicy (i j : Nat) (h : List Message) (s : Session) :
    Option (Attempt × List Message) → Session → Prop :=
  fun r s' => ∃ xs, RetryRun t n B i j h s xs r s'

/-- One try and what follows it: given that every request from the next try on follows the
policy, so does the request from this one. -/
theorem askWithRetries_try {m i j : Nat} {h : List Message} {s : Session}
    (hnext : i < n → ∀ j' h' s', wp (askWithRetries t n m (i + 1) h' (budgetAfter B j'))
        (fun r => FollowsPolicy t n B (i + 1) j' h' s' (some r))
        (FollowsPolicy t n B (i + 1) j' h' s' none) s') :
    wp (askWithRetries t n (m + 1) i h (budgetAfter B j))
      (fun r => FollowsPolicy t n B i j h s (some r)) (FollowsPolicy t n B i j h s none) s := by
  simp only [askWithRetries, wp_bind]
  refine Try.wp_attempt (fun x a hx ha => ?_) (fun x e hx he => ⟨[x], .crashed x hx he⟩)
  split
  · exact ⟨[x], .returned x hx ha (.inl ‹_›)⟩
  · exact ⟨[x], .returned x hx ha (.inr (.inl ‹_›))⟩
  · -- an overflow cuts the conversation to the budget of the next cut
    rename_i ho
    simp only [wp_bind, wp_shaped, wp_ite, wp_emit, halve_budgetAfter]
    split
    · rename_i h' hcut
      split
      · rename_i hi
        exact wp_mono (hnext hi (j + 1) h' _)
          (fun r s' h => h.elim fun xs hr => ⟨x :: xs, .overflowed x hx ha ho hcut hi hr⟩)
          (fun s' h => h.elim fun xs hr => ⟨x :: xs, .overflowed x hx ha ho hcut hi hr⟩)
      · exact ⟨[x], .exhausted x hx ha ho hcut (by omega)⟩
    · rename_i e hcut
      exact ⟨[x], .cutFailed x hx ha ho hcut⟩
  · -- a transient failure pauses, after a notice, while a retry is left
    rename_i ho
    simp only [wp_bind, wp_ite, wp_emit, wp_backoff]
    split
    · rename_i hi
      split
      · exact ⟨[x], .pauseFailed x hx ha ho hi ‹_›⟩
      · rename_i hp
        simp only [Bool.not_eq_true] at hp
        split
        · exact ⟨[x], .pauseCancelled x hx ha ho hi hp ‹_›⟩
        · rename_i hc
          simp only [Bool.not_eq_true] at hc
          exact wp_mono (hnext hi j h _)
            (fun r s' h => h.elim fun xs hr => ⟨x :: xs, .retried x hx ha ho hi hp hc hr⟩)
            (fun s' h => h.elim fun xs hr => ⟨x :: xs, .retried x hx ha ho hi hp hc hr⟩)
    · exact ⟨[x], .returned x hx ha (.inr (.inr (.inr ⟨‹_›, by omega⟩)))⟩
  · exact ⟨[x], .returned x hx ha (.inr (.inr (.inl ‹_›)))⟩

/-- A request from try `i`, with the tries left to reach the limit, follows the policy. The
induction is on the retries left; with none left, no rule retries. -/
theorem askWithRetries_retryRun (m : Nat) :
    ∀ (i j : Nat) (h : List Message) (s : Session), i + m = n →
      wp (askWithRetries t n (m + 1) i h (budgetAfter B j))
        (fun r => FollowsPolicy t n B i j h s (some r)) (FollowsPolicy t n B i j h s none) s := by
  induction m with
  | zero =>
    intro i j h s hm
    exact askWithRetries_try t n B (fun hi => absurd hi (by omega))
  | succ m ih =>
    intro i j h s hm
    exact askWithRetries_try t n B (fun _ j' h' s' => ih (i + 1) j' h' s' (by omega))

end Policy

/-! ## What follows from the trace -/

section Trace

variable {d : List ToolDefinition}

@[simp] theorem Session.noted_steps (s : Session) (text : String) :
    (s.noted text).steps = s.steps ++ [.text text] := rfl

/-- The last try came back with an attempt satisfying `p`. -/
def LastIs (xs : List (Try d)) (p : Attempt → Prop) : Prop :=
  ∃ x a, xs.getLast? = some x ∧ x.result = .ok a ∧ p a

theorem lastIs_iff {xs : List (Try d)} {x : Try d} {a : Attempt} {p : Attempt → Prop}
    (hx : xs.getLast? = some x) (ha : x.result = .ok a) : LastIs xs p ↔ p a := by
  constructor
  · rintro ⟨x', a', hx', ha', hp⟩
    rw [hx, Option.some.injEq] at hx'
    subst hx'
    rw [ha, Except.ok.injEq] at ha'
    exact ha' ▸ hp
  · exact fun hp => ⟨x, a, hx, ha, hp⟩

/-- The request ended in a pause: its last try, try `i + xs.length - 1`, failed transiently
with a retry left. -/
def EndsInPause (n i : Nat) (xs : List (Try d)) : Prop :=
  ∃ x a, xs.getLast? = some x ∧ x.result = .ok a ∧ a.outcome = .transient ∧ i + xs.length ≤ n

theorem endsInPause_cons {n i : Nat} {x : Try d} {xs : List (Try d)} (hxs : xs ≠ []) :
    EndsInPause n i (x :: xs) ↔ EndsInPause n (i + 1) xs := by
  obtain ⟨y, ys, rfl⟩ := List.exists_cons_of_ne_nil hxs
  simp only [EndsInPause, List.getLast?_cons_cons, List.length_cons]
  constructor
  · rintro ⟨z, a, hz, ha, ho, hle⟩
    exact ⟨z, a, hz, ha, ho, by omega⟩
  · rintro ⟨z, a, hz, ha, ho, hle⟩
    exact ⟨z, a, hz, ha, ho, by omega⟩

theorem endsInPause_single {n i : Nat} {x : Try d} {a : Attempt} (ha : x.result = .ok a) :
    EndsInPause n i [x] ↔ a.outcome = .transient ∧ i < n := by
  constructor
  · rintro ⟨x', a', hx', ha', ho, hle⟩
    simp only [List.getLast?_singleton, Option.some.injEq] at hx'
    subst hx'
    rw [ha, Except.ok.injEq] at ha'
    subst ha'
    simp only [List.length_singleton] at hle
    exact ⟨ho, by omega⟩
  · rintro ⟨ho, hi⟩
    exact ⟨x, a, rfl, ha, ho, by simp only [List.length_singleton]; omega⟩

/-- The steps a request shows between `s` and `s'`: notices, one before each retry, and one
more when it ends in a pause. -/
def ShowsNotices (n i : Nat) (xs : List (Try d)) (s s' : Session) : Prop :=
  ∃ ns : List String, s'.steps = s.steps ++ ns.map Step.text ∧
    (ns.length + 1 = xs.length ∧ ¬ EndsInPause n i xs ∨ ns.length = xs.length ∧ EndsInPause n i xs)

/-- A try followed by a notice and further tries: the notice is shown before those of the later
tries, and the request ends in a pause when they do. -/
theorem ShowsNotices.cons {n i : Nat} {x : Try d} {xs : List (Try d)} {h : List Message}
    {s s' : Session} {note : String} (hx : x.Sent h s) (hxs : xs ≠ [])
    (hrest : ShowsNotices n (i + 1) xs (x.after.noted note) s') :
    ShowsNotices n i (x :: xs) s s' := by
  obtain ⟨ns, hsteps, hcount⟩ := hrest
  refine ⟨note :: ns, by simp [hsteps, x.after_steps, hx.2], ?_⟩
  rw [endsInPause_cons hxs]
  simp only [List.length_cons]
  rcases hcount with ⟨hc, hp⟩ | ⟨hc, hp⟩
  · exact .inl ⟨by omega, hp⟩
  · exact .inr ⟨by omega, hp⟩

/-- What a request returns after its last try, try `i`, came back with `a`: an overflow
(necessarily of the last allowed try) fails with `contextExhausted`, a transient failure with a
retry left becomes the cancellation of its pause, and any other attempt is returned as it
came. -/
def settledAttempt (n i : Nat) (a : Attempt) : Attempt :=
  match a.outcome with
  | .contextExceeded => { outcome := .fatal, turn := a.turn, message := contextExhausted }
  | .transient => if i < n then { outcome := .cancelled, turn := a.turn } else a
  | _ => a

theorem settled_success {n i : Nat} {a : Attempt} :
    (settledAttempt n i a).outcome = .success ↔ a.outcome = .success := by
  unfold settledAttempt
  split
  · rename_i ho
    simp [ho]
  · rename_i ho
    split <;> simp [ho]
  · exact Iff.rfl

theorem settled_cancelled {n i : Nat} {a : Attempt} :
    (settledAttempt n i a).outcome = .cancelled ↔
      a.outcome = .cancelled ∨ a.outcome = .transient ∧ i < n := by
  unfold settledAttempt
  split
  · rename_i ho
    simp [ho]
  · rename_i ho
    split <;> simp_all
  · simp_all

theorem settled_exhausted {n i : Nat} {a : Attempt} :
    (settledAttempt n i a).outcome = .fatal ∧ (settledAttempt n i a).message = contextExhausted ↔
      a.outcome = .contextExceeded ∨ a.outcome = .fatal ∧ a.message = contextExhausted := by
  unfold settledAttempt
  split
  · rename_i ho
    simp [ho]
  · rename_i ho
    split <;> simp [ho]
  · simp_all

variable {t : Task} {n : Nat} {B : Int} {i j : Nat} {h : List Message} {s s' : Session}
  {xs : List (Try t.definitions)} {r : Option (Attempt × List Message)}

theorem RetryRun.ne_nil (hr : RetryRun t n B i j h s xs r s') : xs ≠ [] := by
  cases hr <;> simp

/-- A request makes at most the tries left to the limit: a retry needs a try below it. -/
theorem RetryRun.length_le (hr : RetryRun t n B i j h s xs r s') (hi : i ≤ n) :
    i + xs.length ≤ n + 1 := by
  induction hr with
  | crashed => simp; omega
  | returned => simp; omega
  | cutFailed => simp; omega
  | exhausted => simp; omega
  | overflowed _ _ _ _ _ hlt _ ih =>
    have := ih (by omega)
    simp only [List.length_cons]
    omega
  | pauseFailed => simp; omega
  | pauseCancelled => simp; omega
  | retried _ _ _ _ hlt _ _ _ ih =>
    have := ih (by omega)
    simp only [List.length_cons]
    omega

/-- A request that returns returns what its last try settles to, and an overflow is its last
try only when that try was the last allowed. -/
theorem RetryRun.returns_settled (hr : RetryRun t n B i j h s xs r s') (hi : i ≤ n)
    {b : Attempt} {h' : List Message} (hb : r = some (b, h')) :
    ∃ x a, xs.getLast? = some x ∧ x.result = .ok a ∧ b = settledAttempt n (i + xs.length - 1) a ∧
      (a.outcome = .contextExceeded → i + xs.length = n + 1) := by
  induction hr with
  | crashed => cases hb
  | @returned i j h s a x hx ha ho =>
    simp only [Option.some.injEq, Prod.mk.injEq] at hb
    obtain ⟨rfl, -⟩ := hb
    refine ⟨x, a, rfl, ha, ?_, ?_⟩
    · -- a returned attempt settles to itself
      unfold settledAttempt
      rcases ho with ho | ho | ho | ⟨ho, hni⟩ <;> simp only [ho, List.length_singleton]
      simp only [Nat.add_sub_cancel]
      rw [if_neg (by omega)]
    · intro hov
      rcases ho with ho | ho | ho | ⟨ho, -⟩ <;> rw [ho] at hov <;> cases hov
  | cutFailed => cases hb
  | @exhausted i j h s a h'' x hx ha ho hcut hni =>
    simp only [Option.some.injEq, Prod.mk.injEq] at hb
    obtain ⟨rfl, -⟩ := hb
    refine ⟨x, a, rfl, ha, ?_, fun _ => by simp; omega⟩
    simp [settledAttempt, ho]
  | @overflowed i j h s a h'' xs r s' x hx ha ho hcut hlt rest ih =>
    obtain ⟨y, a', hy, ha', hb', hov⟩ := ih (by omega) hb
    refine ⟨y, a', ?_, ha', ?_, fun h => by have := hov h; simp only [List.length_cons]; omega⟩
    · obtain ⟨z, zs, rfl⟩ := List.exists_cons_of_ne_nil rest.ne_nil
      rwa [List.getLast?_cons_cons]
    · rw [show i + (x :: xs).length - 1 = i + 1 + xs.length - 1 by simp only [List.length_cons]; omega]
      exact hb'
  | pauseFailed => cases hb
  | @pauseCancelled i j h s a x hx ha ho hlt hp hc =>
    simp only [Option.some.injEq, Prod.mk.injEq] at hb
    obtain ⟨rfl, -⟩ := hb
    refine ⟨x, a, rfl, ha, ?_, fun hov => by rw [ho] at hov; cases hov⟩
    simp [settledAttempt, ho, hlt]
  | @retried i j h s a xs r s' x hx ha ho hlt hp hc rest ih =>
    obtain ⟨y, a', hy, ha', hb', hov⟩ := ih (by omega) hb
    refine ⟨y, a', ?_, ha', ?_, fun h => by have := hov h; simp only [List.length_cons]; omega⟩
    · obtain ⟨z, zs, rfl⟩ := List.exists_cons_of_ne_nil rest.ne_nil
      rwa [List.getLast?_cons_cons]
    · rw [show i + (x :: xs).length - 1 = i + 1 + xs.length - 1 by simp only [List.length_cons]; omega]
      exact hb'

/-- The steps a request shows are its notices: one before each retry, none after a try that
ends it, and one before a pause that ends it. -/
theorem RetryRun.notices (hr : RetryRun t n B i j h s xs r s') : ShowsNotices n i xs s s' := by
  induction hr with
  | @crashed i j h s e x hx he =>
    refine ⟨[], by simp [x.after_steps, hx.2], .inl ⟨rfl, ?_⟩⟩
    rintro ⟨x', a, hx', ha, -⟩
    simp only [List.getLast?_singleton, Option.some.injEq] at hx'
    subst hx'
    rw [he] at ha
    cases ha
  | @returned i j h s a x hx ha ho =>
    refine ⟨[], by simp [x.after_steps, hx.2], .inl ⟨rfl, ?_⟩⟩
    rw [endsInPause_single ha]
    rintro ⟨htr, hlt⟩
    rcases ho with ho | ho | ho | ⟨-, hni⟩
    · rw [ho] at htr; cases htr
    · rw [ho] at htr; cases htr
    · rw [ho] at htr; cases htr
    · omega
  | @cutFailed i j h s a e x hx ha ho =>
    refine ⟨[], by simp [x.after_steps, hx.2], .inl ⟨rfl, ?_⟩⟩
    rw [endsInPause_single ha, ho]
    rintro ⟨htr, -⟩
    cases htr
  | @exhausted i j h s a h'' x hx ha ho =>
    refine ⟨[], by simp [x.after_steps, hx.2], .inl ⟨rfl, ?_⟩⟩
    rw [endsInPause_single ha, ho]
    rintro ⟨htr, -⟩
    cases htr
  | @overflowed i j h s a h'' xs r s' x hx ha ho hcut hlt rest ih => exact ih.cons hx rest.ne_nil
  | @pauseFailed i j h s a x hx ha ho hlt =>
    refine ⟨[retryNotice (i + 1) n], by simp [x.after_steps, hx.2], .inr ⟨rfl, ?_⟩⟩
    exact (endsInPause_single ha).2 ⟨ho, hlt⟩
  | @pauseCancelled i j h s a x hx ha ho hlt =>
    refine ⟨[retryNotice (i + 1) n], by simp [x.after_steps, hx.2], .inr ⟨rfl, ?_⟩⟩
    exact (endsInPause_single ha).2 ⟨ho, hlt⟩
  | @retried i j h s a xs r s' x hx ha ho hlt hp hc rest ih => exact ih.cons hx rest.ne_nil

end Trace

/-! ## The request of a turn -/

/-- A turn's request to the model follows the retry policy, whatever the model answers: it
makes the tries of a `RetryRun` with the task's retry limit `n` (a negative one counting as
zero) and budget, at most `n + 1` of them. The tries retry only an overflow or a transient
failure whose pause was not cancelled, and only below the limit; the `j`-th overflow cuts the
conversation to `overflowBudget B j`; the conversation returned is the last cut one, or the one
given. A request that returns succeeds exactly when its last try did, is cancelled exactly
when its last try was or its pause was, and fails with `contextExhausted` exactly when its
last allowed try overflowed or a try failed for good with that very text. It shows one notice
before each retry, and one more when it ends in a pause; a crash keeps to the same rules up to
the crash. -/
theorem request_retries_follow_policy (t : Task) (h : List Message) (s : Session) :
    let n := t.settings.agent.maxRetries.toNat
    wp (ask t h)
      (fun r s' => ∃ xs, RetryRun t n t.budget 0 0 h s xs (some r) s' ∧ xs.length ≤ n + 1 ∧
        (r.1.outcome = .success ↔ LastIs xs fun a => a.outcome = .success) ∧
        (r.1.outcome = .cancelled ↔
          (LastIs xs fun a => a.outcome = .cancelled) ∨ EndsInPause n 0 xs) ∧
        (r.1.outcome = .fatal ∧ r.1.message = contextExhausted ↔
          (LastIs xs fun a => a.outcome = .contextExceeded) ∧ xs.length = n + 1 ∨
          LastIs xs fun a => a.outcome = .fatal ∧ a.message = contextExhausted) ∧
        ShowsNotices n 0 xs s s')
      (fun s' => ∃ xs, RetryRun t n t.budget 0 0 h s xs none s' ∧ xs.length ≤ n + 1 ∧
        ShowsNotices n 0 xs s s') s := by
  intro n
  have hrun := askWithRetries_retryRun t n t.budget n 0 0 h s (by omega)
  refine wp_mono hrun (fun ⟨b, h'⟩ s' ⟨xs, hr⟩ => ?_) (fun s' ⟨xs, hr⟩ => ?_)
  · have hlen : xs.length ≤ n + 1 := by simpa using hr.length_le (Nat.zero_le n)
    obtain ⟨x, a, hx, ha, rfl, hov⟩ := hr.returns_settled (Nat.zero_le n) rfl
    have hpos : 0 < xs.length := List.length_pos_iff.2 hr.ne_nil
    refine ⟨xs, hr, hlen, ?_, ?_, ?_, hr.notices⟩
    · rw [settled_success, lastIs_iff hx ha]
    · -- the last try's index is below the limit exactly when the list is no longer than it
      rw [settled_cancelled, lastIs_iff hx ha]
      simp only [EndsInPause, Nat.zero_add]
      constructor
      · rintro (hc | ⟨htr, hlt⟩)
        · exact .inl hc
        · exact .inr ⟨x, a, hx, ha, htr, by omega⟩
      · rintro (hc | ⟨x', a', hx', ha', htr, hle⟩)
        · exact .inl hc
        · rw [hx, Option.some.injEq] at hx'
          subst hx'
          rw [ha, Except.ok.injEq] at ha'
          subst ha'
          exact .inr ⟨htr, by omega⟩
    · rw [settled_exhausted, lastIs_iff hx ha, lastIs_iff hx ha]
      constructor
      · rintro (hov' | hf)
        · exact .inl ⟨hov', by simpa using hov hov'⟩
        · exact .inr hf
      · rintro (⟨hov', -⟩ | hf)
        · exact .inl hov'
        · exact .inr hf
  · exact ⟨xs, hr, by simpa using hr.length_le (Nat.zero_le n), hr.notices⟩

/-! ## A pause that ends a request -/

section Pause

/-- A task with the default limit of two retries, which pauses zero milliseconds. -/
def unpausedTask : Task :=
  { settings := { agent := { retryDelaysMs := [0] } }, request := .str "q", definitions := [],
    budget := 0 }

/-- A session whose model cancels the task and then fails transiently. -/
def cancelThenBusy : Session :=
  { provider := .scripted { turns := [.streaming [.cancel, .failure (.api "busy" (some 503))]] },
    registry := {}, host := { workspace := { files := {}, root := [], home := [] } } }

/-- A session whose model fails for good with the text of `contextExhausted`. -/
def failsExhausted : Session :=
  { provider := .scripted { turns := [.failing (.model contextExhausted)] },
    registry := {}, host := { workspace := { files := {}, root := [], home := [] } } }

/-- Notices are not one for each retry, and `contextExhausted` does not mean an overflow. A
request whose first try fails transiently after the task was cancelled shows the notice of a
retry, pauses, finds the task cancelled and ends: one try, no retry, one notice. A request whose
first try fails for good with the text of `contextExhausted` returns that failure after one try
of the three allowed, none of which overflowed. -/
theorem cancelled_pause_shows_notice :
    ((ask unpausedTask []).run.run cancelThenBusy).run.2.steps = [.text (retryNotice 1 2)] ∧
    ((ask unpausedTask []).run.run cancelThenBusy).run.2.provider.asked.length = 1 ∧
    (((ask unpausedTask []).run.run failsExhausted).run.1.toOption.map
        fun r => (r.1.outcome, r.1.message)) = some (.fatal, contextExhausted) ∧
    ((ask unpausedTask []).run.run failsExhausted).run.2.provider.asked.length = 1 := by
  refine ⟨rfl, rfl, rfl, rfl⟩

end Pause

end CodingAgent.Agent
