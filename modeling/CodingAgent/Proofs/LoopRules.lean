import CodingAgent.Proofs.Wp

/-!
# What each part of the agent loop can do

One rule for each function of the loop, stating every way it can end. A rule is a `wp`
statement with one hypothesis for each exit, and the claims about the loop are proved from
these rules alone; none of them unfolds a function of the loop again.

* A call that passes the duplicate check has a name that is text (`nameText_of_check`), so
  that comparing its name with a tool's cannot fail afterwards.
* `wp_runCalls_ran` is the exact rule of a call that runs: the session once it is previewed,
  announced, run and reported is `Session.afterCall`, and every exit starts from it.
* `wp_runCalls_cons_counted` is the rule of one call of a reply: a cancelled task stops with
  an error, the check may crash, a refused call reports its start and the refusal and goes on
  with the counters as they were, and a run call reports its start and the registry's result,
  then ends the task, or condenses the conversation or goes on with the counters of its result
  (`Counters.AfterResult`); `wp_runCalls_cons` is the rule without the counters.
* `wp_reply_exact` is the rule of a reply. The calls are recovered, the text is shown or held
  back (`holdsBack`), the assistant message records the text shown (`recordedText`, the join
  of `shownSegments`) and the calls the reply runs, and then the reply ends the task, asks the
  model to go on, or runs its calls; every crash on the way keeps the steps shown so far.
  Augmenting the calls keeps their names (`Recovery.augmentListing_names`), so whether the
  text is held back can be read off the calls that are run. `wp_reply` is the same rule
  without what is shown and recorded.
* `wp_askWithRetries_succ` is the rule of one round of asking: after the try the request
  returns, crashes, or retries after one notice, always with the conversation given or a
  truncation of it.
* `askWithRetries_follows` and `wp_turnOnce`: every conversation a turn sends is one the loop
  held or a truncation of it, so any property of conversations that truncation keeps holds
  of every request.
* `wp_loop` and `wp_runTask` package the induction over the turns.

The rules whose names end in `_counted` say more: which counters a reply, a turn and the loop
hand on (`Counters.SameStreak`: the streak of failed calls and its limit stay), and which error
ends a turn, the loop, or a batch of calls whose streak reached its limit. Each rule without
the suffix is its counted rule with that knowledge dropped.
-/

namespace CodingAgent.Recovery

open CodingAgent CodingAgent.Json

/-- A call that passes the duplicate check has a name that is text, or none at all. -/
theorem DuplicateGuard.nameText_of_check {g : DuplicateGuard} {c : ToolCall}
    {p : Bool × DuplicateGuard} (h : g.check c = .ok p) : ∃ n, c.nameOrEmpty = .str n := by
  unfold DuplicateGuard.check DuplicateGuard.isExempt ToolCall.nameText? at h
  split at h
  · exact ⟨_, by assumption⟩
  · simp [bind, Except.bind] at h

/-- Marking a listing call recursive changes its arguments only. -/
theorem markRecursive_name {listing : String} {c c' : ToolCall}
    (h : markRecursive listing c = .ok c') : c'.name = c.name := by
  unfold markRecursive at h
  split at h
  · cases h; rfl
  · split at h
    · split at h
      · cases h; rfl
      · cases h; rfl
    · split at h
      · cases h; rfl
      · cases h
    · split at h
      · cases h; rfl
      · cases h
    · cases h

theorem mapM_markRecursive_names {listing : String} :
    ∀ {calls calls' : List ToolCall}, calls.mapM (markRecursive listing) = .ok calls' →
      calls'.map ToolCall.name = calls.map ToolCall.name
  | [], calls', h => by
    simp only [List.mapM_nil, pure, Except.pure, Except.ok.injEq] at h
    subst h; rfl
  | c :: rest, calls', h => by
    simp only [List.mapM_cons, bind, Except.bind, pure, Except.pure] at h
    split at h
    · cases h
    rename_i c' hc
    split at h
    · cases h
    rename_i rest' hrest
    cases h
    simp [markRecursive_name hc, mapM_markRecursive_names hrest]

/-- Augmenting the calls of a reply keeps their names, one for one. -/
theorem augmentListing_names {calls calls' : List ToolCall} {request : Value} {listing : String}
    {keywords : List Value} (h : augmentListing calls request listing keywords = .ok calls') :
    calls'.map ToolCall.name = calls.map ToolCall.name := by
  unfold augmentListing at h
  split at h
  · cases h; rfl
  · split at h
    · simp only [bind, Except.bind] at h
      split at h
      · cases h
      · split at h
        · cases h; rfl
        · exact mapM_markRecursive_names h
    · cases h

end CodingAgent.Recovery

namespace CodingAgent.Agent

open CodingAgent CodingAgent.Json CodingAgent.Model CodingAgent.Tool CodingAgent.Recovery

/-! ## Comparing names -/

theorem sameTool_of_nameText {c : ToolCall} {n : String} (h : c.nameOrEmpty = .str n)
    (target : String) :
    sameTool c target = .ok (Text.lower (Text.trim n) == Text.lower (Text.trim target)) := by
  simp [sameTool, ToolCall.nameText?, h, bind, Except.bind, pure, Except.pure]

theorem sameTool_ok_of_nameText {c : ToolCall} {n : String} (h : c.nameOrEmpty = .str n)
    (target : String) : ∃ b, sameTool c target = .ok b :=
  ⟨_, sameTool_of_nameText h target⟩

theorem sameTool_congr {c c' : ToolCall} (h : c'.name = c.name) (target : String) :
    sameTool c' target = sameTool c target := by
  simp [sameTool, ToolCall.nameText?, ToolCall.nameOrEmpty, h]

/-- Whether some call names a tool depends on the names of the calls alone. -/
theorem anyNames_congr (target : String) :
    ∀ {calls calls' : List ToolCall}, calls'.map ToolCall.name = calls.map ToolCall.name →
      anyNames calls' target = anyNames calls target
  | [], [], _ => rfl
  | c :: rest, c' :: rest', h => by
    simp only [List.map_cons, List.cons.injEq] at h
    simp only [anyNames, sameTool_congr h.1, anyNames_congr target h.2]

theorem namesAny_ok_of_nameText {c : ToolCall} {n : String} (h : c.nameOrEmpty = .str n) :
    ∀ ts : List String, ∃ b, namesAny c ts = .ok b
  | [] => ⟨false, rfl⟩
  | t :: rest => by
    obtain ⟨b, hb⟩ := namesAny_ok_of_nameText h rest
    simp only [namesAny, sameTool_of_nameText h, bind, Except.bind]
    split
    · exact ⟨true, rfl⟩
    · exact ⟨b, hb⟩

/-! ## The calls of a reply -/

section Calls

variable {t : Task} {turn : Turn} {l : Loop} {s : Session} {Q : Flow → Session → Prop}
  {E : Session → Prop}

/-- The counters after a call ran with result `r`: a success ends the streak of failed calls
and a failure extends it; the limit and the iteration stay. -/
def Counters.AfterResult (c c' : Counters) (r : ToolResult) : Prop :=
  c'.mistakes = (if r.success then 0 else c.mistakes + 1) ∧ c'.maxMistakes = c.maxMistakes ∧
    c'.iteration = c.iteration

/-- Two counters agree on the streak of failed calls and on its limit. -/
def Counters.SameStreak (c c' : Counters) : Prop :=
  c'.mistakes = c.mistakes ∧ c'.maxMistakes = c.maxMistakes

/-- The session once a call that passed the check is previewed, announced, run and its
result reported. -/
def Session.afterCall (s : Session) (call : ToolCall) (τ : Float) : Session :=
  let s' := ({ s with host := s.registry.preview call s.host,
                      steps := s.steps ++ [.toolStart call] } : Session).ranCall call τ
  { s' with steps := s'.steps ++
      [.toolResult call (s.registry.execute call τ (s.registry.preview call s.host)).1] }

section AfterCall

variable {call : ToolCall} {τ : Float}

@[simp] theorem Session.afterCall_steps :
    (s.afterCall call τ).steps = s.steps ++ [.toolStart call,
      .toolResult call (s.registry.execute call τ (s.registry.preview call s.host)).1] := by
  simp [Session.afterCall]

@[simp] theorem Session.afterCall_registry : (s.afterCall call τ).registry = s.registry := by
  simp [Session.afterCall]

@[simp] theorem Session.asked_afterCall :
    (s.afterCall call τ).provider.asked = s.provider.asked := by
  simp [Session.afterCall]

@[simp] theorem Session.afterCall_host : (s.afterCall call τ).host =
    { (s.registry.execute call τ (s.registry.preview call s.host)).2.1 with halt := false } := by
  simp [Session.afterCall]

end AfterCall

/-- One call that passes the check and runs, exactly. After the session `afterCall` describes,
the call ends the task, or condenses the conversation, or goes on with the next call, with the
counters of its result. -/
theorem wp_runCalls_ran {call : ToolCall} {rest : List ToolCall} {g : DuplicateGuard}
    (hs : s.host.signalled = false) (hchk : l.guard.check call = .ok (false, g))
    (hstop : ∀ x, Q .stop { s.afterCall call t.timeout with
      steps := (s.afterCall call t.timeout).steps ++ [.complete x] })
    (hgo : ∀ c, l.counters.AfterResult c
        (s.registry.execute call t.timeout (s.registry.preview call s.host)).1 →
      (∀ x, Q (.next { history := Context.condense l.history x, counters := c, guard := g })
        { s.afterCall call t.timeout with
          steps := (s.afterCall call t.timeout).steps ++ [.text condensedNotice] }) ∧
      wp (runCalls t turn rest
        { history := l.history ++ [toolMessage (toolContent
            (s.registry.execute call t.timeout (s.registry.preview call s.host)).1
            t.settings.agent.maxToolResultChars) call],
          counters := c, guard := g }) Q E (s.afterCall call t.timeout)) :
    wp (runCalls t turn (call :: rest) l) Q E s := by
  simp only [runCalls, wp_bind, wp_cancelled, hs, wp_ite, wp_emit, wp_pure, wp_shaped, hchk,
    Bool.false_eq_true, if_false, wp_preview, wp_execute_exact]
  -- the name is text, so the comparisons after the run cannot crash
  obtain ⟨n, hn⟩ := DuplicateGuard.nameText_of_check hchk
  obtain ⟨edits, hedits⟩ := namesAny_ok_of_nameText hn t.settings.policy.editTools
  obtain ⟨completes, hcompletes⟩ := sameTool_ok_of_nameText hn t.settings.policy.completionTool
  obtain ⟨condenses, hcondenses⟩ := sameTool_ok_of_nameText hn t.settings.policy.condenseTool
  simp only [hedits, hcompletes, hcondenses]
  -- whether the call succeeded decides the counters; the exit is one of the three either way
  split <;> rename_i hr <;> split
  · exact hstop _
  · split
    · refine (hgo _ ⟨?_, ?_, ?_⟩).1 _ <;> simp [Counters.clearMistakes, hr]
    · refine (hgo _ ⟨?_, ?_, ?_⟩).2 <;> simp [Counters.clearMistakes, hr]
  · exact hstop _
  · split
    · refine (hgo _ ⟨?_, ?_, ?_⟩).1 _ <;> simp [Counters.addMistake, hr]
    · refine (hgo _ ⟨?_, ?_, ?_⟩).2 <;> simp [Counters.addMistake, hr]

/-- One call of a reply. The hypotheses are the exits: the task was cancelled, the check
crashed, the call was refused as a repeat, or it ran and then ended the task, or condensed the
conversation or went on with the counters of its result. -/
theorem wp_runCalls_cons_counted {call : ToolCall} {rest : List ToolCall}
    (hcancel : s.host.signalled = true →
      Q .stop { s with steps := s.steps ++ [.error cancelledTask] })
    (hcrash : s.host.signalled = false → ∀ e, l.guard.check call = .error e → E s)
    (hrefuse : s.host.signalled = false → ∀ g, l.guard.check call = .ok (true, g) →
      wp (runCalls t turn rest
          { history := l.history ++
              [toolMessage ("Error: " ++ (duplicateRefusal call).error.getD "None") call]
            counters := l.counters
            guard := g }) Q E
        { s with steps := s.steps ++ [.toolStart call, .toolResult call (duplicateRefusal call)] })
    (hrun : s.host.signalled = false → ∀ g, l.guard.check call = .ok (false, g) →
      ∀ s' : Session,
        s'.steps = s.steps ++ [.toolStart call,
          .toolResult call (s.registry.execute call t.timeout (s.registry.preview call s.host)).1] →
        s'.provider.asked = s.provider.asked → s'.registry = s.registry →
        (∀ x, Q .stop { s' with steps := s'.steps ++ [.complete x] }) ∧
        ∀ c, l.counters.AfterResult c
            (s.registry.execute call t.timeout (s.registry.preview call s.host)).1 →
          (∀ x, Q (.next { history := Context.condense l.history x, counters := c, guard := g })
            { s' with steps := s'.steps ++ [.text condensedNotice] }) ∧
          wp (runCalls t turn rest
            { history := l.history ++ [toolMessage (toolContent
                (s.registry.execute call t.timeout (s.registry.preview call s.host)).1
                t.settings.agent.maxToolResultChars) call],
              counters := c, guard := g }) Q E s') :
    wp (runCalls t turn (call :: rest) l) Q E s := by
  cases hs : s.host.signalled
  case true =>
    simp only [runCalls, wp_bind, wp_cancelled, hs, if_true, wp_emit, wp_pure]
    exact hcancel hs
  rcases hchk : l.guard.check call with e | ⟨_ | _, g⟩
  · simp only [runCalls, wp_bind, wp_cancelled, hs, Bool.false_eq_true, if_false, wp_shaped,
      hchk]
    exact hcrash hs e hchk
  · obtain ⟨hstop, hgo⟩ := hrun hs g hchk _ Session.afterCall_steps Session.asked_afterCall
      Session.afterCall_registry
    exact wp_runCalls_ran hs hchk hstop hgo
  · simp only [runCalls, wp_bind, wp_cancelled, hs, Bool.false_eq_true, if_false, wp_shaped,
      hchk, if_true, wp_emit]
    simpa [List.append_assoc] using hrefuse hs g hchk

/-- One call of a reply, without what it does to the counters. -/
theorem wp_runCalls_cons {call : ToolCall} {rest : List ToolCall}
    (hcancel : s.host.signalled = true →
      Q .stop { s with steps := s.steps ++ [.error cancelledTask] })
    (hcrash : s.host.signalled = false → ∀ e, l.guard.check call = .error e → E s)
    (hrefuse : s.host.signalled = false → ∀ g, l.guard.check call = .ok (true, g) →
      wp (runCalls t turn rest
          { history := l.history ++
              [toolMessage ("Error: " ++ (duplicateRefusal call).error.getD "None") call]
            counters := l.counters
            guard := g }) Q E
        { s with steps := s.steps ++ [.toolStart call, .toolResult call (duplicateRefusal call)] })
    (hrun : s.host.signalled = false → ∀ g, l.guard.check call = .ok (false, g) →
      ∀ (s' : Session) (c : Counters) (x : String),
        s'.steps = s.steps ++ [.toolStart call,
          .toolResult call (s.registry.execute call t.timeout (s.registry.preview call s.host)).1] →
        s'.provider.asked = s.provider.asked → s'.registry = s.registry →
        Q .stop { s' with steps := s'.steps ++ [.complete x] } ∧
        Q (.next { history := Context.condense l.history x, counters := c, guard := g })
          { s' with steps := s'.steps ++ [.text condensedNotice] } ∧
        wp (runCalls t turn rest
          { history := l.history ++ [toolMessage (toolContent
              (s.registry.execute call t.timeout (s.registry.preview call s.host)).1
              t.settings.agent.maxToolResultChars) call],
            counters := c, guard := g }) Q E s') :
    wp (runCalls t turn (call :: rest) l) Q E s :=
  wp_runCalls_cons_counted hcancel hcrash hrefuse fun hs g hchk s' hsteps hasked hreg =>
    ⟨fun x => (hrun hs g hchk s' l.counters x hsteps hasked hreg).1,
      fun c _ => ⟨fun x => (hrun hs g hchk s' c x hsteps hasked hreg).2.1,
        (hrun hs g hchk s' c "" hsteps hasked hreg).2.2⟩⟩

/-- After the last call: a cut-off reply asks the model to go on, and a streak of failed
calls that reached its limit ends the task with the error that counts it; a streak below its
limit goes on. -/
theorem wp_afterCalls_counted
    (hstop : l.counters.mistakeLimitReached = true →
      Q .stop { s with steps := s.steps ++ [.error (mistakesError l.counters.mistakes)] })
    (hnext : l.counters.mistakeLimitReached = false → ∀ h,
      (h = l.history ∨ h = l.history ++ [userMessage continueAfterTools]) →
      Q (.next { l with history := h }) s) :
    wp (afterCalls turn l) Q E s := by
  simp only [afterCalls, wp_bind, wp_ite, wp_emit, wp_pure]
  split <;> split <;> rename_i hlim
  · exact hstop hlim
  · exact hnext (by simpa using hlim) _ (.inr rfl)
  · exact hstop hlim
  · exact hnext (by simpa using hlim) _ (.inl rfl)

/-- After the last call, without what decides the exit. -/
theorem wp_afterCalls
    (hstop : ∀ m, Q .stop { s with steps := s.steps ++ [.error m] })
    (hnext : ∀ h, (h = l.history ∨ h = l.history ++ [userMessage continueAfterTools]) →
      Q (.next { l with history := h }) s) :
    wp (afterCalls turn l) Q E s :=
  wp_afterCalls_counted (fun _ => hstop _) (fun _ => hnext)

end Calls

/-! ## A reply -/

section Reply

variable {t : Task} {turn : Turn} {l : Loop} {s : Session} {E : Session → Prop}

/-- A reply answered as small talk: on the first turn, to a request that reads as
conversation. -/
def SmallTalk (t : Task) (c : Counters) : Prop :=
  c.iteration = 1 ∧ isConversational t.request (t.settings.policy.taskKeywords.map .str)
    t.settings.policy.conversationalMaxChars = .ok true

/-- Whether a reply holds its text back, neither showing nor recording it: the text is longer
than the threshold, and the reply has calls none of which is the completion tool, or, on the
first turn, no calls at all. -/
def holdsBack (t : Task) (c : Counters) (turn : Turn) (calls : List ToolCall) : Bool :=
  let long := decide ((Text.codeLength turn.text : Int) > t.settings.policy.suppressionThresholdChars)
  if calls.isEmpty then c.iteration == 1 && long
  else match anyNames calls t.settings.policy.completionTool with
    | .ok completes => !completes && long
    | .error _ => false

/-- The pieces of its text a reply shows. -/
def shownSegments (held : Bool) (turn : Turn) : List String :=
  if held then [] else turn.segments

/-- The text a reply records: empty when it is held back. -/
def recordedText (held : Bool) (turn : Turn) : String :=
  if held then "" else turn.text

/-- The text a reply records is the pieces it shows, joined. -/
theorem join_shownSegments (held : Bool) (turn : Turn) :
    String.join (shownSegments held turn) = recordedText held turn := by
  cases held <;> rfl

/-- The reply decides whether to hold its text back on the calls it recovered, before they are
augmented; augmenting keeps their names, so the decision is the one `holdsBack` makes on the
calls it runs. -/
theorem held_eq_holdsBack {c : Counters} {calls calls' : List ToolCall} {completes : Bool}
    (hnames : calls'.map ToolCall.name = calls.map ToolCall.name)
    (hc : anyNames calls t.settings.policy.completionTool = .ok completes) :
    (!calls.isEmpty && !completes &&
        decide ((Text.codeLength turn.text : Int) > t.settings.policy.suppressionThresholdChars) ||
      calls.isEmpty && c.iteration == 1 &&
        decide ((Text.codeLength turn.text : Int) > t.settings.policy.suppressionThresholdChars)) =
      holdsBack t c turn calls' := by
  have hempty : calls'.isEmpty = calls.isEmpty := by
    have hlen := congrArg List.length hnames
    simp only [List.length_map] at hlen
    cases calls <;> cases calls' <;> simp_all
  unfold holdsBack
  rw [hempty, anyNames_congr _ hnames, hc]
  cases calls.isEmpty <;> simp

theorem wp_replyCalls {Q : List ToolCall → Session → Prop}
    (h : ∀ calls s', s.Shows s' → s'.steps = s.steps → Q calls s') (hE : E s) :
    wp (replyCalls turn) Q E s := by
  unfold replyCalls
  split
  · exact wp_recoverCalls (fun calls ids => h calls _ (Session.Shows.of_eq rfl rfl rfl) rfl) hE
  · exact h _ s (Session.Shows.refl s) rfl

theorem wp_isSmallTalk {c : Counters} {Q : Bool → Session → Prop}
    (h : ∀ b, (b = true ↔ SmallTalk t c) → Q b s) (hE : E s) :
    wp (isSmallTalk t c) Q E s := by
  unfold isSmallTalk
  simp only [wp_ite, wp_shaped, wp_pure]
  split
  · rename_i hfirst
    split
    · rename_i b hb
      refine h b ⟨fun hbt => ⟨by simpa using hfirst, hbt ▸ hb⟩, fun hsmall => ?_⟩
      have hconv := hsmall.2
      rw [hb] at hconv
      exact Except.ok.inj hconv
    · exact hE
  · rename_i hfirst
    exact h false ⟨fun hf => absurd hf Bool.false_ne_true,
      fun hsmall => absurd (by simp [hsmall.1]) hfirst⟩

theorem wp_showTextUnless {held : Bool} {Q : Unit → Session → Prop}
    (h : ∀ s', s.Shows s' → s'.steps = s.steps ++ (shownSegments held turn).map Step.text →
      Q () s') :
    wp (showTextUnless held turn) Q E s := by
  unfold showTextUnless
  cases held
  · exact (wp_showText).2 (h _ (Session.Shows.texts_append s _) rfl)
  · exact h s (Session.Shows.refl s) (by simp [shownSegments])

theorem wp_augmentCalls {calls : List ToolCall} {Q : List ToolCall → Session → Prop}
    (h : ∀ calls', calls'.map ToolCall.name = calls.map ToolCall.name → Q calls' s) (hE : E s) :
    wp (augmentCalls t calls) Q E s := by
  unfold augmentCalls
  simp only [wp_ite, wp_shaped, wp_pure]
  split
  · exact h _ rfl
  · split
    · exact h _ (augmentListing_names ‹_›)
    · exact hE

/-- A reply without calls asks the model to go on, ends the task with its text, or nudges the
model to use tools; the streak of failed calls stays as it was. -/
theorem wp_replyWithoutCalls_counted {text : String} {deferred : Bool} {Q : Flow → Session → Prop}
    (hstop : Q .stop { s with steps := s.steps ++ [.complete text] })
    (hnext : ∀ msg c, (msg = continueAfterCutoff ∨ msg = noToolsNudge) →
      l.counters.SameStreak c →
      Q (.next { history := l.history ++ [userMessage msg], counters := c, guard := l.guard }) s) :
    wp (replyWithoutCalls l turn text deferred) Q E s := by
  simp only [replyWithoutCalls, wp_bind, wp_ite, wp_emit, wp_pure]
  split
  · exact hnext _ _ (.inl rfl) ⟨rfl, rfl⟩
  · split
    · exact hstop
    · split
      · exact hstop
      · exact hnext _ _ (.inr rfl) ⟨rfl, rfl⟩

/-- A reply, exactly. Small talk is answered with the turn's text after its pieces. Any other
reply shows the pieces of its text unless it holds the text back (`holdsBack`), records the
text it showed and the calls it runs in an assistant message, and then goes on without calls or
runs its calls; every crash on the way keeps the steps shown so far, the crash on a call whose
arguments cannot be written included. -/
theorem wp_reply_exact {Q : Flow → Session → Prop}
    (hcrash : ∀ s', s.Shows s' → E s')
    (hsmall : ∀ s', s.Shows s' → s'.steps = s.steps → SmallTalk t l.counters →
      Q .stop { s' with steps := s'.steps ++ turn.segments.map Step.text ++ [.complete turn.text] })
    (hnone : ∀ s', s.Shows s' → ¬ SmallTalk t l.counters →
      s'.steps = s.steps ++ (shownSegments (holdsBack t l.counters turn []) turn).map Step.text →
      wp (replyWithoutCalls
          { l with history := l.history ++
              [assistantMessage (recordedText (holdsBack t l.counters turn []) turn) []] }
          turn (recordedText (holdsBack t l.counters turn []) turn)
          (holdsBack t l.counters turn [])) Q E s')
    (hcalls : ∀ s' calls, s.Shows s' → calls ≠ [] →
      s'.steps = s.steps ++ (shownSegments (holdsBack t l.counters turn calls) turn).map Step.text →
      wp (runCalls t turn calls
        { history := l.history ++
            [assistantMessage (recordedText (holdsBack t l.counters turn calls) turn) calls],
          counters := { l.counters.clearWithoutTools with usedTools := true },
          guard := l.guard }) Q E s') :
    wp (reply t l turn) Q E s := by
  simp only [reply, wp_bind]
  refine wp_replyCalls (fun calls s1 h1 hsteps1 => ?_) (hcrash s (Session.Shows.refl s))
  refine wp_isSmallTalk (fun small hsmallTalk => ?_) (hcrash s1 h1)
  cases small
  · -- an ordinary reply: the text is shown or held back, then the calls decide
    simp only [Bool.false_eq_true, if_false, wp_bind, wp_shaped]
    split
    · rename_i completes hcompletes
      refine wp_showTextUnless (fun s2 h2 hsteps2 => ?_)
      refine wp_augmentCalls (fun calls' hnames => ?_) (hcrash s2 (h1.trans h2))
      rw [held_eq_holdsBack hnames hcompletes] at hsteps2 ⊢
      have hsteps : s2.steps = s.steps ++
          (shownSegments (holdsBack t l.counters turn calls') turn).map Step.text := by
        rw [hsteps2, hsteps1]
      -- the calls are written into the message, unless one cannot be written
      split
      · split
        · -- no calls were recovered, so none are run
          rename_i hempty
          obtain rfl : calls' = [] := List.isEmpty_iff.1 hempty
          obtain rfl : calls = [] := List.map_eq_nil_iff.1 hnames.symm
          exact hnone s2 (h1.trans h2) (fun h => absurd (hsmallTalk.2 h) (by simp)) hsteps
        · rename_i hne
          exact hcalls s2 calls' (h1.trans h2) (fun h => hne (List.isEmpty_iff.2 h)) hsteps
      · exact hcrash s2 (h1.trans h2)
    · exact hcrash s1 h1
  · -- small talk is answered with the reply's text
    simp only [if_true, wp_bind, wp_showText, wp_emit, wp_pure]
    exact hsmall s1 h1 hsteps1 (hsmallTalk.1 rfl)

/-- A reply. Whatever text it shows, it then crashes, ends the task with an answer, asks
the model to go on after writing itself into the conversation, or runs its calls after
writing itself and them into the conversation, with the guard of the turn; the streak of
failed calls it hands on is the one it was given. -/
theorem wp_reply_counted {Q : Flow → Session → Prop}
    (hcrash : ∀ s', s.Shows s' → E s')
    (hstop : ∀ s' x, s.Shows s' → Q .stop { s' with steps := s'.steps ++ [.complete x] })
    (hnext : ∀ s' x msg c, s.Shows s' → l.counters.SameStreak c →
      (msg = continueAfterCutoff ∨ msg = noToolsNudge) →
      Q (.next { history := l.history ++ [assistantMessage x [], userMessage msg], counters := c,
                 guard := l.guard }) s')
    (hcalls : ∀ s' x calls c, s.Shows s' → l.counters.SameStreak c → calls ≠ [] →
      wp (runCalls t turn calls
        { history := l.history ++ [assistantMessage x calls], counters := c, guard := l.guard })
        Q E s') :
    wp (reply t l turn) Q E s :=
  wp_reply_exact hcrash
    (fun s' hs _ _ => hstop _ _ (hs.trans (Session.Shows.texts_append s' _)))
    (fun s' hs _ _ => wp_replyWithoutCalls_counted (hstop s' _ hs)
      fun msg c hmsg hc => by simpa [List.append_assoc] using hnext s' _ msg c hs hc hmsg)
    (fun s' calls hs hne _ => hcalls s' _ calls _ hs ⟨rfl, rfl⟩ hne)

/-- A reply, without what it does to the counters. -/
theorem wp_reply {Q : Flow → Session → Prop}
    (hcrash : ∀ s', s.Shows s' → E s')
    (hstop : ∀ s' x, s.Shows s' → Q .stop { s' with steps := s'.steps ++ [.complete x] })
    (hnext : ∀ s' x msg c, s.Shows s' → (msg = continueAfterCutoff ∨ msg = noToolsNudge) →
      Q (.next { history := l.history ++ [assistantMessage x [], userMessage msg], counters := c,
                 guard := l.guard }) s')
    (hcalls : ∀ s' x calls c, s.Shows s' → calls ≠ [] →
      wp (runCalls t turn calls
        { history := l.history ++ [assistantMessage x calls], counters := c, guard := l.guard })
        Q E s') :
    wp (reply t l turn) Q E s :=
  wp_reply_counted hcrash hstop (fun s' x msg c hs _ hmsg => hnext s' x msg c hs hmsg)
    (fun s' x calls c hs _ hne => hcalls s' x calls c hs hne)

end Reply

/-! ## A turn -/

section Turn

variable {t : Task} {l : Loop} {s : Session} {Q : Flow → Session → Prop} {E : Session → Prop}
  {H : List Message → Prop}

/-- One round of asking with retries, without what the outcome of the try decides. After the
try the request returns some attempt with the conversation given or a truncation of it, or
crashes, or shows one notice and then returns, crashes, or asks again from the next try with
the conversation given or a truncation of it. -/
theorem wp_askWithRetries_succ {n fuel k : Nat} {history : List Message} {budget : Int}
    {Q : Attempt × List Message → Session → Prop}
    (h : wp (Session.attempt history t.definitions) (fun _ s1 =>
      (∀ a h', (h' = history ∨ ∃ b keep, Context.truncate history b keep = .ok h') →
        Q (a, h') s1) ∧ E s1 ∧
      ∀ text, (∀ a, Q (a, history) { s1 with steps := s1.steps ++ [.text text] }) ∧
        E { s1 with steps := s1.steps ++ [.text text] } ∧
        ∀ h' budget', (h' = history ∨ ∃ b keep, Context.truncate history b keep = .ok h') →
          wp (askWithRetries t n fuel (k + 1) h' budget') Q E
            { s1 with steps := s1.steps ++ [.text text] }) E s) :
    wp (askWithRetries t n (fuel + 1) k history budget) Q E s := by
  simp only [askWithRetries, wp_bind]
  refine wp_mono h (fun a s1 hs => ?_) (fun _ h => h)
  obtain ⟨hdone, hcrash, hnotice⟩ := hs
  split
  · exact hdone _ _ (.inl rfl)
  · exact hdone _ _ (.inl rfl)
  · -- an overfull context is retried with a truncated conversation
    simp only [wp_bind, wp_shaped, wp_ite, wp_emit, wp_pure]
    split
    · rename_i history' htrunc
      split
      · exact (hnotice _).2.2 _ _ (.inr ⟨_, _, htrunc⟩)
      · exact hdone _ _ (.inr ⟨_, _, htrunc⟩)
    · exact hcrash
  · -- a transient failure is retried as it is, unless the pause is cancelled or overflows
    simp only [wp_bind, wp_ite, wp_emit, wp_pure, wp_backoff]
    split
    · split
      · exact (hnotice _).2.1
      · split
        · exact (hnotice _).1 _
        · exact (hnotice _).2.2 _ _ (.inl rfl)
    · exact hdone _ _ (.inl rfl)
  · exact hdone _ _ (.inl rfl)

/-- Asking the model with retries: whatever conversation is sent is the one given or a
truncation of it, so a property of conversations that truncation keeps holds of every
request and of the conversation handed back. Between the tries only notices are shown. -/
theorem askWithRetries_follows
    (hH : ∀ ms b k ms', H ms → Context.truncate ms b k = .ok ms' → H ms') (t : Task) (n : Nat) :
    ∀ (fuel k : Nat) (history : List Message) (budget : Int) (s : Session), H history →
      wp (askWithRetries t n fuel k history budget) (fun p s' => s.Follows H s' ∧ H p.2)
        (fun s' => s.Follows H s') s
  | 0, _, _, _, s, hh => ⟨Session.Follows.refl H s, hh⟩
  | fuel + 1, k, history, budget, s, hh => by
    refine wp_askWithRetries_succ (wp_mono (attempt_follows history t.definitions s)
      (fun a s1 h1 => ?_) (fun s1 h1 => h1.mono fun ms hms => hms ▸ hh))
    have h1 : s.Follows H s1 := h1.mono fun ms hms => hms ▸ hh
    -- the notice before a retry shows one text
    have hnotice : ∀ text, s.Follows H { s1 with steps := s1.steps ++ [.text text] } :=
      fun text => h1.trans (Session.Follows.texts_append s1 [text])
    have hcut : ∀ h', (h' = history ∨ ∃ b keep, Context.truncate history b keep = .ok h') →
        H h' := by
      rintro h' (rfl | ⟨b, keep, htrunc⟩)
      · exact hh
      · exact hH _ _ _ _ hh htrunc
    refine ⟨fun _ h' hc => ⟨h1, hcut h' hc⟩, h1, fun text =>
      ⟨fun _ => ⟨hnotice text, hh⟩, hnotice text, fun h' budget' hc => ?_⟩⟩
    exact wp_mono (askWithRetries_follows hH t n fuel _ _ _ _ (hcut h' hc))
      (fun _ _ h => ⟨(hnotice _).trans h.1, h.2⟩) (fun _ h => (hnotice _).trans h)

/-- One turn: the conversation is trimmed to the budget, the model is asked, and the turn
stops with the cancellation or the model's failure, or hands the reply, with a conversation
that keeps every property truncation keeps and the streak of failed calls it was given, to
`reply`. -/
theorem wp_turnOnce_counted
    (hH : ∀ ms b k ms', H ms → Context.truncate ms b k = .ok ms' → H ms') (hl : H l.history)
    (hstop : ∀ s' m, s.Follows H s' →
      (m = cancelledTask ∨ ∃ e, m = "LLM communication error: " ++ e) →
      Q .stop { s' with steps := s'.steps ++ [.error m] })
    (hcrash : ∀ s', s.Follows H s' → E s')
    (hreply : ∀ s' h c turn, s.Follows H s' → H h → l.counters.SameStreak c →
      wp (reply t { history := h, counters := c, guard := l.guard } turn) Q E s') :
    wp (turnOnce t l) Q E s := by
  simp only [turnOnce, wp_bind]
  -- the conversation the turn starts from keeps `H`, trimmed or not
  have htrim : wp (trimToBudget t l.history) (fun h s' => s' = s ∧ H h) (fun s' => s' = s) s := by
    rw [trimToBudget, wp_ite]
    split
    · rw [wp_shaped]
      split
      · exact ⟨rfl, hH _ _ _ _ hl (by assumption)⟩
      · rfl
    · exact ⟨rfl, hl⟩
  refine wp_mono htrim (fun h s1 h1 => ?_) (fun s1 h1 => h1 ▸ hcrash s (Session.Follows.refl H s))
  obtain ⟨rfl, hh⟩ := h1
  refine wp_mono (askWithRetries_follows hH t _ _ 0 h _ s1 hh) (fun p s2 h2 => ?_)
    (fun s2 h2 => hcrash s2 h2)
  obtain ⟨result, history⟩ := p
  obtain ⟨h2, hh2⟩ := h2
  simp only
  split
  · simp only [wp_bind, wp_emit, wp_pure]
    exact hstop s2 _ h2 (.inl rfl)
  · exact hreply s2 history _ result.turn h2 hh2 ⟨rfl, rfl⟩
  · simp only [wp_bind, wp_emit, wp_pure]
    exact hstop s2 _ h2 (.inr ⟨_, rfl⟩)

/-- One turn, without what its errors say or what it does to the counters. -/
theorem wp_turnOnce
    (hH : ∀ ms b k ms', H ms → Context.truncate ms b k = .ok ms' → H ms') (hl : H l.history)
    (hstop : ∀ s' m, s.Follows H s' → Q .stop { s' with steps := s'.steps ++ [.error m] })
    (hcrash : ∀ s', s.Follows H s' → E s')
    (hreply : ∀ s' h c turn, s.Follows H s' → H h →
      wp (reply t { history := h, counters := c, guard := l.guard } turn) Q E s') :
    wp (turnOnce t l) Q E s :=
  wp_turnOnce_counted hH hl (fun s' m hs _ => hstop s' m hs) hcrash
    (fun s' h c turn hs hh _ => hreply s' h c turn hs hh)

end Turn

/-! ## The turns of a task -/

section Loop

variable {t : Task}

/-- The end of the loop reports the cancellation or the limit of turns. -/
theorem wp_finish_counted {c : Counters} {s : Session} {Q : Unit → Session → Prop}
    {E : Session → Prop}
    (h : ∀ m, (m = cancelledTask ∨ m = iterationsError t.settings.agent.maxIterations) →
      Q () { s with steps := s.steps ++ [.error m] }) :
    wp (finish t c) Q E s := by
  simp only [finish, wp_bind, wp_cancelled, wp_ite, wp_emit]
  split
  · exact h _ (.inl rfl)
  · exact h _ (.inr rfl)

theorem wp_finish {c : Counters} {s : Session} {Q : Unit → Session → Prop}
    {E : Session → Prop} (h : ∀ m, Q () { s with steps := s.steps ++ [.error m] }) :
    wp (finish t c) Q E s :=
  wp_finish_counted fun m _ => h m

/-- The loop over the turns keeps an invariant `Inv` of the loop and the session when each
turn that goes on keeps it and the counters beyond the streak of failed calls do not matter to
it; a turn that stops, and the last error when no turn is left or the task was cancelled,
reach `Post`. -/
theorem wp_loop_counted (Inv : Loop → Session → Prop) {Post : Session → Prop}
    {Err : Session → Prop}
    (hturn : ∀ l s, Inv l s → wp (turnOnce t l)
      (fun f s' => match f with
        | .stop => Post s'
        | .next l' => Inv l' s') Err s)
    (hfinish : ∀ l s m, Inv l s →
      (m = cancelledTask ∨ m = iterationsError t.settings.agent.maxIterations) →
      Post { s with steps := s.steps ++ [.error m] })
    (hcounters : ∀ l s c, Inv l s → l.counters.SameStreak c → Inv { l with counters := c } s) :
    ∀ fuel l s, Inv l s → wp (loop t fuel l) (fun _ => Post) Err s
  | 0, l, s, hinv => by
    simp only [loop, wp_bind, wp_get]
    exact wp_finish_counted (hfinish l s · hinv)
  | fuel + 1, l, s, hinv => by
    simp only [loop, wp_bind, wp_get, goesOn, wp_cancelled, wp_pure, wp_ite]
    split
    · refine wp_mono (hturn _ s (hcounters l s _ hinv ⟨rfl, rfl⟩)) (fun f s' h => ?_)
        (fun _ h => h)
      cases f with
      | stop => exact h
      | next l' => exact wp_loop_counted Inv hturn hfinish hcounters fuel l' s' h
    · exact wp_finish_counted (hfinish l s · hinv)

/-- The loop over the turns, for an invariant the counters do not matter to. -/
theorem wp_loop (Inv : Loop → Session → Prop) {Post : Session → Prop} {Err : Session → Prop}
    (hturn : ∀ l s, Inv l s → wp (turnOnce t l)
      (fun f s' => match f with
        | .stop => Post s'
        | .next l' => Inv l' s') Err s)
    (hfinish : ∀ l s m, Inv l s → Post { s with steps := s.steps ++ [.error m] })
    (hcounters : ∀ l s c, Inv l s → Inv { l with counters := c } s) :
    ∀ fuel l s, Inv l s → wp (loop t fuel l) (fun _ => Post) Err s :=
  wp_loop_counted Inv hturn (fun l s m h _ => hfinish l s m h) (fun l s c h _ => hcounters l s c h)

/-- A task starts from `Loop.start` with the registry's definitions and any budget the
settings allow; a budget they do not allow crashes it at once. -/
theorem wp_runTask {settings : Settings} {prompt : String} {request : Value} {s : Session}
    {Q : Unit → Session → Prop} {E : Session → Prop} (hE : E s)
    (h : ∀ budget, wp (loop
        { settings := settings, request := request, definitions := s.registry.definitions,
          budget := budget }
      settings.agent.maxIterations.toNat (Loop.start settings prompt request)) Q E s) :
    wp (runTask settings prompt request) Q E s := by
  simp only [runTask, wp_bind, wp_get]
  split
  · exact h _
  · exact hE

end Loop

end CodingAgent.Agent
