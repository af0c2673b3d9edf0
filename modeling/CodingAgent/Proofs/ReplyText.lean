import CodingAgent.Proofs.MistakeStreak
import CodingAgent.Proofs.Limits

/-!
# What a reply shows and what it records

A reply shows the pieces of its text as they came, or nothing when it holds the text back
(`holdsBack`: a long text beside calls none of which completes the task, or a long first text
without calls). It records the text it showed, joined, in an assistant message together with
the calls it is about to run, and its own answer is that text. `ShownRecord` is that agreement
between the steps and the record, and `reply_records_shown_text` states it for every reply,
together with what a batch does with the calls it is given: it reports a prefix of them, in
order, each by its start and its result (`ReportsPrefix`).

So the text recorded is the turn's text only when it is not held back. A request to go on
after a cut-off reply can follow an assistant message with empty text, and a first reply
without calls can end the task with empty text. `reply_keeps_text_unless_held` says exactly
when, and `held_text_is_asked_to_go_on` shows both.
-/

namespace CodingAgent.Agent

open CodingAgent CodingAgent.Json CodingAgent.Model CodingAgent.Tool CodingAgent.Recovery

/-! ## The text shown and the text recorded -/

/-- `s'` is `s` after a reply showed the pieces `shown` of the turn's text, and `x` is the text
it records for the turn: the pieces joined, which are all the turn's pieces or none. -/
def ShownRecord (turn : Turn) (s s' : Session) (shown : List String) (x : String) : Prop :=
  s.Shows s' ∧ s'.steps = s.steps ++ shown.map Step.text ∧ String.join shown = x ∧
    (shown = turn.segments ∨ shown = [])

theorem shownRecord_held {turn : Turn} {s s' : Session} (held : Bool) (hs : s.Shows s')
    (hsteps : s'.steps = s.steps ++ (shownSegments held turn).map Step.text) :
    ShownRecord turn s s' (shownSegments held turn) (recordedText held turn) :=
  ⟨hs, hsteps, join_shownSegments held turn, by cases held <;> simp [shownSegments]⟩

/-! ## The calls a batch reports -/

/-- The steps after `pre` report a prefix of `calls` in order, each by its start and its result,
and then end there, or with an error, or, after at least one call, with an answer or the notice
of a condensation. -/
def ReportsPrefix (calls : List ToolCall) (pre steps : List Step) : Prop :=
  ∃ cs v tail, cs <+: calls ∧ Reports cs v ∧ steps = pre ++ v ++ tail ∧
    (tail = [] ∨ (∃ m, tail = [.error m]) ∨
      cs ≠ [] ∧ ((∃ x, tail = [.complete x]) ∨ tail = [.text condensedNotice]))

section Prefix

variable {calls rest : List ToolCall} {pre steps : List Step}

theorem ReportsPrefix.refl : ReportsPrefix calls pre pre :=
  ⟨[], [], [], List.nil_prefix, .nil, by simp, .inl rfl⟩

theorem ReportsPrefix.error (m : String) : ReportsPrefix calls pre (pre ++ [.error m]) :=
  ⟨[], [], _, List.nil_prefix, .nil, by simp, .inr (.inl ⟨m, rfl⟩)⟩

/-- Once a call is reported, the steps report a prefix of the batch when they report one of the
rest. -/
theorem ReportsPrefix.cons {c : ToolCall} {r : ToolResult}
    (h : ReportsPrefix rest (pre ++ [.toolStart c, .toolResult c r]) steps) :
    ReportsPrefix (c :: rest) pre steps := by
  obtain ⟨cs, v, tail, hcs, hrep, rfl, htail⟩ := h
  refine ⟨c :: cs, _, tail, List.cons_prefix_cons.2 ⟨rfl, hcs⟩, .cons r hrep, by simp, ?_⟩
  rcases htail with htail | htail | ⟨-, htail⟩
  · exact .inl htail
  · exact .inr (.inl htail)
  · exact .inr (.inr ⟨List.cons_ne_nil _ _, htail⟩)

/-- A call reported and then an answer or a condensation. -/
theorem ReportsPrefix.after_call {c : ToolCall} {r : ToolResult} {st : Step}
    (hst : (∃ x, st = .complete x) ∨ st = .text condensedNotice) :
    ReportsPrefix (c :: rest) pre (pre ++ [.toolStart c, .toolResult c r] ++ [st]) := by
  refine ⟨[c], _, [st], List.cons_prefix_cons.2 ⟨rfl, List.nil_prefix⟩, .cons r .nil, by simp,
    .inr (.inr ⟨List.cons_ne_nil _ _, ?_⟩)⟩
  rcases hst with ⟨x, rfl⟩ | rfl
  · exact .inl ⟨x, rfl⟩
  · exact .inr rfl

end Prefix

/-- A batch reports a prefix of its calls, in order, whichever way it ends. -/
theorem runCalls_reportsPrefix (t : Task) (turn : Turn) :
    ∀ (calls : List ToolCall) (l : Loop) (s : Session),
      wp (runCalls t turn calls l) (fun _ s' => ReportsPrefix calls s.steps s'.steps)
        (fun s' => ReportsPrefix calls s.steps s'.steps) s
  | [], l, s => wp_afterCalls (fun m => .error m) (fun _ _ => .refl)
  | call :: rest, l, s => by
    refine wp_runCalls_cons (fun _ => .error _) (fun _ _ _ => .refl)
      (fun _ _ _ => wp_mono (runCalls_reportsPrefix t turn rest _ _) (fun _ _ h => h.cons)
        (fun _ h => h.cons))
      (fun _ _ _ s' _ _ hsteps _ _ => ⟨?_, ?_, ?_⟩)
    · rw [hsteps]
      exact .after_call (.inl ⟨_, rfl⟩)
    · rw [hsteps]
      exact .after_call (.inr rfl)
    · exact wp_mono (runCalls_reportsPrefix t turn rest _ s')
        (fun _ _ h => (hsteps ▸ h).cons) (fun _ h => (hsteps ▸ h).cons)

/-- A reply records what it shows. Small talk shows all the pieces of the turn's text and
answers with the text; any other reply shows all the pieces or none, and records in its
assistant message their join, which is the turn's text or empty text, and the very calls it
then runs: that text is also its answer when it ends the task without calls, and the message
it asks the model to go on after. A batch of calls reports a prefix of them, in order, each
by its start and its result, so the calls that reach the duplicate check are the first ones
the message records, with the ids and arguments it records. -/
theorem reply_records_shown_text :
    (∀ (t : Task) (l : Loop) (turn : Turn) (s : Session) (Q : Flow → Session → Prop)
        (E : Session → Prop),
      (∀ s', s.Shows s' → E s') →
      (∀ s' shown x, ShownRecord turn s s' shown x →
        Q .stop { s' with steps := s'.steps ++ [.complete x] }) →
      (∀ s' shown x msg c, ShownRecord turn s s' shown x →
        (msg = continueAfterCutoff ∨ msg = noToolsNudge) →
        Q (.next { history := l.history ++ [assistantMessage x [], userMessage msg],
                   counters := c, guard := l.guard }) s') →
      (∀ s' shown x calls c, ShownRecord turn s s' shown x → calls ≠ [] →
        wp (runCalls t turn calls
          { history := l.history ++ [assistantMessage x calls], counters := c, guard := l.guard })
          Q E s') →
      wp (reply t l turn) Q E s) ∧
    ∀ (t : Task) (turn : Turn) (calls : List ToolCall) (l : Loop) (s : Session),
      wp (runCalls t turn calls l) (fun _ s' => ReportsPrefix calls s.steps s'.steps)
        (fun s' => ReportsPrefix calls s.steps s'.steps) s := by
  refine ⟨fun t l turn s Q E hcrash hstop hnext hcalls => ?_, runCalls_reportsPrefix⟩
  refine wp_reply_exact hcrash (fun s' hs hsteps _ => ?_)
    (fun s' hs _ hsteps => wp_replyWithoutCalls_counted (hstop s' _ _ (shownRecord_held _ hs hsteps))
      fun msg c hmsg _ => ?_)
    (fun s' calls hs hne hsteps => hcalls s' _ _ calls _ (shownRecord_held _ hs hsteps) hne)
  · -- small talk: all the pieces are shown, and their join is the answer
    exact hstop _ turn.segments turn.text
      ⟨hs.trans (Session.Shows.texts_append s' _), by simp [hsteps], rfl, .inl rfl⟩
  · simpa [List.append_assoc] using hnext s' _ _ msg c (shownRecord_held _ hs hsteps) hmsg

/-! ## The text of a turn, kept or held back -/

/-- What a reply hands on, read for the text of its turn. A conversation handed on that ends
with a request to go on is the conversation the reply was given followed by the reply's
assistant message, which holds the turn's text unless the reply held it back, and then empty
text. An answer the reply gives right after the text it showed, running no tool, is the turn's
text when the reply is small talk; otherwise it is the text the reply recorded, which is empty
exactly when the reply held back the long text of a first turn without calls. -/
def KeepsText (t : Task) (l : Loop) (turn : Turn) (s : Session) : Flow → Session → Prop
  | .next l', _ => ∀ msg, (msg = continueAfterCutoff ∨ msg = continueAfterTools) →
      l'.history.getLast? = some (userMessage msg) →
      ∃ calls ms, l'.history = l.history ++
        assistantMessage (recordedText (holdsBack t l.counters turn calls) turn) calls :: ms
  | .stop, s' => ∀ (texts : List String) (x : String),
      s'.steps = s.steps ++ texts.map Step.text ++ [.complete x] →
      SmallTalk t l.counters ∧ x = turn.text ∨
        ¬ SmallTalk t l.counters ∧ x = recordedText (holdsBack t l.counters turn []) turn

/-- A batch hands on the conversation it was given with messages after it, or a condensed one,
which ends with the summary. -/
theorem runCalls_history (t : Task) (turn : Turn) :
    ∀ (calls : List ToolCall) (l : Loop) (s : Session),
      wp (runCalls t turn calls l)
        (fun f _ => f.HandsOn fun l' => (∃ ms, l'.history = l.history ++ ms) ∨
          ∃ x, l'.history.getLast? = some (.text .system x)) (fun _ => True) s
  | [], l, s => wp_afterCalls (fun _ => trivial) fun _ hh => .inl (by
      rcases hh with rfl | rfl
      · exact ⟨[], by simp⟩
      · exact ⟨_, rfl⟩)
  | call :: rest, l, s => by
    refine wp_runCalls_cons (fun _ => trivial) (fun _ _ _ => trivial) (fun _ _ _ => ?_)
      (fun _ _ _ s' c x _ _ _ =>
        ⟨trivial, .inr ⟨Context.condensedPrefix ++ x, by simp [Context.condense]⟩, ?_⟩)
    all_goals
      refine wp_mono (runCalls_history t turn rest _ _) (fun f _ hf => ?_) (fun _ h => h)
      cases f with
      | stop => trivial
      | next l' =>
        rcases hf with ⟨ms, hms⟩ | hcond
        · exact .inl ⟨_, by rw [hms, List.append_assoc]⟩
        · exact .inr hcond

/-- Two runs of steps that each end with an answer end with the same one. -/
theorem complete_eq_of_steps {u v : List Step} {x y : String}
    (h : u ++ [.complete x] = v ++ [.complete y]) : x = y := by
  have := (List.append_inj' h rfl).2
  simpa using this

/-- Every step that reports a call is its start or its result. -/
theorem Reports.mem {cs : List ToolCall} {v : List Step} (h : Reports cs v) {st : Step}
    (hst : st ∈ v) : ∃ c, st = .toolStart c ∨ ∃ r, st = .toolResult c r := by
  induction h with
  | nil => simp at hst
  | cons r _ ih =>
    simp only [List.mem_cons] at hst
    rcases hst with rfl | rfl | hst
    · exact ⟨_, .inl rfl⟩
    · exact ⟨_, .inr ⟨r, rfl⟩⟩
    · exact ih hst

/-- A batch of calls never gives the answer of a reply that runs no tool: a batch's answer comes
after a reported call. -/
theorem ReportsPrefix.not_plain_answer {calls : List ToolCall} {base steps : List Step}
    {shown : List String} (h : ReportsPrefix calls (base ++ shown.map Step.text) steps)
    (texts : List String) (x : String) :
    steps ≠ base ++ texts.map Step.text ++ [.complete x] := by
  obtain ⟨cs, v, tail, -, hrep, rfl, htail⟩ := h
  intro heq
  simp only [List.append_assoc] at heq
  have heq := List.append_cancel_left heq
  -- the steps after `base` on the right are texts and one answer, and a report is neither
  have hin : ∀ st, st ∈ shown.map Step.text ++ (v ++ tail) →
      (∃ y, st = .text y) ∨ st = .complete x := by
    intro st hst
    rw [heq] at hst
    simp only [List.mem_append, List.mem_map, List.mem_singleton] at hst
    rcases hst with ⟨y, -, rfl⟩ | rfl
    · exact .inl ⟨y, rfl⟩
    · exact .inr rfl
  have hnot : ∀ st ∈ v, False := fun st hst => by
    obtain ⟨c, hc⟩ := hrep.mem hst
    rcases hin st (by simp [hst]) with ⟨y, rfl⟩ | rfl <;> rcases hc with hc | ⟨r, hc⟩ <;> cases hc
  have hx : Step.complete x ∈ shown.map Step.text ++ (v ++ tail) := by
    rw [heq]
    simp
  rcases htail with rfl | ⟨m, rfl⟩ | ⟨hcs, -⟩
  · simp only [List.append_nil, List.mem_append, List.mem_map] at hx
    rcases hx with ⟨y, -, hy⟩ | hx
    · cases hy
    · exact hnot _ hx
  · simp only [List.mem_append, List.mem_map, List.mem_singleton] at hx
    rcases hx with ⟨y, -, hy⟩ | hx | hx
    · cases hy
    · exact hnot _ hx
    · cases hx
  · -- at least one call was reported, and its start is no text
    obtain ⟨c, cs, rfl⟩ := List.exists_cons_of_ne_nil hcs
    cases hrep with
    | cons r _ => exact hnot _ (List.mem_cons_self ..)

theorem reply_keeps_text_unless_held (t : Task) (l : Loop) (turn : Turn) (s : Session) :
    wp (reply t l turn) (KeepsText t l turn s) (fun _ => True) s := by
  refine wp_reply_exact (fun _ _ => trivial) (fun s' _ hsteps hsmall => ?_)
    (fun s' _ hsmall hsteps => ?_) (fun s' calls _ _ hsteps => ?_)
  · -- small talk answers with the turn's text
    intro texts x heq
    exact .inl ⟨hsmall, (complete_eq_of_steps heq).symm⟩
  · -- without calls: the answer and the message both hold the recorded text
    refine wp_replyWithoutCalls_counted (fun texts x heq => .inr ⟨hsmall, ?_⟩)
      (fun msg _ _ _ _ _ _ => ⟨[], [userMessage msg], by simp⟩)
    exact (complete_eq_of_steps heq).symm
  · -- a batch: its answers come after a call, and it hands on the message or condenses
    refine wp_mono (wp_and (runCalls_reportsPrefix t turn calls _ s')
      (runCalls_history t turn calls _ s')) (fun f s'' hf => ?_) (fun _ _ => trivial)
    obtain ⟨hrep, hhist⟩ := hf
    rw [hsteps] at hrep
    cases f with
    | stop => exact fun texts x heq => absurd heq (hrep.not_plain_answer texts x)
    | next l' =>
      intro msg _ hlast
      rcases hhist with ⟨ms, hms⟩ | ⟨y, hy⟩
      · exact ⟨calls, ms, by simp [hms]⟩
      · -- a condensed conversation ends with the summary, which is no request of the user
        rw [hlast] at hy
        cases congrArg Message.role (Option.some.inj hy)

section Held

/-- A task whose replies count as long past three characters, on a request too long to be small
talk. -/
def shortThresholdTask : Task :=
  { settings := { policy := { suppressionThresholdChars := 3 } },
    request := .str "please fix the failing test in app.py", definitions := [], budget := 0 }

/-- The loop at its first turn, with a tolerance of replies without tools. -/
def firstTurn (maxWithoutTools : Int) : Loop :=
  { Loop.start {} "" shortThresholdTask.request with
    counters := { iteration := 1, maxWithoutTools := maxWithoutTools } }

/-- A session no reply reads from. -/
def quietSession : Session :=
  { provider := .scripted { turns := [] }, registry := {},
    host := { workspace := { files := {}, root := [], home := [] } } }

/-- The text of a turn is not kept where the loop relies on it. A first reply of seven characters
without calls, cut off by the length limit, is held back: the conversation goes on with an
assistant message of empty text and then the request to go on from where the reply left off.
The same reply, not cut off, under a tolerance of no replies without tools, ends the task with
an empty answer. -/
theorem held_text_is_asked_to_go_on :
    (∃ l', ((reply shortThresholdTask (firstTurn 2)
          { segments := ["cut off"], truncated := true }).run.run quietSession).run.1 =
        .ok (.next l') ∧
      l'.history = (firstTurn 2).history ++
        [assistantMessage "" [], userMessage continueAfterCutoff]) ∧
    ((reply shortThresholdTask (firstTurn 0) { segments := ["cut off"] }).run.run
      quietSession).run.2.steps = [.complete ""] := by
  refine ⟨⟨_, rfl, rfl⟩, rfl⟩

end Held

end CodingAgent.Agent
