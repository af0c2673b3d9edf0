import CodingAgent.Proofs.LoopRules

/-!
# The steps of a task form a transcript

A task reports texts, the start and the result of each tool call, and at the end one
terminal step. The steps of every run are a word of the language

  (text | start · result)* · (complete | error)

where each result is the result of the call started just before it. `Progress` is the
first part, the steps of a task that is still running, and `Transcript` the whole word.

The proof follows the loop from the outside in. `runCalls_running` shows that the calls of
a reply report their starts and results in pairs, and that only a stop adds the terminal
step; `reply_running` and `turnOnce_running` add the texts around them; `loop_finished` is
the induction over the turns. `run_steps_transcript` is the result: whatever the settings,
the tools, and the model's answers and failures, `Session.run` adds a transcript to the
steps the session had. A crash of the task is no exception: it can only happen between two
pairs, and the error it reports ends the transcript.
-/

namespace CodingAgent.Agent

open CodingAgent CodingAgent.Json CodingAgent.Model CodingAgent.Tool CodingAgent.Recovery

/-- Steps of a task that is still running: texts, and tool calls each started and then
ended with its result. -/
inductive Progress : List Step → Prop
  | nil : Progress []
  | text {w : List Step} (s : String) : Progress w → Progress (w ++ [.text s])
  | call {w : List Step} (c : ToolCall) (r : ToolResult) :
      Progress w → Progress (w ++ [.toolStart c, .toolResult c r])

/-- The steps of a whole task: a progress and then one terminal step. -/
def Transcript (w : List Step) : Prop :=
  ∃ v t, w = v ++ [t] ∧ Progress v ∧ t.isTerminal

theorem Progress.texts {w : List Step} (h : Progress w) :
    ∀ texts : List String, Progress (w ++ texts.map Step.text)
  | [] => by simpa using h
  | s :: rest => by
    simpa [List.append_assoc] using Progress.texts (Progress.text s h) rest

/-! ## The steps after a point -/

/-- The steps after `base` leave the task running. -/
def Running (base steps : List Step) : Prop :=
  ∃ w, steps = base ++ w ∧ Progress w

/-- The steps after `base` are a whole transcript. -/
def Finished (base steps : List Step) : Prop :=
  ∃ w, steps = base ++ w ∧ Transcript w

/-- What the steps after `base` are once the loop has decided how to go on: a transcript
when it stops, a progress when it goes on. -/
def AfterFlow (base : List Step) : Flow → Session → Prop
  | .stop, s => Finished base s.steps
  | .next _, s => Running base s.steps

section Running

variable {b u : List Step}

theorem Running.refl (b : List Step) : Running b b := ⟨[], by simp, .nil⟩

theorem Running.texts (h : Running b u) (texts : List String) :
    Running b (u ++ texts.map Step.text) := by
  obtain ⟨w, rfl, hw⟩ := h
  exact ⟨w ++ texts.map Step.text, by simp, hw.texts texts⟩

theorem Running.call (h : Running b u) (c : ToolCall) (r : ToolResult) :
    Running b (u ++ [.toolStart c, .toolResult c r]) := by
  obtain ⟨w, rfl, hw⟩ := h
  exact ⟨w ++ [.toolStart c, .toolResult c r], by simp, .call c r hw⟩

theorem Running.finish (h : Running b u) {t : Step} (ht : t.isTerminal) :
    Finished b (u ++ [t]) := by
  obtain ⟨w, rfl, hw⟩ := h
  exact ⟨w ++ [t], by simp, w, t, rfl, hw, ht⟩

/-- A session that follows by texts (and requests) leaves the task running. -/
theorem Running.follows {H : List Message → Prop} {s s' : Session} (h : Running b s.steps)
    (hs : s.Follows H s') : Running b s'.steps := by
  obtain ⟨texts, htexts⟩ := hs.texts
  rw [htexts]
  exact h.texts texts

end Running

/-! ## The loop keeps the task running until it stops -/

section Loop

variable {b : List Step} {t : Task}

/-- The calls of a reply report a start and a result for each call they reach, and add a
terminal step exactly when they stop. -/
theorem runCalls_running (turn : Turn) :
    ∀ (calls : List ToolCall) (l : Loop) (s : Session), Running b s.steps →
      wp (runCalls t turn calls l) (AfterFlow b) (fun s' => Running b s'.steps) s
  | [], l, s, h => wp_afterCalls (fun _ => h.finish rfl) (fun _ _ => h)
  | call :: rest, l, s, h => by
    refine wp_runCalls_cons (fun _ => h.finish rfl) (fun _ _ _ => h) (fun _ g _ => ?_)
      (fun _ g _ s' c x hsteps _ _ => ?_)
    · exact runCalls_running turn rest _ _ (h.call call (duplicateRefusal call))
    · have h' : Running b s'.steps := hsteps ▸ h.call _ _
      exact ⟨h'.finish rfl, h'.texts [condensedNotice], runCalls_running turn rest _ s' h'⟩

theorem reply_running {l : Loop} {turn : Turn} {s : Session} (h : Running b s.steps) :
    wp (reply t l turn) (AfterFlow b) (fun s' => Running b s'.steps) s :=
  wp_reply (fun _ hs => h.follows hs) (fun _ _ hs => (h.follows hs).finish rfl)
    (fun _ _ _ _ hs _ => h.follows hs)
    (fun _ _ calls _ hs _ => runCalls_running _ calls _ _ (h.follows hs))

theorem turnOnce_running {l : Loop} {s : Session} (h : Running b s.steps) :
    wp (turnOnce t l) (AfterFlow b) (fun s' => Running b s'.steps) s :=
  wp_turnOnce (H := fun _ => True) (fun _ _ _ _ _ _ => trivial) trivial
    (fun _ _ hs => (h.follows hs).finish rfl) (fun _ hs => h.follows hs)
    (fun _ _ _ _ hs _ => reply_running (h.follows hs))

/-- The turns of a task end it with a transcript, unless the task crashes while still
running. -/
theorem loop_finished (fuel : Nat) (l : Loop) {s : Session} (h : Running b s.steps) :
    wp (loop t fuel l) (fun _ s' => Finished b s'.steps) (fun s' => Running b s'.steps) s := by
  refine wp_loop (fun _ s => Running b s.steps) (fun l s h => ?_)
    (fun _ _ _ h => h.finish rfl) (fun _ _ _ h => h) fuel l s h
  refine wp_mono (turnOnce_running h) (fun f s' hf => ?_) (fun _ h => h)
  cases f with
  | stop => exact hf
  | next l' => exact hf

end Loop

/-- Whatever the settings, the tools, the system prompt, the request, and the model's
answers and failures, a task adds to the session's steps a word of
`(text | start · result)* · (complete | error)`, in which each result belongs to the call
started just before it. -/
theorem run_steps_transcript (s : Session) (settings : Settings) (prompt : String)
    (request : Value) :
    ∃ w, (s.run settings prompt request).steps = s.steps ++ w ∧ Transcript w := by
  refine run_of_wp (P := fun s' => Finished s.steps s'.steps) ?_
  refine wp_runTask (fun e => (Running.refl s.steps).finish rfl) (fun _ => ?_)
  refine wp_mono (loop_finished _ _ (Running.refl s.steps)) (fun _ _ h => h) ?_
  intro s' h e
  exact h.finish rfl

end CodingAgent.Agent
