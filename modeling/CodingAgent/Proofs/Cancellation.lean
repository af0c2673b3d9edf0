import CodingAgent.Proofs.LoopRules

/-!
# Cancelling a task

A task is cancelled through the host's abort signal: the user may set it before the task
starts, and a tool may set it while it runs. The loop reads the signal at two places, at the
head of every turn (`goesOn`, and `finish` when no turn is left) and before each call of a
reply, and nothing clears it. So once the signal is set the task ends at the next of these
places: it asks the model nothing more, previews and runs no more calls, and starts no other
turn.

* `loop_of_cancelled`: from a cancelled session the loop reports the cancellation and does
  nothing else, whatever turns it has left.
* `runCalls_of_cancelled`: from a cancelled session, the rest of a batch of calls and the
  turns after it report one error and do nothing else: the cancellation before the next call,
  or after the last call the error of a streak of failed calls or the cancellation at the head
  of the next turn.
* `run_of_cancelled`: a task started with the signal set reports one error and does nothing
  else.
* `cancelling_call_ends_task`: after a call whose run sets the signal (the session
  `Session.afterCall` describes), the task reports at most the notice of a condensed
  conversation and then one terminal step: the answer of a completion, or an error.

`afterTurn` is what the loop does with the flow of a turn (`loop_succ`), so that
`runCalls t turn calls l >>= afterTurn t fuel` is the rest of a task from a call of a reply on.
-/

namespace CodingAgent.Agent

open CodingAgent CodingAgent.Json CodingAgent.Model CodingAgent.Tool CodingAgent.Recovery

/-- What the loop does with the flow of a turn: stop, or go on with the turns left. -/
def afterTurn (t : Task) (fuel : Nat) : Flow → AgentM Unit
  | .stop => pure ()
  | .next l => loop t fuel l

section Cancelled

variable {t : Task} {s : Session}

/-- A turn of the loop, once its test passes, hands its flow to `afterTurn`. -/
theorem loop_succ (fuel : Nat) (l : Loop) :
    loop t (fuel + 1) l = (do
      let c := { l.counters with aborted := l.counters.aborted || (← get).halted }
      if ← goesOn t c then turnOnce t { l with counters := c } >>= afterTurn t fuel
      else finish t c) := by
  rw [loop]
  rfl

@[simp] theorem wp_afterTurn_stop {fuel : Nat} {Q : Unit → Session → Prop}
    {E : Session → Prop} : wp (afterTurn t fuel .stop) Q E s ↔ Q () s := Iff.rfl

@[simp] theorem wp_afterTurn_next {fuel : Nat} {l : Loop} {Q : Unit → Session → Prop}
    {E : Session → Prop} : wp (afterTurn t fuel (.next l)) Q E s ↔ wp (loop t fuel l) Q E s :=
  Iff.rfl

/-- Once cancelled, the end of the loop reports the cancellation. -/
theorem finish_of_cancelled {c : Counters} {E : Session → Prop} (hs : s.host.signalled = true) :
    wp (finish t c) (fun _ s' => s' = { s with steps := s.steps ++ [.error cancelledTask] })
      E s := by
  simp [finish, hs]

/-- From a cancelled session the loop reports the cancellation and does nothing else: the test
at its head fails, whatever turns it has left. -/
theorem loop_of_cancelled (hs : s.host.signalled = true) (fuel : Nat) (l : Loop) :
    wp (loop t fuel l) (fun _ s' => s' = { s with steps := s.steps ++ [.error cancelledTask] })
      (fun _ => False) s := by
  cases fuel with
  | zero =>
    simp only [loop, wp_bind, wp_get]
    exact finish_of_cancelled hs
  | succ fuel =>
    simp only [loop_succ, goesOn, wp_bind, wp_get, wp_cancelled, hs, wp_pure, Bool.not_true,
      Bool.and_false, Bool.false_and, Bool.false_eq_true, if_false]
    exact finish_of_cancelled hs

/-- From a cancelled session, the rest of a batch of calls and the turns after it report one
error and do nothing else: the cancellation before the next call, or after the last call the
error of a streak of failed calls or the cancellation at the head of the next turn. -/
theorem runCalls_of_cancelled {turn : Turn} {fuel : Nat} (hs : s.host.signalled = true)
    (calls : List ToolCall) (l : Loop) :
    wp (runCalls t turn calls l >>= afterTurn t fuel)
      (fun _ s' => ∃ m, s' = { s with steps := s.steps ++ [.error m] }) (fun _ => False) s := by
  have hne : s.host.signalled ≠ false := by simp [hs]
  rw [wp_bind]
  cases calls with
  | nil =>
    refine wp_afterCalls (fun m => ⟨m, rfl⟩) (fun h _ => ?_)
    exact wp_mono (loop_of_cancelled hs fuel _) (fun _ _ h => ⟨_, h⟩) (fun _ h => h)
  | cons call rest =>
    exact wp_runCalls_cons (fun _ => ⟨_, rfl⟩) (fun h => absurd h hne) (fun h => absurd h hne)
      (fun h => absurd h hne)

/-- A task started with the signal set reports one error and does nothing else: it asks the
model nothing and runs no call. The error is the cancellation, or the crash of a budget that
the settings cannot compute. -/
theorem run_of_cancelled (hs : s.host.signalled = true) (settings : Settings) (prompt : String)
    (request : Value) :
    ∃ m, s.run settings prompt request = { s with steps := s.steps ++ [.error m] } := by
  refine @run_of_wp settings prompt request s (fun s' => ∃ m, s' = { s with
    steps := s.steps ++ [.error m] }) (wp_runTask (fun e => ⟨_, rfl⟩) fun _ => ?_)
  exact wp_mono (loop_of_cancelled hs _ _) (fun _ _ h => ⟨_, h⟩) (fun _ h => h.elim)

/-- After a call whose run sets the signal, the task reports at most the notice of a condensed
conversation and then one terminal step, and does nothing else. The notice and the answer come
from the call itself; a condensed conversation or the end of the batch meets the signal at
the head of the next turn, and a next call of the batch meets it before it is previewed. -/
theorem cancelling_call_ends_task {turn : Turn} {fuel : Nat} {call : ToolCall}
    {rest : List ToolCall} {l : Loop} {g : DuplicateGuard} (hs : s.host.signalled = false)
    (hchk : l.guard.check call = .ok (false, g))
    (hset : (s.registry.execute call t.timeout (s.registry.preview call s.host)).2.1.signalled =
      true) :
    wp (runCalls t turn (call :: rest) l >>= afterTurn t fuel)
      (fun _ s' => ∃ notes x, (notes = [] ∨ notes = [.text condensedNotice]) ∧
        x.isTerminal = true ∧
        s' = { s.afterCall call t.timeout with
          steps := (s.afterCall call t.timeout).steps ++ notes ++ [x] })
      (fun _ => False) s := by
  have hset' : (s.afterCall call t.timeout).host.signalled = true := by
    simpa [Host.signalled] using hset
  rw [wp_bind]
  refine wp_runCalls_ran hs hchk (fun x => ⟨[], .complete x, .inl rfl, rfl, by simp⟩)
    fun c _ => ⟨fun x => ?condensed, ?next⟩
  case condensed =>
    rw [wp_afterTurn_next]
    refine wp_mono (loop_of_cancelled (by exact hset') fuel _) (fun _ _ h => ?_) (fun _ h => h)
    exact ⟨[.text condensedNotice], .error cancelledTask, .inr rfl, rfl, by simp [h]⟩
  case next =>
    refine wp_mono (wp_bind.1 (@runCalls_of_cancelled t _ turn fuel hset' rest _))
      (fun f _ h => ?_) (fun _ h => h)
    refine wp_mono h (fun _ _ ⟨m, hm⟩ => ?_) (fun _ h => h)
    exact ⟨[], .error m, .inl rfl, rfl, by simp [hm]⟩

end Cancelled

/-- Once the signal is set, before the task starts or by a tool while it runs, the task asks
the model nothing more, previews and runs no more calls, and ends without another turn: a task
started cancelled reports one error and nothing else, and after a call whose run sets the
signal the rest of the task reports at most the notice of a condensed conversation and one
terminal step. -/
theorem cancellation_ends_task :
    (∀ (s : Session) (settings : Settings) (prompt : String) (request : Value),
      s.host.signalled = true →
        ∃ m, s.run settings prompt request = { s with steps := s.steps ++ [.error m] }) ∧
    (∀ (t : Task) (fuel : Nat) (turn : Turn) (call : ToolCall) (rest : List ToolCall)
        (l : Loop) (s : Session) (g : DuplicateGuard),
      s.host.signalled = false → l.guard.check call = .ok (false, g) →
      (s.registry.execute call t.timeout (s.registry.preview call s.host)).2.1.signalled =
        true →
      wp (runCalls t turn (call :: rest) l >>= afterTurn t fuel)
        (fun _ s' => ∃ notes x, (notes = [] ∨ notes = [.text condensedNotice]) ∧
          x.isTerminal = true ∧
          s' = { s.afterCall call t.timeout with
            steps := (s.afterCall call t.timeout).steps ++ notes ++ [x] })
        (fun _ => False) s) :=
  ⟨fun _ settings prompt request hs => run_of_cancelled hs settings prompt request,
    fun _ _ _ _ _ _ _ _ hs hchk hset => cancelling_call_ends_task hs hchk hset⟩

/-- A session whose task is cancelled before it starts. -/
def cancelledAtStart : Session :=
  { provider := .scripted { turns := [] }, registry := {},
    host := { workspace := { files := {}, root := [], home := [] }, signal := some true } }

/-- A tool that cancels the task it runs in. -/
def stopTool : Tool :=
  { name := .str "stop", description := .str "Stop the task.", parameters := emptyParameters,
    behaviour := .scripted (.cancel (.str "stopped")) .quiet }

/-- A session of an agent whose one tool is `stopTool`, its signal not yet set. -/
def stopSession : Session :=
  { provider := .scripted { turns := [] }, registry := { tools := [("stop", stopTool)] },
    host := { workspace := { files := {}, root := [], home := [] }, signal := some false,
              agent := true } }

/-- A call of `stopTool`. -/
def stopCall : ToolCall :=
  { id := .str "call_1", name := .str "stop", arguments := .obj [] }

/-- A task with the default settings. -/
def stopTask : Task :=
  { settings := {}, request := .str "q", definitions := [], budget := 0 }

/-- A loop whose duplicate check lets `stopTool` through. -/
def stopLoop : Loop :=
  { Loop.start {} "" (.str "q") with guard := DuplicateGuard.exempting ["stop"] }

/-- A task started cancelled reports one error; a first call that cancels its task passes the
duplicate check, runs, and is the last thing the task does. -/
theorem cancelled_at_start_or_by_tool :
    (∃ m, cancelledAtStart.run {} "" (.str "q") =
      { cancelledAtStart with steps := cancelledAtStart.steps ++ [.error m] }) ∧
    stopSession.host.signalled = false ∧
    (stopSession.registry.execute stopCall stopTask.timeout
      (stopSession.registry.preview stopCall stopSession.host)).2.1.signalled = true ∧
    stopLoop.guard.check stopCall = .ok (false, stopLoop.guard) ∧
      wp (runCalls stopTask {} [stopCall] stopLoop >>= afterTurn stopTask 0)
        (fun _ s' => ∃ notes x, (notes = [] ∨ notes = [.text condensedNotice]) ∧
          x.isTerminal = true ∧
          s' = { stopSession.afterCall stopCall stopTask.timeout with
            steps := (stopSession.afterCall stopCall stopTask.timeout).steps ++ notes ++ [x] })
        (fun _ => False) stopSession := by
  have hs : stopSession.host.signalled = false := rfl
  have hset : (stopSession.registry.execute stopCall stopTask.timeout
      (stopSession.registry.preview stopCall stopSession.host)).2.1.signalled = true := by
    decide +kernel
  -- the stop tool is exempt from the check, which hands the guard back as it was
  have hchk : stopLoop.guard.check stopCall = .ok (false, stopLoop.guard) := by
    simp [stopLoop, DuplicateGuard.check, DuplicateGuard.isExempt, DuplicateGuard.exempting,
      ToolCall.nameText?, ToolCall.nameOrEmpty, stopCall, Json.Value.orElse, Json.Value.truthy,
      bind, Except.bind, pure, Except.pure]
  exact ⟨cancellation_ends_task.1 cancelledAtStart {} "" (.str "q") rfl, hs, hset, hchk,
    cancellation_ends_task.2 stopTask 0 {} stopCall [] stopLoop stopSession stopLoop.guard hs hchk
      hset⟩

end CodingAgent.Agent
