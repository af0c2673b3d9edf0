import CodingAgent.Agent.Loop

/-!
# Weakest preconditions of the agent's computations

A computation of a running task (`AgentM`) either returns a value in a new session or crashes,
and a crash keeps the session it reached. `wp m Q E s` says that `m`, run from `s`, returns
some `a` in a session satisfying `Q a`, or crashes in a session satisfying `E`. Every result
about the agent loop is proved through `wp`, so that no proof unfolds the monad.

There are three groups.

* The rules of the monad: `wp_bind`, `wp_pure`, `wp_get`, `wp_set`, `wp_modify`, `wp_throw`,
  `wp_ite` and `wp_mono`. They are simp lemmas, so that unfolding a computation and simplifying
  runs it forward.
* The operations of a session, one rule each: `emit`, `cancelled`, `cancel`, `halt`,
  `backoff`, `shaped`, `preview`, `execute`, `recoverCalls` and `showText`. Running a call
  leaves the session `Session.ranCall` describes.
* What a request to the model changes. `s.Follows H s'` says that `s'` extends the steps of
  `s` by texts alone, and the model's record by requests whose conversations satisfy `H`, with
  the same registry; `s.Shows s'` is the case without requests. Taking in a response shows
  nothing (`consume_shows`), and a request records exactly the conversation sent
  (`attempt_follows`).

`Session.run` ends a crashed task with one more step; `run_of_wp` turns a `wp` of the task
into a property of the session it leaves.
-/

namespace CodingAgent.Tool

open CodingAgent

/-- The dispatcher hands back the registry it was given. -/
theorem Registry.execute_registry (reg : Registry) (c : ToolCall) (τ : Float) (h : Host) :
    (reg.execute c τ h).2.2 = reg := by
  unfold Registry.execute
  split
  · rfl
  · split
    · rfl
    · split <;> rfl

end CodingAgent.Tool

namespace CodingAgent.Agent

open CodingAgent CodingAgent.Json CodingAgent.Model CodingAgent.Tool

variable {α β : Type}

/-- Run from `s`, `m` returns `a` in a session satisfying `Q a`, or crashes in one satisfying
`E`. -/
def wp (m : AgentM α) (Q : α → Session → Prop) (E : Session → Prop) (s : Session) : Prop :=
  match (m.run.run s).run with
  | (.ok a, s') => Q a s'
  | (.error _, s') => E s'

section Rules

variable {Q : α → Session → Prop} {E : Session → Prop} {s : Session}

@[simp] theorem wp_bind {m : AgentM α} {f : α → AgentM β} {Q : β → Session → Prop} :
    wp (m >>= f) Q E s ↔ wp m (fun a s' => wp (f a) Q E s') E s := by
  simp only [wp, ExceptT.run_bind, StateT.run_bind]
  rcases h : (m.run.run s).run with ⟨_ | a, s'⟩
  · simp [h]
  · simp [h]

@[simp] theorem wp_pure {a : α} : wp (pure a : AgentM α) Q E s ↔ Q a s := Iff.rfl

@[simp] theorem wp_get {Q : Session → Session → Prop} :
    wp (get : AgentM Session) Q E s ↔ Q s s := Iff.rfl

@[simp] theorem wp_set {s' : Session} {Q : Unit → Session → Prop} :
    wp (set s' : AgentM Unit) Q E s ↔ Q () s' := Iff.rfl

@[simp] theorem wp_modify {f : Session → Session} {Q : Unit → Session → Prop} :
    wp (modify f : AgentM Unit) Q E s ↔ Q () (f s) := Iff.rfl

@[simp] theorem wp_throw {e : Crash} : wp (throw e : AgentM α) Q E s ↔ E s := Iff.rfl

@[simp] theorem wp_ite {c : Prop} [Decidable c] {m m' : AgentM α} :
    wp (if c then m else m') Q E s ↔ (if c then wp m Q E s else wp m' Q E s) := by
  split <;> rfl

/-- A weaker postcondition and a weaker crash condition follow from stronger ones. -/
theorem wp_mono {m : AgentM α} {Q' : α → Session → Prop} {E' : Session → Prop}
    (h : wp m Q E s) (hQ : ∀ a s', Q a s' → Q' a s') (hE : ∀ s', E s' → E' s') :
    wp m Q' E' s := by
  unfold wp at h ⊢
  split at h <;> simp_all

end Rules

/-! ## The operations of a session -/

section Operations

variable {E : Session → Prop} {s : Session}

@[simp] theorem wp_emit {st : Step} {Q : Unit → Session → Prop} :
    wp (Session.emit st) Q E s ↔ Q () { s with steps := s.steps ++ [st] } := Iff.rfl

@[simp] theorem wp_cancelled {Q : Bool → Session → Prop} :
    wp Session.cancelled Q E s ↔ Q s.host.signalled s := Iff.rfl

@[simp] theorem wp_cancel {Q : Unit → Session → Prop} :
    wp Session.cancel Q E s ↔ Q () { s with host := { s.host with signal := some true } } :=
  Iff.rfl

@[simp] theorem wp_halt {Q : Unit → Session → Prop} :
    wp Session.halt Q E s ↔ Q () { s with halted := true, provider := s.provider.abort } :=
  Iff.rfl

@[simp] theorem wp_shaped {r : Except ShapeError α} {Q : α → Session → Prop} :
    wp (Session.shaped r) Q E s ↔ (match r with | .ok a => Q a s | .error _ => E s) := by
  cases r <;> rfl

/-- A pause before a retry answers whether the task is cancelled, unless its seconds are past
the largest double. -/
@[simp] theorem wp_backoff {delay : Int} {Q : Bool → Session → Prop} :
    wp (Session.backoff delay) Q E s ↔
      if Session.pauseOverflows delay then E s else Q s.host.signalled s := by
  unfold Session.backoff
  split <;> rfl

@[simp] theorem wp_preview {c : ToolCall} {Q : Unit → Session → Prop} :
    wp (Session.preview c) Q E s ↔ Q () { s with host := s.registry.preview c s.host } :=
  Iff.rfl

/-- The session a call's run leaves: the host and the registry that the registry's run hands
back, with a stop request of the tool taken in. -/
def Session.ranCall (s : Session) (c : ToolCall) (τ : Float) : Session :=
  let (_, host, registry) := s.registry.execute c τ s.host
  let s' := { s with host := { host with halt := false }, registry := registry }
  if host.halt then { s' with halted := true, provider := s.provider.abort } else s'

/-- Running a call, exactly: the registry's result on the current host, in the session that
`ranCall` describes. -/
theorem wp_execute_exact {c : ToolCall} {τ : Float} {Q : ToolResult → Session → Prop} :
    wp (Session.execute c τ) Q E s ↔ Q (s.registry.execute c τ s.host).1 (s.ranCall c τ) := by
  simp only [Session.execute, Session.ranCall, Session.halt, wp_bind, wp_get, wp_set, wp_pure,
    wp_modify, wp_ite]
  split <;> rfl

namespace Session

variable {c : ToolCall} {τ : Float}

@[simp] theorem ranCall_steps : (s.ranCall c τ).steps = s.steps := by
  unfold ranCall
  split
  split <;> rfl

@[simp] theorem ranCall_registry : (s.ranCall c τ).registry = s.registry := by
  have h := Registry.execute_registry s.registry c τ s.host
  unfold ranCall
  split
  rename_i heq
  rw [heq] at h
  split <;> exact h

@[simp] theorem ranCall_host :
    (s.ranCall c τ).host = { (s.registry.execute c τ s.host).2.1 with halt := false } := by
  unfold ranCall
  split
  rename_i heq
  rw [heq]
  split <;> rfl

/-- The model is told to abort exactly when the tool asked the agent to stop. -/
theorem ranCall_provider : (s.ranCall c τ).provider =
    if (s.registry.execute c τ s.host).2.1.halt then s.provider.abort else s.provider := by
  unfold ranCall
  split
  rename_i heq
  rw [heq]
  split <;> rfl

end Session

/-- Recovering calls from text touches only the source of ids; it fails only as its reading
fails. -/
theorem wp_recoverCalls {text : String} {Q : List ToolCall → Session → Prop}
    (h : ∀ calls ids, Q calls { s with ids := ids })
    (hE : E s) :
    wp (Session.recoverCalls text) Q E s := by
  simp only [Session.recoverCalls, wp_bind, wp_get, wp_shaped]
  split
  · exact h _ _
  · exact hE

/-- Reporting texts one by one appends them, in order. -/
theorem wp_forIn_emit (segs : List String) {Q : PUnit → Session → Prop} :
    wp (forIn segs PUnit.unit fun seg _ => do
        Session.emit (.text seg)
        pure (ForInStep.yield PUnit.unit)) Q E s ↔
      Q PUnit.unit { s with steps := s.steps ++ segs.map Step.text } := by
  induction segs generalizing s with
  | nil => simp
  | cons seg rest ih =>
    simp only [List.forIn_cons, wp_bind, wp_emit, wp_pure, ih, List.map_cons, List.append_assoc,
      List.singleton_append]

@[simp] theorem wp_showText {turn : Turn} {Q : Unit → Session → Prop} :
    wp (showText turn) Q E s ↔
      Q () { s with steps := s.steps ++ turn.segments.map Step.text } := by
  simp only [showText, wp_bind, wp_forIn_emit, wp_pure]

end Operations

/-! ## What a request to the model changes -/

end CodingAgent.Agent

namespace CodingAgent.Model

/-- The conversations a model was asked about, with the names of the tools offered: every one
a scripted model was handed, and every one a model behind an endpoint sent in a request. -/
def Provider.asked : Provider → List ScriptedRequest
  | .scripted m => m.requests
  | .http m => m.conversations.map fun (ms, ds) => ScriptedRequest.of ms ds

@[simp] theorem Provider.asked_abort (p : Provider) : p.abort.asked = p.asked := by
  cases p <;> rfl

/-- Sending a conversation records at most this one request. -/
theorem Provider.asked_send (p : Provider) (room : Nat) (h : List Message)
    (d : List ToolDefinition) (c : Bool) (ids : IdSource) :
    ∃ new, (p.send room h d c ids).2.1.asked = p.asked ++ new ∧ new.length ≤ 1 ∧
      ∀ r ∈ new, r.messages = h := by
  cases p with
  | scripted m =>
    refine ⟨[ScriptedRequest.of h d], ?_, by simp, by simp [ScriptedRequest.of]⟩
    simp only [Provider.send, ScriptedModel.send]
    split <;> rfl
  | http m =>
    -- a request is recorded once it is built and sent, whatever answer comes back
    simp only [Provider.send, HttpModel.send]
    split
    · exact ⟨[], by simp, by simp, by simp⟩
    split
    · exact ⟨[], by simp, by simp, by simp⟩
    refine ⟨[ScriptedRequest.of h d], ?_, by simp, by simp [ScriptedRequest.of]⟩
    split
    all_goals (try split) <;> simp [Provider.asked]

end CodingAgent.Model

namespace CodingAgent.Agent

open CodingAgent CodingAgent.Json CodingAgent.Model CodingAgent.Tool

/-- `s'` follows `s` by reported texts and by requests for conversations that satisfy `H`;
the registry is the one of `s`. -/
structure Session.Follows (H : List Message → Prop) (s s' : Session) : Prop where
  texts : ∃ texts : List String, s'.steps = s.steps ++ texts.map Step.text
  asked : ∃ new, s'.provider.asked = s.provider.asked ++ new ∧ ∀ r ∈ new, H r.messages
  registry : s'.registry = s.registry

/-- `s'` follows `s` by reported texts alone. -/
def Session.Shows (s s' : Session) : Prop :=
  s.Follows (fun _ => False) s'

namespace Session

variable {H H' : List Message → Prop} {s s' s'' : Session}

theorem Follows.refl (H : List Message → Prop) (s : Session) : s.Follows H s :=
  ⟨⟨[], by simp⟩, ⟨[], by simp, by simp⟩, rfl⟩

theorem Follows.trans (h : s.Follows H s') (h' : s'.Follows H s'') : s.Follows H s'' := by
  obtain ⟨⟨u, hu⟩, ⟨new, hnew, hall⟩, hreg⟩ := h
  obtain ⟨⟨u', hu'⟩, ⟨new', hnew', hall'⟩, hreg'⟩ := h'
  refine ⟨⟨u ++ u', by simp [hu', hu]⟩, ⟨new ++ new', by simp [hnew', hnew], ?_⟩,
    hreg'.trans hreg⟩
  intro r hr
  rcases List.mem_append.1 hr with hr | hr
  · exact hall r hr
  · exact hall' r hr

theorem Follows.mono (h : s.Follows H s') (hH : ∀ ms, H ms → H' ms) : s.Follows H' s' :=
  ⟨h.texts, (let ⟨new, hnew, hall⟩ := h.asked; ⟨new, hnew, fun r hr => hH _ (hall r hr)⟩),
    h.registry⟩

/-- Reporting texts is following by texts. -/
theorem Follows.texts_append (s : Session) (texts : List String) :
    s.Follows H { s with steps := s.steps ++ texts.map Step.text } :=
  ⟨⟨texts, rfl⟩, ⟨[], by simp, by simp⟩, rfl⟩

theorem Shows.follows (h : s.Shows s') : s.Follows H s' :=
  Follows.mono h (fun _ h => h.elim)

theorem Shows.refl (s : Session) : s.Shows s := Follows.refl _ s

theorem Shows.trans (h : s.Shows s') (h' : s'.Shows s'') : s.Shows s'' := Follows.trans h h'

theorem Shows.texts_append (s : Session) (texts : List String) :
    s.Shows { s with steps := s.steps ++ texts.map Step.text } :=
  Follows.texts_append s texts

/-- Running a call records no request. -/
@[simp] theorem asked_ranCall (c : ToolCall) (τ : Float) :
    (s.ranCall c τ).provider.asked = s.provider.asked := by
  rw [ranCall_provider]
  split <;> simp

/-- A session with the same steps, record and registry follows by nothing at all. -/
theorem Shows.of_eq (hsteps : s'.steps = s.steps) (hasked : s'.provider.asked = s.provider.asked)
    (hreg : s'.registry = s.registry) : s.Shows s' :=
  ⟨⟨[], by simp [hsteps]⟩, ⟨[], by simp [hasked], by simp⟩, hreg⟩

end Session

/-- Recording usage touches neither the steps, nor the model, nor the registry. -/
theorem recordUsage_shows (usage : Value) (s : Session) :
    wp (Session.recordUsage usage) (fun _ s' => s.Shows s') (fun s' => s.Shows s') s := by
  unfold Session.recordUsage
  simp only [wp_bind, wp_pure, wp_ite, wp_shaped, wp_modify]
  split
  · exact Session.Shows.refl s
  · repeat' (first | split | exact Session.Shows.refl s | exact Session.Shows.of_eq rfl rfl rfl)

/-- Taking in a response touches neither the steps, nor the model's record, nor the
registry: a cancel sets the signal, a stop tells the model to abort, and the usage is
recorded. -/
theorem consume_shows (events : List Event) (turn : Turn) (s : Session) :
    wp (Session.consume events turn) (fun _ s' => s.Shows s') (fun s' => s.Shows s') s := by
  induction events generalizing turn s with
  | nil =>
    simp only [Session.consume, wp_bind, wp_cancelled, wp_ite, wp_pure]
    split
    · exact Session.Shows.refl s
    · exact recordUsage_shows _ s
  | cons e rest ih =>
    cases e with
    | chunk c =>
      simp only [Session.consume, wp_bind, wp_cancelled, wp_ite, wp_pure]
      split
      · exact Session.Shows.refl s
      · exact ih _ s
    | failure f => exact Session.Shows.refl s
    | cancel =>
      simp only [Session.consume, wp_bind, wp_cancel]
      have hs : s.Shows { s with host := { s.host with signal := some true } } :=
        Session.Shows.of_eq rfl rfl rfl
      exact wp_mono (ih turn _) (fun _ _ h => hs.trans h) (fun _ h => hs.trans h)
    | halt =>
      simp only [Session.consume, wp_bind, wp_halt]
      have hs : s.Shows { s with halted := true, provider := s.provider.abort } :=
        Session.Shows.of_eq rfl (Provider.asked_abort _) rfl
      exact wp_mono (ih turn _) (fun _ _ h => hs.trans h) (fun _ h => hs.trans h)

/-- A request adds the conversation sent, and nothing else, to the model's record. -/
theorem attempt_follows (history : List Message) (tools : List ToolDefinition) (s : Session) :
    wp (Session.attempt history tools) (fun _ s' => s.Follows (· = history) s')
      (fun s' => s.Follows (· = history) s') s := by
  simp only [Session.attempt, wp_bind, wp_get, wp_set]
  obtain ⟨new, hnew, -, hall⟩ := Provider.asked_send s.provider Session.answerRoom history tools
    s.host.signalled s.ids
  generalize s.provider.send Session.answerRoom history tools s.host.signalled s.ids = sent
    at hnew ⊢
  obtain ⟨events, provider, ids⟩ := sent
  have hsent : s.Follows (· = history) { s with provider := provider, ids := ids } :=
    ⟨⟨[], by simp⟩, ⟨new, hnew, hall⟩, rfl⟩
  exact wp_mono (consume_shows _ _ _) (fun _ _ h => hsent.trans h.follows)
    (fun _ h => hsent.trans h.follows)

/-- A property of the session that holds however a computation ends holds of the session it
leaves. -/
theorem wp_state {m : AgentM α} {P : Session → Prop} {s : Session}
    (h : wp m (fun _ => P) P s) : P (m.run.run s).run.2 := by
  unfold wp at h
  split at h <;> rename_i heq <;> rw [heq] <;> exact h

/-! ## The session a task leaves -/

/-- A property of every session the task can end in holds of the session it leaves: a
finished task leaves its own session, and a crashed one reports the crash as one more error. -/
theorem run_of_wp {settings : Settings} {prompt : String} {request : Value} {s : Session}
    {P : Session → Prop}
    (h : wp (runTask settings prompt request) (fun _ s' => P s')
      (fun s' => ∀ e : Crash, P { s' with steps := s'.steps ++ [.error ("Agent error: " ++ e.message)] })
      s) :
    P (s.run settings prompt request) := by
  unfold Session.run
  unfold wp at h
  split at h <;> rename_i heq
  · rw [show ExceptT.run (runTask settings prompt request) s = _ from heq]
    exact h
  · rw [show ExceptT.run (runTask settings prompt request) s = _ from heq]
    exact h _

end CodingAgent.Agent
