import CodingAgent.Proofs.Opening

/-!
# How tool messages answer the calls before them

A conversation is read from the front with a `Pairing`, the state of its tool messages: the
ids of calls still to be answered, in order, or `cut`, a place where tool messages may stand
whose calls are no longer in the conversation. An assistant message opens the answers to its
calls; a tool message must answer the next of them; any other message may come only once all
are answered. `ToolsPaired false` is the strict reading: every block of tool messages follows
an assistant message with calls and holds, in order, exactly the answers to them.

That reading does not hold of the conversations a task sends. Truncation keeps the first two
and the last messages by count, and the last ones may begin inside a block whose assistant
message was cut away (`cut_turn_sends_unanswered_result`). What does hold is
`ToolsPaired true`, where a system message (the note truncation leaves) may stand for the
assistant message before such a block (`run_requests_tools_paired`).

The reading only looks at roles, the answered ids and the recorded calls, which shortening
keeps (`Pairing.Reads.shrink`), and a tail of a conversation read from `cut` is read as it was
(`Pairing.Reads.from_cut`); these two carry the invariant through truncation.
-/

namespace CodingAgent.Agent

open CodingAgent CodingAgent.Json CodingAgent.Model CodingAgent.Tool CodingAgent.Recovery

/-- Where a conversation stands for its tool messages. -/
inductive Pairing where
  /-- The answers to these calls come next, in order; when none are left, no tool message
  may come. -/
  | answering (ids : List Value)
  /-- Tool messages whose calls were cut away may come. -/
  | cut

/-- Every call opened so far is answered. -/
def Pairing.Settled : Pairing → Prop
  | .answering ids => ids = []
  | .cut => True

/-- The state after a message that is no tool message: an assistant message opens the answers
to its calls, a system message may stand for cut-away calls when `notes` holds, and any other
message opens nothing. -/
def Pairing.after (notes : Bool) (m : Message) : Pairing :=
  match m.role with
  | .assistant => .answering (m.toolCalls.map CallRecord.id)
  | .system => if notes then .cut else .answering []
  | _ => .answering []

/-- One message read in a state. -/
inductive Pairing.Step (notes : Bool) : Pairing → Message → Pairing → Prop
  | answer {m : Message} {id : Value} {ids : List Value} :
      m.role = .tool → m.toolCallId = id → Step notes (.answering (id :: ids)) m (.answering ids)
  | orphan {m : Message} : m.role = .tool → Step notes .cut m .cut
  | next {p : Pairing} {m : Message} :
      m.role ≠ .tool → p.Settled → Step notes p m (Pairing.after notes m)

/-- A conversation read from a state to a state. -/
inductive Pairing.Reads (notes : Bool) : Pairing → List Message → Pairing → Prop
  | nil (p : Pairing) : Reads notes p [] p
  | cons {p q r : Pairing} {m : Message} {ms : List Message} :
      Step notes p m q → Reads notes q ms r → Reads notes p (m :: ms) r

/-- Every tool message of the conversation answers, in order, a call of the assistant message
before its block, or (when `notes` holds) stands after a system message; and every call of an
assistant message is answered right after it. -/
def ToolsPaired (notes : Bool) (ms : List Message) : Prop :=
  ∃ p, Pairing.Reads notes (.answering []) ms p ∧ p.Settled

namespace Pairing

variable {notes : Bool} {p q r : Pairing} {a b ms : List Message}

/-! ## Reading a conversation in pieces -/

theorem Reads.append_iff :
    Reads notes p (a ++ b) r ↔ ∃ q, Reads notes p a q ∧ Reads notes q b r := by
  induction a generalizing p with
  | nil =>
    constructor
    · intro h
      exact ⟨p, .nil p, h⟩
    · rintro ⟨q, hq, h⟩
      cases hq
      exact h
  | cons m rest ih =>
    constructor
    · intro h
      cases h with
      | cons hm hrest =>
        obtain ⟨q, h1, h2⟩ := ih.1 hrest
        exact ⟨q, .cons hm h1, h2⟩
    · rintro ⟨q, hq, h⟩
      cases hq with
      | cons hm hrest => exact .cons hm (ih.2 ⟨q, hrest, h⟩)

theorem Reads.concat {m : Message} (h : Reads notes p a q) (hm : Step notes q m r) :
    Reads notes p (a ++ [m]) r :=
  Reads.append_iff.2 ⟨q, h, .cons hm (.nil r)⟩

/-! ## What the reading looks at -/

theorem after_shrink {m m' : Message} (hs : m.Shrinks m') : after notes m' = after notes m := by
  unfold after
  rw [hs.role, hs.toolCalls]

theorem Step.shrink {m m' : Message} (h : Step notes p m q) (hs : m.Shrinks m') :
    Step notes p m' q := by
  cases h with
  | answer hrole hid => exact .answer (hs.role.trans hrole) (hs.toolCallId.trans hid)
  | orphan hrole => exact .orphan (hs.role.trans hrole)
  | next hrole hset =>
    rw [← after_shrink hs]
    refine .next ?_ hset
    rw [hs.role]
    exact hrole

/-- Shortening messages does not change how a conversation is read. -/
theorem Reads.shrink {ms' : List Message} (h : Reads notes p ms q)
    (hs : List.Forall₂ Message.Shrinks ms ms') : Reads notes p ms' q := by
  induction h generalizing ms' with
  | nil p =>
    cases hs
    exact .nil p
  | cons hm _ ih =>
    cases hs with
    | cons hs1 hs2 => exact .cons (hm.shrink hs1) (ih hs2)

/-- Any tail of a conversation can be read from `cut`: the tool messages it starts with are
taken as answers to calls cut away, and from its first other message on it is read as
before. -/
theorem Reads.from_cut (h : Reads true q ms r) :
    ∃ r', Reads true .cut ms r' ∧ (r.Settled → r'.Settled) := by
  induction h with
  | nil p => exact ⟨.cut, .nil _, fun _ => trivial⟩
  | cons hm hrest ih =>
    obtain ⟨r', hr', hset⟩ := ih
    cases hm with
    | answer hrole _ => exact ⟨r', .cons (.orphan hrole) hr', hset⟩
    | orphan hrole => exact ⟨r', .cons (.orphan hrole) hr', hset⟩
    | next hrole _ => exact ⟨_, .cons (.next hrole trivial) hrest, id⟩

/-- A message that is no tool message is read by `Step.next`. -/
theorem Reads.cons_next {m : Message} (h : Reads notes p (m :: ms) r) (hm : m.role ≠ .tool) :
    Reads notes (after notes m) ms r := by
  cases h with
  | cons hs hrest =>
    cases hs with
    | answer hrole _ => exact absurd hrole hm
    | orphan hrole => exact absurd hrole hm
    | next _ _ => exact hrest

/-- Where no call is open, no tool message can be read. -/
theorem Reads.not_tool {m : Message} (hm : m.role = .tool) :
    ¬ Reads notes (.answering []) (m :: ms) r := by
  intro h
  cases h with
  | cons hs _ =>
    cases hs with
    | next hrole _ => exact hrole hm

end Pairing

/-! ## The changes the loop makes -/

section Changes

variable {notes : Bool} {prompt : String} {request : Value} {h : List Message} {p : Pairing}

/-- The prompt and the request leave nothing to answer. -/
theorem Opens.reads_take_two (ho : Opens prompt request h) :
    Pairing.Reads notes (.answering []) (h.take 2) (.answering []) := by
  obtain ⟨m, htake, hm⟩ := ho.take_two
  have hrole : m.role = .user := hm.role
  rw [htake]
  refine .cons (.next (by simp [Message.text]) rfl) (.cons (.next ?_ ?_) ?_)
  · rw [hrole]
    simp
  · unfold Pairing.after
    cases notes <;> simp [Message.text, Pairing.Settled]
  · unfold Pairing.after
    rw [hrole]
    exact .nil _

/-- A reply without calls and the user's message after it leave nothing to answer. -/
theorem reads_prompt {x msg : String} (hr : Pairing.Reads notes (.answering []) h p)
    (hp : p.Settled) :
    Pairing.Reads notes (.answering []) (h ++ [assistantMessage x [], userMessage msg])
      (.answering []) := by
  rw [← List.singleton_append, ← List.append_assoc]
  have hasst : Pairing.Step notes p (assistantMessage x []) (.answering []) :=
    .next (by simp [assistantMessage]) hp
  exact (hr.concat hasst).concat (.next (by simp [userMessage, Message.text]) rfl)

/-- A reply with calls opens the answers to them, in order. -/
theorem reads_calls {x : String} {calls : List ToolCall}
    (hr : Pairing.Reads notes (.answering []) h p) (hp : p.Settled) :
    Pairing.Reads notes (.answering []) (h ++ [assistantMessage x calls])
      (.answering (calls.map ToolCall.id)) := by
  have hafter : Pairing.after notes (assistantMessage x calls) = .answering (calls.map ToolCall.id) := by
    simp [Pairing.after, assistantMessage, ToolCall.record]
  rw [← hafter]
  exact hr.concat (.next (by simp [assistantMessage]) hp)

/-- The result of a call answers it. -/
theorem reads_result {text : String} {call : ToolCall} {rest : List ToolCall}
    (hr : Pairing.Reads notes (.answering []) h (.answering ((call :: rest).map ToolCall.id))) :
    Pairing.Reads notes (.answering []) (h ++ [toolMessage text call])
      (.answering (rest.map ToolCall.id)) :=
  hr.concat (.answer rfl rfl)

/-- The user's message after the last answer leaves nothing to answer. -/
theorem reads_user {msg : String} (hr : Pairing.Reads notes (.answering []) h (.answering [])) :
    Pairing.Reads notes (.answering []) (h ++ [userMessage msg]) (.answering []) :=
  hr.concat (.next (by simp [userMessage, Message.text]) rfl)

/-- Condensing leaves the prompt, the request and a note. -/
theorem Opens.toolsPaired_condense (ho : Opens prompt request h) (summary : String) :
    ToolsPaired true (Context.condense h summary) := by
  refine ⟨.cut, ?_, trivial⟩
  unfold Context.condense
  exact ho.reads_take_two.concat (.next (by simp [Message.text]) rfl)

/-- Truncation keeps tool messages paired, the note standing for any assistant message
it cut away. -/
theorem ToolsPaired.truncate {out : List Message} {b : Context.Budget} {k : Int}
    (ho : Opens prompt request h) (hp : ToolsPaired true h)
    (ht : Context.truncate h b k = .ok out) : ToolsPaired true out := by
  obtain ⟨mid, hmid, -, hshrink⟩ := Context.truncate_shape ht
  obtain ⟨q, hq, hset⟩ := hp
  suffices hmid' : ToolsPaired true mid by
    obtain ⟨r, hr, hrset⟩ := hmid'
    exact ⟨r, hr.shrink hshrink, hrset⟩
  rcases hmid with rfl | ⟨-, rfl⟩
  · exact ⟨q, hq, hset⟩
  -- the kept tail is read from the note on as it was read before
  have hsplit := h.take_append_drop (h.length - k.toNat)
  rw [← hsplit] at hq
  obtain ⟨_, -, htail⟩ := Pairing.Reads.append_iff.1 hq
  obtain ⟨r, hr, hrset⟩ := htail.from_cut
  have hnote : Pairing.Step true (.answering []) (Context.truncationNote (h.length - 2 - k.toNat))
      .cut := .next (by simp [Context.truncationNote, Message.text]) rfl
  refine ⟨r, Pairing.Reads.append_iff.2 ⟨_, ho.reads_take_two, .cons hnote hr⟩, hrset hset⟩

end Changes

/-- Between turns the conversation is sendable and its tool messages are paired; while calls
run, the answers to the calls left are what comes next. -/
theorem toolsPaired_invariant (settings : Settings) (prompt : String) (request : Value) :
    ConversationInvariant (Loop.start settings prompt request).history
      (fun h => Sendable (systemPromptOrDefault prompt) request h ∧ ToolsPaired true h)
      (fun calls h => (Opens (systemPromptOrDefault prompt) request h ∧
          (calls ≠ [] ∨ AwaitsModel h)) ∧
        Pairing.Reads true (.answering []) h (.answering (calls.map ToolCall.id))) where
  start := by
    refine ⟨Sendable.start settings prompt request, .answering [], ?_, rfl⟩
    exact (Sendable.start settings prompt request).opens.reads_take_two
  truncate _ _ _ _ hs ht :=
    ⟨(sendable_invariant settings prompt request).truncate _ _ _ _ hs.1 ht,
      hs.2.truncate hs.1.opens ht⟩
  prompt h x msg hs hmsg := by
    obtain ⟨q, hq, hset⟩ := hs.2
    exact ⟨(sendable_invariant settings prompt request).prompt h x msg hs.1 hmsg, _,
      reads_prompt hq hset, rfl⟩
  calls h x calls hs hne := by
    obtain ⟨q, hq, hset⟩ := hs.2
    exact ⟨(sendable_invariant settings prompt request).calls h x calls hs.1 hne,
      reads_calls hq hset⟩
  result h call rest text hb :=
    ⟨(sendable_invariant settings prompt request).result h call rest text hb.1,
      reads_result hb.2⟩
  condense h call rest x hb :=
    ⟨(sendable_invariant settings prompt request).condense h call rest x hb.1,
      hb.1.1.toolsPaired_condense x⟩
  finish h hb := by
    have hsend := (sendable_invariant settings prompt request).finish h hb.1
    have hr : Pairing.Reads true (.answering []) h (.answering []) := hb.2
    exact ⟨⟨hsend.1, _, hr, rfl⟩, hsend.2, _, reads_user hr, rfl⟩

/-- In every conversation a task sends to the model, every tool message stands in a block of
tool messages right after an assistant message whose calls the block answers, all of them and
in order, or right after a system message (the note of a truncation that cut away the
assistant message); and every call of an assistant message is answered right after it. -/
theorem run_requests_tools_paired (s : Session) (settings : Settings) (prompt : String)
    (request : Value) :
    ∃ new, (s.run settings prompt request).provider.asked = s.provider.asked ++ new ∧
      ∀ r ∈ new, ToolsPaired true r.messages := by
  obtain ⟨new, hnew, hall⟩ :=
    run_asks_invariant s settings prompt request (toolsPaired_invariant settings prompt request)
  exact ⟨new, hnew, fun r hr => (hall r hr).2⟩

/-! ## A turn that cuts a block of results

The strict reading fails on a turn of its own. After a reply with two calls of one tool and
their two results, a task whose budget is one token and which keeps one recent message trims
the conversation before asking the model: it keeps the prompt, the request and the last
result, with the note in place of the reply and the first result. The model is sent a result
whose call is not in the conversation. The turn below asks a model that has no answer left,
so the request it sends is the only one. -/

section CutBlock

/-- The calls of the reply: one tool, two arguments. -/
def lookupA : ToolCall := { id := .str "a", name := .str "f", arguments := .obj [("q", .int 1)] }

def lookupB : ToolCall := { id := .str "b", name := .str "f", arguments := .obj [("q", .int 2)] }

def lookupRequest : Value := .str "look up a and b, then report"

/-- The conversation after the reply and the results of its two calls. -/
def answeredLookups : List Message :=
  [.text .system "s", .given .user lookupRequest, assistantMessage "" [lookupA, lookupB],
   toolMessage "r" lookupA, toolMessage "r" lookupB]

/-- The conversation cut down to its first two and its last message. -/
def cutLookups : List Message :=
  [.text .system "s", .given .user lookupRequest, Context.truncationNote 2,
   toolMessage "r" lookupB]

/-- A task with a budget of one token that keeps one recent message and does not retry. -/
def tinyTask : Task :=
  { settings := { agent := { keepRecentMessages := 1, maxTokenBudget := 2, maxRetries := 0 } },
    request := lookupRequest, definitions := [], budget := 1 }

/-- A session whose model has no answer left. -/
def mutedSession : Session :=
  { provider := .scripted { turns := [] }, registry := {},
    host := { workspace := { files := {}, root := [], home := [] } } }

theorem answeredLookups_paired : ToolsPaired false answeredLookups := by
  have hhead : Pairing.Reads false (.answering []) [.text .system "s", .given .user lookupRequest]
      (.answering []) :=
    .cons (.next (by simp [Message.text]) rfl)
      (.cons (.next (by simp [Message.given]) rfl) (.nil _))
  have hcalls : Pairing.Reads false (.answering [])
      ([.text .system "s", .given .user lookupRequest] ++ [assistantMessage "" [lookupA, lookupB]])
      (.answering ([lookupA, lookupB].map ToolCall.id)) :=
    reads_calls hhead rfl
  exact ⟨_, reads_result (reads_result hcalls), rfl⟩

theorem cutLookups_not_paired : ¬ ToolsPaired false cutLookups := by
  rintro ⟨r, h, -⟩
  -- the prompt, the request and the note leave nothing open for the result after them
  have h1 := h.cons_next (by simp [Message.text])
  have h2 := h1.cons_next (by simp [Message.given])
  have h3 := h2.cons_next (by simp [Context.truncationNote, Message.text])
  exact Pairing.Reads.not_tool (by simp [toolMessage]) h3

/-- The trimming of the turn cuts the conversation, and shortens nothing. -/
theorem truncate_answeredLookups :
    Context.truncate answeredLookups (.whole 1) 1 = .ok cutLookups := by
  have hs := Context.one_le_estimateTokens (s := "s") (by decide)
  have hu := Context.one_le_estimateTokens (s := "look up a and b, then report") (by decide)
  have hshort := Context.estimateTokens_le "look up a and b, then report"
  have hr := Context.estimateTokens_le "r"
  obtain ⟨n, htok, hn⟩ : ∃ n, Context.conversationTokens answeredLookups = .ok n ∧ 2 ≤ n := by
    simp [answeredLookups, Context.conversationTokens, Context.messageTokens, Context.recordTokens,
      Message.text, Message.given, lookupRequest, assistantMessage, toolMessage, Value.isNull,
      bind, Except.bind, pure, Except.pure, lookupA, lookupB, ToolCall.record]
    omega
  have hover : (Context.Budget.whole 1).admits n = false := by
    simp [Context.Budget.admits]
    omega
  refine @Context.truncate_cut answeredLookups (.whole 1) 1 n htok hover (by decide) ?_ ?_
  · intro m hm
    simp [answeredLookups] at hm
    rcases hm with rfl | rfl | rfl | rfl <;>
      simp [Context.Counted, Context.messageTokens, Context.recordTokens, Message.text,
        Message.given, lookupRequest, toolMessage, Context.truncationNote, Value.isNull, bind,
        Except.bind, pure, Except.pure]
  · intro m hm
    simp [answeredLookups] at hm
    rcases hm with rfl | rfl | rfl
    · refine .inr ⟨Context.estimateTokens "look up a and b, then report",
        by simp [Message.given, lookupRequest, Value.isNull], ?_⟩
      simp at hshort
      simp [Context.longMessageTokens]
      omega
    · exact .inl rfl
    · refine .inr ⟨Context.estimateTokens "r", by simp [toolMessage], ?_⟩
      simp at hr
      simp [Context.longMessageTokens]
      omega

/-- The turn sends the cut conversation, and then stops on the model's failure. -/
theorem turn_sends_cutLookups :
    wp (turnOnce tinyTask ⟨answeredLookups, {}, DuplicateGuard.exempting []⟩)
      (fun _ s' => s'.provider.asked = [ScriptedRequest.of cutLookups []])
      (fun s' => s'.provider.asked = [ScriptedRequest.of cutLookups []]) mutedSession := by
  have htrunc : Context.truncate answeredLookups (.whole tinyTask.budget)
      tinyTask.settings.agent.keepRecentMessages = .ok cutLookups := truncate_answeredLookups
  simp only [turnOnce, wp_bind, trimToBudget, show tinyTask.budget > 0 by decide, if_true,
    wp_shaped, htrunc, ask, askWithRetries, Session.attempt, wp_get, wp_set]
  -- the model has no answer: the request is recorded and fails for good
  simp only [mutedSession, Provider.send, ScriptedModel.send, Session.consume, wp_pure,
    unexpectedRequest, Failure.outcome, Session.emit, wp_modify, wp_bind]
  rfl

/-- The strict reading of tool messages fails for a conversation a task sends: from a
conversation whose two results answer the two calls before them, a turn of a task with a
budget of one token that keeps one recent message sends the model the conversation with the
note in place of the reply and the first result, so that the second result follows no call. -/
theorem cut_turn_sends_unanswered_result :
    ToolsPaired false answeredLookups ∧
      ((turnOnce tinyTask ⟨answeredLookups, {}, DuplicateGuard.exempting []⟩).run.run
          mutedSession).run.2.provider.asked = [ScriptedRequest.of cutLookups []] ∧
      ¬ ToolsPaired false cutLookups :=
  ⟨answeredLookups_paired, wp_state turn_sends_cutLookups, cutLookups_not_paired⟩

end CutBlock

end CodingAgent.Agent
