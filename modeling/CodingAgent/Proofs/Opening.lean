import CodingAgent.Proofs.Truncation
import CodingAgent.Proofs.Conversation

/-!
# How every request opens and ends

Every conversation a task sends to the model opens the way the task opened it: the system
prompt, unchanged, and then the user's request as a plain user message, which answers no call
and records none, and which is whole unless it is longer than `Context.longMessageTokens`
(`Opens`). And it never ends with a message of the assistant (`AwaitsModel`): the model is
always asked to answer something.

Each change the loop makes keeps both. Appending keeps the opening, and what is appended last
is never the assistant's: a reply is followed by the request to go on or to use tools, or by
the results of its calls. Condensing keeps the first two messages and puts a note last.
Truncation keeps the first two messages and either the last one or a note after them, and it
shortens the request at most (`Truncation`). `run_requests_sendable` puts them together
through `run_asks_invariant`.
-/

namespace CodingAgent.Agent

open CodingAgent CodingAgent.Json CodingAgent.Model CodingAgent.Tool

/-- The conversation opens with the system prompt, unchanged, and then the request as the
user's message, at most shortened. -/
def Opens (prompt : String) (request : Value) (h : List Message) : Prop :=
  ∃ m rest, h = .text .system prompt :: m :: rest ∧ (Message.given .user request).Shrinks m

/-- The conversation does not end with a message of the assistant. -/
def AwaitsModel (h : List Message) : Prop :=
  (h.map Message.role).getLast? ≠ some .assistant

/-- A conversation the task may send: it opens with the prompt and the request, and it does
not end with the assistant. -/
structure Sendable (prompt : String) (request : Value) (h : List Message) : Prop where
  opens : Opens prompt request h
  awaits : AwaitsModel h

/-! ## The opening -/

section Opens

variable {prompt : String} {request : Value} {h : List Message}

theorem Opens.append (ho : Opens prompt request h) (extra : List Message) :
    Opens prompt request (h ++ extra) := by
  obtain ⟨m, rest, rfl, hm⟩ := ho
  exact ⟨m, rest ++ extra, rfl, hm⟩

/-- The first two messages of an opened conversation are the prompt and the request. -/
theorem Opens.take_two (ho : Opens prompt request h) :
    ∃ m, h.take 2 = [.text .system prompt, m] ∧ (Message.given .user request).Shrinks m := by
  obtain ⟨m, rest, rfl, hm⟩ := ho
  exact ⟨m, rfl, hm⟩

/-- Shortening messages other than the first keeps the opening. -/
theorem Opens.shrink {out : List Message} (ho : Opens prompt request h)
    (hs : List.Forall₂ Message.Shrinks h out) (hhead : out.head? = h.head?) :
    Opens prompt request out := by
  obtain ⟨m, rest, rfl, hm⟩ := ho
  cases hs with
  | cons _ hs =>
    cases hs with
    | cons hm' _ =>
      simp only [List.head?_cons, Option.some.injEq] at hhead
      exact ⟨_, _, by rw [hhead], hm.trans hm'⟩

/-- A request given as text of at most `Context.longMessageTokens` tokens is sent whole. -/
theorem Opens.request_text {text : String} (ho : Opens prompt (.str text) h)
    (hshort : Context.estimateTokens text ≤ Context.longMessageTokens) :
    ∃ rest, h = .text .system prompt :: .text .user text :: rest := by
  obtain ⟨m, rest, rfl, hm⟩ := ho
  have hcontent : m.content = .str text :=
    hm.content _ (Context.contentTokens_str text) hshort
  refine ⟨rest, ?_⟩
  obtain ⟨role, content, id, calls⟩ := m
  have hrole : role = .user := hm.role
  have hid : id = .null := hm.toolCallId
  have hcalls : calls = [] := hm.toolCalls
  simp only at hcontent
  subst hrole hid hcalls hcontent
  rfl

end Opens

/-! ## The last message -/

section AwaitsModel

variable {h pre post : List Message}

/-- A message last that is not the assistant's leaves the model to answer. -/
theorem awaitsModel_concat {m : Message} (hm : m.role ≠ .assistant) : AwaitsModel (h ++ [m]) := by
  simpa [AwaitsModel] using hm

theorem AwaitsModel.append (hpre : AwaitsModel pre) (hpost : AwaitsModel post) :
    AwaitsModel (pre ++ post) := by
  unfold AwaitsModel at *
  rw [List.map_append, List.getLast?_append]
  cases hlast : (post.map Message.role).getLast? with
  | none => simpa using hpre
  | some r => simpa [hlast] using hpost

/-- The last messages of a conversation end it as it ended. -/
theorem AwaitsModel.drop (ha : AwaitsModel h) (n : Nat) : AwaitsModel (h.drop n) := by
  unfold AwaitsModel at *
  rw [List.map_drop, List.getLast?_drop]
  split
  · simp
  · exact ha

/-- Shortening messages keeps every role, so it keeps the last one. -/
theorem AwaitsModel.shrink {out : List Message} (ha : AwaitsModel h)
    (hs : List.Forall₂ Message.Shrinks h out) : AwaitsModel out := by
  unfold AwaitsModel at *
  rw [Message.Shrinks.map_role hs]
  exact ha

end AwaitsModel

/-! ## The changes the loop makes -/

section Changes

variable {prompt : String} {request : Value} {h : List Message}

/-- Truncation keeps a conversation sendable: its opening survives the cut and the
shortening, and what ends it is its old end or the note. -/
theorem Sendable.truncate {out : List Message} {b : Context.Budget} {k : Int}
    (hs : Sendable prompt request h) (ht : Context.truncate h b k = .ok out) :
    Sendable prompt request out := by
  obtain ⟨mid, hmid, hhead, hshrink⟩ := Context.truncate_shape ht
  have hmid' : Sendable prompt request mid := by
    rcases hmid with rfl | ⟨-, rfl⟩
    · exact hs
    obtain ⟨m, htake, hm⟩ := hs.opens.take_two
    refine ⟨?_, ?_⟩
    · rw [htake]
      exact ⟨m, _, rfl, hm⟩
    · rw [← List.singleton_append, ← List.append_assoc]
      exact (awaitsModel_concat (by simp [Context.truncationNote, Message.text])).append
        (hs.awaits.drop _)
  exact ⟨hmid'.opens.shrink hshrink hhead, hmid'.awaits.shrink hshrink⟩

/-- Condensing keeps the first two messages and ends with the summary. -/
theorem Opens.condense (ho : Opens prompt request h) (summary : String) :
    Sendable prompt request (Context.condense h summary) := by
  obtain ⟨m, htake, hm⟩ := ho.take_two
  unfold Context.condense
  rw [htake]
  exact ⟨⟨m, _, rfl, hm⟩, awaitsModel_concat (by simp [Message.text])⟩

theorem Sendable.start (settings : Settings) (prompt : String) (request : Value) :
    Sendable (systemPromptOrDefault prompt) request (Loop.start settings prompt request).history :=
  ⟨⟨_, [], rfl, Message.Shrinks.refl _⟩, by simp [AwaitsModel, Loop.start, Message.given]⟩

/-- Sendable between turns; opened, and not ending with the assistant once a call has
answered it, while calls run. -/
theorem sendable_invariant (settings : Settings) (prompt : String) (request : Value) :
    ConversationInvariant (Loop.start settings prompt request).history
      (Sendable (systemPromptOrDefault prompt) request)
      (fun calls h => Opens (systemPromptOrDefault prompt) request h ∧
        (calls ≠ [] ∨ AwaitsModel h)) where
  start := Sendable.start settings prompt request
  truncate _ _ _ _ hs ht := hs.truncate ht
  prompt h x msg hs _ := by
    refine ⟨hs.opens.append _, ?_⟩
    rw [← List.singleton_append, ← List.append_assoc]
    exact awaitsModel_concat (by simp [userMessage, Message.text])
  calls h x calls hs hne := ⟨hs.opens.append _, .inl hne⟩
  result h call rest text hb :=
    ⟨hb.1.append _, .inr (awaitsModel_concat (by simp [toolMessage]))⟩
  condense h call rest x hb := hb.1.condense x
  finish h hb := by
    have ha : AwaitsModel h := hb.2.resolve_left (fun hne => hne rfl)
    exact ⟨⟨hb.1, ha⟩, hb.1.append _, awaitsModel_concat (by simp [userMessage, Message.text])⟩

end Changes

/-- Every conversation a task sends to the model, on its first try, on a retry with a
shorter conversation, or after a condensation, opens with the system prompt (the default one
when none is given), unchanged, and then the request as a user message that answers no call
and records none, whole unless it is longer than `Context.longMessageTokens`; and its last
message is not the assistant's. -/
theorem run_requests_sendable (s : Session) (settings : Settings) (prompt : String)
    (request : Value) :
    ∃ new, (s.run settings prompt request).provider.asked = s.provider.asked ++ new ∧
      ∀ r ∈ new, Sendable (systemPromptOrDefault prompt) request r.messages :=
  run_asks_invariant s settings prompt request (sendable_invariant settings prompt request)

end CodingAgent.Agent
