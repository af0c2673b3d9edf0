import CodingAgent.Proofs.LoopRules

/-!
# Properties of every conversation a task sends

A task changes its conversation in a few ways only: it opens it with the system prompt and
the request, trims it to a budget, writes a reply without calls and the message that answers
it, writes a reply with calls, the result of each call, condenses it, and asks the model to go
on after a cut-off reply whose calls have all run. `ConversationInvariant` names these ways
for a property `H` of the conversations between turns and a property `B calls` of the
conversations while `calls` are still to run; `run_asks_invariant` shows that a property kept
by each of them holds of every conversation the task sends to the model.

The proof follows the loop as `Transcript` does. The session relation it carries is
`Session.Asks H s s'`: every request recorded after `s` was for a conversation satisfying `H`.
-/

namespace CodingAgent.Agent

open CodingAgent CodingAgent.Json CodingAgent.Model CodingAgent.Tool CodingAgent.Recovery

/-- Every request the model recorded after `s` was for a conversation satisfying `H`. -/
def Session.Asks (H : List Message → Prop) (s s' : Session) : Prop :=
  ∃ new, s'.provider.asked = s.provider.asked ++ new ∧ ∀ r ∈ new, H r.messages

namespace Session

variable {H : List Message → Prop} {s s' s'' : Session}

theorem Asks.refl (H : List Message → Prop) (s : Session) : s.Asks H s :=
  ⟨[], by simp, by simp⟩

theorem Asks.trans (h : s.Asks H s') (h' : s'.Asks H s'') : s.Asks H s'' := by
  obtain ⟨new, hnew, hall⟩ := h
  obtain ⟨new', hnew', hall'⟩ := h'
  refine ⟨new ++ new', by simp [hnew', hnew], fun r hr => ?_⟩
  rcases List.mem_append.1 hr with hr | hr
  · exact hall r hr
  · exact hall' r hr

/-- A session that records no new request asks nothing more. -/
theorem Asks.of_asked (h : s.Asks H s') (hasked : s''.provider.asked = s'.provider.asked) :
    s.Asks H s'' := by
  obtain ⟨new, hnew, hall⟩ := h
  exact ⟨new, hasked.trans hnew, hall⟩

theorem Follows.asks (h : s'.Follows H s'') (hs : s.Asks H s') : s.Asks H s'' :=
  hs.trans h.asked

theorem Shows.asks (h : s'.Shows s'') (hs : s.Asks H s') : s.Asks H s'' :=
  hs.trans (Follows.mono h (fun _ h => h.elim)).asked

end Session

/-- A property `H` of the conversations between turns, with `B calls` the property while
`calls` of a reply are still to run, that every change the loop makes keeps, starting from the
conversation `start`. -/
structure ConversationInvariant (start : List Message) (H : List Message → Prop)
    (B : List ToolCall → List Message → Prop) : Prop where
  start : H start
  truncate : ∀ ms b k ms', H ms → Context.truncate ms b k = .ok ms' → H ms'
  /-- A reply without calls, and the request to go on or to use tools. -/
  prompt : ∀ h x msg, H h → (msg = continueAfterCutoff ∨ msg = noToolsNudge) →
    H (h ++ [assistantMessage x [], userMessage msg])
  /-- A reply with calls, all of them still to run. -/
  calls : ∀ h x calls, H h → calls ≠ [] → B calls (h ++ [assistantMessage x calls])
  /-- The result of the next call, or its refusal. -/
  result : ∀ h call rest text, B (call :: rest) h → B rest (h ++ [toolMessage text call])
  condense : ∀ h call rest x, B (call :: rest) h → H (Context.condense h x)
  /-- After the last call, with or without the request to go on. -/
  finish : ∀ h, B [] h → H h ∧ H (h ++ [userMessage continueAfterTools])

/-- What a session has asked once the loop has decided how to go on, with the conversation
it goes on with. -/
def AsksAfter (H : List Message → Prop) (s₀ : Session) : Flow → Session → Prop
  | .stop, s => s₀.Asks H s
  | .next l, s => H l.history ∧ s₀.Asks H s

section Loop

variable {start : List Message} {H : List Message → Prop} {B : List ToolCall → List Message → Prop}
  (hI : ConversationInvariant start H B) {t : Task} {s₀ : Session}
include hI

theorem runCalls_asks (turn : Turn) :
    ∀ (calls : List ToolCall) (l : Loop) (s : Session), B calls l.history → s₀.Asks H s →
      wp (runCalls t turn calls l) (AsksAfter H s₀) (fun s' => s₀.Asks H s') s
  | [], l, s, hb, hs => by
    refine wp_afterCalls (fun _ => hs) (fun h hh => ⟨?_, hs⟩)
    rcases hh with rfl | rfl
    · exact (hI.finish _ hb).1
    · exact (hI.finish _ hb).2
  | call :: rest, l, s, hb, hs => by
    refine wp_runCalls_cons (fun _ => hs) (fun _ _ _ => hs)
      (fun _ g _ => runCalls_asks turn rest _ _ (hI.result _ _ _ _ hb) hs)
      (fun _ g _ s' c x _ hasked _ => ?_)
    have hs' : s₀.Asks H s' := hs.of_asked hasked
    exact ⟨hs', ⟨hI.condense _ _ _ _ hb, hs'⟩,
      runCalls_asks turn rest _ _ (hI.result _ _ _ _ hb) hs'⟩

theorem reply_asks {l : Loop} {turn : Turn} {s : Session} (hl : H l.history)
    (hs : s₀.Asks H s) :
    wp (reply t l turn) (AsksAfter H s₀) (fun s' => s₀.Asks H s') s :=
  wp_reply (fun _ h => h.asks hs) (fun _ _ h => h.asks hs)
    (fun _ _ _ _ h hmsg => ⟨hI.prompt _ _ _ hl hmsg, h.asks hs⟩)
    (fun _ _ calls _ h hne => runCalls_asks hI turn calls _ _ (hI.calls _ _ _ hl hne) (h.asks hs))

theorem turnOnce_asks {l : Loop} {s : Session} (hl : H l.history) (hs : s₀.Asks H s) :
    wp (turnOnce t l) (AsksAfter H s₀) (fun s' => s₀.Asks H s') s :=
  wp_turnOnce hI.truncate hl (fun _ _ h => h.asks hs) (fun _ h => h.asks hs)
    (fun _ _ _ _ h hh => reply_asks hI hh (h.asks hs))

theorem loop_asks (fuel : Nat) (l : Loop) {s : Session} (hl : H l.history)
    (hs : s₀.Asks H s) :
    wp (loop t fuel l) (fun _ s' => s₀.Asks H s') (fun s' => s₀.Asks H s') s := by
  refine wp_loop (fun l s => H l.history ∧ s₀.Asks H s) (fun l s h => ?_)
    (fun _ _ _ h => h.2) (fun _ _ _ h => h) fuel l s ⟨hl, hs⟩
  refine wp_mono (turnOnce_asks hI h.1 h.2) (fun f s' hf => ?_) (fun _ h => h)
  cases f with
  | stop => exact hf
  | next l' => exact hf

end Loop

/-- A property of conversations that the loop's every change keeps, from the conversation a
task opens with, holds of every conversation the task sends to the model. -/
theorem run_asks_invariant {H : List Message → Prop} {B : List ToolCall → List Message → Prop}
    (s : Session) (settings : Settings) (prompt : String) (request : Value)
    (hI : ConversationInvariant (Loop.start settings prompt request).history H B) :
    s.Asks H (s.run settings prompt request) := by
  refine run_of_wp (P := fun s' => s.Asks H s') ?_
  refine wp_runTask (fun _ => Session.Asks.refl H s) (fun _ => ?_)
  -- a crash adds a step and no request
  exact wp_mono (loop_asks hI _ _ hI.start (Session.Asks.refl H s)) (fun _ _ h => h)
    (fun _ h _ => h)

end CodingAgent.Agent
