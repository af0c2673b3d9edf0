import Mathlib.Data.List.Forall2
import CodingAgent.Context.Truncate

/-!
# What truncation does to the shape of a conversation

`Context.truncate` fits a conversation into a budget, and this module says how far it can
change it. The result is the conversation itself, or its first two messages, one note and
its `keep` last messages; and then some of its messages are shortened. A shortened message
keeps its role, the call it answers and the calls it records (`Message.Shrinks`), and it
keeps its content unless that is longer than `longMessageTokens`. The first message is never
shortened.

`truncate_shape` is the one statement later proofs use.
-/

namespace CodingAgent

open CodingAgent.Json

/-- `m'` is `m`, or `m` shortened: the role, the call answered and the calls recorded stay,
and a content of at most `Context.longMessageTokens` tokens stays too. -/
structure Message.Shrinks (m m' : Message) : Prop where
  role : m'.role = m.role
  toolCallId : m'.toolCallId = m.toolCallId
  toolCalls : m'.toolCalls = m.toolCalls
  content : ∀ n, Context.contentTokens m.content = .ok n → n ≤ Context.longMessageTokens →
    m'.content = m.content

theorem Message.Shrinks.refl (m : Message) : m.Shrinks m :=
  ⟨rfl, rfl, rfl, fun _ _ _ => rfl⟩

theorem Message.Shrinks.trans {m m' m'' : Message} (h : m.Shrinks m') (h' : m'.Shrinks m'') :
    m.Shrinks m'' := by
  refine ⟨h'.role.trans h.role, h'.toolCallId.trans h.toolCallId,
    h'.toolCalls.trans h.toolCalls, fun n hn hle => ?_⟩
  -- a content short enough to stay once stays again
  have hsame : m'.content = m.content := h.content n hn hle
  rw [← hsame] at hn
  exact (h'.content n hn hle).trans hsame

theorem Message.Shrinks.forall₂_refl (ms : List Message) : List.Forall₂ Message.Shrinks ms ms :=
  List.forall₂_same.2 fun m _ => Message.Shrinks.refl m

/-- Shortening keeps every role, in place. -/
theorem Message.Shrinks.map_role {ms ms' : List Message} (h : List.Forall₂ Message.Shrinks ms ms') :
    ms'.map Message.role = ms.map Message.role := by
  induction h with
  | nil => rfl
  | cons hm _ ih => simp [hm.role, ih]

end CodingAgent

namespace CodingAgent.Text

/-- Reading code points never makes more of them than there are characters. -/
theorem codePoints_length_le : ∀ cs : List Char, (codePoints cs).length ≤ cs.length
  | [] => by simp [codePoints]
  | [c] => by simp [codePoints]
  | c :: d :: more => by
    have hmore := codePoints_length_le more
    have hnext := codePoints_length_le (d :: more)
    unfold codePoints
    split
    · simp only [List.length_cons] at hnext ⊢
      omega
    · simp only [List.length_cons] at hnext ⊢
      omega

end CodingAgent.Text

namespace CodingAgent.Context

open CodingAgent CodingAgent.Json

/-- The tokens of a text content are the text's estimate. -/
@[simp] theorem contentTokens_str (text : String) : contentTokens (.str text) = .ok (estimateTokens text) := by
  unfold contentTokens
  cases hempty : text.isEmpty
  · simp [Value.truthy, hempty]
  · simp [Value.truthy, hempty, estimateTokens]

theorem shrinkOne_shrinks {m m' : Message} (h : shrinkOne m = .ok m') : m.Shrinks m' := by
  unfold shrinkOne at h
  simp only [bind, Except.bind, pure, Except.pure] at h
  split at h
  · cases h
    exact Message.Shrinks.refl m
  · split at h
    · cases h
    · rename_i tokens htokens
      split at h
      · cases h
        exact Message.Shrinks.refl m
      · rename_i hlong
        split at h
        · cases h
        · cases h
          refine ⟨rfl, rfl, rfl, fun n hn hle => ?_⟩
          rw [htokens] at hn
          cases hn
          exact absurd hle hlong

/-- Shortening from the front of `rest` keeps what was passed and shortens the rest in
place. -/
theorem shrinkFrom_shrinks {b : Budget} :
    ∀ {done rest out : List Message}, shrinkFrom b done rest = .ok out →
      ∃ rest', out = done ++ rest' ∧ List.Forall₂ Message.Shrinks rest rest'
  | done, [], out, h => by
    cases h
    exact ⟨[], by simp, .nil⟩
  | done, m :: rest, out, h => by
    unfold shrinkFrom at h
    simp only [bind, Except.bind, pure, Except.pure] at h
    split at h
    · cases h
    · split at h
      · cases h
        exact ⟨m :: rest, rfl, Message.Shrinks.forall₂_refl _⟩
      · split at h
        · cases h
        · rename_i m' hm'
          obtain ⟨rest', rfl, hrest⟩ := shrinkFrom_shrinks h
          exact ⟨m' :: rest', by simp, .cons (shrinkOne_shrinks hm') hrest⟩

/-- Shortening long messages keeps the first one and shortens the others in place. -/
theorem shrinkLong_shrinks {ms out : List Message} {b : Budget} (h : shrinkLong ms b = .ok out) :
    out.head? = ms.head? ∧ List.Forall₂ Message.Shrinks ms out := by
  cases ms with
  | nil =>
    cases h
    exact ⟨rfl, .nil⟩
  | cons first rest =>
    obtain ⟨rest', rfl, hrest⟩ := shrinkFrom_shrinks h
    exact ⟨rfl, .cons (Message.Shrinks.refl first) hrest⟩

/-- What truncation can do: cut the middle of a conversation that is longer than its first
two and its `keep` last messages down to one note, and then shorten messages other than the
first. -/
theorem truncate_shape {ms out : List Message} {b : Budget} {keep : Int}
    (h : truncate ms b keep = .ok out) :
    ∃ mid, (mid = ms ∨ 2 + keep.toNat < ms.length ∧
        mid = ms.take 2 ++ truncationNote (ms.length - 2 - keep.toNat) ::
          ms.drop (ms.length - keep.toNat)) ∧
      out.head? = mid.head? ∧ List.Forall₂ Message.Shrinks mid out := by
  unfold truncate truncateOver at h
  simp only [bind, Except.bind, pure, Except.pure] at h
  split at h
  · cases h
  · split at h
    · cases h
      exact ⟨ms, .inl rfl, rfl, Message.Shrinks.forall₂_refl _⟩
    · split at h
      · rename_i hlong
        split at h
        · cases h
        · split at h
          · cases h
            exact ⟨_, .inr ⟨hlong, rfl⟩, rfl, Message.Shrinks.forall₂_refl _⟩
          · exact ⟨_, .inr ⟨hlong, rfl⟩, shrinkLong_shrinks h⟩
      · exact ⟨ms, .inl rfl, shrinkLong_shrinks h⟩

/-! ## Conversations that truncation only cuts

A conversation whose messages are all short is not shortened: when it is over the budget and
longer than its first two and `keep` last messages, truncation gives exactly the cut
(`truncate_cut`). Token counts are bounded from the text's length, whatever its characters. -/

/-- A code point costs at most a wide character's quarter tokens. -/
theorem codeQuarters_le (n : Nat) : codeQuarters n ≤ 6 := by
  unfold codeQuarters
  split <;> omega

theorem quarters_le : ∀ ns : List Nat, quarters ns ≤ 6 * ns.length
  | [] => by simp [quarters]
  | n :: rest => by
    have hn := codeQuarters_le n
    have hrest := quarters_le rest
    simp only [quarters, List.length_cons]
    omega

/-- A text of `n` characters is estimated at no more than `2 * n + 1` tokens. -/
theorem estimateTokens_le (s : String) : estimateTokens s ≤ 2 * s.toList.length + 1 := by
  unfold estimateTokens
  split
  · omega
  · have hq := quarters_le (CodingAgent.Text.codePoints s.toList)
    have hc := CodingAgent.Text.codePoints_length_le s.toList
    omega

/-- A text that is not empty is estimated at one token at least. -/
theorem one_le_estimateTokens {s : String} (h : s.isEmpty = false) : 1 ≤ estimateTokens s := by
  unfold estimateTokens
  rw [h]
  exact Nat.le_max_left _ _

/-- The token count of a message can be taken. -/
def Counted (m : Message) : Prop :=
  ∃ n, messageTokens m = .ok n

/-- Shortening leaves the message as it is: it is a system message, or its content has at most
`longMessageTokens` tokens. -/
def Short (m : Message) : Prop :=
  m.role = .system ∨ ∃ n, contentTokens m.content = .ok n ∧ n ≤ longMessageTokens

theorem conversationTokens_ok : ∀ {ms : List Message}, (∀ m ∈ ms, Counted m) →
    ∃ n, conversationTokens ms = .ok n
  | [], _ => ⟨0, rfl⟩
  | m :: rest, h => by
    obtain ⟨k, hk⟩ := h m List.mem_cons_self
    obtain ⟨n, hn⟩ := conversationTokens_ok fun m' hm' => h m' (List.mem_cons_of_mem m hm')
    refine ⟨k + n, ?_⟩
    simp only [conversationTokens, hk, hn, bind, Except.bind, pure, Except.pure]

theorem shrinkOne_of_short {m : Message} (h : Short m) : shrinkOne m = .ok m := by
  unfold shrinkOne
  simp only [bind, Except.bind, pure, Except.pure]
  by_cases hsys : m.role = .system
  · simp [hsys]
  · obtain ⟨n, hn, hle⟩ := h.resolve_left hsys
    have hne : (m.role == .system) = false := by simpa using hsys
    simp [hne, hn, hle]

/-- Shortening from the front of short messages leaves them as they are. -/
theorem shrinkFrom_of_short {b : Budget} : ∀ {done rest : List Message},
    (∀ m ∈ rest, Short m) → (∀ m ∈ done ++ rest, Counted m) →
      shrinkFrom b done rest = .ok (done ++ rest)
  | done, [], _, _ => by simp [shrinkFrom]
  | done, m :: rest, hshort, hcount => by
    obtain ⟨n, hn⟩ := conversationTokens_ok hcount
    have hm : shrinkOne m = .ok m := shrinkOne_of_short (hshort m List.mem_cons_self)
    have hrest : shrinkFrom b (done ++ [m]) rest = .ok (done ++ [m] ++ rest) :=
      shrinkFrom_of_short (fun m' hm' => hshort m' (List.mem_cons_of_mem m hm'))
        (by simpa using hcount)
    unfold shrinkFrom
    simp only [hn, hm, hrest, bind, Except.bind, pure, Except.pure]
    split <;> simp

/-- A conversation of short messages that is over the budget and longer than its first two
and `keep` last messages is cut, and nothing more. -/
theorem truncate_cut {ms : List Message} {b : Budget} {keep : Int} {n : Nat}
    (htokens : conversationTokens ms = .ok n) (hover : b.admits n = false)
    (hlong : 2 + keep.toNat < ms.length)
    (hcount : ∀ m ∈ ms.take 2 ++ truncationNote (ms.length - 2 - keep.toNat) ::
      ms.drop (ms.length - keep.toNat), Counted m)
    (hshort : ∀ m ∈ (ms.take 2).tail ++ truncationNote (ms.length - 2 - keep.toNat) ::
      ms.drop (ms.length - keep.toNat), Short m) :
    truncate ms b keep =
      .ok (ms.take 2 ++ truncationNote (ms.length - 2 - keep.toNat) ::
        ms.drop (ms.length - keep.toNat)) := by
  obtain ⟨n', hn'⟩ := conversationTokens_ok hcount
  obtain ⟨first, second, rest, rfl⟩ : ∃ first second rest, ms = first :: second :: rest := by
    rcases ms with _ | ⟨first, _ | ⟨second, rest⟩⟩
    · simp at hlong
    · simp at hlong
    · exact ⟨first, second, rest, rfl⟩
  -- after the cut, shortening starts at the second message and changes none
  have hshrink := @shrinkFrom_of_short b [first] _ hshort (by simpa using hcount)
  unfold truncate truncateOver
  simp only [htokens, hover, hn', bind, Except.bind, pure, Except.pure, Bool.false_eq_true,
    if_false, gt_iff_lt, hlong, if_true]
  split
  · rfl
  · simpa [shrinkLong] using hshrink

end CodingAgent.Context
