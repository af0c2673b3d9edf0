import CodingAgent.Proofs.ValueText
import CodingAgent.Proofs.CleanValues
import CodingAgent.Stream.Delta
import CodingAgent.Conversation.Message

/-!
# Recorded arguments read back

An assistant message records each call with its arguments written as JSON text, characters
kept as they are (`ToolCall.toRef`), and the payload of the record carries that text under
`function.arguments`. Reading the text back as call arguments (`parseArguments`) gives the
arguments of the call again, for every object of arguments that JSON text can carry
(`MembersReadable`) and that fits in the reader's nesting room.

Integers are where this stops: converting an integer of more than 4300 digits to text fails,
so a call whose arguments hold one has no record at all.

* `parseArguments_render`: the text of an object, under a style the reader takes, reads back as
  the object;
* `intsFit_of_readable`: a value whose text reads back can be written;
* `recorded_arguments_read_back`: a call of readable arguments has a record, its payload
  carries the text of the arguments, and that text reads back as the arguments;
* `long_integer_argument_unrecorded`: a call whose argument has 4301 digits has no record.
-/

namespace CodingAgent.Json

open CodingAgent.Text

/-- The text of an object starts with its opening brace and ends with its closing one. -/
theorem toList_render_obj (st : Style) (ms : Members) :
    ((Value.obj ms).render st).toList = '\x7b' :: ((renderMembers st ms).toList ++ ['\x7d']) := by
  simp [Value.render]

/-- An integer refused for its length stops the reading of a value. -/
theorem scanValue_long_int {n : Int} (hlong : digitLimit < (Nat.toDigits 10 n.natAbs).length)
    {rest : List Char} (hr : NumberEnd rest) (fuel p room : Nat) :
    scanValue (fuel + 1) ((toString n).toList ++ rest) p room =
      .error ⟨.tooManyDigits (Nat.toDigits 10 n.natAbs).length, p⟩ := by
  have hparts : NumberParts (Nat.toDigits 10 n.natAbs) [] none :=
    ⟨intDigits_toDigits _, by simp, by simp⟩
  rw [toList_toString_numberChars, scanValue_numberChars (intDigits_toDigits _),
    scanNumber_numberChars hparts hr, if_pos ⟨rfl, rfl⟩, if_pos hlong]

/-- A value that fails to read fails the whole text. -/
theorem readText_scan_error {room : Nat} {doc : String} {c : Char} {cs : List Char}
    (hd : doc.toList = c :: cs) (hc : isBlank c = false) {e : ReadError}
    (h : scanValue (cs.length + 2) (c :: cs) 0 room = .error e) : readText room doc = .error e := by
  unfold readText
  rw [hd, skipBlanks_of_head (fun d hd => by cases hd; exact hc)]
  dsimp only
  rw [List.length_cons, h]

/-- A failure for the reader's limits is no malformed text: it is handed on. -/
theorem readLenient_error {room : Nat} {doc : String} (hd : doc.toList.head? ≠ some '\uFEFF')
    {e : ReadError} (h : readText room doc = .error e) (hm : e.isMalformed = false) :
    readLenient room doc = .error e := by
  unfold readLenient readAll
  rw [if_neg (by simpa using hd), h]
  simp [hm]

/-- Ten to the power `k` has `k + 1` digits. -/
theorem length_toDigits_ten_pow (k : Nat) : (Nat.toDigits 10 ((10 : Int) ^ k).natAbs).length = k + 1 := by
  rw [Int.natAbs_pow]
  show (Nat.toDigits 10 (10 ^ k)).length = k + 1
  have hle := (Nat.length_toDigits_le_iff (b := 10) (n := 10 ^ k) (by decide) (Nat.succ_pos k)).2
    (Nat.pow_lt_pow_right (by decide) (Nat.lt_succ_self k))
  rcases Nat.eq_zero_or_pos k with rfl | hk
  · rfl
  · have hgt : ¬(Nat.toDigits 10 (10 ^ k)).length ≤ k := fun h =>
      absurd ((Nat.length_toDigits_le_iff (by decide) hk).1 h) (Nat.lt_irrefl _)
    omega

end CodingAgent.Json

namespace CodingAgent

open CodingAgent.Json CodingAgent.Text

theorem trim_render_obj (st : Style) (ms : Members) :
    trim ((Value.obj ms).render st) = (Value.obj ms).render st := by
  apply Recovery.trim_of_ends
  · rw [toList_render_obj]
    intro c hc
    cases hc
    decide
  · rw [toList_render_obj, ← List.cons_append, List.getLast?_append]
    intro c hc
    cases hc
    decide

theorem isEmpty_render_obj (st : Style) (ms : Members) : ((Value.obj ms).render st).isEmpty = false := by
  have hl : ((Value.obj ms).render st).toList ≠ [] := by
    rw [toList_render_obj]
    exact List.cons_ne_nil _ _
  simpa [String.isEmpty_iff] using hl

/-- The text of an object is read as call arguments whole: nothing is trimmed, and a reading
that fails for the reader's limits is that failure. -/
theorem parseArguments_render_obj (st : Style) (ms : Members) (room : Nat) :
    parseArguments room (.str ((Value.obj ms).render st)) =
      match readLenient room ((Value.obj ms).render st) with
      | .ok (some (.obj ms)) => .ok (.obj ms)
      | .ok _ => .ok (.obj [])
      | .error e => .error (.beyondLimits e) := by
  unfold parseArguments
  dsimp only
  rw [trim_render_obj, isEmpty_render_obj]
  rfl

/-- **The text of an object reads back as call arguments**, when its members are readable and
its nesting fits the room. -/
theorem parseArguments_render {st : Style} (hst : st.Separated) {ms : Members}
    (hr : MembersReadable st.asciiOnly ms) {room : Nat} (hn : (Value.obj ms).nesting ≤ room) :
    parseArguments room (.str ((Value.obj ms).render st)) = .ok (.obj ms) := by
  rw [parseArguments_render_obj, readLenient_render hst (show (Value.obj ms).Readable st.asciiOnly from hr) hn]

/-- The arguments a call records: its object of arguments as it is. -/
theorem recordedArguments_obj {c : ToolCall} {ms : Members} (hc : c.arguments = .obj ms) :
    c.recordedArguments = .obj ms := by
  unfold ToolCall.recordedArguments Value.orElse
  split
  · exact hc
  · -- an object that counts as false is empty
    rename_i hf
    rw [hc] at hf
    cases ms with
    | nil => rfl
    | cons m ms => simp [Value.truthy] at hf

mutual
/-- A value whose text reads back holds no integer too long to be written. -/
theorem intsFit_of_readable {a : Bool} : ∀ v : Value, v.Readable a → v.intsFit = true
  | .null, _ => rfl
  | .bool _, _ => rfl
  | .int _, h => decide_eq_true h
  | .num _, _ => rfl
  | .str _, _ => rfl
  | .arr xs, h => itemsFit_of_readable xs h
  | .obj ms, h => membersFit_of_readable ms h

theorem itemsFit_of_readable {a : Bool} : ∀ xs : List Value, ItemsReadable a xs → itemsFit xs = true
  | [], _ => rfl
  | x :: rest, ⟨hx, hrest⟩ => by
    rw [itemsFit, intsFit_of_readable x hx, itemsFit_of_readable rest hrest, Bool.and_self]

theorem membersFit_of_readable {a : Bool} :
    ∀ ms : Members, MembersReadable a ms → membersFit ms = true
  | [], _ => rfl
  | (_, v) :: rest, ⟨_, _, hv, hrest⟩ => by
    rw [membersFit, intsFit_of_readable v hv, membersFit_of_readable rest hrest, Bool.and_self]
end

/-- A call whose arguments are readable members has the record `ToolCall.record` makes. -/
theorem toRef_of_readable {c : ToolCall} {ms : Members} (hc : c.arguments = .obj ms)
    (hr : MembersReadable false ms) : c.toRef = .ok c.record := by
  have hfit : (Value.obj ms).intsFit = true := membersFit_of_readable ms hr
  rw [ToolCall.toRef, recordedArguments_obj hc, if_pos hfit]

/-- **Recorded arguments read back.** A call whose arguments are an object of readable members
has a record; its payload carries the text of the arguments under `function.arguments`, and
that text reads back as the arguments when their nesting fits the reader's room. -/
theorem recorded_arguments_read_back {c : ToolCall} {ms : Members} (hc : c.arguments = .obj ms)
    (hr : MembersReadable false ms) {room : Nat} (hn : (Value.obj ms).nesting ≤ room) :
    ∃ r, c.toRef = .ok r ∧ (r.payload.getD "function").getD "arguments" = .str r.arguments ∧
      parseArguments room (.str r.arguments) = .ok c.arguments := by
  have htext : c.record.arguments = (Value.obj ms).render {} := by
    simp only [ToolCall.record, recordedArguments_obj hc, Value.dump, Value.write]
    rfl
  refine ⟨c.record, toRef_of_readable hc hr, ?_, ?_⟩
  · simp [CallRecord.payload, Value.getD, Value.get?, Members.get?]
  · rw [htext, hc]
    exact parseArguments_render separated_default hr hn

theorem recorded_arguments_read_back_at_one :
    let c : ToolCall := { id := .str "call_1", name := .str "f", arguments := .obj [("a", .int 1)] }
    ∃ r, c.toRef = .ok r ∧ (r.payload.getD "function").getD "arguments" = .str r.arguments ∧
      parseArguments entryRoom (.str r.arguments) = .ok c.arguments := by
  intro c
  have hr : MembersReadable false [("a", .int 1)] := by
    refine ⟨⟨by decide, fun h => absurd h (by decide)⟩, by simp, ?_, trivial⟩
    simp only [Value.Readable, digitLimit]
    decide
  exact @recorded_arguments_read_back c [("a", .int 1)] rfl hr entryRoom (by decide)

/-- A call whose one argument is ten to the power 4300, an integer of 4301 digits, has no
record: its arguments cannot be written as text. -/
theorem long_integer_argument_unrecorded :
    ToolCall.toRef
        { id := .str "call_1", name := .str "f", arguments := .obj [("a", .int (10 ^ 4300))] } =
      .error .longInteger := by
  have hdigits : (Nat.toDigits 10 (10 ^ 4300 : Int).natAbs).length = 4301 :=
    length_toDigits_ten_pow 4300
  have hlong : (Value.obj [("a", .int (10 ^ 4300))]).intsFit = false := by
    simp only [Value.intsFit, membersFit, hdigits, digitLimit, Bool.and_true]
    decide
  rw [ToolCall.toRef, recordedArguments_obj rfl, hlong]
  rfl

end CodingAgent
