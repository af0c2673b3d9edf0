import CodingAgent.Stream.Delta

/-!
# Reading with more nesting room

The reader takes a nesting *room*: an array or object opened when none is left stops the
reading with `tooDeep`. Room is checked there and nowhere else, so a reading that did not stop
for lack of room reads the same with more room. Callers that read the same text at different
depths of the program (a streamed call's arguments are read a few calls deeper than a whole
response's) therefore agree whenever the deeper reading succeeds.

* `scan_room_stable`: the three scanners, by induction on the fuel.
* `readLenient_room_stable`, `parseArguments_room_stable`: a reading that succeeds succeeds
  alike with more room.
-/

namespace CodingAgent.Json

/-- Whether a failure is for lack of nesting room. -/
def ReadError.isDeep (e : ReadError) : Bool :=
  match e.fault with
  | .tooDeep _ => true
  | _ => false

/-- Whether a reading stopped for lack of nesting room. -/
def outOfRoom {α : Type} : Except ReadError α → Bool
  | .error e => e.isDeep
  | .ok _ => false

/-- A scan that opened an array or object without running out of room had room left. -/
theorem room_ne_zero_of_opened {α : Type} {room p : Nat} {b : Bool} {x : Except ReadError α}
    (h : outOfRoom (if room == 0 then .error ⟨.tooDeep b, p⟩ else x) = false) : room ≠ 0 := by
  rintro rfl
  simp [outOfRoom, ReadError.isDeep] at h

/-- More room changes no scan that did not run out of room: the room is only checked where an
array or object opens, and is otherwise passed on, one level less inside. -/
theorem scan_room_stable (fuel : Nat) :
    (∀ cs p room room', room ≤ room' → outOfRoom (scanValue fuel cs p room) = false →
      scanValue fuel cs p room' = scanValue fuel cs p room) ∧
    (∀ cs p room room' acc, room ≤ room' → outOfRoom (scanItems fuel cs p room acc) = false →
      scanItems fuel cs p room' acc = scanItems fuel cs p room acc) ∧
    (∀ cs p room room' acc, room ≤ room' → outOfRoom (scanMembers fuel cs p room acc) = false →
      scanMembers fuel cs p room' acc = scanMembers fuel cs p room acc) := by
  induction fuel with
  | zero => refine ⟨fun _ _ _ _ _ _ => ?_, fun _ _ _ _ _ _ _ => ?_, fun _ _ _ _ _ _ _ => ?_⟩ <;>
      simp only [scanValue, scanItems, scanMembers]
  | succ n ih =>
    obtain ⟨ihv, ihi, ihm⟩ := ih
    refine ⟨?_, ?_, ?_⟩
    · intro cs p room room' hle hroom
      unfold scanValue at hroom ⊢
      split
      · rfl
      · -- an object: the room is checked, then the members are read with one level less
        have h0 := room_ne_zero_of_opened hroom
        simp only [beq_iff_eq, h0, show room' ≠ 0 by omega, if_false] at hroom ⊢
        generalize skipBlanks _ (p + 1) = sb at hroom ⊢
        obtain ⟨rest', q⟩ := sb
        dsimp only at hroom ⊢
        split
        · rfl
        · rename_i hne
          split at hroom
          · exact absurd rfl (hne _)
          · exact ihm rest' q (room - 1) (room' - 1) [] (by omega) hroom
      · -- an array: the room is checked, then the items are read with one level less
        have h0 := room_ne_zero_of_opened hroom
        simp only [beq_iff_eq, h0, show room' ≠ 0 by omega, if_false] at hroom ⊢
        generalize skipBlanks _ (p + 1) = sb at hroom ⊢
        obtain ⟨rest', q⟩ := sb
        dsimp only at hroom ⊢
        split
        · rfl
        · rename_i hne
          split at hroom
          · exact absurd rfl (hne _)
          · exact ihi rest' q (room - 1) (room' - 1) [] (by omega) hroom
      · rfl
    · intro cs p room room' acc hle hroom
      unfold scanItems at hroom ⊢
      -- the item is read with the same room, then the loop goes on with it
      cases hv : scanValue n cs p room with
      | error e =>
        rw [hv] at hroom
        rw [ihv cs p room room' hle (by rw [hv]; exact hroom), hv]
      | ok r =>
        obtain ⟨v, rest, q⟩ := r
        rw [hv] at hroom
        rw [ihv cs p room room' hle (by rw [hv]; rfl), hv]
        dsimp only at hroom ⊢
        generalize skipBlanks rest q = sb at hroom ⊢
        obtain ⟨rest', q'⟩ := sb
        dsimp only at hroom ⊢
        split
        · rfl
        · exact ihi _ _ room room' (v :: acc) hle hroom
        · rfl
    · intro cs p room room' acc hle hroom
      unfold scanMembers at hroom ⊢
      split
      · -- a key and a colon, then the value is read with the same room and the loop goes on
        simp only at hroom
        cases hs : scanString p (_ + 1) _ (p + 1) [] with
        | error e => rfl
        | ok r =>
          obtain ⟨key, rest1, q1⟩ := r
          simp only [hs] at hroom ⊢
          generalize skipBlanks rest1 q1 = sb at hroom ⊢
          obtain ⟨rest2, q2⟩ := sb
          simp only at hroom ⊢
          split
          · simp only at hroom
            generalize skipBlanks _ (q2 + 1) = sb at hroom ⊢
            obtain ⟨rest3, q3⟩ := sb
            simp only at hroom ⊢
            cases hv : scanValue n rest3 q3 room with
            | error e =>
              rw [hv] at hroom
              rw [ihv rest3 q3 room room' hle (by rw [hv]; exact hroom), hv]
            | ok r =>
              obtain ⟨v, rest4, q4⟩ := r
              rw [hv] at hroom
              rw [ihv rest3 q3 room room' hle (by rw [hv]; rfl), hv]
              simp only at hroom ⊢
              generalize skipBlanks rest4 q4 = sb at hroom ⊢
              obtain ⟨rest5, q5⟩ := sb
              simp only at hroom ⊢
              split
              · rfl
              · exact ihm _ _ room room' _ hle hroom
              · rfl
          · rfl
      · rfl

theorem readText_room_stable {room room' : Nat} {doc : String} (hle : room ≤ room')
    (h : outOfRoom (readText room doc) = false) : readText room' doc = readText room doc := by
  unfold readText at h ⊢
  generalize skipBlanks doc.toList 0 = sb at h ⊢
  obtain ⟨rest, p⟩ := sb
  simp only at h ⊢
  -- the value is scanned with the room; what follows it does not depend on the room
  cases hv : scanValue (rest.length + 1) rest p room with
  | error e =>
    rw [hv] at h
    simp only at h
    rw [(scan_room_stable _).1 rest p room room' hle (by rw [hv]; exact h), hv]
  | ok r =>
    rw [(scan_room_stable _).1 rest p room room' hle (by rw [hv]; rfl), hv]

theorem readAll_room_stable {room room' : Nat} {doc : String} (hle : room ≤ room')
    (h : outOfRoom (readAll room doc) = false) : readAll room' doc = readAll room doc := by
  unfold readAll at h ⊢
  split
  · rfl
  · rw [if_neg ‹_›] at h
    exact readText_room_stable hle h

/-- A lenient reading that gives an answer gives the same one with more room. -/
theorem readLenient_room_stable {room room' : Nat} {doc : String} {o : Option Value}
    (hle : room ≤ room') (h : readLenient room doc = .ok o) : readLenient room' doc = .ok o := by
  unfold readLenient at h ⊢
  -- the reading did not run out of room, since running out is no malformed text
  have hroom : outOfRoom (readAll room doc) = false := by
    revert h
    cases readAll room doc with
    | error e =>
      obtain ⟨fault, pos⟩ := e
      cases fault <;> simp [outOfRoom, ReadError.isDeep, ReadError.isMalformed]
    | ok v => simp [outOfRoom]
  rwa [readAll_room_stable hle hroom]

/-- Arguments read within some room are read alike with more. -/
theorem parseArguments_room_stable {room room' : Nat} {raw v : Value} (hle : room ≤ room')
    (h : parseArguments room raw = .ok v) : parseArguments room' raw = .ok v := by
  -- only text is read; every other value is taken or refused whatever the room
  cases raw with
  | str s =>
    simp only [parseArguments] at h ⊢
    by_cases ht : (CodingAgent.Text.trim s).isEmpty = true
    · simpa only [ht, if_true] using h
    · simp only [ht, Bool.false_eq_true, if_false] at h ⊢
      cases hr : readLenient room (CodingAgent.Text.trim s) with
      | error e => simp [hr] at h
      | ok o =>
        rw [hr] at h
        rw [readLenient_room_stable hle hr]
        exact h
  | null => exact h
  | bool b => exact h
  | int n => exact h
  | num x => exact h
  | arr xs => exact h
  | obj ms => exact h

end CodingAgent.Json
