import CodingAgent.Proofs.StringText
import CodingAgent.Proofs.NumberText

/-!
# Values read back from their text

`Value.render` writes a value under a `Style`; `scanValue` reads one. For a style whose
separators are a comma and a colon with blanks around them (`Style.Separated`), the text of a
value reads back as the value itself, followed by whatever came after it, at every nesting
the reader has room for. The value has to be one the text can carry (`Value.Readable`):

* an integer of at most 4300 digits (the reader refuses longer ones);
* a finite double (the text of NaN and the infinities is read back, but a NaN is no value
  equal to itself);
* texts that read back as themselves (`ReadableText`, see `scanString_quote`);
* object keys without repeats (the reader keeps one member per key).

The proof follows the writer: one mutual induction over values, items and members
(`scanValue_render`, `scanItems_render`, `scanMembers_render`), each step by the lemma for the
reader's step on the text it meets: blanks and separators (`skipBlanks_separator`), numbers
(`scanValue_numberChars`), texts (`scanString_quote`), and the opening brackets.
-/

namespace CodingAgent.Json

open CodingAgent.Text CodingAgent.Decimal

/-! ## What a text can carry -/

/-- A text that reads back as itself from its quoted form: canonical, and split free when the
writer escapes. -/
def ReadableText (a : Bool) (s : String) : Prop :=
  Canonical s ∧ (a = true → SplitFreeText s)

theorem readableText_of_lt_surrogates {s : String} (h : ∀ c ∈ s.toList, c.toNat < 0xD800)
    (a : Bool) : ReadableText a s :=
  ⟨canonical_of_lt_surrogates h, fun _ => splitFreeText_of_lt_surrogates h⟩

/-- The same check, computed over the characters: a literal text is settled by `decide`. -/
theorem readableText_of_all {s : String}
    (h : (s.toList.all fun c => decide (c.toNat < 0xD800)) = true) (a : Bool) : ReadableText a s :=
  readableText_of_lt_surrogates (fun c hc => by simpa using List.all_eq_true.1 h c hc) a

mutual
/-- A value whose text, written escaping when `a`, reads back as the value: integers of at most
4300 digits, finite doubles, readable texts, and objects with readable, distinct keys. -/
def Value.Readable (a : Bool) : Value → Prop
  | .int n => (Nat.toDigits 10 n.natAbs).length ≤ digitLimit
  | .num x => ∃ b, Kind.ofFloat x = .finite b
  | .str s => ReadableText a s
  | .arr xs => ItemsReadable a xs
  | .obj ms => MembersReadable a ms
  | _ => True

/-- Every item is readable. -/
def ItemsReadable (a : Bool) : List Value → Prop
  | [] => True
  | v :: rest => v.Readable a ∧ ItemsReadable a rest

/-- Every key and value is readable, and no key comes back later. -/
def MembersReadable (a : Bool) : List (String × Value) → Prop
  | [] => True
  | (k, v) :: rest => ReadableText a k ∧ k ∉ rest.map Prod.fst ∧ v.Readable a ∧ MembersReadable a rest
end

/-! ## Blanks and separators -/

/-- Blank characters only. -/
def Blanks (cs : List Char) : Prop :=
  ∀ c ∈ cs, isBlank c = true

/-- A separator around `c`: blanks, `c`, blanks. -/
def Separator (c : Char) (s : String) : Prop :=
  ∃ pre post, Blanks pre ∧ Blanks post ∧ s.toList = pre ++ c :: post

/-- A style whose separators the reader takes: a comma between items and a colon after a key,
each with blanks around it. -/
structure Style.Separated (st : Style) : Prop where
  item : Separator ',' st.itemSep
  key : Separator ':' st.keySep

/-- The usual separators, `, ` and `: `. -/
theorem separated_default : ({} : Style).Separated :=
  ⟨⟨[], [' '], by simp [Blanks], by simp [Blanks, isBlank], rfl⟩,
    ⟨[], [' '], by simp [Blanks], by simp [Blanks, isBlank], rfl⟩⟩

theorem skipBlanks_of_head {cs : List Char} (h : ∀ c ∈ cs.head?, isBlank c = false) (p : Nat) :
    skipBlanks cs p = (cs, p) := by
  cases cs with
  | nil => rfl
  | cons c cs => simp [skipBlanks, h c rfl]

theorem skipBlanks_blanks_append {bs : List Char} (hb : Blanks bs) (cs : List Char) (p : Nat) :
    skipBlanks (bs ++ cs) p = skipBlanks cs (p + bs.length) := by
  induction bs generalizing p with
  | nil => rfl
  | cons b bs ih =>
    rw [List.cons_append, skipBlanks, if_pos (hb b List.mem_cons_self),
      ih (fun c hc => hb c (List.mem_cons_of_mem b hc))]
    simp [Nat.add_assoc, Nat.add_comm 1]

/-- A separator is read as its character, with the blanks before and after it skipped. -/
theorem skipBlanks_separator {c : Char} {s : String} (h : Separator c s) (hc : isBlank c = false)
    {more : List Char} (hm : ∀ d ∈ more.head?, isBlank d = false) (q : Nat) :
    ∃ k rest, skipBlanks (s.toList ++ more) q = (c :: rest, q + k) ∧
      skipBlanks rest (q + k + 1) = (more, q + s.length) := by
  obtain ⟨pre, post, hpre, hpost, hs⟩ := h
  refine ⟨pre.length, post ++ more, ?_, ?_⟩
  · rw [hs, List.append_assoc, skipBlanks_blanks_append hpre, List.cons_append,
      skipBlanks_of_head (by simpa using hc)]
  · rw [skipBlanks_blanks_append hpost, skipBlanks_of_head hm, ← String.length_toList, hs]
    simp only [List.length_append, List.length_cons]
    congr 1
    omega

/-- A blank does not continue a number. -/
theorem numberEnd_of_blank {c : Char} (h : isBlank c = true) (cs : List Char) :
    NumberEnd (c :: cs) := by
  intro d hd
  cases hd
  simp only [isBlank, Bool.or_eq_true, beq_iff_eq] at h
  rcases h with ((rfl | rfl) | rfl) | rfl <;> decide

/-- What follows a value inside a container does not continue a number. -/
theorem numberEnd_separator {c : Char} {s : String} (h : Separator c s)
    (hc : c.isDigit = false ∧ c ≠ '.' ∧ c ≠ 'e' ∧ c ≠ 'E') (more : List Char) :
    NumberEnd (s.toList ++ more) := by
  obtain ⟨pre, post, hpre, -, hs⟩ := h
  rw [hs]
  cases pre with
  | nil =>
    intro d hd
    cases hd
    exact hc
  | cons b bs => exact numberEnd_of_blank (hpre b List.mem_cons_self) _

theorem separator_length_pos {c : Char} {s : String} (h : Separator c s) : 0 < s.length := by
  obtain ⟨pre, post, -, -, hs⟩ := h
  rw [← String.length_toList, hs]
  simp

/-! ## The first character of a value's text -/

/-- The first character of a value's text: no blank, no closing bracket, and no byte order
mark. -/
def Lead (c : Char) : Prop :=
  isBlank c = false ∧ c ≠ ']' ∧ c ≠ '\x7d' ∧ c ≠ '\uFEFF'

instance (c : Char) : Decidable (Lead c) :=
  inferInstanceAs (Decidable (_ ∧ _ ∧ _ ∧ _))

theorem lead_of_isDigit {c : Char} (h : c.isDigit = true) : Lead c := by
  simp only [isDigit_iff] at h
  refine ⟨?_, ?_, ?_, ?_⟩
  · simp only [isBlank, Bool.or_eq_false_iff, beq_eq_false_iff_ne, ne_eq]
    refine ⟨⟨⟨?_, ?_⟩, ?_⟩, ?_⟩ <;> rintro rfl <;> simp at h
  all_goals
    rintro rfl
    simp at h

theorem numberChars_lead {neg : Bool} {intDs fracDs : List Char} {expo : Option (Bool × List Char)}
    (hi : IntDigits intDs) : ∃ c cs, numberChars neg intDs fracDs expo = c :: cs ∧ Lead c := by
  obtain ⟨d, ds, rfl, hd⟩ : ∃ d ds, intDs = d :: ds ∧ d.isDigit = true := by
    rcases hi.2 with h | ⟨c, cs, h, -⟩
    · exact ⟨'0', [], h, rfl⟩
    · exact ⟨c, cs, h, hi.1 c (by rw [h]; exact List.mem_cons_self)⟩
  cases neg
  · exact ⟨d, _, rfl, lead_of_isDigit hd⟩
  · exact ⟨'-', _, rfl, by decide⟩

/-- The text of every readable value starts with a character that is no blank and closes
nothing. -/
theorem render_lead (st : Style) :
    ∀ v : Value, v.Readable st.asciiOnly → ∃ c cs, (v.render st).toList = c :: cs ∧ Lead c
  | .null, _ => ⟨'n', ['u', 'l', 'l'], by simp [Value.render], by decide⟩
  | .bool true, _ => ⟨'t', ['r', 'u', 'e'], by simp [Value.render], by decide⟩
  | .bool false, _ => ⟨'f', ['a', 'l', 's', 'e'], by simp [Value.render], by decide⟩
  | .int n, _ => by
    obtain ⟨c, cs, h, hc⟩ :=
      @numberChars_lead (decide (n < 0)) _ [] none (intDigits_toDigits n.natAbs)
    exact ⟨c, cs, by rw [Value.render, toList_toString_numberChars, h], hc⟩
  | .num x, ⟨b, hx⟩ => by
    obtain ⟨intDs, fracDs, expo, hp, -, htext, -⟩ := render_parts hx
    obtain ⟨c, cs, h, hc⟩ := @numberChars_lead b.neg _ fracDs expo hp.int
    exact ⟨c, cs, by rw [Value.render, htext, h], hc⟩
  | .str s, _ => ⟨'"', _, by rw [Value.render, toList_quote], by decide⟩
  | .arr xs, _ => ⟨'[', (renderItems st xs).toList ++ [']'], by simp [Value.render], by decide⟩
  | .obj ms, _ => ⟨'\x7b', (renderMembers st ms).toList ++ ['\x7d'], by simp [Value.render], by decide⟩

/-! ## Scalars -/

/-- Text that starts with a digit is read as a number. -/
theorem scanValue_digit {d : Char} (hd : d.isDigit = true) (T : List Char) (fuel p room : Nat) :
    scanValue (fuel + 1) (d :: T) p room = scanNumber (d :: T) p := by
  have hne : ∀ c : Char, c.isDigit = false → c ≠ d := fun c hc h => by rw [h, hd] at hc; cases hc
  rw [scanValue.eq_5 _ _ _ _ (by simpa using (hne '"' rfl).symm) (by simpa using (hne '\x7b' rfl).symm)
    (by simpa using (hne '[' rfl).symm)]
  simp [startsWithWord, List.isPrefixOf, hne 'n' rfl, hne 't' rfl, hne 'f' rfl, hne 'N' rfl,
    hne 'I' rfl, hne '-' rfl]

/-- Text that starts with a minus and a digit is read as a number. -/
theorem scanValue_minus_digit {d : Char} (hd : d.isDigit = true) (T : List Char) (fuel p room : Nat) :
    scanValue (fuel + 1) ('-' :: d :: T) p room = scanNumber ('-' :: d :: T) p := by
  have hI : 'I' ≠ d := fun h => by rw [← h] at hd; cases hd
  rw [scanValue.eq_5 _ _ _ _ (by simp) (by simp) (by simp)]
  simp [startsWithWord, List.isPrefixOf, hI]

/-- A number whose integer part the reader takes is read by the number reader. -/
theorem scanValue_numberChars {neg : Bool} {intDs fracDs : List Char}
    {expo : Option (Bool × List Char)} (hi : IntDigits intDs) (rest : List Char) (fuel p room : Nat) :
    scanValue (fuel + 1) (numberChars neg intDs fracDs expo ++ rest) p room =
      scanNumber (numberChars neg intDs fracDs expo ++ rest) p := by
  obtain ⟨d, ds, rfl, hd⟩ : ∃ d ds, intDs = d :: ds ∧ d.isDigit = true := by
    rcases hi.2 with h | ⟨c, cs, h, -⟩
    · exact ⟨'0', [], h, rfl⟩
    · exact ⟨c, cs, h, hi.1 c (by rw [h]; exact List.mem_cons_self)⟩
  cases neg
  · obtain ⟨T, hT⟩ : ∃ T, numberChars false (d :: ds) fracDs expo ++ rest = d :: T := ⟨_, rfl⟩
    rw [hT, scanValue_digit hd]
  · obtain ⟨T, hT⟩ : ∃ T, numberChars true (d :: ds) fracDs expo ++ rest = '-' :: d :: T := ⟨_, rfl⟩
    rw [hT, scanValue_minus_digit hd]

/-! ## The steps of the reader on a container -/

theorem scanValue_open_items {room : Nat} (hroom : room ≠ 0) {c : Char} (hc : Lead c) (cs : List Char)
    (fuel p : Nat) :
    scanValue (fuel + 1) ('[' :: c :: cs) p room = scanItems fuel (c :: cs) (p + 1) (room - 1) [] := by
  rw [scanValue.eq_4, skipBlanks_of_head (by simpa using hc.1)]
  simp [hroom, hc.2.1]

theorem scanValue_open_items' {room : Nat} (hroom : room ≠ 0) {items : List Char}
    (h : ∃ c t, items = c :: t ∧ Lead c) (rest : List Char) (fuel p : Nat) :
    scanValue (fuel + 1) ('[' :: (items ++ rest)) p room = scanItems fuel (items ++ rest) (p + 1) (room - 1) [] := by
  obtain ⟨c, t, rfl, hc⟩ := h
  exact scanValue_open_items hroom hc _ fuel p

theorem scanValue_open_members {room : Nat} (hroom : room ≠ 0) (cs : List Char) (fuel p : Nat) :
    scanValue (fuel + 1) ('\x7b' :: '"' :: cs) p room =
      scanMembers fuel ('"' :: cs) (p + 1) (room - 1) [] := by
  rw [scanValue.eq_3]
  simp [hroom, skipBlanks, isBlank]

theorem scanValue_empty_items {room : Nat} (hroom : room ≠ 0) (rest : List Char) (fuel p : Nat) :
    scanValue (fuel + 1) ('[' :: ']' :: rest) p room = .ok (.arr [], rest, p + 1 + 1) := by
  rw [scanValue.eq_4]
  simp [hroom, skipBlanks, isBlank]

theorem scanValue_empty_members {room : Nat} (hroom : room ≠ 0) (rest : List Char) (fuel p : Nat) :
    scanValue (fuel + 1) ('\x7b' :: '\x7d' :: rest) p room = .ok (.obj [], rest, p + 1 + 1) := by
  rw [scanValue.eq_3]
  simp [hroom, skipBlanks, isBlank]

/-- The last item, then the closing bracket. -/
theorem scanItems_last {fuel : Nat} {cs : List Char} {p room : Nat} {v : Value} {rest : List Char}
    {q : Nat} (hv : scanValue fuel cs p room = .ok (v, ']' :: rest, q)) (acc : List Value) :
    scanItems (fuel + 1) cs p room acc = .ok (.arr (v :: acc).reverse, rest, q + 1) := by
  rw [scanItems.eq_2, hv]
  simp [skipBlanks, isBlank]

/-- An item, then the item separator and the next item. -/
theorem scanItems_next {st : Style} (hst : st.Separated) {fuel : Nat} {cs : List Char} {p room : Nat}
    {v : Value} {more : List Char} {q : Nat} (hv : scanValue fuel cs p room = .ok (v, st.itemSep.toList ++ more, q))
    (hm : ∀ c ∈ more.head?, Lead c) (acc : List Value) :
    scanItems (fuel + 1) cs p room acc = scanItems fuel more (q + st.itemSep.length) room (v :: acc) := by
  obtain ⟨k, r, h1, h2⟩ := skipBlanks_separator hst.item (by decide) (fun c hc => (hm c hc).1) q
  rw [scanItems.eq_2, hv]
  simp only [h1, h2]

section Members

variable {st : Style} (hst : st.Separated) {fuel : Nat} {cs : List Char} {p room : Nat}
  {acc : Members} {k : String} {vtext : List Char} {q : Nat}
  (hk : scanString p (cs.length + 1) cs (p + 1) [] = .ok (k, st.keySep.toList ++ vtext, q))
  (hvl : ∀ c ∈ vtext.head?, Lead c)
include hst hk hvl

/-- The last member: its key, the key separator, its value, then the closing brace. -/
theorem scanMembers_last {v : Value} {rest : List Char} {q3 : Nat}
    (hv : scanValue fuel vtext (q + st.keySep.length) room = .ok (v, '\x7d' :: rest, q3)) :
    scanMembers (fuel + 1) ('"' :: cs) p room acc = .ok (.obj (acc.set k v), rest, q3 + 1) := by
  obtain ⟨k1, r1, h1, h2⟩ := skipBlanks_separator hst.key (by decide) (fun c hc => (hvl c hc).1) q
  rw [scanMembers.eq_2, hk]
  simp only [h1, h2, hv]
  simp [skipBlanks, isBlank]

/-- A member, then the item separator and the next member. -/
theorem scanMembers_next {v : Value} {more : List Char} {q3 : Nat}
    (hv : scanValue fuel vtext (q + st.keySep.length) room = .ok (v, st.itemSep.toList ++ more, q3))
    (hm : ∀ c ∈ more.head?, Lead c) :
    scanMembers (fuel + 1) ('"' :: cs) p room acc =
      scanMembers fuel more (q3 + st.itemSep.length) room (acc.set k v) := by
  obtain ⟨k1, r1, h1, h2⟩ := skipBlanks_separator hst.key (by decide) (fun c hc => (hvl c hc).1) q
  obtain ⟨k2, r2, h3, h4⟩ := skipBlanks_separator hst.item (by decide) (fun c hc => (hm c hc).1) q3
  rw [scanMembers.eq_2, hk]
  simp only [h1, h2, hv, h3, h4]

end Members

/-- A new key goes last. -/
theorem set_of_not_mem {ms : Members} {k : String} (h : k ∉ ms.map Prod.fst) (v : Value) :
    ms.set k v = ms ++ [(k, v)] := by
  have hc : ms.contains k = false := by
    simp only [Members.contains, List.any_eq_false, beq_iff_eq]
    intro kv hkv hk
    exact h (List.mem_map.2 ⟨kv, hkv, hk⟩)
  simp [Members.set, hc]

/-! ## The words -/

theorem scanValue_null (rest : List Char) (fuel p room : Nat) :
    scanValue (fuel + 1) ("null".toList ++ rest) p room = .ok (.null, rest, p + "null".length) := by
  rw [scanValue.eq_5 _ _ _ _ (by simp) (by simp) (by simp)]
  simp [startsWithWord]
  rfl

theorem scanValue_true (rest : List Char) (fuel p room : Nat) :
    scanValue (fuel + 1) ("true".toList ++ rest) p room = .ok (.bool true, rest, p + "true".length) := by
  rw [scanValue.eq_5 _ _ _ _ (by simp) (by simp) (by simp)]
  simp [startsWithWord]
  rfl

theorem scanValue_false (rest : List Char) (fuel p room : Nat) :
    scanValue (fuel + 1) ("false".toList ++ rest) p room =
      .ok (.bool false, rest, p + "false".length) := by
  rw [scanValue.eq_5 _ _ _ _ (by simp) (by simp) (by simp)]
  simp [startsWithWord]
  rfl

theorem numberEnd_cons {c : Char} (h : c.isDigit = false ∧ c ≠ '.' ∧ c ≠ 'e' ∧ c ≠ 'E')
    (cs : List Char) : NumberEnd (c :: cs) := by
  intro d hd
  cases hd
  exact h

/-- What may follow the text of a value: anything, except that a number must not go on. -/
def Follows (v : Value) (rest : List Char) : Prop :=
  match v with
  | .int _ | .num _ => NumberEnd rest
  | _ => True

theorem follows_of_numberEnd (v : Value) {rest : List Char} (h : NumberEnd rest) : Follows v rest := by
  cases v <;> first | exact h | trivial

theorem lead_head_append {l : List Char} (h : ∃ c t, l = c :: t ∧ Lead c) (r : List Char) :
    ∀ c ∈ (l ++ r).head?, Lead c := by
  obtain ⟨c, t, rfl, hc⟩ := h
  intro d hd
  cases hd
  exact hc

/-! ## Every readable value reads back -/

theorem renderItems_lead (st : Style) :
    ∀ xs : List Value, xs ≠ [] → ItemsReadable st.asciiOnly xs →
      ∃ c t, (renderItems st xs).toList = c :: t ∧ Lead c
  | [x], _, ⟨hx, _⟩ => by
    rw [renderItems]
    exact render_lead st x hx
  | x :: y :: ys, _, ⟨hx, _⟩ => by
    obtain ⟨c, t, h, hc⟩ := render_lead st x hx
    exact ⟨c, t ++ (st.itemSep.toList ++ (renderItems st (y :: ys)).toList),
      by simp [renderItems, h], hc⟩

theorem renderMembers_quote (st : Style) :
    ∀ ms : Members, ms ≠ [] → ∃ t, (renderMembers st ms).toList = '"' :: t
  | [(k, v)], _ => by simp [renderMembers, toList_quote]
  | (k, v) :: m :: ms, _ => by simp [renderMembers, toList_quote]

theorem render_length_pos (st : Style) (v : Value) (hv : v.Readable st.asciiOnly) :
    0 < (v.render st).length := by
  obtain ⟨c, cs, h, -⟩ := render_lead st v hv
  rw [← String.length_toList, h]
  simp

mutual
/-- **A value reads back from its text**, followed by anything that does not continue a number,
with room for its nesting and fuel past its length. -/
theorem scanValue_render {st : Style} (hst : st.Separated) : ∀ (v : Value), v.Readable st.asciiOnly → ∀ (room fuel : Nat),
    v.nesting ≤ room → (v.render st).length < fuel → ∀ (rest : List Char), Follows v rest →
    ∀ (p : Nat), scanValue fuel ((v.render st).toList ++ rest) p room =
      .ok (v, rest, p + (v.render st).length)
  | .null => by
    rintro _ room fuel _ hf rest _ p
    obtain ⟨f, rfl⟩ : ∃ f, fuel = f + 1 := ⟨fuel - 1, by simp [Value.render] at hf; omega⟩
    simp only [Value.render]
    exact scanValue_null rest f p room
  | .bool true => by
    rintro _ room fuel _ hf rest _ p
    obtain ⟨f, rfl⟩ : ∃ f, fuel = f + 1 := ⟨fuel - 1, by simp [Value.render] at hf; omega⟩
    simp only [Value.render]
    exact scanValue_true rest f p room
  | .bool false => by
    rintro _ room fuel _ hf rest _ p
    obtain ⟨f, rfl⟩ : ∃ f, fuel = f + 1 := ⟨fuel - 1, by simp [Value.render] at hf; omega⟩
    simp only [Value.render]
    exact scanValue_false rest f p room
  | .int n => by
    rintro hd room fuel _ hf rest hr p
    obtain ⟨f, rfl⟩ : ∃ f, fuel = f + 1 := ⟨fuel - 1, by omega⟩
    rw [Value.render, toList_toString_numberChars, scanValue_numberChars (intDigits_toDigits _),
      ← toList_toString_numberChars, scanNumber_int hd hr]
  | .num x => by
    rintro ⟨_, hx⟩ room fuel _ hf rest hr p
    obtain ⟨f, rfl⟩ : ∃ f, fuel = f + 1 := ⟨fuel - 1, by omega⟩
    obtain ⟨intDs, fracDs, expo, hp, -, htext, -⟩ := render_parts hx
    rw [Value.render, htext, scanValue_numberChars hp.int, ← htext, scanNumber_render hx hr]
  | .str s => by
    rintro hs room fuel _ hf rest _ p
    obtain ⟨f, rfl⟩ : ∃ f, fuel = f + 1 := ⟨fuel - 1, by omega⟩
    rw [Value.render, toList_quote, List.cons_append, List.append_assoc, List.singleton_append,
      scanValue.eq_2, scanString_quote hs.1 hs.2]
  | .arr [] => by
    rintro _ room fuel hn hf rest _ p
    obtain ⟨f, rfl⟩ : ∃ f, fuel = f + 1 := ⟨fuel - 1, by omega⟩
    have hroom : room ≠ 0 := by simp [Value.nesting, itemsNesting] at hn; omega
    simp only [Value.render, renderItems]
    exact scanValue_empty_items hroom rest f p
  | .arr (x :: xs) => by
    rintro hxs room fuel hn hf rest _ p
    have hn' : 1 + itemsNesting (x :: xs) ≤ room := hn
    have hroom : room ≠ 0 := by omega
    have hlen : (Value.render st (.arr (x :: xs))).length = (renderItems st (x :: xs)).length + 2 := by
      simp only [Value.render, String.length_append, show ("[" : String).length = 1 from rfl,
        show ("]" : String).length = 1 from rfl]
      omega
    obtain ⟨f, rfl⟩ : ∃ f, fuel = f + 1 := ⟨fuel - 1, by omega⟩
    have hitems := scanItems_render hst (x :: xs) (List.cons_ne_nil x xs) hxs (room - 1) f (by omega)
      (by omega) rest (p + 1) []
    have hp : p + 1 + (renderItems st (x :: xs)).length + 1 = p + ((renderItems st (x :: xs)).length + 2) := by
      omega
    rw [hlen]
    simp only [Value.render, String.toList_append, List.append_assoc]
    rw [show ("[" : String).toList = ['['] from rfl, List.singleton_append,
      show ("]" : String).toList = [']'] from rfl, List.singleton_append,
      scanValue_open_items' hroom (renderItems_lead st _ (List.cons_ne_nil x xs) hxs), hitems,
      List.reverse_nil, List.nil_append, hp]
  | .obj [] => by
    rintro _ room fuel hn hf rest _ p
    obtain ⟨f, rfl⟩ : ∃ f, fuel = f + 1 := ⟨fuel - 1, by omega⟩
    have hroom : room ≠ 0 := by simp [Value.nesting, membersNesting] at hn; omega
    simp only [Value.render, renderMembers]
    exact scanValue_empty_members hroom rest f p
  | .obj (m :: ms) => by
    rintro hms room fuel hn hf rest _ p
    have hn' : 1 + membersNesting (m :: ms) ≤ room := hn
    have hroom : room ≠ 0 := by omega
    have hlen : (Value.render st (.obj (m :: ms))).length = (renderMembers st (m :: ms)).length + 2 := by
      simp only [Value.render, String.length_append, show ("\x7b" : String).length = 1 from rfl,
        show ("\x7d" : String).length = 1 from rfl]
      omega
    obtain ⟨f, rfl⟩ : ∃ f, fuel = f + 1 := ⟨fuel - 1, by omega⟩
    have hmembers := scanMembers_render hst (m :: ms) (List.cons_ne_nil m ms) hms (room - 1) f (by omega)
      (by omega) rest (p + 1) [] (by simp)
    have hp : p + 1 + (renderMembers st (m :: ms)).length + 1 =
        p + ((renderMembers st (m :: ms)).length + 2) := by
      omega
    obtain ⟨t, ht⟩ := renderMembers_quote st (m :: ms) (List.cons_ne_nil m ms)
    rw [hlen]
    simp only [Value.render, String.toList_append, List.append_assoc]
    rw [show ("\x7b" : String).toList = ['\x7b'] from rfl, List.singleton_append,
      show ("\x7d" : String).toList = ['\x7d'] from rfl, List.singleton_append, ht, List.cons_append,
      scanValue_open_members hroom, ← List.cons_append, ← ht, hmembers, List.nil_append, hp]

/-- The members of an object, then its closing brace, after members with other keys. -/
theorem scanMembers_render {st : Style} (hst : st.Separated) : ∀ (ms : Members), ms ≠ [] → MembersReadable st.asciiOnly ms →
    ∀ (room fuel : Nat), membersNesting ms ≤ room → (renderMembers st ms).length + 1 < fuel →
    ∀ (rest : List Char) (p : Nat) (acc : Members), (∀ k ∈ ms.map Prod.fst, k ∉ acc.map Prod.fst) →
      scanMembers fuel ((renderMembers st ms).toList ++ '\x7d' :: rest) p room acc =
        .ok (.obj (acc ++ ms), rest, p + (renderMembers st ms).length + 1)
  | [] => fun h => absurd rfl h
  | [(k, v)] => by
    rintro _ hkv room fuel hn hf rest p acc hacc
    rw [MembersReadable, MembersReadable] at hkv
    obtain ⟨hk, -, hv, -⟩ := hkv
    have hn' : v.nesting ≤ room := by simpa [membersNesting] using hn
    have hlen : (renderMembers st [(k, v)]).length =
        (quote st.asciiOnly k).length + st.keySep.length + (v.render st).length := by
      simp only [renderMembers, String.length_append]
    obtain ⟨f, rfl⟩ : ∃ f, fuel = f + 1 := ⟨fuel - 1, by omega⟩
    have htext : (renderMembers st [(k, v)]).toList ++ '\x7d' :: rest =
        '"' :: (escapedChars st.asciiOnly (codePoints k.toList) ++
          '"' :: (st.keySep.toList ++ ((v.render st).toList ++ '\x7d' :: rest))) := by
      simp [renderMembers, toList_quote]
    have hkey := scanString_quote hk.1 hk.2 p p (st.keySep.toList ++ ((v.render st).toList ++ '\x7d' :: rest))
    have hval := scanValue_render hst v hv room f (by omega) (by omega) ('\x7d' :: rest)
      (follows_of_numberEnd _ (numberEnd_cons (by decide) rest))
      (p + (quote st.asciiOnly k).length + st.keySep.length)
    rw [htext, scanMembers_last hst hkey (lead_head_append (render_lead st v hv) _) hval,
      set_of_not_mem (hacc k (by simp)), hlen]
    simp [Nat.add_assoc]
  | (k, v) :: m :: ms => by
    rintro _ hkv room fuel hn hf rest p acc hacc
    rw [MembersReadable] at hkv
    obtain ⟨hk, hknew, hv, hms⟩ := hkv
    have hn' : max v.nesting (membersNesting (m :: ms)) ≤ room := by simpa [membersNesting] using hn
    have hlen : (renderMembers st ((k, v) :: m :: ms)).length = (quote st.asciiOnly k).length +
        st.keySep.length + (v.render st).length + st.itemSep.length + (renderMembers st (m :: ms)).length := by
      simp only [renderMembers, String.length_append]
    have hsep := separator_length_pos hst.item
    obtain ⟨f, rfl⟩ : ∃ f, fuel = f + 1 := ⟨fuel - 1, by omega⟩
    have htext : (renderMembers st ((k, v) :: m :: ms)).toList ++ '\x7d' :: rest =
        '"' :: (escapedChars st.asciiOnly (codePoints k.toList) ++ '"' :: (st.keySep.toList ++
          ((v.render st).toList ++ (st.itemSep.toList ++ ((renderMembers st (m :: ms)).toList ++
            '\x7d' :: rest))))) := by
      simp [renderMembers, toList_quote]
    have hkey := scanString_quote hk.1 hk.2 p p (st.keySep.toList ++ ((v.render st).toList ++
      (st.itemSep.toList ++ ((renderMembers st (m :: ms)).toList ++ '\x7d' :: rest))))
    have hval := scanValue_render hst v hv room f (by omega) (by omega)
      (st.itemSep.toList ++ ((renderMembers st (m :: ms)).toList ++ '\x7d' :: rest))
      (follows_of_numberEnd _ (numberEnd_separator hst.item (by decide) _))
      (p + (quote st.asciiOnly k).length + st.keySep.length)
    obtain ⟨t, ht⟩ := renderMembers_quote st (m :: ms) (List.cons_ne_nil m ms)
    -- the keys still to come are new after this one
    have hfresh : ∀ k' ∈ (m :: ms).map Prod.fst, k' ∉ (acc ++ [(k, v)]).map Prod.fst := by
      intro k' hk' hmem
      rw [List.map_append, List.mem_append] at hmem
      rcases hmem with h | h
      · exact hacc k' (List.mem_cons_of_mem _ hk') h
      · simp only [List.map_cons, List.map_nil, List.mem_singleton] at h
        exact hknew (h ▸ hk')
    rw [htext, scanMembers_next hst hkey (lead_head_append (render_lead st v hv) _) hval
        (lead_head_append ⟨'"', t, ht, by decide⟩ _),
      set_of_not_mem (hacc k (by simp)),
      scanMembers_render hst (m :: ms) (List.cons_ne_nil m ms) hms room f (by omega) (by omega) rest _ _ hfresh,
      hlen]
    simp [Nat.add_assoc]

/-- The items of an array, then its closing bracket. -/
theorem scanItems_render {st : Style} (hst : st.Separated) : ∀ (xs : List Value), xs ≠ [] → ItemsReadable st.asciiOnly xs →
    ∀ (room fuel : Nat), itemsNesting xs ≤ room → (renderItems st xs).length + 1 < fuel →
    ∀ (rest : List Char) (p : Nat) (acc : List Value),
      scanItems fuel ((renderItems st xs).toList ++ ']' :: rest) p room acc =
        .ok (.arr (acc.reverse ++ xs), rest, p + (renderItems st xs).length + 1)
  | [] => fun h => absurd rfl h
  | [x] => by
    rintro _ ⟨hx, _⟩ room fuel hn hf rest p acc
    simp only [renderItems] at hf ⊢
    obtain ⟨f, rfl⟩ : ∃ f, fuel = f + 1 := ⟨fuel - 1, by omega⟩
    rw [scanItems_last (scanValue_render hst x hx room f (by simpa [itemsNesting] using hn) (by omega) _
      (follows_of_numberEnd _ (numberEnd_cons (by decide) rest)) p) acc]
    simp
  | x :: y :: ys => by
    rintro _ ⟨hx, hys⟩ room fuel hn hf rest p acc
    have hn' : max x.nesting (itemsNesting (y :: ys)) ≤ room := hn
    have hlen : (renderItems st (x :: y :: ys)).length =
        (x.render st).length + st.itemSep.length + (renderItems st (y :: ys)).length := by
      simp only [renderItems, String.length_append]
    have hsep := separator_length_pos hst.item
    have hxpos := render_length_pos st x hx
    obtain ⟨f, rfl⟩ : ∃ f, fuel = f + 1 := ⟨fuel - 1, by omega⟩
    have hv := scanValue_render hst x hx room f (by omega) (by omega)
      (st.itemSep.toList ++ ((renderItems st (y :: ys)).toList ++ ']' :: rest))
      (follows_of_numberEnd _ (numberEnd_separator hst.item (by decide) _)) p
    have htext : (renderItems st (x :: y :: ys)).toList ++ ']' :: rest = (x.render st).toList ++
        (st.itemSep.toList ++ ((renderItems st (y :: ys)).toList ++ ']' :: rest)) := by
      simp [renderItems]
    rw [htext, scanItems_next hst hv (lead_head_append (renderItems_lead st _ (List.cons_ne_nil y ys) hys) _),
      scanItems_render hst (y :: ys) (List.cons_ne_nil y ys) hys room f (by omega) (by omega) rest _ (x :: acc),
      hlen]
    simp [Nat.add_assoc]

end

/-! ## Whole texts -/

/-- **A value's whole text reads back as the value.** -/
theorem readText_render {st : Style} (hst : st.Separated) {v : Value} (hv : v.Readable st.asciiOnly)
    {room : Nat} (hn : v.nesting ≤ room) : readText room (v.render st) = .ok v := by
  obtain ⟨c, cs, h, hc⟩ := render_lead st v hv
  have hscan := scanValue_render hst v hv room ((v.render st).toList.length + 1) hn
    (by rw [String.length_toList]; omega) [] (follows_of_numberEnd _ fun _ hd => by cases hd) 0
  rw [List.append_nil] at hscan
  unfold readText
  rw [skipBlanks_of_head (by rw [h]; intro d hd; cases hd; exact hc.1)]
  dsimp only
  rw [hscan]
  simp [skipBlanks]

theorem readAll_render {st : Style} (hst : st.Separated) {v : Value} (hv : v.Readable st.asciiOnly)
    {room : Nat} (hn : v.nesting ≤ room) : readAll room (v.render st) = .ok v := by
  obtain ⟨c, cs, h, hc⟩ := render_lead st v hv
  unfold readAll
  rw [h, if_neg (by simpa using hc.2.2.2), readText_render hst hv hn]

theorem readLenient_render {st : Style} (hst : st.Separated) {v : Value} (hv : v.Readable st.asciiOnly)
    {room : Nat} (hn : v.nesting ≤ room) : readLenient room (v.render st) = .ok (some v) := by
  rw [readLenient, readAll_render hst hv hn]

end CodingAgent.Json
