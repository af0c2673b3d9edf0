import CodingAgent.Proofs.BudgetFit
import CodingAgent.Json.Writer
import CodingAgent.Json.Reader
import Mathlib.Tactic.IntervalCases

/-!
# Strings read back from their quoted text

`quote` writes each code point of a text by `escapeCode`: a one-letter escape, a `\u` escape
(two, a surrogate pair, past the basic plane), or its own characters. `scanString` reads an
escape back as the characters of its code point and keeps any other character as it is, so a
quoted text reads back as the encoding of its code points: the text itself when it is
`Canonical`, which every text the program builds from code points is.

One thing can go wrong: when non-ASCII text is escaped, a lone high surrogate followed by a
lone low surrogate is written as two escapes that the reader joins into one code point. The
theorems ask, for escaped text, that no high surrogate is followed by a low one
(`SplitFree`).

* `hex4Value_hex4`: four hex digits read back as the code unit they write;
* `scanString_escapeCode`: one code point's escape is read as the characters of the code point;
* `scanString_escaped`: the escapes of a list of code points, then the closing quote;
* `scanString_quote`: a quoted canonical text reads back as itself.
-/

namespace CodingAgent.Json

open CodingAgent.Text

/-- A text whose characters are the encoding of its code points, as every text built from code
points is (`canonical_ofCodePoints`). -/
def Canonical (s : String) : Prop :=
  ofCodePoints (codePoints s.toList) = s

instance (s : String) : Decidable (Canonical s) :=
  inferInstanceAs (Decidable (_ = _))

theorem canonical_ofCodePoints {ns : List Nat} (h : ∀ n ∈ ns, n < 0x110000) :
    Canonical (ofCodePoints ns) := by
  unfold Canonical
  rw [CodingAgent.Context.codePoints_ofCodePoints h]

/-- Two code points the reader would not join: not a high surrogate then a low one. -/
def SplitFree (a b : Nat) : Prop :=
  ¬((0xD800 ≤ a ∧ a ≤ 0xDBFF) ∧ (0xDC00 ≤ b ∧ b ≤ 0xDFFF))

/-! ## Hex escapes -/

theorem hexValue_digitChar {d : Nat} (h : d < 16) : hexValue (Nat.digitChar d) = some d := by
  interval_cases d <;> rfl

/-- Four hex digits of a code unit, most significant first: the digits padded with zeros. -/
theorem hex4_toList {n : Nat} (h : n < 0x10000) :
    (hex4 n).toList = [Nat.digitChar (n / 4096), Nat.digitChar (n / 256 % 16),
      Nat.digitChar (n / 16 % 16), Nat.digitChar (n % 16)] := by
  unfold hex4
  rw [String.toList_ofList]
  have hz : Nat.digitChar 0 = '0' := rfl
  by_cases h1 : n < 16
  · rw [Nat.toDigits_of_lt_base h1, show n / 4096 = 0 by omega, show n / 256 % 16 = 0 by omega,
      show n / 16 % 16 = 0 by omega, Nat.mod_eq_of_lt h1, hz]
    rfl
  rw [Nat.toDigits_of_base_le (by norm_num) (by omega)]
  by_cases h2 : n < 256
  · rw [Nat.toDigits_of_lt_base (by omega : n / 16 < 16), show n / 4096 = 0 by omega,
      show n / 256 % 16 = 0 by omega, Nat.mod_eq_of_lt (by omega : n / 16 < 16), hz]
    rfl
  rw [Nat.toDigits_of_base_le (by norm_num) (by omega : 16 ≤ n / 16), Nat.div_div_eq_div_mul]
  by_cases h3 : n < 4096
  · rw [Nat.toDigits_of_lt_base (by omega : n / (16 * 16) < 16), show n / 4096 = 0 by omega,
      show n / (16 * 16) % 16 = n / 256 % 16 by omega, hz]
    have : n / 256 % 16 = n / (16 * 16) := by omega
    rw [this]
    rfl
  rw [Nat.toDigits_of_base_le (by norm_num) (by omega : 16 ≤ n / (16 * 16)), Nat.div_div_eq_div_mul,
    Nat.toDigits_of_lt_base (by omega : n / (16 * 16 * 16) < 16)]
  rw [show n / (16 * 16 * 16) = n / 4096 by norm_num, show n / (16 * 16) % 16 = n / 256 % 16 by norm_num]
  rfl

theorem hex4Value_hex4 {n : Nat} (h : n < 0x10000) : hex4Value (hex4 n).toList = some n := by
  rw [hex4_toList h]
  simp only [hex4Value, hexValue_digitChar (by omega : n / 4096 < 16),
    hexValue_digitChar (Nat.mod_lt _ (by norm_num) : n / 256 % 16 < 16),
    hexValue_digitChar (Nat.mod_lt _ (by norm_num) : n / 16 % 16 < 16),
    hexValue_digitChar (Nat.mod_lt _ (by norm_num) : n % 16 < 16), Option.bind_eq_bind,
    Option.bind_some, Option.pure_def]
  congr 1
  omega

theorem hex4_length {n : Nat} (h : n < 0x10000) : (hex4 n).toList.length = 4 := by
  rw [hex4_toList h]
  rfl

theorem take_hex4_append {n : Nat} (h : n < 0x10000) (T : List Char) :
    ((hex4 n).toList ++ T).take 4 = (hex4 n).toList := by
  rw [List.take_append_of_le_length (by rw [hex4_length h]),
    List.take_of_length_le (by rw [hex4_length h])]

theorem drop_hex4_append {n : Nat} (h : n < 0x10000) (T : List Char) :
    ((hex4 n).toList ++ T).drop 4 = T := by
  rw [List.drop_append_of_le_length (by rw [hex4_length h]),
    List.drop_of_length_le (by rw [hex4_length h]), List.nil_append]

/-! ## One step of the reader -/

/-- A character the reader keeps as it is. -/
def Plain (c : Char) : Prop :=
  c.toNat ≠ 0x22 ∧ c.toNat ≠ 0x5C ∧ 0x1F < c.toNat

theorem scanString_plain_cons {c : Char} (hc : Plain c) (begin fuel p : Nat) (cs acc : List Char) :
    scanString begin (fuel + 1) (c :: cs) p acc = scanString begin fuel cs (p + 1) (c :: acc) := by
  have h1 : (c == '"') = false := by
    simp only [beq_eq_false_iff_ne, ne_eq]
    exact fun h => hc.1 (by rw [h]; rfl)
  have h2 : (c == '\\') = false := by
    simp only [beq_eq_false_iff_ne, ne_eq]
    exact fun h => hc.2.1 (by rw [h]; rfl)
  have h3 : ¬c.toNat ≤ 31 := by
    have := hc.2.2
    omega
  cases cs with
  | nil => simp only [scanString.eq_3, h1, h2, Bool.false_eq_true, if_false, h3]
  | cons e more => simp only [scanString.eq_4, h1, h2, Bool.false_eq_true, if_false, h3]

/-- Plain characters are kept one by one. -/
theorem scanString_plain {begin : Nat} :
    ∀ (cs : List Char), (∀ c ∈ cs, Plain c) → ∀ (fuel p : Nat) (acc T : List Char),
      (cs ++ T).length < fuel →
      ∃ fuel', T.length < fuel' ∧
        scanString begin fuel (cs ++ T) p acc = scanString begin fuel' T (p + cs.length) (cs.reverse ++ acc)
  | [], _, fuel, p, acc, T, hf => ⟨fuel, hf, by simp⟩
  | c :: cs, hc, fuel, p, acc, T, hf => by
    simp only [List.cons_append, List.length_cons, List.length_append] at hf
    obtain ⟨f, rfl⟩ : ∃ f, fuel = f + 1 := ⟨fuel - 1, by omega⟩
    rw [List.cons_append, scanString_plain_cons (hc c List.mem_cons_self)]
    obtain ⟨fuel', hlt, heq⟩ := scanString_plain cs (fun x hx => hc x (List.mem_cons_of_mem c hx))
      f (p + 1) (c :: acc) T (by simp only [List.length_append]; omega)
    exact ⟨fuel', hlt, by rw [heq]; simp [Nat.add_assoc, Nat.add_comm 1]⟩

/-- A one-letter escape is read as its character. -/
theorem scanString_simple {e ch : Char} (he : simpleEscape e = some ch) (hu : e ≠ 'u')
    (begin fuel p : Nat) (cs acc : List Char) :
    scanString begin (fuel + 1) ('\\' :: e :: cs) p acc = scanString begin fuel cs (p + 2) (ch :: acc) := by
  have hu' : (e == 'u') = false := by simpa using hu
  simp only [scanString.eq_4, hu', he, Bool.false_eq_true, if_false]
  rfl

/-- What follows an escaped high surrogate: text that does not start with the escape of a low
surrogate. -/
def PairBreak (T : List Char) : Prop :=
  ∀ tail, T = '\\' :: 'u' :: tail → ∃ v, hex4Value (tail.take 4) = some v ∧ ¬(0xDC00 ≤ v ∧ v ≤ 0xDFFF)

theorem surrogatePair_none {T : List Char} (h : PairBreak T) (high p : Nat) :
    surrogatePair high T p = .ok none := by
  unfold surrogatePair
  split_ifs
  · rfl
  · split
    · rename_i tail _
      obtain ⟨v, hv, hlow⟩ := h tail rfl
      rw [hv]
      simp only
      rw [if_neg (by simpa using hlow)]
    · rfl

/-- A `\u` escape is read as its code unit; a high surrogate stays alone when what follows
is no low escape. -/
theorem scanString_unicode {n : Nat} (hn : n < 0x10000) {T : List Char} (hT : T ≠ [])
    (hb : 0xD800 ≤ n → n ≤ 0xDBFF → PairBreak T) (begin fuel p : Nat) (acc : List Char) :
    scanString begin (fuel + 1) ('\\' :: 'u' :: ((hex4 n).toList ++ T)) p acc =
      scanString begin fuel T (p + 6) (pushCode acc n) := by
  have hlen := hex4_length hn
  have hT1 : 1 ≤ T.length := List.length_pos_iff.2 hT
  simp only [scanString.eq_4, take_hex4_append hn, drop_hex4_append hn, hex4Value_hex4 hn,
    List.length_append, hlen]
  rw [if_neg (by decide), if_pos (by decide), if_pos (by decide), if_neg (by omega)]
  by_cases hh : 0xD800 ≤ n ∧ n ≤ 0xDBFF
  · rw [if_pos (by simpa using hh), surrogatePair_none (hb hh.1 hh.2)]
  · rw [if_neg (by simpa using hh)]

/-- A surrogate pair of escapes is read as the one code point past the basic plane. -/
theorem scanString_pair {hi lo : Nat} (hhi : 0xD800 ≤ hi ∧ hi ≤ 0xDBFF) (hlo : 0xDC00 ≤ lo ∧ lo ≤ 0xDFFF)
    {T : List Char} (hT : T ≠ []) (begin fuel p : Nat) (acc : List Char) :
    scanString begin (fuel + 1)
        ('\\' :: 'u' :: ((hex4 hi).toList ++ '\\' :: 'u' :: ((hex4 lo).toList ++ T))) p acc =
      scanString begin fuel T (p + 6 + 6) (pushCode acc (0x10000 + (hi - 0xD800) * 0x400 + (lo - 0xDC00))) := by
  have hl1 := hex4_length (by omega : hi < 0x10000)
  have hl2 := hex4_length (by omega : lo < 0x10000)
  have hT1 : 1 ≤ T.length := List.length_pos_iff.2 hT
  have hhi' : hi < 0x10000 := by omega
  have hlo' : lo < 0x10000 := by omega
  have hpair : surrogatePair hi ('\\' :: 'u' :: ((hex4 lo).toList ++ T)) (p + 6) =
      .ok (some (0x10000 + (hi - 0xD800) * 0x400 + (lo - 0xDC00), T, p + 6 + 6)) := by
    unfold surrogatePair
    simp only [List.length_cons, List.length_append, hl2]
    rw [if_neg (by omega)]
    simp only [take_hex4_append hlo', hex4Value_hex4 hlo', drop_hex4_append hlo']
    rw [if_pos (by simpa using hlo)]
  simp only [scanString.eq_4, take_hex4_append hhi', drop_hex4_append hhi', hex4Value_hex4 hhi',
    List.length_append,
    List.length_cons, hl1]
  rw [if_neg (by decide), if_pos (by decide), if_pos (by decide), if_neg (by omega)]
  rw [if_pos (by simpa using hhi), hpair]

/-! ## The escape of one code point -/

theorem plain_of_toNat {c : Char} (h1 : 0x20 ≤ c.toNat) (h2 : c.toNat ≠ 0x22) (h3 : c.toNat ≠ 0x5C) :
    Plain c :=
  ⟨h2, h3, by omega⟩

/-- The characters of a code point from space on, other than the quote and the backslash, are
kept as they are. -/
theorem codeChars_plain {n : Nat} (hn : n < 0x110000) (h1 : 0x20 ≤ n) (h2 : n ≠ 0x22) (h3 : n ≠ 0x5C) :
    ∀ c ∈ codeChars n, Plain c := by
  unfold codeChars
  split_ifs with hs hm
  · -- a surrogate's stand-in lies at the top of the code space
    have hs' := hs
    simp only [isSurrogateCode, Bool.and_eq_true, decide_eq_true_eq] at hs'
    have hv : (standInBase + (n - 0xD800)).isValidChar := by
      unfold standInBase; right; constructor <;> omega
    intro c hc
    rw [List.mem_singleton] at hc
    have ht : c.toNat = standInBase + (n - 0xD800) := by rw [hc]; exact toNat_ofNat_of_valid _ hv
    simp only [standInBase] at ht
    exact plain_of_toNat (by omega) (by omega) (by omega)
  · have hv : n.isValidChar := by right; unfold markCode at hm; constructor <;> omega
    intro c hc
    simp only [List.mem_cons, List.not_mem_nil, or_false] at hc
    have hmark : markChar.toNat = 0x10F7FF := markChar_toNat
    rcases hc with rfl | rfl
    · exact plain_of_toNat (by omega) (by omega) (by omega)
    · have ht := toNat_ofNat_of_valid _ hv
      exact plain_of_toNat (by omega) (by omega) (by omega)
  · have hs' : ¬(0xD800 ≤ n ∧ n ≤ 0xDFFF) := by simpa [isSurrogateCode] using hs
    have hv : n.isValidChar := by
      unfold Nat.isValidChar
      omega
    intro c hc
    rw [List.mem_singleton] at hc
    have ht : c.toNat = n := by rw [hc]; exact toNat_ofNat_of_valid _ hv
    exact plain_of_toNat (by omega) (by omega) (by omega)

theorem toList_escapeU_append (s : String) : ("\\u" ++ s).toList = '\\' :: 'u' :: s.toList := by
  rw [String.toList_append]
  rfl

theorem unicodeEscape_unit {n : Nat} (h : n < 0x10000) :
    (unicodeEscape n).toList = '\\' :: 'u' :: (hex4 n).toList := by
  rw [unicodeEscape, if_pos h, toList_escapeU_append]

theorem unicodeEscape_pair {n : Nat} (h : ¬n < 0x10000) :
    (unicodeEscape n).toList = '\\' :: 'u' :: ((hex4 (0xD800 + (n - 0x10000) / 0x400)).toList ++
      '\\' :: 'u' :: (hex4 (0xDC00 + (n - 0x10000) % 0x400)).toList) := by
  rw [unicodeEscape, if_neg h, String.append_assoc, String.append_assoc, toList_escapeU_append,
    String.toList_append, toList_escapeU_append]

/-- The four forms of the escape of a code point: a one-letter escape, one `\u` escape (of a
control character, or of any character past ASCII when escaping), a pair of them past the
basic plane, or the characters of the code point. -/
theorem escapeCode_cases (a : Bool) {n : Nat} (hn : n < 0x110000) :
    (∃ e ch, (escapeCode a n).toList = ['\\', e] ∧ simpleEscape e = some ch ∧ e ≠ 'u' ∧
      codeChars n = [ch]) ∨
    (n < 0x10000 ∧ (a = true ∨ n < 0x20) ∧
      (escapeCode a n).toList = '\\' :: 'u' :: (hex4 n).toList) ∨
    (∃ hi lo, (0xD800 ≤ hi ∧ hi ≤ 0xDBFF) ∧ (0xDC00 ≤ lo ∧ lo ≤ 0xDFFF) ∧
      0x10000 + (hi - 0xD800) * 0x400 + (lo - 0xDC00) = n ∧ a = true ∧
      (escapeCode a n).toList = '\\' :: 'u' :: ((hex4 hi).toList ++ '\\' :: 'u' :: (hex4 lo).toList)) ∨
    ((escapeCode a n).toList = codeChars n ∧ ∀ c ∈ codeChars n, Plain c) := by
  -- the one-letter escapes, by the value of the code point
  by_cases h22 : n = 0x22
  · subst h22; exact .inl ⟨'"', '"', by simp [escapeCode], rfl, by decide, by decide⟩
  by_cases h5C : n = 0x5C
  · subst h5C; exact .inl ⟨'\\', '\\', by simp [escapeCode], rfl, by decide, by decide⟩
  by_cases h0A : n = 0x0A
  · subst h0A; exact .inl ⟨'n', '\n', by simp [escapeCode], rfl, by decide, by decide⟩
  by_cases h0D : n = 0x0D
  · subst h0D; exact .inl ⟨'r', '\r', by simp [escapeCode], rfl, by decide, by decide⟩
  by_cases h09 : n = 0x09
  · subst h09; exact .inl ⟨'t', '\t', by simp [escapeCode], rfl, by decide, by decide⟩
  by_cases h08 : n = 0x08
  · subst h08; exact .inl ⟨'b', '\x08', by simp [escapeCode], rfl, by decide, by decide⟩
  by_cases h0C : n = 0x0C
  · subst h0C; exact .inl ⟨'f', '\x0c', by simp [escapeCode], rfl, by decide, by decide⟩
  rw [escapeCode.eq_8 a n h22 h5C h0A h0D h09 h08 h0C]
  split_ifs with hc ha
  · exact .inr (.inl ⟨by omega, .inr hc, unicodeEscape_unit (by omega)⟩)
  · simp only [Bool.and_eq_true, decide_eq_true_eq] at ha
    by_cases hb : n < 0x10000
    · exact .inr (.inl ⟨hb, .inl ha.1, unicodeEscape_unit hb⟩)
    · -- the pair: the high surrogate carries the top ten bits past the basic plane
      have hcode : 0x10000 + (0xD800 + (n - 0x10000) / 0x400 - 0xD800) * 0x400 +
          (0xDC00 + (n - 0x10000) % 0x400 - 0xDC00) = n := by
        rw [Nat.add_sub_cancel_left, Nat.add_sub_cancel_left, Nat.add_assoc, Nat.div_add_mod',
          Nat.add_sub_cancel' (by omega)]
      exact .inr (.inr (.inl ⟨_, _, by omega, by omega, hcode, ha.1, unicodeEscape_pair hb⟩))
  · exact .inr (.inr (.inr ⟨String.toList_ofList, codeChars_plain hn (by omega) h22 h5C⟩))

/-- **One escape.** The escape of a code point is read back as the characters of the code point;
after a high surrogate escaped on its own, what follows must not be a low escape. -/
theorem scanString_escapeCode (a : Bool) {n : Nat} (hn : n < 0x110000) {T : List Char} (hT : T ≠ [])
    (hb : a = true → 0xD800 ≤ n → n ≤ 0xDBFF → PairBreak T) (begin : Nat) {fuel : Nat}
    (hf : ((escapeCode a n).toList ++ T).length < fuel) (p : Nat) (acc : List Char) :
    ∃ fuel', T.length < fuel' ∧
      scanString begin fuel ((escapeCode a n).toList ++ T) p acc =
        scanString begin fuel' T (p + (escapeCode a n).length) (pushCode acc n) := by
  rw [← String.length_toList]
  rcases escapeCode_cases a hn with ⟨e, ch, he, hs, hu, hc⟩ | ⟨hu, ha, he⟩ | hp | ⟨he, hp⟩
  · -- a one-letter escape
    rw [he] at hf ⊢
    simp only [List.cons_append, List.nil_append, List.length_cons] at hf ⊢
    obtain ⟨f, rfl⟩ : ∃ f, fuel = f + 1 := ⟨fuel - 1, by omega⟩
    refine ⟨f, by omega, ?_⟩
    rw [scanString_simple hs hu, pushCode, hc]
    rfl
  · -- one \u escape: a control character, or a character past ASCII escaped
    have hl := hex4_length hu
    rw [he] at hf ⊢
    simp only [List.cons_append, List.length_cons, List.length_append, hl] at hf ⊢
    obtain ⟨f, rfl⟩ : ∃ f, fuel = f + 1 := ⟨fuel - 1, by omega⟩
    have hb' : 0xD800 ≤ n → n ≤ 0xDBFF → PairBreak T := by
      intro h1 h2
      rcases ha with ha | ha
      · exact hb ha h1 h2
      · omega
    exact ⟨f, by omega, scanString_unicode hu hT hb' begin f p acc⟩
  · -- a surrogate pair of escapes, past the basic plane
    obtain ⟨hi, lo, hhi, hlo, hcode, -, he⟩ := hp
    have hl1 := hex4_length (by omega : hi < 0x10000)
    have hl2 := hex4_length (by omega : lo < 0x10000)
    rw [he] at hf ⊢
    simp only [List.cons_append, List.append_assoc, List.length_cons, List.length_append, hl1,
      hl2] at hf ⊢
    obtain ⟨f, rfl⟩ : ∃ f, fuel = f + 1 := ⟨fuel - 1, by omega⟩
    refine ⟨f, by omega, ?_⟩
    rw [scanString_pair hhi hlo hT begin f p acc, hcode]
  · -- the characters of the code point themselves
    rw [he] at hf ⊢
    obtain ⟨fuel', hlt, heq⟩ := @scanString_plain begin (codeChars n) hp fuel p acc T hf
    exact ⟨fuel', hlt, by rw [heq, pushCode]⟩

/-! ## The text between the quotes -/

/-- The code points of a text with no high surrogate right before a low one. -/
def SplitFreeText (s : String) : Prop :=
  (codePoints s.toList).IsChain SplitFree

/-- The escapes of code points, one after the other. -/
def escapedChars (a : Bool) (ns : List Nat) : List Char :=
  ns.flatMap fun n => (escapeCode a n).toList

@[simp] theorem escapedChars_nil (a : Bool) : escapedChars a [] = [] := rfl

@[simp] theorem escapedChars_cons (a : Bool) (n : Nat) (ns : List Nat) :
    escapedChars a (n :: ns) = (escapeCode a n).toList ++ escapedChars a ns := rfl

theorem codeChars_ne_nil (n : Nat) : codeChars n ≠ [] := by
  unfold codeChars
  split_ifs <;> simp

theorem pairBreak_quote (rest : List Char) : PairBreak ('"' :: rest) := by
  intro tail h
  cases h

/-- The escape of a code point that is no low surrogate does not start with a low escape. -/
theorem pairBreak_escapeCode (a : Bool) {m : Nat} (hm : m < 0x110000)
    (hlow : ¬(0xDC00 ≤ m ∧ m ≤ 0xDFFF)) (T : List Char) : PairBreak ((escapeCode a m).toList ++ T) := by
  intro tail ht
  rcases escapeCode_cases a hm with ⟨e, ch, he, -, hu, -⟩ | ⟨hu, -, he⟩ | ⟨hi, lo, hhi, -, -, -, he⟩ |
    ⟨he, hp⟩
  · rw [he] at ht
    simp only [List.cons_append, List.nil_append, List.cons.injEq] at ht
    exact absurd ht.2.1 hu
  · rw [he] at ht
    simp only [List.cons_append, List.cons.injEq, true_and] at ht
    rw [← ht, take_hex4_append hu]
    exact ⟨m, hex4Value_hex4 hu, hlow⟩
  · -- a pair starts with its high surrogate
    rw [he] at ht
    simp only [List.cons_append, List.append_assoc, List.cons.injEq, true_and] at ht
    rw [← ht, take_hex4_append (by omega)]
    exact ⟨hi, hex4Value_hex4 (by omega), by omega⟩
  · -- a plain character is no backslash
    rw [he] at ht
    obtain ⟨c, cs, hc⟩ := List.exists_cons_of_ne_nil (codeChars_ne_nil m)
    rw [hc, List.cons_append, List.cons.injEq] at ht
    have hpc := hp c (by rw [hc]; exact List.mem_cons_self)
    exact absurd (by rw [ht.1]; rfl) hpc.2.1

/-- **The escaped code points, then the closing quote**, read back as the characters of the code
points, after those read before. -/
theorem scanString_escaped (a : Bool) (begin : Nat) :
    ∀ (ns : List Nat), (∀ n ∈ ns, n < 0x110000) → (a = true → ns.IsChain SplitFree) →
      ∀ {fuel : Nat} (p : Nat) (acc rest : List Char), (escapedChars a ns ++ '"' :: rest).length < fuel →
        scanString begin fuel (escapedChars a ns ++ '"' :: rest) p acc =
          .ok (String.ofList (acc.reverse ++ ns.flatMap codeChars), rest,
            p + (escapedChars a ns).length + 1)
  | [], _, _, fuel, p, acc, rest, hf => by
    obtain ⟨f, rfl⟩ : ∃ f, fuel = f + 1 := ⟨fuel - 1, by simp at hf; omega⟩
    simp [scanString]
  | n :: ns, hlt, hchain, fuel, p, acc, rest, hf => by
    have hn := hlt n List.mem_cons_self
    -- after an escaped high surrogate comes the quote or the escape of a code point that is
    -- no low surrogate
    have hb : a = true → 0xD800 ≤ n → n ≤ 0xDBFF → PairBreak (escapedChars a ns ++ '"' :: rest) := by
      intro ha h1 h2
      cases ns with
      | nil => exact pairBreak_quote rest
      | cons m ms =>
        have hs : SplitFree n m := List.rel_of_isChain_cons_cons (hchain ha)
        rw [escapedChars_cons, List.append_assoc]
        exact pairBreak_escapeCode a (hlt m (by simp)) (fun hm => hs ⟨⟨h1, h2⟩, hm⟩) _
    rw [escapedChars_cons, List.append_assoc] at hf ⊢
    obtain ⟨fuel', hf', hstep⟩ := scanString_escapeCode a hn (by simp) hb begin hf p acc
    rw [hstep, scanString_escaped a begin ns (fun m hm => hlt m (List.mem_cons_of_mem n hm))
      (fun ha => List.isChain_of_isChain_cons (hchain ha)) _ _ _ hf', pushCode]
    simp only [List.reverse_append, List.reverse_reverse, List.flatMap_cons, List.append_assoc,
      List.length_append, String.length_toList, Nat.add_assoc]

theorem toList_quote (a : Bool) (s : String) :
    (quote a s).toList = '"' :: (escapedChars a (codePoints s.toList) ++ ['"']) := by
  simp only [quote, String.toList_append, String.toList_join, List.flatMap_map, escapedChars]
  rfl

/-- **A quoted text reads back as itself**, when it is canonical and, with escaping, split free. -/
theorem scanString_quote {a : Bool} {s : String} (hc : Canonical s) (hs : a = true → SplitFreeText s)
    (begin p : Nat) (rest : List Char) :
    scanString begin ((escapedChars a (codePoints s.toList) ++ '"' :: rest).length + 1)
        (escapedChars a (codePoints s.toList) ++ '"' :: rest) (p + 1) [] =
      .ok (s, rest, p + (quote a s).length) := by
  have hlen : (quote a s).length = (escapedChars a (codePoints s.toList)).length + 2 := by
    rw [← String.length_toList, toList_quote]
    simp
  have htext : String.ofList ((codePoints s.toList).flatMap codeChars) = s := hc
  rw [scanString_escaped a begin _ (codePoints_lt _) hs _ _ _ (by omega), List.reverse_nil,
    List.nil_append, htext, hlen, Nat.add_assoc p 1, Nat.add_assoc p, Nat.add_comm 1, Nat.add_assoc]


/-! ## Text below the surrogates -/

/-- Characters below the surrogates are their own code points. -/
theorem codePoints_of_lt_surrogates : ∀ {cs : List Char}, (∀ c ∈ cs, c.toNat < 0xD800) →
    codePoints cs = cs.map Char.toNat
  | [], _ => rfl
  | c :: cs, h => by
    have hc := h c List.mem_cons_self
    have hmark : c ≠ markChar := by
      rintro rfl
      exact absurd hc (by decide)
    have hown : ownCode c = c.toNat := by
      have hstand : isStandIn c = false := decide_eq_false (by unfold standInBase; omega)
      rw [ownCode, if_neg (by simp [hstand])]
    rw [codePoints_cons_of_ne_mark hmark, hown,
      codePoints_of_lt_surrogates fun d hd => h d (List.mem_cons_of_mem c hd), List.map_cons]

/-- A text below the surrogates is canonical. -/
theorem canonical_of_lt_surrogates {s : String} (h : ∀ c ∈ s.toList, c.toNat < 0xD800) :
    Canonical s := by
  have hchars : ∀ c ∈ s.toList, codeChars c.toNat = [c] := by
    intro c hc
    have hlt := h c hc
    rw [codeChars, if_neg (by simp [isSurrogateCode]; omega), if_neg (by simp [markCode]; omega),
      Char.ofNat_toNat]
  unfold Canonical ofCodePoints
  rw [codePoints_of_lt_surrogates h, List.flatMap_map, List.flatMap_congr hchars]
  simp

/-- A text below the surrogates holds no surrogate at all, so none before another. -/
theorem splitFreeText_of_lt_surrogates {s : String} (h : ∀ c ∈ s.toList, c.toNat < 0xD800) :
    SplitFreeText s := by
  unfold SplitFreeText
  rw [codePoints_of_lt_surrogates h]
  refine (List.pairwise_of_forall_mem_list fun a ha b _ => ?_).isChain
  obtain ⟨c, hc, rfl⟩ := List.mem_map.1 ha
  have := h c hc
  unfold SplitFree
  omega

end CodingAgent.Json
