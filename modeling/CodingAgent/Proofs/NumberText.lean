import CodingAgent.Proofs.ShortestDecimal
import CodingAgent.Json.Writer
import CodingAgent.Json.Reader
import Mathlib.Tactic.IntervalCases

/-!
# Numbers read back from their text

The reader takes a number in four stages: a sign, the integer digits, a fraction and an
exponent, each complete or absent. `scanNumber_eq` restates `scanNumber` through one
definition per stage, and each stage has a lemma for the text it meets here:

* `numberChars` is the text of a number from its parts, and `scanNumber_numberChars` reads it
  back when the parts are well formed and the text after it does not continue it
  (`NumberEnd`);
* `scanNumber_int`: the text of an integer reads back as that integer, when it has at most
  4300 digits;
* `scanNumber_render`: the text `jsonNumbers` writes for a finite double reads back as that
  double. The digits are those of the shortest decimal, which rounds to the double
  (`roundsTo_shortest`), placed by `positional` or `scientific`; each of the four placements
  is a `numberChars` whose value is the decimal's.
-/

namespace CodingAgent.Text

/-- The characters of an integer written out: a minus sign when it is negative, then the
digits of its absolute value. -/
theorem toList_toString_int (n : Int) :
    (toString n).toList = (if 0 ≤ n then [] else ['-']) ++ Nat.toDigits 10 n.natAbs := by
  rw [Int.toString_eq_repr, Int.repr_eq_if]
  split
  · have habs : n.toNat = n.natAbs := by omega
    simp [Nat.toList_repr, habs]
  · have habs : (-n).toNat = n.natAbs := by omega
    simp [Nat.toList_repr, habs]

end CodingAgent.Text

namespace CodingAgent.Json

open CodingAgent.Decimal

/-! ## The stages of reading a number -/

/-- A leading minus. -/
def numberSign (cs : List Char) : Bool × List Char :=
  match cs with
  | '-' :: rest => (true, rest)
  | _ => (false, cs)

/-- The integer digits: a lone zero, or digits that start with one from 1 to 9. -/
def integerPart (cs : List Char) : Option (List Char × List Char) :=
  match cs with
  | '0' :: rest => some (['0'], rest)
  | c :: rest => if '1' ≤ c && c ≤ '9' then
      let (ds, rest2) := spanDigits rest
      some (c :: ds, rest2)
    else none
  | [] => none

/-- A point and at least one digit, or nothing. -/
def fractionPart (rest : List Char) : List Char × List Char :=
  match rest with
  | '.' :: d :: more => if d.isDigit then
      let (ds, rest2) := spanDigits more
      (d :: ds, rest2)
    else ([], rest)
  | _ => ([], rest)

/-- An `e` or `E`, an optional sign and at least one digit, or nothing. -/
def exponentPart (rest : List Char) : Option (Bool × List Char) × List Char :=
  match rest with
  | e :: more => if e == 'e' || e == 'E' then
      let (eneg, afterSign) := match more with
        | '-' :: m => (true, m)
        | '+' :: m => (false, m)
        | _ => (false, more)
      let (ds, rest2) := spanDigits afterSign
      if ds.isEmpty then (none, rest) else (some (eneg, ds), rest2)
    else (none, rest)
  | [] => (none, rest)

/-- The value of an exponent. -/
def exponentValue : Option (Bool × List Char) → Int
  | some (true, ds) => -(digitsValue ds : Int)
  | some (false, ds) => digitsValue ds
  | none => 0

/-- `scanNumber` is its four stages in a row. -/
theorem scanNumber_eq (cs : List Char) (p : Nat) :
    scanNumber cs p =
      match integerPart (numberSign cs).2 with
      | none => .error ⟨.expectingValue, p⟩
      | some (intDs, rest) =>
        let (fracDs, rest) := fractionPart rest
        let (expPart, rest) := exponentPart rest
        if !fracDs.isEmpty || expPart.isSome then
          .ok (.num (nearest (numberSign cs).1 (digitsValue (intDs ++ fracDs))
            (exponentValue expPart - fracDs.length)), rest, p + (cs.length - rest.length))
        else if intDs.length > digitLimit then .error ⟨.tooManyDigits intDs.length, p⟩
        else .ok (.int (if (numberSign cs).1 then -(digitsValue intDs : Int) else digitsValue intDs),
          rest, p + (cs.length - rest.length)) := by
  unfold scanNumber
  rfl

/-! ## Digits -/

theorem isDigit_iff {c : Char} : c.isDigit = true ↔ 48 ≤ c.toNat ∧ c.toNat ≤ 57 := by
  have hv : c.val.toNat = c.toNat := rfl
  simp only [Char.isDigit, Bool.and_eq_true, decide_eq_true_eq, GE.ge, UInt32.le_iff_toNat_le, hv]
  rfl

/-- A digit other than `0` is one from 1 to 9. -/
theorem lead_of_digit {c : Char} (hc : c.isDigit = true) (h0 : c ≠ '0') :
    ('1' ≤ c && c ≤ '9') = true := by
  have h0' : c.toNat ≠ 48 := fun h => h0 (Char.toNat_inj.1 h)
  have hv : c.val.toNat = c.toNat := rfl
  simp only [Char.isDigit, Bool.and_eq_true, decide_eq_true_eq, Char.le_def, GE.ge,
    UInt32.le_iff_toNat_le, hv] at hc ⊢
  have h1 : ('1' : Char).val.toNat = 49 := rfl
  have h9 : ('9' : Char).val.toNat = 57 := rfl
  have h00 : ('0' : Char).val.toNat = 48 := rfl
  omega

theorem foldl_digits (ys : List Char) (a : Nat) :
    ys.foldl (fun acc d => acc * 10 + (d.toNat - '0'.toNat)) a = a * 10 ^ ys.length + digitsValue ys := by
  induction ys generalizing a with
  | nil => simp [digitsValue]
  | cons y ys ih =>
    simp only [List.foldl_cons, digitsValue, List.length_cons] at ih ⊢
    rw [ih, ih (0 * 10 + _)]
    ring

theorem digitsValue_append (xs ys : List Char) :
    digitsValue (xs ++ ys) = digitsValue xs * 10 ^ ys.length + digitsValue ys := by
  unfold digitsValue
  rw [List.foldl_append, foldl_digits]
  rfl

@[simp] theorem digitsValue_nil : digitsValue [] = 0 := rfl

theorem digitsValue_toDigits (n : Nat) : digitsValue (Nat.toDigits 10 n) = n := by
  have h : digitsValue (Nat.toDigits 10 n) = Nat.ofDigitChars 10 (Nat.toDigits 10 n) 0 := by
    unfold digitsValue Nat.ofDigitChars
    congr
    funext acc c
    ring
  rw [h, Nat.ofDigitChars_toDigits (by norm_num) (by norm_num)]

theorem digitsValue_zeros (k : Nat) : digitsValue (List.replicate k '0') = 0 := by
  induction k with
  | zero => rfl
  | succ k ih =>
    rw [List.replicate_succ', digitsValue_append, ih]
    rfl

/-- Digits, then a character that is no digit: `spanDigits` splits there. -/
theorem spanDigits_append {ds rest : List Char} (hds : ∀ c ∈ ds, c.isDigit = true)
    (hr : ∀ c ∈ rest.head?, c.isDigit = false) : spanDigits (ds ++ rest) = (ds, rest) := by
  have htake : rest.takeWhile Char.isDigit = [] := by
    cases rest with
    | nil => rfl
    | cons c more => simp [hr c rfl]
  have hdrop : rest.dropWhile Char.isDigit = rest := by
    cases rest with
    | nil => rfl
    | cons c more => simp [hr c rfl]
  have hdrop' : (ds ++ rest).dropWhile Char.isDigit = rest := by
    induction ds with
    | nil => simpa using hdrop
    | cons d ds ih =>
      rw [List.cons_append, List.dropWhile_cons_of_pos (hds d List.mem_cons_self)]
      exact ih (fun c hc => hds c (List.mem_cons_of_mem d hc))
  unfold spanDigits
  rw [List.takeWhile_append_of_pos hds, htake, List.append_nil, hdrop']

/-- Integer digits as the reader takes them: a lone zero, or digits that do not start with
zero. -/
def IntDigits (ds : List Char) : Prop :=
  (∀ c ∈ ds, c.isDigit = true) ∧ (ds = ['0'] ∨ ∃ c cs, ds = c :: cs ∧ c ≠ '0')

theorem digitChar_ne_zero {d : Nat} (h : d < 10) (h0 : d ≠ 0) : Nat.digitChar d ≠ '0' := by
  have h1 : 1 ≤ d := by omega
  interval_cases d <;> decide

/-- The digits of a number have no leading zero. -/
theorem intDigits_toDigits (n : Nat) : IntDigits (Nat.toDigits 10 n) := by
  refine ⟨fun c hc => Nat.isDigit_of_mem_toDigits (by norm_num) (by norm_num) hc, ?_⟩
  induction n using Nat.strong_induction_on with
  | _ n ih =>
    rcases Nat.lt_or_ge n 10 with h | h
    · rw [Nat.toDigits_of_lt_base h]
      rcases Nat.eq_zero_or_pos n with h0 | h0
      · left; rw [h0]; rfl
      · exact .inr ⟨_, [], rfl, digitChar_ne_zero h (by omega)⟩
    · rw [Nat.toDigits_of_base_le (by norm_num) h]
      rcases ih (n / 10) (by omega) with h1 | ⟨c, cs, h1, hc⟩
      · exact absurd (congrArg digitsValue h1) (by rw [digitsValue_toDigits]; simp [digitsValue]; omega)
      · exact .inr ⟨c, cs ++ _, by rw [h1]; rfl, hc⟩

/-! ## Each stage on the text it meets -/

/-- What may follow a number: nothing, or a character that does not continue it. -/
def NumberEnd (rest : List Char) : Prop :=
  ∀ c ∈ rest.head?, c.isDigit = false ∧ c ≠ '.' ∧ c ≠ 'e' ∧ c ≠ 'E'

theorem numberSign_neg (cs : List Char) : numberSign ('-' :: cs) = (true, cs) := rfl

theorem numberSign_of_ne {c : Char} (cs : List Char) (hc : c ≠ '-') :
    numberSign (c :: cs) = (false, c :: cs) := by
  unfold numberSign
  split
  · rename_i h
    cases h
    exact absurd rfl hc
  · rfl

theorem integerPart_of_intDigits {ds rest : List Char} (hds : IntDigits ds)
    (hr : ∀ c ∈ rest.head?, c.isDigit = false) : integerPart (ds ++ rest) = some (ds, rest) := by
  rcases hds.2 with h | ⟨c, cs, h, hc⟩
  · subst h
    rfl
  · subst h
    have hdig : ∀ x ∈ cs, x.isDigit = true := fun x hx => hds.1 x (List.mem_cons_of_mem c hx)
    unfold integerPart
    split
    · rename_i h
      cases h
      exact absurd rfl hc
    · rename_i c' more _ h
      cases h
      rw [if_pos (lead_of_digit (hds.1 c List.mem_cons_self) hc), List.append_eq,
        spanDigits_append hdig hr]
    · rename_i h
      cases h

theorem fractionPart_none {rest : List Char} (h : ∀ c ∈ rest.head?, c ≠ '.') :
    fractionPart rest = ([], rest) := by
  unfold fractionPart
  split
  · rename_i d more
    exact absurd rfl (h '.' rfl)
  · rfl

theorem fractionPart_some {fracDs rest : List Char} (hne : fracDs ≠ [])
    (hf : ∀ c ∈ fracDs, c.isDigit = true) (hr : ∀ c ∈ rest.head?, c.isDigit = false) :
    fractionPart ('.' :: (fracDs ++ rest)) = (fracDs, rest) := by
  obtain ⟨d, ds, rfl⟩ := List.exists_cons_of_ne_nil hne
  have hd : ∀ x ∈ ds, x.isDigit = true := fun x hx => hf x (List.mem_cons_of_mem d hx)
  simp only [fractionPart, List.cons_append, if_pos (hf d List.mem_cons_self),
    spanDigits_append hd hr]

theorem exponentPart_none {rest : List Char} (h : ∀ c ∈ rest.head?, c ≠ 'e' ∧ c ≠ 'E') :
    exponentPart rest = (none, rest) := by
  unfold exponentPart
  split
  · rename_i e more
    have := h e rfl
    rw [if_neg (by simpa [beq_iff_eq] using this)]
  · rfl

/-- The characters of an exponent: `e`, its sign and its digits. -/
def expoChars : Option (Bool × List Char) → List Char
  | none => []
  | some (eneg, eds) => 'e' :: (if eneg then '-' else '+') :: eds

theorem exponentPart_some {eneg : Bool} {eds rest : List Char} (hne : eds ≠ [])
    (hd : ∀ c ∈ eds, c.isDigit = true) (hr : ∀ c ∈ rest.head?, c.isDigit = false) :
    exponentPart (expoChars (some (eneg, eds)) ++ rest) = (some (eneg, eds), rest) := by
  have hspan := spanDigits_append hd hr
  have hne' : (eds.isEmpty) = false := by simpa using hne
  cases eneg <;> simp [expoChars, exponentPart, hspan, hne']

/-! ## A number from its parts -/

/-- The text of a number: a sign, integer digits, then a fraction and an exponent when there
are any. -/
def numberChars (neg : Bool) (intDs fracDs : List Char) (expo : Option (Bool × List Char)) :
    List Char :=
  (if neg then ['-'] else []) ++ intDs ++ (if fracDs = [] then [] else '.' :: fracDs) ++
    expoChars expo

/-- Parts the reader takes whole: integer digits without a leading zero, fraction digits, and
an exponent with at least one digit. -/
structure NumberParts (intDs fracDs : List Char) (expo : Option (Bool × List Char)) : Prop where
  int : IntDigits intDs
  frac : ∀ c ∈ fracDs, c.isDigit = true
  expo : ∀ eneg eds, expo = some (eneg, eds) → eds ≠ [] ∧ ∀ c ∈ eds, c.isDigit = true

/-- **A number reads back from its parts**: an integer when it has neither a fraction nor an
exponent (refused past 4300 digits), else the double nearest to its value. -/
theorem scanNumber_numberChars {neg : Bool} {intDs fracDs : List Char}
    {expo : Option (Bool × List Char)} {rest : List Char} (hp : NumberParts intDs fracDs expo)
    (hr : NumberEnd rest) (p : Nat) :
    scanNumber (numberChars neg intDs fracDs expo ++ rest) p =
      if fracDs = [] ∧ expo = none then
        (if intDs.length > digitLimit then .error ⟨.tooManyDigits intDs.length, p⟩
        else .ok (.int (if neg then -(digitsValue intDs : Int) else digitsValue intDs), rest,
          p + (numberChars neg intDs fracDs expo).length))
      else .ok (.num (nearest neg (digitsValue (intDs ++ fracDs)) (exponentValue expo - fracDs.length)),
        rest, p + (numberChars neg intDs fracDs expo).length) := by
  have hrd : ∀ c ∈ rest.head?, c.isDigit = false := fun c hc => (hr c hc).1
  -- what follows the fraction: the exponent, or the end of the number
  have hexp : exponentPart (expoChars expo ++ rest) = (expo, rest) := by
    cases expo with
    | none => exact exponentPart_none (fun c hc => ⟨(hr c hc).2.2.1, (hr c hc).2.2.2⟩)
    | some e =>
      obtain ⟨eneg, eds⟩ := e
      obtain ⟨hne, hd⟩ := hp.expo eneg eds rfl
      exact exponentPart_some hne hd hrd
  have hexpHead : ∀ c ∈ (expoChars expo ++ rest).head?, c.isDigit = false ∧ c ≠ '.' := by
    cases expo with
    | none => exact fun c hc => ⟨(hr c hc).1, (hr c hc).2.1⟩
    | some e => intro c hc; simp [expoChars] at hc; subst hc; decide
  have hfrac : fractionPart ((if fracDs = [] then [] else '.' :: fracDs) ++ expoChars expo ++ rest) =
      (fracDs, expoChars expo ++ rest) := by
    by_cases hf : fracDs = []
    · rw [if_pos hf, List.nil_append, hf]
      exact fractionPart_none (fun c hc => (hexpHead c hc).2)
    · simp only [if_neg hf, List.cons_append, List.append_assoc]
      exact fractionPart_some hf hp.frac (fun c hc => (hexpHead c hc).1)
  have hint : integerPart (intDs ++ ((if fracDs = [] then [] else '.' :: fracDs) ++ expoChars expo ++ rest)) =
      some (intDs, (if fracDs = [] then [] else '.' :: fracDs) ++ expoChars expo ++ rest) := by
    refine integerPart_of_intDigits hp.int ?_
    by_cases hf : fracDs = []
    · rw [if_pos hf, List.nil_append]
      exact fun c hc => (hexpHead c hc).1
    · rw [if_neg hf]
      intro c hc
      simp at hc
      subst hc
      rfl
  have hsign : numberSign (numberChars neg intDs fracDs expo ++ rest) =
      (neg, intDs ++ ((if fracDs = [] then [] else '.' :: fracDs) ++ expoChars expo ++ rest)) := by
    obtain ⟨c, cs, hc⟩ : ∃ c cs, intDs = c :: cs := by
      rcases hp.int.2 with h | ⟨c, cs, h, -⟩
      · exact ⟨'0', [], h⟩
      · exact ⟨c, cs, h⟩
    have hcd : c ≠ '-' := by
      intro h
      have := hp.int.1 c (by rw [hc]; exact List.mem_cons_self)
      rw [h] at this
      exact absurd this (by decide)
    cases neg
    · simp only [numberChars, hc, Bool.false_eq_true, if_false, List.nil_append, List.cons_append,
        List.append_assoc]
      exact numberSign_of_ne _ hcd
    · simp only [numberChars, if_true, List.cons_append, List.nil_append, List.append_assoc]
      rfl
  have hlen : (numberChars neg intDs fracDs expo ++ rest).length - rest.length =
      (numberChars neg intDs fracDs expo).length := by
    rw [List.length_append]
    omega
  rw [scanNumber_eq, hsign]
  dsimp only
  rw [hint]
  dsimp only
  rw [hfrac]
  dsimp only
  rw [hexp]
  dsimp only
  rw [hlen]
  by_cases hz : fracDs = [] ∧ expo = none
  · obtain ⟨hf, he⟩ := hz
    subst hf he
    simp
  · rw [if_neg hz]
    have : (!fracDs.isEmpty || expo.isSome) = true := by
      cases expo <;> simp_all
    rw [if_pos this]

/-! ## Integers -/

/-- The text of an integer is a number with neither fraction nor exponent. -/
theorem toList_toString_numberChars (n : Int) :
    (toString n).toList = numberChars (decide (n < 0)) (Nat.toDigits 10 n.natAbs) [] none := by
  rw [CodingAgent.Text.toList_toString_int]
  by_cases h : 0 ≤ n
  · simp [numberChars, expoChars, h, not_lt.2 h]
  · simp [numberChars, expoChars, h, lt_of_not_ge h]

/-- **An integer reads back from its text**, when it has at most 4300 digits. -/
theorem scanNumber_int {n : Int} {rest : List Char}
    (hd : (Nat.toDigits 10 n.natAbs).length ≤ digitLimit) (hr : NumberEnd rest) (p : Nat) :
    scanNumber ((toString n).toList ++ rest) p = .ok (.int n, rest, p + (toString n).length) := by
  have htext := toList_toString_numberChars n
  have hparts : NumberParts (Nat.toDigits 10 n.natAbs) [] none :=
    ⟨intDigits_toDigits _, by simp, by simp⟩
  have hlen : (toString n).length = (numberChars (decide (n < 0)) (Nat.toDigits 10 n.natAbs) [] none).length := by
    rw [← htext, String.length_toList]
  rw [htext, scanNumber_numberChars hparts hr, if_pos ⟨rfl, rfl⟩, if_neg (by omega), hlen,
    digitsValue_toDigits]
  congr
  by_cases h : n < 0
  · rw [decide_eq_true h, if_pos rfl]
    omega
  · rw [decide_eq_false h, if_neg Bool.false_ne_true]
    omega

/-! ## Doubles -/

/-- A finite nonzero double is the double of its fields, with its sign bit. -/
theorem ofBits_signed_of_finite {x : Float} {b : Binary} (hx : Kind.ofFloat x = .finite b)
    (hm : b.m ≠ 0) :
    Float.ofBits (if b.neg then encodeBits b.m b.q ||| 0x8000000000000000 else encodeBits b.m b.q) =
      x := by
  obtain ⟨hf, -, hbits⟩ := eq_encodeBits_of_ofBits hx hm
  rw [← ofBits_toBits_of_finite hx]
  congr 1
  apply UInt64.toNat_inj.1
  rw [toNat_signed b.neg (encodeBits_lt hf), hbits]

/-- A finite double with a zero significand is the zero of its sign. -/
theorem ofBits_signedZero_of_finite {x : Float} {b : Binary} (hx : Kind.ofFloat x = .finite b)
    (hm : b.m = 0) : Float.ofBits (if b.neg then 0 ||| 0x8000000000000000 else 0) = x := by
  have hbits := toNat_of_ofBits_zero hx hm
  rw [← ofBits_toBits_of_finite hx]
  congr 1
  apply UInt64.toNat_inj.1
  rw [hbits]
  cases b.neg <;> rfl

/-- The digits of a positive number start with a digit other than zero. -/
theorem toDigits_cons_of_pos {k : Nat} (hk : 0 < k) :
    ∃ c cs, Nat.toDigits 10 k = c :: cs ∧ c ≠ '0' := by
  rcases (intDigits_toDigits k).2 with h | h
  · have := congrArg digitsValue h
    rw [digitsValue_toDigits] at this
    exact absurd this (by rw [show digitsValue ['0'] = 0 from rfl]; omega)
  · exact h

/-! ## Where the digits of a double go -/

theorem zeros_digits (k : Nat) : ∀ x ∈ List.replicate k '0', x.isDigit = true := by
  intro x hx
  rw [List.eq_of_mem_replicate hx]
  rfl

/-- Positional text: the digits of `k` with the point placed to give `k * 10^e`, read as
integer digits and a fraction whose digits are `k * 10^z` for `z - (fraction length) = e`. The
point goes before the digits (after `0.` and zeros), among them, or after them (after zeros,
with `.0`). -/
theorem positional_parts {k : Nat} (hk : 0 < k) (e : Int) :
    ∃ (intDs fracDs : List Char) (z : Nat), NumberParts intDs fracDs none ∧ fracDs ≠ [] ∧
      (positional (digitText k) (e + (digitText k).length)).toList = intDs ++ '.' :: fracDs ∧
      digitsValue (intDs ++ fracDs) = k * 10 ^ z ∧ (z : Int) - fracDs.length = e := by
  obtain ⟨c, cs, hds, hc⟩ := toDigits_cons_of_pos hk
  have hdig := (intDigits_toDigits k).1
  have hval := digitsValue_toDigits k
  have hnoexp : ∀ eneg eds, (none : Option (Bool × List Char)) = some (eneg, eds) →
      eds ≠ [] ∧ ∀ c ∈ eds, c.isDigit = true := fun _ _ h => by cases h
  unfold positional digitText
  rw [String.length_ofList, String.toList_ofList]
  generalize Nat.toDigits 10 k = ds at hds hdig hval ⊢
  subst hds
  have hzero : digitsValue ['0'] = 0 := rfl
  have hl : (c :: cs).length = cs.length + 1 := rfl
  dsimp only
  split_ifs with h1 h2
  · -- before the digits: `0.`, then zeros
    refine ⟨['0'], List.replicate (-(e + (c :: cs).length)).toNat '0' ++ c :: cs, 0,
      ⟨⟨by simp, .inl rfl⟩, ?_, hnoexp⟩, by simp, by simp [zeros], ?_, ?_⟩
    · intro x hx
      rcases List.mem_append.1 hx with hx | hx
      · exact zeros_digits _ x hx
      · exact hdig x hx
    · rw [digitsValue_append, digitsValue_append, digitsValue_zeros, hval, hzero]
      ring
    · simp only [List.length_append, List.length_replicate, List.length_cons]
      omega
  · -- among the digits
    refine ⟨(c :: cs).take (e + (c :: cs).length).toNat, (c :: cs).drop (e + (c :: cs).length).toNat, 0,
      ⟨⟨fun x hx => hdig x (List.mem_of_mem_take hx), .inr ⟨c, cs.take ((e + (c :: cs).length).toNat - 1), ?_, hc⟩⟩,
        fun x hx => hdig x (List.mem_of_mem_drop hx), hnoexp⟩, ?_, by simp, ?_, ?_⟩
    · rw [show (e + (c :: cs).length).toNat = ((e + (c :: cs).length).toNat - 1) + 1 by omega,
        List.take_succ_cons]
      simp
    · intro h
      have := congrArg List.length h
      simp only [List.length_drop, List.length_nil, List.length_cons] at this
      omega
    · rw [List.take_append_drop, hval]
      ring
    · simp only [List.length_drop, List.length_cons]
      omega
  · -- after the digits: zeros, then `.0`
    refine ⟨c :: cs ++ List.replicate (e + (c :: cs).length - (c :: cs).length).toNat '0', ['0'],
      (e + (c :: cs).length - (c :: cs).length).toNat + 1,
      ⟨⟨?_, .inr ⟨c, cs ++ _, rfl, hc⟩⟩, by simp, hnoexp⟩, by simp, by simp [zeros], ?_, ?_⟩
    · intro x hx
      rcases List.mem_append.1 hx with hx | hx
      · exact hdig x hx
      · exact zeros_digits _ x hx
    · rw [digitsValue_append, digitsValue_append, digitsValue_zeros, hval, hzero]
      simp only [List.length_replicate, List.length_singleton]
      ring
    · simp only [List.length_singleton]
      omega

/-- Scientific text: the first digit of `k`, the others as a fraction when there are any, and
the exponent `lead` with its sign and at least two digits. -/
theorem scientific_parts {k : Nat} (hk : 0 < k) (lead : Int) :
    ∃ (intDs fracDs eds : List Char), NumberParts intDs fracDs (some (decide (lead < 0), eds)) ∧
      (jsonNumbers.scientific (digitText k) lead).toList =
        numberChars false intDs fracDs (some (decide (lead < 0), eds)) ∧
      intDs ++ fracDs = Nat.toDigits 10 k ∧ fracDs.length + 1 = (Nat.toDigits 10 k).length ∧
      exponentValue (some (decide (lead < 0), eds)) = lead := by
  obtain ⟨c, cs, hds, hc⟩ := toDigits_cons_of_pos hk
  have hdig := (intDigits_toDigits k).1
  rw [hds] at hdig
  have heds : digitsValue (List.replicate (2 - (Nat.toDigits 10 lead.natAbs).length) '0' ++
      Nat.toDigits 10 lead.natAbs) = lead.natAbs := by
    rw [digitsValue_append, digitsValue_zeros, digitsValue_toDigits]
    simp
  refine ⟨[c], cs, List.replicate (2 - (Nat.toDigits 10 lead.natAbs).length) '0' ++
      Nat.toDigits 10 lead.natAbs,
    ⟨⟨fun x hx => hdig x (by simp at hx; simp [hx]), .inr ⟨c, [], rfl, hc⟩⟩,
      fun x hx => hdig x (List.mem_cons_of_mem c hx), fun eneg eds h => ?_⟩, ?_, by rw [hds]; rfl,
    by rw [hds]; rfl, ?_⟩
  · -- the exponent has digits
    cases h
    refine ⟨by simp, fun x hx => ?_⟩
    rcases List.mem_append.1 hx with hx | hx
    · exact zeros_digits _ x hx
    · exact Nat.isDigit_of_mem_toDigits (by norm_num) (by norm_num) hx
  · unfold Layout.scientific digitText
    simp only [String.toList_ofList, hds, List.take_succ_cons, List.take_zero, List.drop_succ_cons,
      List.drop_zero]
    by_cases hcs : cs = []
    · subst hcs
      by_cases hl : lead < 0 <;> simp [numberChars, expoChars, jsonNumbers, zeros, hl]
    · rw [if_neg (fun h => hcs (String.ofList_eq_empty_iff.1 (String.isEmpty_iff.1 h)))]
      by_cases hl : lead < 0 <;> simp [numberChars, expoChars, jsonNumbers, zeros, hcs, hl]
  · by_cases hl : lead < 0
    · rw [decide_eq_true hl]
      simp only [exponentValue, heds]
      omega
    · rw [decide_eq_false hl]
      simp only [exponentValue, heds]
      omega

theorem numberChars_sign (neg : Bool) (intDs fracDs : List Char) (expo : Option (Bool × List Char)) :
    numberChars neg intDs fracDs expo = (if neg then ['-'] else []) ++ numberChars false intDs fracDs expo := by
  cases neg <;> simp [numberChars]

theorem toList_sign (neg : Bool) (t : String) :
    ((if neg then "-" else "") ++ t).toList = (if neg then ['-'] else []) ++ t.toList := by
  cases neg <;> simp

/-- The text of a finite double is a number whose parts the reader takes whole, and whose value
gives back the double: the value of the shortest decimal, which rounds to it. -/
theorem render_parts {x : Float} {b : Binary} (hx : Kind.ofFloat x = .finite b) :
    ∃ intDs fracDs expo, NumberParts intDs fracDs expo ∧ ¬(fracDs = [] ∧ expo = none) ∧
      (jsonNumbers.render x).toList = numberChars b.neg intDs fracDs expo ∧
      nearest b.neg (digitsValue (intDs ++ fracDs)) (exponentValue expo - fracDs.length) = x := by
  unfold Layout.render
  rw [hx]
  dsimp only
  by_cases hm : b.m = 0
  · -- a zero is written `0.0` with its sign
    rw [if_pos (by simp [hm])]
    refine ⟨['0'], ['0'], none, ⟨⟨List.forall_mem_singleton.2 rfl, .inl rfl⟩,
      List.forall_mem_singleton.2 rfl, fun _ _ h => by cases h⟩,
      by simp, ?_, ?_⟩
    · rw [toList_sign, numberChars_sign]
      rfl
    · rw [show digitsValue (['0'] ++ ['0']) = 0 from rfl]
      simp only [nearest, beq_self_eq_true, if_true]
      exact ofBits_signedZero_of_finite hx hm
  · rw [if_neg (by simpa using hm)]
    obtain ⟨hf, hn, -⟩ := eq_encodeBits_of_ofBits hx hm
    have hround := roundsTo_shortest (Nat.pos_of_ne_zero hm) hn
    have hdpos : 0 < b.shortest.digits := by
      have hpos := hround.pos hf
      unfold Dec.value at hpos
      rcases Nat.eq_zero_or_pos b.shortest.digits with h | h
      · rw [h] at hpos
        simp at hpos
      · exact h
    -- a text whose value is the shortest decimal's reads back as the double
    have hnear : ∀ (M : Nat) (E : Int), (M : ℚ) * 10 ^ E = b.shortest.value → nearest b.neg M E = x := by
      intro M E hv
      rw [nearest_eq_of_roundsTo b.neg hf (hv ▸ hround)]
      exact ofBits_signed_of_finite hx hm
    split
    · obtain ⟨intDs, fracDs, z, hp, hne, htext, hval, hz⟩ := positional_parts hdpos b.shortest.exp
      refine ⟨intDs, fracDs, none, hp, fun h => hne h.1, ?_, hnear _ _ ?_⟩
      · rw [toList_sign, htext, numberChars_sign]
        simp [numberChars, expoChars, hne]
      · rw [hval, Dec.value, exponentValue, zero_sub]
        push_cast
        rw [mul_assoc, ← zpow_natCast, ← zpow_add₀ (by norm_num), ← sub_eq_add_neg, hz]
    · obtain ⟨intDs, fracDs, eds, hp, htext, hds, hlen, hexp⟩ :=
        scientific_parts hdpos (b.shortest.exp + (digitText b.shortest.digits).length - 1)
      refine ⟨intDs, fracDs, some (_, eds), hp, fun h => by simp at h, ?_, hnear _ _ ?_⟩
      · rw [toList_sign, htext, numberChars_sign b.neg]
      · have hdl : (digitText b.shortest.digits).length = (Nat.toDigits 10 b.shortest.digits).length :=
          String.length_ofList
        have he : b.shortest.exp + ((Nat.toDigits 10 b.shortest.digits).length : Int) - 1 -
            (fracDs.length : Int) = b.shortest.exp := by
          omega
        rw [hds, digitsValue_toDigits, hexp, Dec.value, hdl, he]

/-- **A double reads back from its text**: the text `jsonNumbers` writes for a finite double,
followed by anything that does not continue a number. -/
theorem scanNumber_render {x : Float} {b : Binary} (hx : Kind.ofFloat x = .finite b)
    {rest : List Char} (hr : NumberEnd rest) (p : Nat) :
    scanNumber ((jsonNumbers.render x).toList ++ rest) p =
      .ok (.num x, rest, p + (jsonNumbers.render x).length) := by
  obtain ⟨intDs, fracDs, expo, hp, hfloat, htext, hnear⟩ := render_parts hx
  rw [htext, scanNumber_numberChars hp hr, if_neg hfloat, hnear, ← htext, String.length_toList]

end CodingAgent.Json
