import CodingAgent.Proofs.CleanValues
import CodingAgent.Recovery.Inline

/-!
# The tagged call format

A model may write its calls into its text as blocks

    <function=NAME><parameter=KEY>VALUE</parameter>...</tool_call>

This module writes the format down (`TaggedCall.text`, `formatText`: a leading text, then
blocks each followed by a text) and proves that `taggedCalls` reads back exactly the calls
written, in order, with their names and arguments (`taggedCalls_formatText`), whenever the
calls are ones the format carries (`TaggedCall.Carried`: names and keys are words, keys are
distinct, there is at least one argument, and every value is clean, unquoted and free of `<`)
and the texts between the blocks have no `<`. `textCalls` then returns the same calls, as soon
as there is one block (`textCalls_formatText`); without any block it reads JSON objects
instead, so a text without blocks may still carry calls (`untagged_text_reads_json_call`).

The reading is followed function by function, each on the format followed by any text:

* characters: a word character is no blank, and neither `<` nor `>` is one
  (`wordRanges_miss_marks`); comparing marks without regard to case matches `<` only with `<`
  (`sameLetter_lt_iff`), because no character lower-cases to `<` (`lowerRuns_spare`). Each
  table is searched once, in those two lemmas, and the facts about single characters are read
  off them;
* a block: the opening mark and the name are read (`nameThenClose_word`), the body runs to
  the first closing mark, which no parameter holds (`bodyUntilClosing_parameters`), and the
  search for blocks skips the texts between them (`blocksGo_formatText`);
* a parameter: its value runs up to the next parameter, `</parameter>` included
  (`parameterAt_text`), and the cleaner turns that back into the value written
  (`sanitize_closeParameter`); a new key goes last (`foldl_set_fresh`), so the arguments are
  the parameters in order (`blockArguments_text`).
-/

namespace CodingAgent.Recovery

open CodingAgent CodingAgent.Json CodingAgent.Text

/-! ## The format -/

/-- A call as the tagged format writes it: a name, and its arguments as keys with text
values, in order. -/
structure TaggedCall where
  name : String
  args : List (String × String)

/-- One parameter: `<parameter=KEY>VALUE</parameter>`. -/
def parameterText (kv : String × String) : String :=
  "<parameter=" ++ kv.1 ++ ">" ++ kv.2 ++ "</parameter>"

/-- The characters of a parameter, mark by mark. -/
theorem parameterText_toList (kv : String × String) :
    (parameterText kv).toList = "<parameter=".toList ++ kv.1.toList ++ ">".toList ++
      kv.2.toList ++ "</parameter>".toList := by
  unfold parameterText
  simp only [String.toList_append]

/-- The parameters of a call, one after the other. -/
def parametersText : List (String × String) → String
  | [] => ""
  | kv :: rest => parameterText kv ++ parametersText rest

/-- The block of a call: `<function=NAME>`, its parameters, then `</tool_call>`. -/
def TaggedCall.text (c : TaggedCall) : String :=
  "<function=" ++ c.name ++ ">" ++ parametersText c.args ++ "</tool_call>"

/-- The characters of a block, mark by mark. -/
theorem TaggedCall.text_toList (c : TaggedCall) :
    c.text.toList = "<function=".toList ++ c.name.toList ++ ">".toList ++
      (parametersText c.args).toList ++ "</tool_call>".toList := by
  unfold TaggedCall.text
  simp only [String.toList_append]

/-- Blocks, each followed by the text up to the next one. -/
def blocksText : List (TaggedCall × String) → String
  | [] => ""
  | (c, s) :: rest => c.text ++ s ++ blocksText rest

/-- A text in the tagged format: a leading text, then blocks each followed by a text. -/
def formatText (lead : String) (blocks : List (TaggedCall × String)) : String :=
  lead ++ blocksText blocks

/-- The arguments of a call as an object of texts. -/
def TaggedCall.arguments (c : TaggedCall) : Members :=
  c.args.map fun kv => (kv.1, .str kv.2)

/-- A word: one or more word characters. -/
def IsWord (s : String) : Prop :=
  s.toList ≠ [] ∧ ∀ c ∈ s.toList, isWordChar c = true

/-- Decided by a check on the characters of the text, so that the decision is the same
whatever instances are in scope. -/
instance (s : String) : Decidable (IsWord s) :=
  decidable_of_iff ((!s.toList.isEmpty && s.toList.all isWordChar) = true) (by
    simp [IsWord, List.all_eq_true])

/-- A value the format carries as it is: clean, not wrapped in quotes, and without `<`. -/
structure PlainValue (v : String) : Prop where
  clean : Clean v
  unquoted : ¬ Wrapped v
  noOpen : '<' ∉ v.toList

/-- A call the format carries: its name and keys are words, its keys are distinct, it has an
argument, and every value is plain. -/
structure TaggedCall.Carried (c : TaggedCall) : Prop where
  name : IsWord c.name
  keys : ∀ kv ∈ c.args, IsWord kv.1
  values : ∀ kv ∈ c.args, PlainValue kv.2
  distinct : (c.args.map Prod.fst).Nodup
  nonempty : c.args ≠ []

/-- The values the cleaner leaves as they are, `<` apart, are plain. -/
theorem plainValue_of_sanitize {v : String} (h : sanitize v = v) (hlt : '<' ∉ v.toList) :
    PlainValue v :=
  have hc := (sanitize_eq_self_iff v).1 h
  ⟨hc.1, hc.2, hlt⟩

/-- Whether the format carries a call, as a check that runs: the cleaner must leave each value
as it is. -/
def TaggedCall.check (c : TaggedCall) : Bool :=
  decide (IsWord c.name) && decide (c.args.map Prod.fst).Nodup && !c.args.isEmpty &&
    c.args.all fun kv => decide (IsWord kv.1) && sanitize kv.2 == kv.2 && decide ('<' ∉ kv.2.toList)

theorem TaggedCall.carried_of_check {c : TaggedCall} (h : c.check = true) : c.Carried := by
  simp only [TaggedCall.check, Bool.and_eq_true, decide_eq_true_eq, Bool.not_eq_true',
    List.isEmpty_eq_false_iff, List.all_eq_true, beq_iff_eq] at h
  obtain ⟨⟨⟨hname, hnd⟩, hne⟩, hall⟩ := h
  exact ⟨hname, fun kv hkv => (hall kv hkv).1.1,
    fun kv hkv => plainValue_of_sanitize (hall kv hkv).1.2 (hall kv hkv).2, hnd, hne⟩

/-- Blocks whose calls pass the check, between texts without `<`, are in the format. -/
theorem carried_of_all_check {blocks : List (TaggedCall × String)}
    (h : blocks.all (fun b => b.1.check && decide ('<' ∉ b.2.toList)) = true) :
    ∀ b ∈ blocks, b.1.Carried ∧ '<' ∉ b.2.toList := by
  intro b hb
  have hb' := List.all_eq_true.1 h b hb
  simp only [Bool.and_eq_true, decide_eq_true_eq] at hb'
  exact ⟨TaggedCall.carried_of_check hb'.1, hb'.2⟩

/-! ## Characters -/

/-- The code points of the blank characters: three runs and eight single ones. -/
def blankCodes : List Nat :=
  List.range' 0x09 5 ++ List.range' 0x1C 5 ++ [0x85, 0xA0, 0x1680] ++ List.range' 0x2000 11 ++
    [0x2028, 0x2029, 0x202F, 0x205F, 0x3000]

/-- Neither `<`, `>` nor a blank is in the word table. The table is searched once here, for
all of them, and the facts below about single characters are read off this one. -/
theorem wordRanges_miss_marks :
    ∀ n ∈ 0x3c :: 0x3e :: blankCodes, wordRanges.contains n = false := by
  decide +kernel

theorem isWordChar_gt : isWordChar '>' = false :=
  wordRanges_miss_marks 0x3e (by simp)

theorem isWordChar_lt : isWordChar '<' = false :=
  wordRanges_miss_marks 0x3c (by simp)

theorem mem_blankCodes {c : Char} (h : isSpace c = true) : c.toNat ∈ blankCodes := by
  unfold isSpace at h
  generalize c.toNat = n at h
  simp only [Bool.or_eq_true, Bool.and_eq_true, decide_eq_true_eq, beq_iff_eq] at h
  simp only [blankCodes, List.mem_append, List.mem_range'_1, List.mem_cons, List.not_mem_nil,
    or_false]
  omega

/-- No word character is blank. -/
theorem isSpace_of_isWordChar {c : Char} (h : isWordChar c = true) : isSpace c = false := by
  cases hs : isSpace c
  · rfl
  · have hw := wordRanges_miss_marks _ (.tail _ (.tail _ (mem_blankCodes hs)))
    simp only [isWordChar, hw, Bool.false_eq_true] at h

/-- A word has no blank at either end. -/
theorem trim_word {s : String} (hs : IsWord s) : trim s = s :=
  trim_of_ends (fun c hc => isSpace_of_isWordChar (hs.2 c (List.mem_of_mem_head? hc)))
    (fun c hc => isSpace_of_isWordChar (hs.2 c (List.mem_of_mem_getLast? hc)))

theorem toList_lower_singleton (c : Char) : (lower c.toString).toList = lowerAt [] c [] := by
  rw [lower, String.toList_ofList, Char.toString_eq_singleton, String.toList_singleton, lowerFrom,
    lowerFrom, List.append_nil]

theorem sameLetter_self (c : Char) : sameLetter c c = true := by
  simp [sameLetter]

/-- Every run of the lower-case table lands above or below `<`, and lies below `<`, between
`<` and `a`, or above `z`: the table sends nothing to `<` and leaves `<` and the small
letters alone. The table is searched once here. -/
theorem lowerRuns_spare : ∀ r ∈ lowerRuns.toList,
    ((r.first : Int) + r.delta > 0x3c ∨ (r.last : Int) + r.delta < 0x3c) ∧
    (r.last < 0x3c ∨ 0x3c < r.first ∧ r.last < 0x61 ∨ 0x7a < r.first) := by
  decide +kernel

/-- The lower-case table sends no code point to `<`. -/
theorem lowerOf?_ne_lt {n m : Nat} (h : lowerOf? n = some m) : m ≠ 0x3c := by
  unfold lowerOf? at h
  split at h
  · rename_i r hr
    have hin := List.find?_some hr
    simp only [Bool.and_eq_true, decide_eq_true_eq, beq_iff_eq] at hin
    have hland := (lowerRuns_spare r (List.mem_of_find?_eq_some hr)).1
    simp only [Option.some.injEq] at h
    omega
  · cases h

/-- `<` and the small letters have no other lower case. -/
theorem lowerOf?_spare {n : Nat} (hn : n = 0x3c ∨ 0x61 ≤ n ∧ n ≤ 0x7a) : lowerOf? n = none := by
  unfold lowerOf?
  rw [List.find?_eq_none.2 fun r hr => ?_]
  have hrun := (lowerRuns_spare r hr).2
  simp only [Bool.and_eq_true, decide_eq_true_eq, beq_iff_eq, not_and]
  omega

theorem ofNat_ne_lt {m : Nat} (hm : m ≠ 0x3c) : Char.ofNat m ≠ '<' := by
  intro h
  unfold Char.ofNat at h
  by_cases hv : m.isValidChar
  · -- a valid code is the number of the character it makes
    rw [dif_pos hv] at h
    have hcode : m = '<'.toNat := congrArg Char.toNat h
    exact hm hcode
  · rw [dif_neg hv] at h
    exact absurd h (by decide)

/-- Lower-casing a character alone gives `<` only from `<`. -/
theorem eq_lt_of_lowerAt {c : Char} (h : lowerAt [] c [] = ['<']) : c = '<' := by
  simp only [lowerAt, casedFirst, Bool.false_and, Bool.false_eq_true, if_false, beq_iff_eq] at h
  split_ifs at h
  · simp only [List.cons.injEq] at h
    exact absurd h.1 (by decide)
  · simp only [List.cons.injEq, and_true] at h
    exact absurd h (by decide)
  · split at h
    · rename_i m hm
      simp only [List.cons.injEq, and_true] at h
      exact absurd h (ofNat_ne_lt (lowerOf?_ne_lt hm))
    · simpa using h

/-- `<` and the small letters fold to themselves. -/
theorem foldLetter_spare {c : Char} (hc : c.toNat = 0x3c ∨ 0x61 ≤ c.toNat ∧ c.toNat ≤ 0x7a) :
    foldLetter c = c := by
  have hlow : lowerAt [] c [] = [c] := by
    simp only [lowerAt, lowerOf?_spare hc, beq_iff_eq]
    split_ifs <;> first | rfl | omega
  unfold foldLetter
  split <;> first | omega | simp only [toList_lower_singleton, hlow]

theorem foldLetter_lt : foldLetter '<' = '<' := foldLetter_spare (.inl rfl)

theorem eq_lt_of_foldLetter {c : Char} (h : foldLetter c = '<') : c = '<' := by
  unfold foldLetter at h
  split at h <;> try exact absurd h (by decide)
  split at h
  · rename_i d hd
    subst h
    rw [toList_lower_singleton] at hd
    exact eq_lt_of_lowerAt hd
  · exact h

/-- Without regard to case, `<` matches `<` alone. -/
theorem sameLetter_lt_iff {c : Char} : sameLetter '<' c = true ↔ c = '<' := by
  rw [sameLetter, foldLetter_lt]
  constructor
  · intro h
    simp only [Bool.or_eq_true, beq_iff_eq] at h
    rcases h with h | h
    · exact h.symm
    · exact eq_lt_of_foldLetter h.symm
  · rintro rfl
    simp

theorem sameLetter_t_p : sameLetter 't' 'p' = false := by
  rw [sameLetter, foldLetter_spare (.inr ⟨by decide, by decide⟩),
    foldLetter_spare (.inr ⟨by decide, by decide⟩)]
  decide

theorem sameLetter_f_p : sameLetter 'f' 'p' = false := by
  rw [sameLetter, foldLetter_spare (.inr ⟨by decide, by decide⟩),
    foldLetter_spare (.inr ⟨by decide, by decide⟩)]
  decide

/-! ## The marks -/

theorem dropWordFolded_append (w rest : List Char) :
    dropWordFolded w (w ++ rest) = some rest := by
  induction w with
  | nil => rfl
  | cons c w ih => simp [dropWordFolded, sameLetter_self, ih]

theorem dropWordExact_append (w rest : List Char) : dropWordExact w (w ++ rest) = some rest := by
  induction w with
  | nil => rfl
  | cons c w ih => simp [dropWordExact, ih]

theorem gt_toList : ">".toList = ['>'] := by simp

theorem openParameter_toList : "<parameter=".toList = '<' :: "parameter=".toList := by simp

theorem closeParameter_toList : "</parameter>".toList = '<' :: "/parameter>".toList := by simp

/-- The name of a block or the key of a parameter: a word, then `>`. -/
theorem nameThenClose_word {n : String} (hn : IsWord n) (rest : List Char) :
    nameThenClose (n.toList ++ '>' :: rest) = some (n, rest) := by
  have htake : (n.toList ++ '>' :: rest).takeWhile isWordChar = n.toList := by
    simp [List.takeWhile_append_of_pos hn.2, isWordChar_gt]
  have hdrop : (n.toList ++ '>' :: rest).dropWhile isWordChar = '>' :: rest := by
    simp [List.dropWhile_append_of_pos hn.2, isWordChar_gt]
  simp [nameThenClose, htake, hdrop, hn.1]

/-! ## The body of a block -/

theorem dropClosing_of_ne {c : Char} (hc : c ≠ '<') (cs : List Char) :
    dropClosing (c :: cs) = none := by
  simp [dropClosing, dropWordExact, Ne.symm hc]

/-- A parameter opens no closing mark. -/
theorem dropClosing_openParameter (cs : List Char) :
    dropClosing ('<' :: ("parameter=".toList ++ cs)) = none := by
  simp [dropClosing, dropWordExact]

/-- Nor does the end of a parameter: after `</` comes `p`, which starts neither closing word. -/
theorem dropClosing_closeParameter (cs : List Char) :
    dropClosing ('<' :: ("/parameter>".toList ++ cs)) = none := by
  simp [dropClosing, dropWordExact, dropWordFolded, sameLetter_t_p, sameLetter_f_p]

theorem bodyUntilClosing_cons {c : Char} {cs acc : List Char} (h : dropClosing (c :: cs) = none) :
    bodyUntilClosing (c :: cs) acc = bodyUntilClosing cs (c :: acc) := by
  rw [bodyUntilClosing, h]

theorem bodyUntilClosing_append_of_not_lt {xs : List Char} (hxs : '<' ∉ xs) (cs acc : List Char) :
    bodyUntilClosing (xs ++ cs) acc = bodyUntilClosing cs (xs.reverse ++ acc) := by
  induction xs generalizing acc with
  | nil => rfl
  | cons c xs ih =>
    rw [List.mem_cons, not_or] at hxs
    rw [List.cons_append, bodyUntilClosing_cons (dropClosing_of_ne (Ne.symm hxs.1) _), ih hxs.2]
    simp

/-- A parameter is read into the body whole. -/
theorem bodyUntilClosing_parameter {kv : String × String} (hk : IsWord kv.1)
    (hv : '<' ∉ kv.2.toList) (cs acc : List Char) :
    bodyUntilClosing ((parameterText kv).toList ++ cs) acc =
      bodyUntilClosing cs ((parameterText kv).toList.reverse ++ acc) := by
  have hkey : '<' ∉ kv.1.toList := fun h => absurd (hk.2 _ h) (by simp [isWordChar_lt])
  have hword : '<' ∉ "parameter=".toList := by simp
  have hslash : '<' ∉ "/parameter>".toList := by simp
  simp only [parameterText_toList, openParameter_toList, closeParameter_toList,
    gt_toList, List.cons_append, List.nil_append, List.append_assoc]
  rw [bodyUntilClosing_cons (dropClosing_openParameter _),
    bodyUntilClosing_append_of_not_lt hword, bodyUntilClosing_append_of_not_lt hkey,
    bodyUntilClosing_cons (dropClosing_of_ne (by decide) _), bodyUntilClosing_append_of_not_lt hv,
    bodyUntilClosing_cons (dropClosing_closeParameter _), bodyUntilClosing_append_of_not_lt hslash]
  simp

theorem bodyUntilClosing_parameters {args : List (String × String)}
    (h : ∀ kv ∈ args, IsWord kv.1 ∧ '<' ∉ kv.2.toList) (cs acc : List Char) :
    bodyUntilClosing ((parametersText args).toList ++ cs) acc =
      bodyUntilClosing cs ((parametersText args).toList.reverse ++ acc) := by
  induction args generalizing acc with
  | nil => simp [parametersText]
  | cons kv rest ih =>
    have hkv := h kv List.mem_cons_self
    rw [parametersText, String.toList_append, List.append_assoc,
      bodyUntilClosing_parameter hkv.1 hkv.2, ih (fun kv' hkv' => h kv' (List.mem_cons_of_mem _ hkv'))]
    simp

/-- The closing mark ends the body. -/
theorem bodyUntilClosing_closeCall (rest acc : List Char) :
    bodyUntilClosing ("</tool_call>".toList ++ rest) acc =
      some (String.ofList acc.reverse, rest) := by
  have hmark : "</tool_call>".toList = '<' :: "/tool_call>".toList := by simp
  have hclose : dropClosing ("</tool_call>".toList ++ rest) = some rest := by
    have hsplit : "</tool_call>".toList = "</".toList ++ "tool_call>".toList := by simp
    rw [hsplit, List.append_assoc]
    simp only [dropClosing, dropWordExact_append, dropWordFolded_append]
  rw [hmark, List.cons_append, bodyUntilClosing, ← List.cons_append, ← hmark, hclose]

/-- A block, with any text after it, is read as its name and body. -/
theorem blockAt_text {c : TaggedCall} (hc : c.Carried) (rest : List Char) :
    blockAt (c.text.toList ++ rest) = some (c.name, parametersText c.args, rest) := by
  have hbody : bodyUntilClosing ((parametersText c.args).toList ++ ("</tool_call>".toList ++ rest))
      [] = some (parametersText c.args, rest) := by
    rw [bodyUntilClosing_parameters (fun kv hkv => ⟨hc.keys kv hkv, (hc.values kv hkv).noOpen⟩),
      bodyUntilClosing_closeCall]
    simp
  simp only [blockAt, TaggedCall.text_toList, List.append_assoc, gt_toList,
    List.cons_append, List.nil_append, dropWordFolded_append, nameThenClose_word hc.name,
    Option.bind_eq_bind, Option.bind_some, hbody, Option.pure_def]

/-! ## Parameters -/

theorem valueUntilNext_cons {c : Char} {cs : List Char}
    (h : dropWordExact "<parameter=".toList (c :: cs) = none) :
    valueUntilNext (c :: cs) = (c :: (valueUntilNext cs).1, (valueUntilNext cs).2) := by
  rw [valueUntilNext, h]

theorem valueUntilNext_append_of_not_lt {xs : List Char} (hxs : '<' ∉ xs) (cs : List Char) :
    valueUntilNext (xs ++ cs) = (xs ++ (valueUntilNext cs).1, (valueUntilNext cs).2) := by
  induction xs with
  | nil => rfl
  | cons c xs ih =>
    rw [List.mem_cons, not_or] at hxs
    have hstop : dropWordExact "<parameter=".toList (c :: (xs ++ cs)) = none := by
      simp [openParameter_toList, dropWordExact, hxs.1]
    rw [List.cons_append, valueUntilNext_cons hstop, ih hxs.2]
    rfl

/-- The end of a parameter belongs to its value: after `<` comes `/`, not `parameter=`. -/
theorem valueUntilNext_closeParameter (cs : List Char) :
    valueUntilNext ("</parameter>".toList ++ cs) =
      ("</parameter>".toList ++ (valueUntilNext cs).1, (valueUntilNext cs).2) := by
  have hstop : dropWordExact "<parameter=".toList ('<' :: ("/parameter>".toList ++ cs)) = none := by
    simp [dropWordExact]
  have hslash : '<' ∉ "/parameter>".toList := by simp
  rw [closeParameter_toList, List.cons_append, valueUntilNext_cons hstop,
    valueUntilNext_append_of_not_lt hslash]
  rfl

/-- What may follow a parameter: the end of the body, or the next parameter. -/
theorem valueUntilNext_parametersText (args : List (String × String)) :
    valueUntilNext (parametersText args).toList = ([], (parametersText args).toList) := by
  cases args with
  | nil => simp [parametersText, valueUntilNext]
  | cons kv rest =>
    obtain ⟨d, ds, hd⟩ := List.exists_cons_of_ne_nil
      (show (parametersText (kv :: rest)).toList ≠ [] by
        simp [parametersText, parameterText_toList, openParameter_toList])
    have hopen : (parametersText (kv :: rest)).toList =
        "<parameter=".toList ++ (kv.1 ++ ">" ++ kv.2 ++ "</parameter>" ++
          parametersText rest).toList := by
      simp only [parametersText, parameterText_toList, String.toList_append, List.append_assoc]
    rw [hd, valueUntilNext, ← hd, hopen, dropWordExact_append]

/-- A blank never starts a value. -/
theorem dropWhile_value {v : String} (hv : Clean v) (rest : List Char) :
    (v.toList ++ '<' :: rest).dropWhile isSpace = v.toList ++ '<' :: rest := by
  cases h : v.toList with
  | nil => simp [isSpace]
  | cons c cs =>
    have hc : isSpace c = false := hv.startsClean c (by simp [h])
    simp [hc]

/-- A parameter followed by the end of the body or by the next parameter is read as its key
and its value up to the next parameter, `</parameter>` included. -/
theorem parameterAt_text {kv : String × String} (hk : IsWord kv.1) (hv : PlainValue kv.2)
    {cs : List Char} (hcs : valueUntilNext cs = ([], cs)) :
    parameterAt ((parameterText kv).toList ++ cs) = some (kv.1, kv.2 ++ "</parameter>", cs) := by
  have hvalue : valueUntilNext (kv.2.toList ++ '<' :: ("/parameter>".toList ++ cs)) =
      (kv.2.toList ++ "</parameter>".toList, cs) := by
    rw [← List.cons_append, ← closeParameter_toList, valueUntilNext_append_of_not_lt hv.noOpen,
      valueUntilNext_closeParameter, hcs]
    simp
  have hsplit : (parameterText kv).toList ++ cs = "<parameter=".toList ++
      (kv.1.toList ++ '>' :: (kv.2.toList ++ '<' :: ("/parameter>".toList ++ cs))) := by
    simp only [parameterText_toList, gt_toList, closeParameter_toList,
      List.append_assoc, List.cons_append, List.nil_append]
  rw [hsplit]
  simp only [parameterAt, dropWordExact_append, nameThenClose_word hk, dropWhile_value hv.clean,
    hvalue, Option.bind_eq_bind, Option.bind_some, Option.pure_def]
  rw [← String.toList_append, String.ofList_toList]

theorem parametersGo_cons {xs cs : List Char} {k v : String} (hxs : xs ≠ [])
    (h : parameterAt (xs ++ cs) = some (k, v, cs)) (fuel : Nat) :
    parametersOf.go (fuel + 1) (xs ++ cs) = (k, v) :: parametersOf.go fuel cs := by
  obtain ⟨d, ds, rfl⟩ := List.exists_cons_of_ne_nil hxs
  rw [List.cons_append] at h ⊢
  rw [parametersOf.go, h]

/-- The parameters of a body are read in order, each value with its `</parameter>`. -/
theorem parametersGo_text {args : List (String × String)}
    (h : ∀ kv ∈ args, IsWord kv.1 ∧ PlainValue kv.2) :
    ∀ fuel, (parametersText args).toList.length ≤ fuel →
      parametersOf.go fuel (parametersText args).toList =
        args.map fun kv => (kv.1, kv.2 ++ "</parameter>") := by
  induction args with
  | nil =>
    intro fuel _
    cases fuel <;> rfl
  | cons kv rest ih =>
    intro fuel hfuel
    have hkv := h kv List.mem_cons_self
    have hne : (parameterText kv).toList ≠ [] := by simp [parameterText_toList, openParameter_toList]
    have hlen : (parameterText kv).toList.length ≥ 1 := List.length_pos_iff.2 hne
    rw [parametersText, String.toList_append] at hfuel ⊢
    rw [List.length_append] at hfuel
    obtain ⟨f, rfl⟩ : ∃ f, fuel = f + 1 := ⟨fuel - 1, by omega⟩
    rw [parametersGo_cons hne (parameterAt_text hkv.1 hkv.2 (valueUntilNext_parametersText rest)),
      ih (fun kv' hkv' => h kv' (List.mem_cons_of_mem _ hkv')) f (by omega)]
    rfl

/-! ## The values and the arguments -/

theorem stripTags_append_of_not_lt {xs : List Char} (hxs : '<' ∉ xs) (ys : List Char) :
    stripTags (xs ++ ys) = xs ++ stripTags ys := by
  induction xs with
  | nil => rfl
  | cons c xs ih =>
    rw [List.mem_cons, not_or] at hxs
    rw [List.cons_append, stripTags]
    simp [Ne.symm hxs.1, ih hxs.2]

/-- A blank at the end goes with the trimming. -/
theorem trim_append_blank (s : String) : trim (s ++ " ") = trim s := by
  rw [← String.toList_inj, toList_trim, toList_trim, String.toList_append,
    show " ".toList = [' '] by simp, List.dropWhile_append]
  split
  · rename_i h
    simp only [List.isEmpty_iff] at h
    simp [h, isSpace]
  · simp [isSpace]

/-- The cleaner turns a plain value followed by the end of its parameter back into the value:
the mark becomes a blank, which the trimming removes. -/
theorem sanitize_closeParameter {v : String} (hv : PlainValue v) :
    sanitize (v ++ "</parameter>") = v := by
  have hclose : stripTags "</parameter>".toList = [' '] := by simp [stripTags]
  have hctl : ∀ x ∈ v.toList ++ [' '], isControl x = false := by
    intro x hx
    rcases List.mem_append.1 hx with hx | hx
    · exact hv.clean.noControl x hx
    · rw [List.mem_singleton] at hx
      subst hx
      decide
  have hchain : (v.toList ++ [' ']).IsChain (Apart isSpace) := by
    rw [List.isChain_append]
    refine ⟨hv.clean.apart, List.isChain_singleton _, fun x hx y _ hboth => ?_⟩
    rw [hv.clean.endsClean x hx] at hboth
    exact Bool.false_ne_true hboth.1
  have hspace : String.ofList (v.toList ++ [' ']) = v ++ " " := by
    rw [← String.toList_inj]
    simp
  simp only [sanitize, String.toList_append, stripTags_append_of_not_lt hv.noOpen, hclose,
    replaceRuns_of_none hctl, replaceRuns_two_of_isChain hchain, hspace, trim_append_blank,
    trim_of_ends hv.clean.startsClean hv.clean.endsClean, unquote_of_not_wrapped hv.unquoted]

/-- Setting keys that are new and distinct, one after the other, appends them in order. -/
theorem foldl_set_fresh {α : Type} (key : α → String) (val : α → Value) :
    ∀ (xs : List α) (acc : Members), (xs.map key).Nodup →
      (∀ x ∈ xs, acc.contains (key x) = false) →
      xs.foldl (fun acc x => Members.set acc (key x) (val x)) acc =
        acc ++ xs.map fun x => (key x, val x)
  | [], acc, _, _ => by simp
  | x :: xs, acc, hnd, hfresh => by
    rw [List.map_cons, List.nodup_cons] at hnd
    have hset : Members.set acc (key x) (val x) = acc ++ [(key x, val x)] := by
      simp [Members.set, hfresh x List.mem_cons_self]
    have hfresh' : ∀ y ∈ xs, Members.contains (acc ++ [(key x, val x)]) (key y) = false := by
      intro y hy
      have hne : key x ≠ key y := fun h => hnd.1 (h ▸ List.mem_map_of_mem hy)
      have hacc := hfresh y (List.mem_cons_of_mem _ hy)
      simp only [Members.contains] at hacc ⊢
      simp [List.any_append, hacc, hne]
    rw [List.foldl_cons, hset, foldl_set_fresh key val xs _ hnd.2 hfresh']
    simp

theorem getLast?_parameterText (kv : String × String) :
    (parameterText kv).toList.getLast? = some '>' := by
  rw [parameterText_toList, List.getLast?_append_of_ne_nil _ (by simp)]
  simp

/-- The last character of the parameters is the `>` of the last `</parameter>`. -/
theorem getLast?_parametersText {args : List (String × String)} (h : args ≠ []) :
    (parametersText args).toList.getLast? = some '>' := by
  induction args with
  | nil => contradiction
  | cons kv rest ih =>
    rw [parametersText, String.toList_append, List.getLast?_append]
    cases rest with
    | nil => simp [parametersText, getLast?_parameterText]
    | cons kv' rest' => simp [ih (List.cons_ne_nil _ _)]

theorem trim_parametersText {args : List (String × String)} (h : args ≠ []) :
    trim (parametersText args) = parametersText args := by
  obtain ⟨kv, rest, rfl⟩ := List.exists_cons_of_ne_nil h
  have hhead : (parametersText (kv :: rest)).toList.head? = some '<' := by
    simp [parametersText, parameterText_toList, openParameter_toList]
  refine trim_of_ends (fun c hc => ?_) (fun c hc => ?_)
  · rw [hhead, Option.mem_some_iff] at hc
    subst hc
    decide
  · rw [getLast?_parametersText h, Option.mem_some_iff] at hc
    subst hc
    decide

/-- The arguments read from the body of a carried call are its own, in order. -/
theorem blockArguments_text {c : TaggedCall} (hc : c.Carried) :
    blockArguments (parametersText c.args) = c.arguments := by
  have hargs : ∀ kv ∈ c.args, IsWord kv.1 ∧ PlainValue kv.2 :=
    fun kv h => ⟨hc.keys kv h, hc.values kv h⟩
  have hkeys : ((c.args.map fun kv => (kv.1, kv.2 ++ "</parameter>")).map fun kv => trim kv.1) =
      c.args.map Prod.fst := by
    rw [List.map_map]
    exact List.map_congr_left fun kv hkv => trim_word (hc.keys kv hkv)
  have hfold := foldl_set_fresh (fun kv : String × String => trim kv.1)
    (fun kv => Value.str (sanitize kv.2)) (c.args.map fun kv => (kv.1, kv.2 ++ "</parameter>")) []
    (by rw [hkeys]; exact hc.distinct) (fun _ _ => rfl)
  beta_reduce at hfold
  unfold blockArguments
  rw [trim_parametersText hc.nonempty, parametersOf, parametersGo_text hargs _ le_rfl, hfold,
    List.nil_append, List.map_map, TaggedCall.arguments]
  refine List.map_congr_left fun kv hkv => ?_
  simp only [Function.comp_apply, trim_word (hc.keys kv hkv),
    sanitize_closeParameter (hc.values kv hkv)]

/-! ## The blocks of a text -/

/-- Text without `<` starts no block. -/
theorem blockAt_of_ne {c : Char} (hc : c ≠ '<') (cs : List Char) : blockAt (c :: cs) = none := by
  have hs : sameLetter '<' c = false := by
    cases h : sameLetter '<' c
    · rfl
    · exact absurd (sameLetter_lt_iff.1 h) hc
  have hmark : "<function=".toList = '<' :: "function=".toList := by simp
  simp [blockAt, hmark, dropWordFolded, hs]

theorem blocksGo_nil (fuel : Nat) : taggedBlocks.go fuel [] = [] := by
  cases fuel <;> rfl

/-- The search for blocks passes over text without `<`, one character a step. -/
theorem blocksGo_skip {xs : List Char} (hxs : '<' ∉ xs) (cs : List Char) :
    ∀ fuel, xs.length ≤ fuel → taggedBlocks.go fuel (xs ++ cs) =
      taggedBlocks.go (fuel - xs.length) cs := by
  induction xs with
  | nil => simp
  | cons c xs ih =>
    intro fuel hfuel
    rw [List.mem_cons, not_or] at hxs
    obtain ⟨f, rfl⟩ : ∃ f, fuel = f + 1 := ⟨fuel - 1, by simp at hfuel; omega⟩
    rw [List.cons_append, taggedBlocks.go, blockAt_of_ne (Ne.symm hxs.1),
      ih hxs.2 f (by simp at hfuel; omega)]
    simp

/-- A block is read in one step of the search. -/
theorem blocksGo_block {b : TaggedCall} (hb : b.Carried) (cs : List Char) (fuel : Nat) :
    taggedBlocks.go (fuel + 1) (b.text.toList ++ cs) =
      (b.name, parametersText b.args) :: taggedBlocks.go fuel cs := by
  have h := blockAt_text hb cs
  obtain ⟨d, ds, hd⟩ := List.exists_cons_of_ne_nil
    (show b.text.toList ≠ [] by simp [TaggedCall.text_toList])
  rw [hd, List.cons_append] at h ⊢
  simp only [taggedBlocks.go, h]

/-- The search finds the blocks of the format in order, skipping the texts between them; the
fuel, one step a character, always suffices. -/
theorem blocksGo_formatText {blocks : List (TaggedCall × String)}
    (hblocks : ∀ b ∈ blocks, b.1.Carried ∧ '<' ∉ b.2.toList) :
    ∀ (lead : List Char) (fuel : Nat), '<' ∉ lead →
      (lead ++ (blocksText blocks).toList).length ≤ fuel →
      taggedBlocks.go fuel (lead ++ (blocksText blocks).toList) =
        blocks.map fun b => (b.1.name, parametersText b.1.args) := by
  induction blocks with
  | nil =>
    intro lead fuel hlead hfuel
    simp only [List.length_append] at hfuel
    rw [blocksGo_skip hlead _ fuel (by omega), blocksText, String.toList_empty, blocksGo_nil,
      List.map_nil]
  | cons b rest ih =>
    intro lead fuel hlead hfuel
    obtain ⟨c, s⟩ := b
    have hb := hblocks (c, s) List.mem_cons_self
    have hlen : c.text.toList.length ≥ 1 :=
      List.length_pos_iff.2 (by simp [TaggedCall.text_toList])
    simp only [blocksText, String.toList_append, List.length_append] at hfuel ⊢
    rw [blocksGo_skip hlead _ fuel (by omega)]
    obtain ⟨f, hf⟩ : ∃ f, fuel - lead.length = f + 1 := ⟨fuel - lead.length - 1, by omega⟩
    rw [hf, List.append_assoc, blocksGo_block hb.1,
      ih (fun b' hb' => hblocks b' (List.mem_cons_of_mem _ hb')) s.toList f hb.2
        (by simp only [List.length_append]; omega),
      List.map_cons]

theorem taggedBlocks_formatText {lead : String} {blocks : List (TaggedCall × String)}
    (hlead : '<' ∉ lead.toList) (hblocks : ∀ b ∈ blocks, b.1.Carried ∧ '<' ∉ b.2.toList) :
    taggedBlocks (formatText lead blocks).toList =
      blocks.map fun b => (b.1.name, parametersText b.1.args) := by
  rw [taggedBlocks, formatText, String.toList_append]
  exact blocksGo_formatText hblocks _ _ hlead le_rfl

/-! ## The calls -/

/-- A fold whose every step adds one item to the list it builds adds one item for each
element, in order. -/
theorem foldl_adds_one {α β γ δ : Type} (F : List β × γ → α → List β × γ) (view : β → δ)
    (g : α → δ) :
    ∀ (xs : List α) (acc : List β × γ),
      (∀ acc, ∀ x ∈ xs, (F acc x).1.map view = acc.1.map view ++ [g x]) →
      (xs.foldl F acc).1.map view = acc.1.map view ++ xs.map g
  | [], acc, _ => by simp
  | x :: xs, acc, h => by
    rw [List.foldl_cons, foldl_adds_one F view g xs _ fun acc y hy =>
      h acc y (List.mem_cons_of_mem _ hy), h acc x List.mem_cons_self]
    simp

/-- The tagged reader reads back the calls of a text in the format, in order, with their names
and arguments. -/
theorem taggedCalls_formatText {lead : String} {blocks : List (TaggedCall × String)}
    (hlead : '<' ∉ lead.toList) (hblocks : ∀ b ∈ blocks, b.1.Carried ∧ '<' ∉ b.2.toList)
    (ids : IdSource) :
    (taggedCalls (formatText lead blocks) ids).1.map (fun c => (c.name, c.arguments)) =
      blocks.map fun b => (.str b.1.name, .obj b.1.arguments) := by
  unfold taggedCalls
  rw [taggedBlocks_formatText hlead hblocks, List.foldl_map]
  refine (foldl_adds_one _ _ (fun b => (Value.str b.1.name, Value.obj b.1.arguments)) blocks
    ([], ids) fun acc b hb => ?_).trans (by simp)
  have hc := (hblocks b hb).1
  -- a carried call has a name and an argument, so its block makes a call
  have hname : (trim b.1.name).isEmpty = false := by
    rw [trim_word hc.name]
    cases h : b.1.name.isEmpty
    · rfl
    · exact absurd (by rw [String.isEmpty_iff.1 h]; rfl) hc.name.1
  have hargs : (blockArguments (parametersText b.1.args)).isEmpty = false := by
    rw [blockArguments_text hc, TaggedCall.arguments, List.isEmpty_map]
    exact List.isEmpty_eq_false_iff.2 hc.nonempty
  simp only [hname, hargs, Bool.or_false, Bool.false_eq_true, if_false]
  simp [trim_word hc.name, blockArguments_text hc]

/-- As soon as there is one block, the calls of a text are the tagged ones. -/
theorem textCalls_formatText {lead : String} {blocks : List (TaggedCall × String)}
    (hlead : '<' ∉ lead.toList) (hblocks : ∀ b ∈ blocks, b.1.Carried ∧ '<' ∉ b.2.toList)
    (hne : blocks ≠ []) (room : Nat) (ids : IdSource) :
    textCalls room (formatText lead blocks) ids =
      .ok (taggedCalls (formatText lead blocks) ids) := by
  have hlen := congrArg List.length (taggedCalls_formatText hlead hblocks ids)
  rw [List.length_map, List.length_map] at hlen
  have hcalls : (taggedCalls (formatText lead blocks) ids).1.isEmpty = false := by
    rw [List.isEmpty_eq_false_iff, ← List.length_pos_iff, hlen]
    exact List.length_pos_iff.2 hne
  unfold textCalls
  rcases htc : taggedCalls (formatText lead blocks) ids with ⟨tagged, ids'⟩
  rw [htc] at hcalls
  simp [hcalls]

/-- The tagged reader returns exactly the calls written in the format, in order, with their
names and arguments; and as soon as one call is written, the calls of the text are those. -/
theorem tagged_format_read_back {lead : String} {blocks : List (TaggedCall × String)}
    (hlead : '<' ∉ lead.toList) (hblocks : ∀ b ∈ blocks, b.1.Carried ∧ '<' ∉ b.2.toList)
    (ids : IdSource) :
    (taggedCalls (formatText lead blocks) ids).1.map (fun c => (c.name, c.arguments)) =
        blocks.map (fun b => (.str b.1.name, .obj b.1.arguments)) ∧
      (blocks ≠ [] → ∀ room, textCalls room (formatText lead blocks) ids =
        .ok (taggedCalls (formatText lead blocks) ids)) :=
  ⟨taggedCalls_formatText hlead hblocks ids,
    fun hne room => textCalls_formatText hlead hblocks hne room ids⟩

/-- Two calls in the format, each followed by a text. -/
def twoTaggedCalls : List (TaggedCall × String) :=
  [(⟨"read_file", [("path", "notes.txt")]⟩, " then "),
    (⟨"search", [("query", "open issues"), ("limit", "5")]⟩, "")]

theorem tagged_format_read_back_two_calls :
    (taggedCalls (formatText "Looking. " twoTaggedCalls) {}).1.map
        (fun c => (c.name, c.arguments)) =
      twoTaggedCalls.map (fun b => (.str b.1.name, .obj b.1.arguments)) ∧
    (twoTaggedCalls ≠ [] → ∀ room, textCalls room (formatText "Looking. " twoTaggedCalls) {} =
      .ok (taggedCalls (formatText "Looking. " twoTaggedCalls) {})) :=
  tagged_format_read_back (by decide +kernel) (carried_of_all_check (by decide +kernel)) {}

/-- A call written as a JSON object. -/
def jsonCallText : String :=
  "\x7b\"name\": \"f\", \"arguments\": \x7b\x7d\x7d"

/-- Without any block, the calls of a text are read from its JSON objects instead: a text in
the format with no block at all, whose leading text writes a call as JSON, gives no tagged call
but one call all the same. -/
theorem untagged_text_reads_json_call :
    '<' ∉ jsonCallText.toList ∧ (taggedCalls (formatText jsonCallText []) {}).1.length = 0 ∧
      ((textCalls entryRoom (formatText jsonCallText []) {}).toOption.map fun r => r.1.length) =
        some 1 := by
  decide +kernel

end CodingAgent.Recovery
