import CodingAgent.Proofs.FileChanges
import CodingAgent.Workspace.Setup
import CodingAgent.Proofs.NumberText
import CodingAgent.Proofs.CleanValues

/-!
# Windows of the lines of a file

`read_file` hands back a text file whole, or a window of its lines when an `offset` or a
`limit` is given. The lines are the pieces between the line feeds (`textLines`), so a text
with `k` line feeds has `k + 1` lines, the last one empty when the text ends with a line
feed. A window starts at line `offset`, counted from 1 (an offset of 0 or below starts at the
first line), and holds `limit` lines, or all that are left when the limit is absent or too
large; a negative limit gives no line.

Main statements:

* `intercalate_textLines`: the lines joined by line feeds give the text back, whatever line
  feeds it holds, trailing ones included; `intercalate_take_drop` splits such a join where
  two runs of lines meet.
* `lineWindow_of_lt`: a window that starts inside the text holds the lines from
  `s = max 0 (o - 1)` on, `max 0 (min l (L - s))` of them.
* `readInt?_toString`: an integer written out reads back as itself, so an integer argument of
  at most `digitLimit` digits is the line number it writes (`lineNumber_int`); a longer one is
  no line number.
* `readRun_text`: `read_file` on a text file of the workspace hands back the text or the
  window, and changes nothing.
* `read_windows_tile`: the first `j` lines and the lines from `j + 1` on, read as two
  windows, tile the file of fewer than `2 ^ 63` lines; and every window is the slice of lines
  the formula gives.
-/

namespace CodingAgent.Text

/-- An ASCII digit has the value its code gives: its run of digits is the first one. -/
theorem digitValue?_of_isDigit {c : Char} (h : c.isDigit = true) :
    digitValue? c = some (c.toNat - 48) := by
  have hc := Char.isDigit_iff_toNat.1 h
  have hfirst : (decide (0x30 ≤ c.toNat) && decide (c.toNat < 0x30 + 10)) = true := by
    simp only [Char.reduceToNat] at hc
    simp only [Bool.and_eq_true, decide_eq_true_eq]
    omega
  simp [digitValue?, digitZeros, hfirst]

theorem underscore_ne_of_isDigit {c : Char} (h : c.isDigit = true) : (c == '_') = false := by
  have hc := Char.isDigit_iff_toNat.1 h
  simp only [Char.reduceToNat] at hc
  rw [beq_eq_false_iff_ne]
  rintro rfl
  simp at hc

/-- Every decimal digit of a number is an ASCII digit. -/
theorem isDigit_of_mem_toDigits_ten (m : Nat) : ∀ c ∈ Nat.toDigits 10 m, c.isDigit = true :=
  fun _ hc => Nat.isDigit_of_mem_toDigits (by decide) (by decide) hc

/-- Once a digit has been read, a run of digits is read on as its value in base ten. -/
theorem readDigits_go_digits (ds : List Char) (hd : ∀ d ∈ ds, d.isDigit = true) (acc : Nat) :
    readDigits.go ds acc true false = some (Nat.ofDigitChars 10 ds acc) := by
  induction ds generalizing acc with
  | nil => simp [readDigits.go]
  | cons d ds ih =>
    have hdig := hd d List.mem_cons_self
    rw [readDigits.go, underscore_ne_of_isDigit hdig, digitValue?_of_isDigit hdig]
    simp only [Bool.false_eq_true, if_false]
    rw [ih (fun d' hd' => hd d' (List.mem_cons_of_mem _ hd')), Nat.ofDigitChars_cons,
      Nat.mul_comm]
    rfl

/-- The decimal digits of a number read back as the number. -/
theorem readDigits_toDigits (m : Nat) : readDigits (Nat.toDigits 10 m) = some m := by
  have hdig := isDigit_of_mem_toDigits_ten m
  obtain ⟨d, ds, hds⟩ := List.exists_cons_of_ne_nil (@Nat.toDigits_ne_nil m 10)
  rw [hds] at hdig
  have hd := hdig d List.mem_cons_self
  -- the first digit turns `seen` on; the rest is read as digits after a digit
  unfold readDigits
  rw [hds, readDigits.go, underscore_ne_of_isDigit hd, digitValue?_of_isDigit hd]
  simp only [Bool.false_eq_true, if_false]
  rw [readDigits_go_digits ds (fun d' hd' => hdig d' (List.mem_cons_of_mem _ hd'))]
  have hval := @Nat.ofDigitChars_ten_toDigits m
  rw [hds, Nat.ofDigitChars_cons] at hval
  simp only [Nat.mul_zero, Nat.zero_mul, Nat.zero_add, Char.reduceToNat] at hval ⊢
  rw [hval]

/-- A text with no white space at either end is its own trimming. -/
theorem trimWhiteSpace_of_ends {s : String}
    (hs : ∀ c ∈ s.toList.head?, isWhiteSpace c = false)
    (he : ∀ c ∈ s.toList.getLast?, isWhiteSpace c = false) : trimWhiteSpace s = s := by
  have hdrop : ∀ l : List Char, (∀ c ∈ l.head?, isWhiteSpace c = false) →
      l.dropWhile isWhiteSpace = l
    | [], _ => rfl
    | c :: rest, h => by simp [h c rfl]
  apply String.toList_injective
  rw [trimWhiteSpace, String.toList_ofList, hdrop _ hs,
    hdrop _ (by rwa [List.head?_reverse]), List.reverse_reverse]

theorem isWhiteSpace_of_isDigit {c : Char} (h : c.isDigit = true) : isWhiteSpace c = false := by
  have hc := Char.isDigit_iff_toNat.1 h
  simp only [Char.reduceToNat] at hc
  simp only [isWhiteSpace, Bool.or_eq_false_iff, Bool.and_eq_false_iff, decide_eq_false_iff_not,
    beq_eq_false_iff_ne]
  omega

theorem not_mem_toDigits_of_not_isDigit {c : Char} (hc : c.isDigit = false) (m : Nat) :
    c ∉ Nat.toDigits 10 m := by
  intro hmem
  have := isDigit_of_mem_toDigits_ten m c hmem
  rw [hc] at this
  cases this

/-- An integer written out starts with a minus sign or a digit and ends with a digit. -/
theorem toString_int_ends (n : Int) :
    (∀ c ∈ (toString n).toList.head?, c = '-' ∨ c.isDigit = true) ∧
      ∀ c ∈ (toString n).toList.getLast?, c.isDigit = true := by
  have hdig := isDigit_of_mem_toDigits_ten n.natAbs
  obtain ⟨x, hx⟩ := Option.isSome_iff_exists.1
    (List.getLast?_isSome.2 (@Nat.toDigits_ne_nil n.natAbs 10))
  refine ⟨fun c hc => ?_, fun c hc => ?_⟩
  · rw [toList_toString_int] at hc
    split at hc
    · exact .inr (hdig c (List.mem_of_head? hc))
    · cases hc
      exact .inl rfl
  · rw [toList_toString_int, List.getLast?_append, hx] at hc
    cases hc
    exact hdig x (List.mem_of_getLast? hx)

/-- An integer written out reads back as itself. -/
theorem readInt?_toString (n : Int) : readInt? (toString n) = some n := by
  obtain ⟨hhead, hlast⟩ := toString_int_ends n
  -- no white space at either end
  have hhead' : ∀ c ∈ (toString n).toList.head?, isWhiteSpace c = false := by
    intro c hc
    rcases hhead c hc with rfl | hd
    · decide
    · exact isWhiteSpace_of_isDigit hd
  unfold readInt?
  rw [trimWhiteSpace_of_ends hhead' (fun c hc => isWhiteSpace_of_isDigit (hlast c hc)),
    toList_toString_int]
  by_cases hn : 0 ≤ n
  · -- the digits alone: neither sign can lead them
    rw [if_pos hn, List.nil_append]
    split
    · rename_i rest heq
      exact absurd (heq ▸ List.mem_cons_self) (not_mem_toDigits_of_not_isDigit (by decide) _)
    · rename_i rest heq
      exact absurd (heq ▸ List.mem_cons_self) (not_mem_toDigits_of_not_isDigit (by decide) _)
    · simp only [readDigits_toDigits, Option.pure_def, Option.bind_eq_bind, Option.bind_some,
        Option.map_some, Option.some.injEq]
      omega
  · rw [if_neg hn, List.singleton_append]
    simp only [readDigits_toDigits, Option.pure_def, Option.bind_eq_bind, Option.bind_some,
      Option.map_some, Option.some.injEq]
    omega

theorem isSpace_of_isDigit {c : Char} (h : c.isDigit = true) : isSpace c = false := by
  have hc := Char.isDigit_iff_toNat.1 h
  simp only [Char.reduceToNat] at hc
  simp only [isSpace, Bool.or_eq_false_iff, Bool.and_eq_false_iff, decide_eq_false_iff_not,
    beq_eq_false_iff_ne]
  omega

/-- An integer written out has no blank at either end. -/
theorem trim_toString_int (n : Int) : trim (toString n) = toString n := by
  obtain ⟨hhead, hlast⟩ := toString_int_ends n
  refine Recovery.trim_of_ends (fun c hc => ?_) (fun c hc => isSpace_of_isDigit (hlast c hc))
  rcases hhead c hc with rfl | hd
  · decide
  · exact isSpace_of_isDigit hd

/-- A run of ASCII digits is counted whole: no low line stands at either end of it or inside. -/
theorem leadingDigitCount?_digits {ds : List Char} (hdig : ∀ c ∈ ds, c.isDigit = true)
    (hne : ds ≠ []) : leadingDigitCount? (String.ofList ds) = some ds.length := by
  have hline : ∀ c ∈ ds, (c == '_') = false := fun c hc => underscore_ne_of_isDigit (hdig c hc)
  obtain ⟨d, rest, rfl⟩ := List.exists_cons_of_ne_nil hne
  have hd : d.isDigit = true := hdig d List.mem_cons_self
  obtain ⟨x, hx⟩ := Option.isSome_iff_exists.1 (List.getLast?_isSome.2 hne)
  have hrun : (d :: rest).takeWhile (fun c => (digitValue? c).isSome || c == '_') = d :: rest :=
    List.takeWhile_eq_self_iff.2 (fun c hc => by simp [digitValue?_of_isDigit (hdig c hc)])
  unfold leadingDigitCount?
  rw [String.toList_ofList, List.dropWhile_cons_of_neg (by simp [isWhiteSpace_of_isDigit hd])]
  dsimp only
  -- a digit is no sign
  split
  · rename_i more heq
    exact absurd hd (by cases heq; decide)
  · rename_i more heq
    exact absurd hd (by cases heq; decide)
  rw [hrun]
  split
  · -- a low line at an end, or two together, would be a low line among the digits
    rename_i hbad
    simp only [Bool.or_eq_true, List.any_eq_true] at hbad
    rcases hbad with (hhead | hlast) | ⟨p, hp, hpair⟩
    · simp [hline d List.mem_cons_self] at hhead
    · rw [hx] at hlast
      simp [hline x (List.mem_of_getLast? hx)] at hlast
    · obtain ⟨a, b⟩ := p
      simp [hline a (List.of_mem_zip hp).1] at hpair
  · rw [List.filter_eq_self.2 (fun c hc => by simpa using hline c hc)]

/-- A minus sign ahead of a run that starts with an ASCII digit is passed over. -/
theorem leadingDigitCount?_minus {d : Char} (hd : d.isDigit = true) (rest : List Char) :
    leadingDigitCount? (String.ofList ('-' :: d :: rest)) =
      leadingDigitCount? (String.ofList (d :: rest)) := by
  conv_lhs => unfold leadingDigitCount?
  rw [String.toList_ofList, List.dropWhile_cons_of_neg (by decide)]
  dsimp only
  split
  · -- the sign is dropped, and the digits are read as a run of their own
    rename_i more heq
    cases heq
    symm
    unfold leadingDigitCount?
    rw [String.toList_ofList, List.dropWhile_cons_of_neg (by simp [isWhiteSpace_of_isDigit hd])]
    dsimp only
    split
    · rename_i more' heq'
      exact absurd hd (by cases heq'; decide)
    · rename_i more' heq'
      exact absurd hd (by cases heq'; decide)
    · rfl
  · rename_i more heq
    cases heq
  · rename_i hminus _
    exact absurd rfl (hminus (d :: rest))

/-- The digits of an integer written out are the whole run that `leadingDigitCount?` counts. -/
theorem leadingDigitCount?_toString (n : Int) :
    leadingDigitCount? (toString n) = some (Nat.toDigits 10 n.natAbs).length := by
  have hdig := isDigit_of_mem_toDigits_ten n.natAbs
  have hne := @Nat.toDigits_ne_nil n.natAbs 10
  have htext : toString n = String.ofList ((if 0 ≤ n then [] else ['-']) ++ Nat.toDigits 10 n.natAbs) := by
    rw [← toList_toString_int, String.ofList_toList]
  obtain ⟨d, rest, hds⟩ := List.exists_cons_of_ne_nil hne
  rw [htext]
  split
  · exact leadingDigitCount?_digits hdig hne
  · rw [List.singleton_append, hds, leadingDigitCount?_minus (hdig d (hds ▸ List.mem_cons_self)),
      ← hds]
    exact leadingDigitCount?_digits hdig hne

end CodingAgent.Text

namespace CodingAgent.Tool

open CodingAgent CodingAgent.Json CodingAgent.Text CodingAgent.Workspace

/-! ## Lines -/

/-- Joining the lines with line feeds gives the text back. -/
theorem intercalate_textLines (c : String) : "\n".intercalate (textLines c) = c := by
  apply String.toList_injective
  rw [String.toList_intercalate, textLines, List.map_map]
  simp only [Function.comp_def, String.toList_ofList, List.map_id']
  exact List.intercalate_splitOn '\n'

/-- Where two runs of lines meet, each holding a line, their joins with a line feed between
them make the join of the whole. -/
theorem intercalate_take_drop {ls : List String} {j : Nat} (hj : 0 < j) (hjl : j < ls.length) :
    "\n".intercalate (ls.take j) ++ "\n" ++ "\n".intercalate (ls.drop j) =
      "\n".intercalate ls := by
  have htake : ls.take j ≠ [] := by
    rw [Ne, List.take_eq_nil_iff]
    rintro (h | rfl)
    · omega
    · simp at hjl
  have hdrop : ls.drop j ≠ [] := by
    rw [Ne, List.drop_eq_nil_iff]
    omega
  rw [← String.intercalate_append_of_ne_nil htake hdrop, List.take_append_drop]

/-! ## Windows -/

/-- The first line of a window, counted from 0: the offset less one, and the first line for an
offset of 0 or below, or none. -/
def windowStart (offset : Option Int) : Int :=
  max 0 (offset.getD 1 - 1)

/-- How many lines a window from line `s` of `L` lines holds: the limit, or every line left
when there is none, and never fewer than none or more than are left. -/
def windowCount (L s : Int) (limit : Option Int) : Int :=
  max 0 (min (limit.getD (L - s)) (L - s))

/-- A window that starts inside the text holds `windowCount` lines from `windowStart` on. -/
theorem lineWindow_of_lt (c : String) (offset limit : Option Int)
    (hs : windowStart offset < (textLines c).length) :
    lineWindow c offset limit =
      "\n".intercalate (((textLines c).drop (windowStart offset).toNat).take
        (windowCount (textLines c).length (windowStart offset) limit).toNat) := by
  -- offsets 0 and 1 both start at the first line
  have hstart : max 0 (firstLine offset - 1) = windowStart offset := by
    cases offset with
    | none => rfl
    | some o =>
      by_cases h : o = 0
      · subst h
        decide
      · simp [firstLine, windowStart, h]
  simp only [lineWindow, hstart, ge_iff_le, Int.not_le.2 hs, if_false]
  rfl

/-- Text holding an integer of at most `digitLimit` digits converts to the integer. -/
theorem toInt_toString {n : Int} (h : (Nat.toDigits 10 n.natAbs).length ≤ digitLimit) :
    Value.toInt (.str (toString n)) = .ok n := by
  have hfit : ¬(Nat.toDigits 10 n.natAbs).length > 4300 := by
    unfold digitLimit at h
    omega
  simp only [Value.toInt, leadingDigitCount?_toString, if_neg hfit, Value.toInt.readNumeral,
    readInt?_toString]

/-- An integer argument of at most `digitLimit` digits is the line number it writes. -/
theorem lineNumber_int {n : Int} (h : (Nat.toDigits 10 n.natAbs).length ≤ digitLimit) :
    lineNumber (.int n) = some n := by
  have hdisplay : (Value.int n).display = toString n := rfl
  show (Value.toInt (.str (trim (Value.int n).display))).toOption = some n
  rw [hdisplay, trim_toString_int, toInt_toString h]
  rfl

/-- A count below `2 ^ 63` has at most `digitLimit` digits. -/
theorem length_toDigits_le_of_lt {m : Nat} (h : m < 2 ^ 63) :
    (Nat.toDigits 10 m).length ≤ digitLimit := by
  have hpow : 2 ^ 63 < 10 ^ digitLimit := calc
    2 ^ 63 < 10 ^ 63 := Nat.pow_lt_pow_left (by decide) (by decide)
    _ ≤ 10 ^ digitLimit := Nat.pow_le_pow_right (by decide) (by decide)
  exact (Nat.length_toDigits_le_iff (by decide) (by decide)).2 (Nat.lt_trans h hpow)

/-- A line number below `2 ^ 63` given as an integer is the line number it writes. -/
theorem lineNumber_nat {m : Nat} (h : m < 2 ^ 63) : lineNumber (.int m) = some (m : Int) :=
  lineNumber_int (by simpa using length_toDigits_le_of_lt h)

/-! ## Reading a file -/

/-- A text file of the workspace, as `read_file` finds it: the path passes the access test,
names a file, and its bytes read as the text `c`. -/
structure TextFile (h : Host) (path c : String) : Prop where
  accessible : accessible h path = .ok true
  present : exists? h path = .ok true
  reads : h.workspace.read path = .ok c

/-- The call `read_file(path, offset, limit)`; an argument that is `none` is left out. -/
def readCall (path : String) (offset limit : Option Value) : ToolCall :=
  { id := .str "call_1", name := .str "read_file",
    arguments := .obj ([("path", .str path)] ++ offset.toList.map (fun v => ("offset", v)) ++
      limit.toList.map (fun v => ("limit", v))) }

theorem argGet_readCall_path (path : String) (offset limit : Option Value) :
    argGet (readCall path offset limit).arguments "path" = .ok (.str path) := by
  simp [readCall, argGet, Members.get?]

theorem argGet_readCall_offset (path : String) (offset limit : Option Value) :
    argGet (readCall path offset limit).arguments "offset" = .ok (offset.getD .null) := by
  cases offset <;> cases limit <;> simp [readCall, argGet, Members.get?]

theorem argGet_readCall_limit (path : String) (offset limit : Option Value) :
    argGet (readCall path offset limit).arguments "limit" = .ok (limit.getD .null) := by
  cases offset <;> cases limit <;> simp [readCall, argGet, Members.get?]

/-- An absent argument is no line number. -/
theorem lineNumber_getD_null (v : Option Value) : lineNumber (v.getD .null) = v.bind lineNumber := by
  cases v <;> rfl

/-- `read_file` on a text file of the workspace hands back the text when neither `offset` nor
`limit` is a line number, and the window they give otherwise; it changes nothing. -/
theorem readRun_text {h : Host} {path c : String} (hf : TextFile h path c)
    (offset limit : Option Value) :
    toolWp (readRun (readCall path offset limit))
      (fun r h' => h' = h ∧ r = ToolResult.ok
        (if (offset.bind lineNumber).isNone && (limit.bind lineNumber).isNone then c
          else lineWindow c (offset.bind lineNumber) (limit.bind lineNumber)))
      (fun _ => False) h := by
  have hdisplay : (Value.str path).display = path := rfl
  have hnull : (Value.str path).isNull = false := rfl
  simp only [readRun, toolWp_bind, toolWp_get, toolWp_ite, toolWp_pure, argGet_readCall_path,
    toolWp_liftRaise_ok, hnull, hdisplay, hf.accessible, hf.present, hf.reads, Bool.not_true,
    Bool.false_eq_true, if_false, argGet_readCall_offset, argGet_readCall_limit,
    lineNumber_getD_null]
  split <;> simp

/-- `read_file`, run from `h`, hands back `text` and leaves the host as it was. -/
def ReadsAs (h : Host) (call : ToolCall) (text : String) : Prop :=
  toolWp (readRun call) (fun r h' => h' = h ∧ r = ToolResult.ok text) (fun _ => False) h

/-- Asked for a window that starts inside the file, `read_file` hands back the lines the
window formula gives. -/
theorem readsAs_window {h : Host} {path c : String} (hf : TextFile h path c)
    (offset limit : Option Value)
    (hgiven : (offset.bind lineNumber).isSome ∨ (limit.bind lineNumber).isSome)
    (hs : windowStart (offset.bind lineNumber) < (textLines c).length) :
    ReadsAs h (readCall path offset limit)
      ("\n".intercalate (((textLines c).drop (windowStart (offset.bind lineNumber)).toNat).take
        (windowCount (textLines c).length (windowStart (offset.bind lineNumber))
          (limit.bind lineNumber)).toNat)) := by
  have hwindow : ((offset.bind lineNumber).isNone && (limit.bind lineNumber).isNone) = false := by
    rcases hgiven with hg | hg <;> simp [← Option.not_isSome, hg]
  refine toolWp_mono (readRun_text hf offset limit) (fun r h' hr => ?_) (fun _ hE => hE)
  rw [hwindow, if_neg Bool.false_ne_true, lineWindow_of_lt c _ _ hs] at hr
  exact hr

/-- Without `offset` and `limit`, `read_file` hands back the whole text. -/
theorem readsAs_whole {h : Host} {path c : String} (hf : TextFile h path c) :
    ReadsAs h (readCall path none none) c :=
  toolWp_mono (readRun_text hf none none) (fun _ _ hr => by simpa using hr) (fun _ hE => hE)

/-- Reading a text file whole, or as the first `j` lines and then the lines from `j + 1` on,
gives the same text: the two windows meet with no line lost or read twice. And every window
`read_file` hands back for a line number it accepts, from a line inside the file, is the slice
of lines from `windowStart` on, `windowCount` of them.

The file has fewer than `2 ^ 63` lines, as every list of lines a running program holds does (a
length is a signed machine word), so each line number `j` is written with far fewer than the
`digitLimit` digits past which it would be no line number at all. -/
theorem read_windows_tile {h : Host} {path c : String} (hf : TextFile h path c)
    (hL : (textLines c).length < 2 ^ 63) :
    ReadsAs h (readCall path none none) c ∧
    (∀ j : Nat, 1 ≤ j → j < (textLines c).length →
      ∃ a b, ReadsAs h (readCall path (some (.int 1)) (some (.int j))) a ∧
        ReadsAs h (readCall path (some (.int (j + 1))) none) b ∧ a ++ "\n" ++ b = c) ∧
    (∀ offset limit : Option Value,
      (offset.bind lineNumber).isSome ∨ (limit.bind lineNumber).isSome →
      windowStart (offset.bind lineNumber) < (textLines c).length →
      ReadsAs h (readCall path offset limit)
        ("\n".intercalate (((textLines c).drop (windowStart (offset.bind lineNumber)).toNat).take
          (windowCount (textLines c).length (windowStart (offset.bind lineNumber))
            (limit.bind lineNumber)).toNat))) := by
  refine ⟨readsAs_whole hf, fun j hj hjL => ?_, readsAs_window hf⟩
  -- `1`, `j` and `j + 1` are line numbers: they are at most the count of lines
  have hone : lineNumber (.int 1) = some 1 := lineNumber_nat (m := 1) (by decide)
  have hjn : lineNumber (.int j) = some (j : Int) := lineNumber_nat (by omega)
  have hjn1 : lineNumber (.int ((j : Int) + 1)) = some ((j : Int) + 1) := by
    exact_mod_cast lineNumber_nat (m := j + 1) (by omega)
  -- the first window starts at line 1 and holds `j` lines
  have hfirst := readsAs_window hf (some (.int 1)) (some (.int j)) (by simp [hone])
    (by simp [hone, windowStart]; omega)
  -- the second starts at line `j + 1` and holds the rest
  have hsecond := readsAs_window hf (some (.int (j + 1))) none (by simp [hjn1])
    (by simp [hjn1, windowStart]; omega)
  have hcount1 : (windowCount (textLines c).length (windowStart (some 1)) (some (j : Int))).toNat
      = j := by
    simp only [windowCount, windowStart, Option.getD_some]
    omega
  have hcount2 : (windowCount (textLines c).length (windowStart (some ((j : Int) + 1))) none).toNat
      = (textLines c).length - j := by
    simp only [windowCount, windowStart, Option.getD_some, Option.getD_none]
    omega
  simp only [Option.bind_some, Option.bind_none, hone, hjn, hjn1, hcount1, hcount2] at hfirst hsecond
  have hstart1 : (windowStart (some 1)).toNat = 0 := by decide
  have hstart2 : (windowStart (some ((j : Int) + 1))).toNat = j := by
    simp only [windowStart, Option.getD_some]
    omega
  have hrest : ((textLines c).drop j).take ((textLines c).length - j) = (textLines c).drop j :=
    List.take_of_length_le (by simp)
  rw [hstart1, List.drop_zero] at hfirst
  rw [hstart2, hrest] at hsecond
  refine ⟨_, _, hfirst, hsecond, ?_⟩
  rw [intercalate_take_drop hj hjL, intercalate_textLines]

theorem eq_ok_of_toOption {ε α : Type} {e : Except ε α} {a : α} (h : e.toOption = some a) :
    e = .ok a := by
  cases e with
  | error _ => simp [Except.toOption] at h
  | ok b => simp_all [Except.toOption]

/-- A workspace at `/ws` holding the text file `notes.txt`, two lines and a line feed. -/
def notesHost : Host :=
  let w := Workspace.empty ["ws"] ["home"]
  { workspace := { w with files := w.files.putFile ["ws", "notes.txt"] "one\ntwo\n".toUTF8.toList } }

theorem notes_windows_tile :
    TextFile notesHost "notes.txt" "one\ntwo\n" ∧ (textLines "one\ntwo\n").length < 2 ^ 63 ∧
    ReadsAs notesHost (readCall "notes.txt" none none) "one\ntwo\n" ∧
    (∀ j : Nat, 1 ≤ j → j < (textLines "one\ntwo\n").length →
      ∃ a b, ReadsAs notesHost (readCall "notes.txt" (some (.int 1)) (some (.int j))) a ∧
        ReadsAs notesHost (readCall "notes.txt" (some (.int (j + 1))) none) b ∧
        a ++ "\n" ++ b = "one\ntwo\n") ∧
    (∀ offset limit : Option Value,
      (offset.bind lineNumber).isSome ∨ (limit.bind lineNumber).isSome →
      windowStart (offset.bind lineNumber) < (textLines "one\ntwo\n").length →
      ReadsAs notesHost (readCall "notes.txt" offset limit)
        ("\n".intercalate (((textLines "one\ntwo\n").drop
          (windowStart (offset.bind lineNumber)).toNat).take
          (windowCount (textLines "one\ntwo\n").length (windowStart (offset.bind lineNumber))
            (limit.bind lineNumber)).toNat))) := by
  have hf : TextFile notesHost "notes.txt" "one\ntwo\n" :=
    ⟨eq_ok_of_toOption (by decide +kernel), eq_ok_of_toOption (by decide +kernel),
      eq_ok_of_toOption (by decide +kernel)⟩
  have hL : (textLines "one\ntwo\n").length < 2 ^ 63 := by decide
  exact ⟨hf, hL, read_windows_tile hf hL⟩

end CodingAgent.Tool
