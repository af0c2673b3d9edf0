import Mathlib.Data.Nat.Digits.Defs
import CodingAgent.Proofs.Truncation

/-!
# Fitting a conversation into its budget

`Context.truncate` is stated here for conversations as the program types them
(`Message.Typed`: text contents, and text names on the recorded calls). On such messages every
estimate can be taken, so truncation always gives a result, and the module says which.

* Text. A shortened text keeps a prefix of the text's code points: `truncateToTokens_isPrefix`
  rests on `codePoints_ofCodePoints_append`, which reads encoded code points back.
* Estimates. `Message.estimate` and `totalEstimate` read the estimate of a typed message and
  of a conversation as numbers (`conversationTokens_typed`).
* One message shortened. `Message.shrunk` is what `shrinkOne` makes of a message;
  `Message.keptOrShortened_shrunk` says everything it can do, and `Message.estimate_shrunk_le` that it
  never raises the estimate: the kept prefix costs at most a third of the tokens (200 at
  least), and the marker with the former size costs less than the rest of a text of more than
  500 tokens.
* The shortening loop. `shrinkFrom_typed` says that the loop shortens the messages after the
  first up to some point, and stops early only once the conversation fits.
* Truncation. `truncate_typed` is the one statement the main results use: a conversation
  within the budget comes back as it is; otherwise the result is its `cut` with the messages
  after the first shortened up to a point, and all of them unless it fits by then.

The main results are `truncate_cuts_then_shortens` (the shape of the result, message by
message), `truncate_fits_or_fully_shrunk` (within the budget, or shortened as far as it
goes), and `truncate_estimate_le` (the estimate grows only where the note that replaces the
middle of a conversation costs more than the messages it replaces, and the result stays over
the budget). Values are never changed in place, so the input conversation stays as it was.
-/

namespace CodingAgent.Text

/-- A character that is not the mark reads as its own code point, whatever follows it. -/
theorem codePoints_cons_of_ne_mark {c : Char} (h : c ≠ markChar) (cs : List Char) :
    codePoints (c :: cs) = ownCode c :: codePoints cs := by
  cases cs with
  | nil => rfl
  | cons d more =>
    have hne : (c == markChar) = false := by simpa using h
    simp [codePoints, hne]

/-- Every character's code lies below `0x110000`. -/
theorem char_toNat_lt (c : Char) : c.toNat < 0x110000 := by
  have h := c.valid
  simp only [UInt32.isValidChar, Nat.isValidChar] at h
  show c.val.toNat < _
  omega

/-- The code point a character holds on its own lies below `0x110000`. -/
theorem ownCode_lt (c : Char) : ownCode c < 0x110000 := by
  have hc := char_toNat_lt c
  unfold ownCode standInBase
  split <;> omega

/-- Every code point read from characters lies below `0x110000`. -/
theorem codePoints_lt : ∀ cs : List Char, ∀ n ∈ codePoints cs, n < 0x110000
  | [] => by simp [codePoints]
  | [c] => by simpa [codePoints] using ownCode_lt c
  | c :: d :: more => by
    intro n hn
    unfold codePoints at hn
    split at hn
    · rcases List.mem_cons.1 hn with rfl | hn
      · exact char_toNat_lt d
      · exact codePoints_lt more n hn
    · rcases List.mem_cons.1 hn with rfl | hn
      · exact ownCode_lt c
      · exact codePoints_lt (d :: more) n hn

/-- A valid code other than the mark's is a character other than the mark. -/
theorem ofNat_ne_markChar {k : Nat} (hv : k.isValidChar) (hk : k ≠ markCode) :
    Char.ofNat k ≠ markChar := by
  intro heq
  have := congrArg Char.toNat heq
  rw [toNat_ofNat_of_valid _ hv, markChar_toNat] at this
  exact hk this

/-- The characters of a code point are read back first, whatever follows them. -/
theorem codePoints_codeChars_append {n : Nat} (h : n < 0x110000) (cs : List Char) :
    codePoints (codeChars n ++ cs) = n :: codePoints cs := by
  by_cases hs : isSurrogateCode n = true
  · -- a surrogate is its stand-in, which is no mark
    have hs' := hs
    simp only [isSurrogateCode, Bool.and_eq_true, decide_eq_true_eq] at hs'
    have hv : (standInBase + (n - 0xD800)).isValidChar := by
      unfold standInBase; right; constructor <;> omega
    have hc : codeChars n = [Char.ofNat (standInBase + (n - 0xD800))] := by
      simp [codeChars, hs]
    have hmark : Char.ofNat (standInBase + (n - 0xD800)) ≠ markChar :=
      ofNat_ne_markChar hv (by unfold standInBase markCode; omega)
    have hown : ownCode (Char.ofNat (standInBase + (n - 0xD800))) = n := by
      have hin : standInBase ≤ standInBase + (n - 0xD800) := Nat.le_add_right _ _
      simp only [ownCode, isStandIn, toNat_ofNat_of_valid _ hv, hin, decide_true, ↓reduceIte]
      omega
    rw [hc, List.singleton_append, codePoints_cons_of_ne_mark hmark, hown]
  · have hs' : isSurrogateCode n = false := by simpa using hs
    by_cases hm : markCode ≤ n
    · -- a code point of the top range is the mark and its character
      have hv : n.isValidChar := by right; unfold markCode at hm; constructor <;> omega
      have hc : codeChars n = [markChar, Char.ofNat n] := by simp [codeChars, hs', hm]
      rw [hc]
      simp [codePoints, toNat_ofNat_of_valid _ hv, hm]
    · -- any other code point is its own character
      have hv : n.isValidChar := by
        simp only [isSurrogateCode, Bool.and_eq_false_iff, decide_eq_false_iff_not,
          Nat.not_le] at hs'
        unfold markCode at hm
        rcases hs' with hlow | hhigh
        · left; exact hlow
        · right; constructor <;> omega
      have hc : codeChars n = [Char.ofNat n] := by simp [codeChars, hs', hm]
      have hmark : Char.ofNat n ≠ markChar :=
        ofNat_ne_markChar hv fun h => hm (Nat.le_of_eq h.symm)
      have hown : ownCode (Char.ofNat n) = n := by
        have hlow : ¬ standInBase ≤ n := by unfold standInBase markCode at *; omega
        simp [ownCode, isStandIn, toNat_ofNat_of_valid _ hv, hlow]
      rw [hc, List.singleton_append, codePoints_cons_of_ne_mark hmark, hown]

/-- Encoded code points are read back, whatever text follows them. -/
theorem codePoints_ofCodePoints_append {ns : List Nat} (h : ∀ n ∈ ns, n < 0x110000)
    (t : String) : codePoints (ofCodePoints ns ++ t).toList = ns ++ codePoints t.toList := by
  rw [String.toList_append, ofCodePoints, String.toList_ofList]
  induction ns with
  | nil => rfl
  | cons n rest ih =>
    rw [List.flatMap_cons, List.append_assoc,
      codePoints_codeChars_append (h n List.mem_cons_self),
      ih fun m hm => h m (List.mem_cons_of_mem n hm), List.cons_append]

end CodingAgent.Text

namespace CodingAgent.Context

open CodingAgent CodingAgent.Json CodingAgent.Text

/-! ## Costs of code points -/

theorem quarters_append (xs ys : List Nat) : quarters (xs ++ ys) = quarters xs + quarters ys := by
  induction xs with
  | nil => simp [quarters]
  | cons n rest ih =>
    simp only [List.cons_append, quarters, ih]
    omega

/-- Each code point costs a quarter token at least. -/
theorem length_le_quarters : ∀ ns : List Nat, ns.length ≤ quarters ns
  | [] => by simp [quarters]
  | n :: rest => by
    have hn : 1 ≤ codeQuarters n := by unfold codeQuarters; split <;> omega
    have hrest := length_le_quarters rest
    simp only [quarters, List.length_cons]
    omega

/-- A text is estimated at a quarter token per code point at least. -/
theorem codeLength_le_estimateTokens (s : String) :
    (codePoints s.toList).length ≤ 4 * estimateTokens s := by
  have hq := length_le_quarters (codePoints s.toList)
  unfold estimateTokens
  split
  · rename_i hempty
    rw [String.isEmpty_iff.1 hempty]
    simp [codePoints]
  · omega

/-- A text of one character is estimated at one to three tokens. -/
theorem estimateTokens_of_length_one (c : String) (h : c.toList.length = 1) :
    1 ≤ estimateTokens c ∧ estimateTokens c ≤ 3 := by
  have hne : c.isEmpty = false := by
    cases he : c.isEmpty
    · rfl
    · rw [String.isEmpty_iff.1 he] at h
      simp at h
  have := estimateTokens_le c
  exact ⟨one_le_estimateTokens hne, by omega⟩

theorem prefixWithin_isPrefix : ∀ (budget : Nat) (ns : List Nat), prefixWithin budget ns <+: ns
  | _, [] => by simp [prefixWithin]
  | budget, n :: rest => by
    unfold prefixWithin
    split
    · exact (List.prefix_cons_inj n).2 (prefixWithin_isPrefix _ rest)
    · exact List.nil_prefix

/-- The prefix kept within a budget of quarter tokens costs at most that budget. -/
theorem quarters_prefixWithin_le : ∀ (budget : Nat) (ns : List Nat),
    quarters (prefixWithin budget ns) ≤ budget
  | _, [] => by simp [prefixWithin, quarters]
  | budget, n :: rest => by
    unfold prefixWithin
    split
    · have hrest := quarters_prefixWithin_le (budget - codeQuarters n) rest
      simp only [quarters]
      omega
    · simp [quarters]

/-- Every prefix that stays within the budget is a prefix of the one kept: the cut is the
longest that fits, since each code point costs something and the walk stops at the first
that does not fit. -/
theorem prefixWithin_longest : ∀ (budget : Nat) (ns q : List Nat), q <+: ns →
    quarters q ≤ budget → q <+: prefixWithin budget ns
  | _, [], q, hq, _ => by
    rw [List.prefix_nil.1 hq]
    exact List.nil_prefix
  | _, _ :: _, [], _, _ => List.nil_prefix
  | budget, n :: rest, m :: q, hq, hcost => by
    obtain ⟨rfl, hrest⟩ := List.cons_prefix_cons.1 hq
    have hfits : codeQuarters m ≤ budget := by
      simp only [quarters] at hcost
      omega
    have htail : quarters q ≤ budget - codeQuarters m := by
      simp only [quarters] at hcost
      omega
    rw [prefixWithin, if_pos hfits]
    exact (List.prefix_cons_inj m).2 (prefixWithin_longest _ rest q hrest htail)

/-- Encoded code points read back as themselves. -/
theorem codePoints_ofCodePoints {ns : List Nat} (h : ∀ n ∈ ns, n < 0x110000) :
    codePoints (ofCodePoints ns).toList = ns := by
  simpa [codePoints] using codePoints_ofCodePoints_append h ""

/-- The code points a text cut to a number of tokens keeps, all valid. -/
theorem codePoints_truncateToTokens (s : String) (target : Nat) :
    codePoints (truncateToTokens s target).toList =
      prefixWithin (4 * target) (codePoints s.toList) :=
  codePoints_ofCodePoints fun n hn =>
    codePoints_lt s.toList n ((prefixWithin_isPrefix _ _).subset hn)

/-- A text cut to a number of tokens keeps a prefix of its code points. -/
theorem truncateToTokens_isPrefix (s : String) (target : Nat) :
    codePoints (truncateToTokens s target).toList <+: codePoints s.toList := by
  rw [codePoints_truncateToTokens]
  exact prefixWithin_isPrefix _ _

/-! ## A long text, shortened -/

/-- A number is written with at most `n / 100 + 3` digits. -/
theorem toString_length_le (n : Nat) : (toString n).toList.length ≤ n / 100 + 3 := by
  rw [String.length_toList]
  apply Nat.repr_length n _ (by omega)
  have hpow : n / 100 < 10 ^ (n / 100) := Nat.lt_pow_self (by norm_num)
  calc n < 100 * (n / 100 + 1) := by omega
    _ ≤ 1000 * 10 ^ (n / 100) := by omega
    _ = 10 ^ (n / 100 + 3) := by ring

/-- A long text shortened: the prefix that fits into a third of its tokens (`shrunkFloor` at
least), then a marker of its former size. -/
def shortenedText (s : String) : String :=
  truncateToTokens s (max shrunkFloor (estimateTokens s / 3)) ++
    "\n... [truncated, original ~" ++ toString (estimateTokens s) ++ " tokens]"

/-- Shortening a long text costs less than the text: the kept prefix costs at most a third of
its tokens (or 200), and the marker some tens of tokens. -/
theorem estimateTokens_shortenedText_lt {s : String} (h : longMessageTokens < estimateTokens s) :
    estimateTokens (shortenedText s) < estimateTokens s := by
  obtain ⟨ns, hns⟩ : ∃ ns, ns =
      prefixWithin (4 * max shrunkFloor (estimateTokens s / 3)) (codePoints s.toList) := ⟨_, rfl⟩
  obtain ⟨marker, hm⟩ : ∃ marker : String,
      marker = "\n... [truncated, original ~" ++ toString (estimateTokens s) ++ " tokens]" :=
    ⟨_, rfl⟩
  have hvalid : ∀ n ∈ ns, n < 0x110000 := by
    rw [hns]
    exact fun n hn => codePoints_lt s.toList n ((prefixWithin_isPrefix _ _).subset hn)
  have htext : shortenedText s = ofCodePoints ns ++ marker := by
    rw [hns, hm]
    simp only [shortenedText, truncateToTokens, String.append_assoc]
  -- the kept code points cost at most the target, each character of the marker at most 6
  have hkept : quarters ns ≤ 4 * max shrunkFloor (estimateTokens s / 3) :=
    hns ▸ quarters_prefixWithin_le _ _
  have hmarker : marker.toList.length = 35 + (toString (estimateTokens s)).toList.length := by
    rw [hm]
    simp only [String.toList_append, List.length_append]
    simp
    omega
  have hrest : quarters (codePoints marker.toList) ≤ 6 * marker.toList.length :=
    (quarters_le _).trans (Nat.mul_le_mul_left 6 (codePoints_length_le _))
  have hq : quarters (codePoints (shortenedText s).toList) ≤
      4 * max 200 (estimateTokens s / 3) + 6 * (35 + (toString (estimateTokens s)).toList.length) := by
    rw [htext, codePoints_ofCodePoints_append hvalid, quarters_append]
    unfold shrunkFloor at hkept
    omega
  have hle : estimateTokens (shortenedText s) ≤
      max 1 ((quarters (codePoints (shortenedText s).toList) + 3) / 4) := by
    unfold estimateTokens
    split <;> omega
  have hd := toString_length_le (estimateTokens s)
  unfold longMessageTokens at h
  generalize estimateTokens s = T at *
  omega

theorem estimateTokens_shortenedText_le {s : String} (h : longMessageTokens < estimateTokens s) :
    estimateTokens (shortenedText s) ≤ estimateTokens s :=
  (estimateTokens_shortenedText_lt h).le

end CodingAgent.Context

namespace CodingAgent

open CodingAgent.Json CodingAgent.Context

/-! ## Typed messages, their estimate and their shortened form -/

/-- A message as the program types it: its content is text, and so is the name of each call
it records. -/
structure Message.Typed (m : Message) : Prop where
  content : ∃ s, m.content = .str s
  names : ∀ r ∈ m.toolCalls, ∃ s, r.name = .str s

theorem Message.typed_text (role : Role) (s : String) : (Message.text role s).Typed :=
  ⟨⟨s, rfl⟩, by simp [Message.text]⟩

/-- The estimate of a message as a number, `0` where it cannot be taken. -/
def Message.estimate (m : Message) : Nat :=
  (messageTokens m).toOption.getD 0

/-- What shortening makes of a message, read as a function: the message itself where it cannot
be shortened. -/
def Message.shrunk (m : Message) : Message :=
  (shrinkOne m).toOption.getD m

theorem recordTokens_typed : ∀ {rs : List CallRecord}, (∀ r ∈ rs, ∃ s, r.name = .str s) →
    ∃ n, recordTokens rs = .ok n
  | [], _ => ⟨0, rfl⟩
  | r :: rest, h => by
    obtain ⟨s, hs⟩ := h r List.mem_cons_self
    obtain ⟨n, hn⟩ := recordTokens_typed fun r' hr' => h r' (List.mem_cons_of_mem r hr')
    exact ⟨estimateTokens s + estimateTokens r.arguments + n,
      by simp [recordTokens, hs, hn, bind, Except.bind, pure, Except.pure]⟩

/-- The estimate of a message of text content: the text's and its calls'. -/
theorem Message.estimate_of_text {m : Message} {s : String} {n : Nat}
    (hs : m.content = .str s) (hn : recordTokens m.toolCalls = .ok n) :
    messageTokens m = .ok (estimateTokens s + n) ∧ m.estimate = estimateTokens s + n := by
  have h : messageTokens m = .ok (estimateTokens s + n) := by
    simp [messageTokens, hs, hn, bind, Except.bind, pure, Except.pure]
  exact ⟨h, by simp [Message.estimate, h, Except.toOption]⟩

theorem Message.Typed.messageTokens {m : Message} (h : m.Typed) :
    messageTokens m = .ok m.estimate := by
  obtain ⟨s, hs⟩ := h.content
  obtain ⟨n, hn⟩ := recordTokens_typed h.names
  obtain ⟨htokens, hest⟩ := Message.estimate_of_text hs hn
  rw [htokens, hest]

@[simp] theorem Message.estimate_text (role : Role) (s : String) :
    (Message.text role s).estimate = estimateTokens s := by
  simpa using (@Message.estimate_of_text (Message.text role s) _ _ rfl rfl).2

/-- Shortening a message of text content: a long one that is no system message gets the
shortened text, any other stays. -/
theorem shrinkOne_text {m : Message} {s : String} (hs : m.content = .str s) :
    shrinkOne m = .ok (if m.role ≠ .system ∧ longMessageTokens < estimateTokens s then
      { m with content := .str (shortenedText s) } else m) := by
  unfold shrinkOne shortened
  by_cases hsys : m.role = .system
  · simp [hsys, pure, Except.pure]
  · have hne : (m.role == .system) = false := by simpa using hsys
    by_cases hlong : longMessageTokens < estimateTokens s
    · simp [hne, hsys, hlong, hs, contentWithin, shortenedText, bind, Except.bind, pure,
        Except.pure]
    · simp [hne, hsys, hlong, hs, bind, Except.bind, pure, Except.pure]

theorem Message.shrunk_of_text {m : Message} {s : String} (hs : m.content = .str s) :
    m.shrunk = if m.role ≠ .system ∧ longMessageTokens < estimateTokens s then
      { m with content := .str (shortenedText s) } else m := by
  simp only [Message.shrunk, shrinkOne_text hs, Except.toOption, Option.getD_some]

theorem shrinkOne_typed {m : Message} (h : m.Typed) : shrinkOne m = .ok m.shrunk := by
  obtain ⟨s, hs⟩ := h.content
  rw [shrinkOne_text hs, Message.shrunk_of_text hs]

theorem Message.Typed.shrunk {m : Message} (h : m.Typed) : m.shrunk.Typed := by
  obtain ⟨s, hs⟩ := h.content
  rw [Message.shrunk_of_text hs]
  split
  · exact ⟨⟨_, rfl⟩, h.names⟩
  · exact h

/-- Shortening never raises the estimate of a message: only its content changes, and a long
text shortened costs less than the text. -/
theorem Message.estimate_shrunk_le {m : Message} (h : m.Typed) : m.shrunk.estimate ≤ m.estimate := by
  obtain ⟨s, hs⟩ := h.content
  obtain ⟨n, hn⟩ := recordTokens_typed h.names
  rw [Message.shrunk_of_text hs]
  split
  · rename_i hlong
    have hnew := (@Message.estimate_of_text { m with content := .str (shortenedText s) } _ _
      rfl hn).2
    rw [hnew, (Message.estimate_of_text hs hn).2]
    have := estimateTokens_shortenedText_le hlong.2
    omega
  · exact Nat.le_refl _

/-- `m'` is `m`, or `m` shortened: `m` is no system message, its content is a text of more
than `longMessageTokens` tokens, and `m'` is `m` with that content replaced by a prefix of it
(in code points) and a marker of the text's former size. -/
def Message.KeptOrShortened (m m' : Message) : Prop :=
  m' = m ∨ m.role ≠ .system ∧ ∃ s p, m.content = .str s ∧ longMessageTokens < estimateTokens s ∧
    CodingAgent.Text.codePoints p.toList <+: CodingAgent.Text.codePoints s.toList ∧
    m' = { m with
      content := .str (p ++ "\n... [truncated, original ~" ++ toString (estimateTokens s) ++ " tokens]") }

theorem Message.keptOrShortened_shrunk {m : Message} (h : m.Typed) : m.KeptOrShortened m.shrunk := by
  obtain ⟨s, hs⟩ := h.content
  unfold Message.KeptOrShortened
  rw [Message.shrunk_of_text hs]
  split
  · rename_i hlong
    exact Or.inr ⟨hlong.1, s, _, hs, hlong.2, truncateToTokens_isPrefix _ _, rfl⟩
  · exact Or.inl rfl

open CodingAgent.Text in
/-- A text cut to `t` tokens keeps the longest prefix of its code points that costs at most
`t` tokens (at most `4 * t` quarter tokens). A long message that is no system message is
shortened to the prefix that fits into a third of its tokens (200 at least) and a marker of
its former size, and the result is estimated at fewer tokens than the text it replaces. -/
theorem shrinkOne_keeps_longest_fit (s : String) (t : Nat) :
    (codePoints (truncateToTokens s t).toList <+: codePoints s.toList ∧
      quarters (codePoints (truncateToTokens s t).toList) ≤ 4 * t ∧
      ∀ q, q <+: codePoints s.toList → quarters q ≤ 4 * t →
        q <+: codePoints (truncateToTokens s t).toList) ∧
    ∀ m : Message, m.content = .str s → m.role ≠ .system → longMessageTokens < estimateTokens s →
      shrinkOne m = .ok { m with content := .str (shortenedText s) } ∧
      estimateTokens (shortenedText s) < estimateTokens s := by
  refine ⟨⟨truncateToTokens_isPrefix s t, ?_, fun q hq hcost => ?_⟩, fun m hs hsys hlong => ?_⟩
  · rw [codePoints_truncateToTokens]
    exact quarters_prefixWithin_le _ _
  · rw [codePoints_truncateToTokens]
    exact prefixWithin_longest _ _ q hq hcost
  · refine ⟨?_, estimateTokens_shortenedText_lt hlong⟩
    rw [shrinkOne_text hs, if_pos ⟨hsys, hlong⟩]

open CodingAgent.Text in
/-- A user message of 2004 narrow characters (501 tokens) is long, and is shortened. -/
theorem narrow_user_message_shrinks :
    let s := ofCodePoints (List.replicate 2004 97)
    ((Message.text .user s).content = .str s ∧ (Message.text .user s).role ≠ .system ∧
      longMessageTokens < estimateTokens s) ∧
    shrinkOne (Message.text .user s) = .ok { Message.text .user s with content := .str (shortenedText s) } ∧
      estimateTokens (shortenedText s) < estimateTokens s := by
  intro s
  have hlength : (codePoints s.toList).length = 2004 := by
    rw [codePoints_ofCodePoints fun n hn => by rw [(List.mem_replicate.1 hn).2]; decide,
      List.length_replicate]
  have hlong : longMessageTokens < estimateTokens s := by
    have := codeLength_le_estimateTokens s
    unfold longMessageTokens
    omega
  exact ⟨⟨rfl, by decide, hlong⟩,
    (shrinkOne_keeps_longest_fit s 0).2 (Message.text .user s) rfl (by decide) hlong⟩

end CodingAgent

namespace CodingAgent.Context

open CodingAgent CodingAgent.Json

/-! ## The estimate of a conversation -/

/-- The estimate of a conversation as a number: the sum of its messages'. -/
def totalEstimate (ms : List Message) : Nat :=
  (ms.map Message.estimate).sum

@[simp] theorem totalEstimate_nil : totalEstimate [] = 0 := rfl

@[simp] theorem totalEstimate_cons (m : Message) (ms : List Message) :
    totalEstimate (m :: ms) = m.estimate + totalEstimate ms := by
  simp [totalEstimate]

@[simp] theorem totalEstimate_append (xs ys : List Message) :
    totalEstimate (xs ++ ys) = totalEstimate xs + totalEstimate ys := by
  simp [totalEstimate]

theorem conversationTokens_typed : ∀ {ms : List Message}, (∀ m ∈ ms, m.Typed) →
    conversationTokens ms = .ok (totalEstimate ms)
  | [], _ => rfl
  | m :: rest, h => by
    have hm := (h m List.mem_cons_self).messageTokens
    have hrest := conversationTokens_typed fun m' hm' => h m' (List.mem_cons_of_mem m hm')
    simp [conversationTokens, hm, hrest, bind, Except.bind, pure, Except.pure]

/-- A budget admits fewer tokens than any count it refuses. -/
theorem Budget.lt_of_admits {b : Budget} {k n : Nat} (hk : b.admits k = true)
    (hn : b.admits n = false) : k < n := by
  cases b with
  | whole B =>
    simp only [Budget.admits, decide_eq_true_eq, decide_eq_false_iff_not, Int.not_le] at hk hn
    omega
  | real x =>
    simp only [Budget.admits, Bool.and_eq_true, Bool.not_eq_true', Bool.and_eq_false_iff,
      Bool.not_eq_false'] at hk hn
    obtain ⟨hnum, hge⟩ := hk
    rcases hn with hnan | hlt
    · rw [hnum] at hnan
      exact absurd hnan (by decide)
    · unfold floatLessInt at hge hlt
      cases hkind : CodingAgent.Decimal.Kind.ofFloat x with
      | finite b =>
        simp only [hkind, decide_eq_true_eq, decide_eq_false_iff_not, Int.not_lt] at hge hlt
        have hpos : (0 : Int) < (Nat.pow 2 (exactRatio b).2 : Int) := by
          have : 0 < Nat.pow 2 (exactRatio b).2 := Nat.two_pow_pos _
          exact_mod_cast this
        have hmul : (k : Int) * (Nat.pow 2 (exactRatio b).2 : Int) <
            (n : Int) * (Nat.pow 2 (exactRatio b).2 : Int) := lt_of_le_of_lt hge hlt
        exact_mod_cast lt_of_mul_lt_mul_right hmul hpos.le
      | infinite neg =>
        simp only [hkind] at hge hlt
        rw [hge] at hlt
        exact absurd hlt (by decide)
      | nan =>
        simp only [hkind] at hlt
        exact absurd hlt (by decide)

end CodingAgent.Context

namespace CodingAgent.Context

open CodingAgent CodingAgent.Json

/-! ## The shortening loop -/

/-- The messages of `rest` with the first `i` shortened. -/
def shrinkPrefix (i : Nat) (rest : List Message) : List Message :=
  (rest.take i).map Message.shrunk ++ rest.drop i

@[simp] theorem shrinkPrefix_zero (rest : List Message) : shrinkPrefix 0 rest = rest := by
  simp [shrinkPrefix]

@[simp] theorem shrinkPrefix_succ_cons (i : Nat) (m : Message) (rest : List Message) :
    shrinkPrefix (i + 1) (m :: rest) = m.shrunk :: shrinkPrefix i rest := by
  simp [shrinkPrefix]

theorem shrinkPrefix_length (rest : List Message) :
    shrinkPrefix rest.length rest = rest.map Message.shrunk := by
  simp [shrinkPrefix]

/-- The loop over typed messages shortens those of `rest` up to some point, and stops before the
end of `rest` only when the conversation fits by then. -/
theorem shrinkFrom_typed {b : Budget} : ∀ {done rest : List Message},
    (∀ m ∈ done ++ rest, m.Typed) →
    ∃ i ≤ rest.length, shrinkFrom b done rest = .ok (done ++ shrinkPrefix i rest) ∧
      (i = rest.length ∨ b.admits (totalEstimate (done ++ shrinkPrefix i rest)) = true)
  | done, [], _ => ⟨0, Nat.le_refl _, by simp [shrinkFrom], .inl rfl⟩
  | done, m :: rest, h => by
    have htokens := conversationTokens_typed h
    have hm : m.Typed := h m (by simp)
    cases hadm : b.admits (totalEstimate (done ++ m :: rest)) with
    | true =>
      refine ⟨0, Nat.zero_le _, ?_, .inr (by simpa using hadm)⟩
      rw [shrinkFrom, htokens]
      simp only [bind, Except.bind, hadm, if_true, pure, Except.pure, shrinkPrefix_zero]
    | false =>
      -- over the budget: `m` is shortened and the loop goes on with the rest
      have h' : ∀ x ∈ (done ++ [m.shrunk]) ++ rest, x.Typed := by
        intro x hx
        simp only [List.append_assoc, List.singleton_append, List.mem_append,
          List.mem_cons] at hx
        rcases hx with hx | rfl | hx
        · exact h x (by simp [hx])
        · exact hm.shrunk
        · exact h x (by simp [hx])
      obtain ⟨i, hi, hrun, hstop⟩ := @shrinkFrom_typed b _ _ h'
      refine ⟨i + 1, by simpa using hi, ?_, ?_⟩
      · rw [shrinkFrom, htokens]
        simp only [bind, Except.bind, hadm, Bool.false_eq_true, if_false, shrinkOne_typed hm, hrun,
          shrinkPrefix_succ_cons, List.append_assoc, List.singleton_append]
      · simpa using hstop

/-- `ms` with the `i` messages after its first shortened. -/
def shrinkAfterFirst (i : Nat) : List Message → List Message
  | [] => []
  | first :: rest => first :: shrinkPrefix i rest

@[simp] theorem shrinkAfterFirst_zero (ms : List Message) : shrinkAfterFirst 0 ms = ms := by
  cases ms <;> simp [shrinkAfterFirst]

/-- Every message after the first shortened: the furthest the loop goes. -/
def shrinkAll : List Message → List Message
  | [] => []
  | first :: rest => first :: rest.map Message.shrunk

theorem shrinkLong_typed {ms : List Message} (h : ∀ m ∈ ms, m.Typed) (b : Budget) :
    ∃ i, shrinkLong ms b = .ok (shrinkAfterFirst i ms) ∧
      (shrinkAfterFirst i ms = shrinkAll ms ∨
        b.admits (totalEstimate (shrinkAfterFirst i ms)) = true) := by
  cases ms with
  | nil => exact ⟨0, rfl, .inl rfl⟩
  | cons first rest =>
    obtain ⟨i, -, hrun, hstop⟩ := @shrinkFrom_typed b [first] rest h
    refine ⟨i, hrun, ?_⟩
    rcases hstop with rfl | hfit
    · exact .inl (by simp [shrinkAfterFirst, shrinkAll, shrinkPrefix_length])
    · exact .inr hfit

/-! ## Truncation -/

/-- A conversation longer than its first two and its `keep` last messages, with the messages
between those replaced by the note that counts them; a shorter one as it is. -/
def cut (ms : List Message) (keep : Nat) : List Message :=
  if 2 + keep < ms.length then
    ms.take 2 ++ truncationNote (ms.length - 2 - keep) :: ms.drop (ms.length - keep)
  else ms

theorem cut_of_lt {ms : List Message} {keep : Nat} (h : 2 + keep < ms.length) :
    cut ms keep =
      ms.take 2 ++ truncationNote (ms.length - 2 - keep) :: ms.drop (ms.length - keep) :=
  if_pos h

theorem cut_of_not_lt {ms : List Message} {keep : Nat} (h : ¬ 2 + keep < ms.length) :
    cut ms keep = ms :=
  if_neg h

theorem cut_typed {ms : List Message} (h : ∀ m ∈ ms, m.Typed) (keep : Nat) :
    ∀ m ∈ cut ms keep, m.Typed := by
  unfold cut
  split
  · intro m hm
    simp only [List.mem_append, List.mem_cons] at hm
    rcases hm with hm | rfl | hm
    · exact h m (List.mem_of_mem_take hm)
    · exact Message.typed_text _ _
    · exact h m (List.mem_of_mem_drop hm)
  · exact h

/-- What truncation does to typed messages: a conversation within the budget comes back as it
is; otherwise the result is its `cut` with the messages after the first shortened up to some
point, all of them unless it fits by then. -/
theorem truncate_typed {ms : List Message} (h : ∀ m ∈ ms, m.Typed) (b : Budget) (keep : Int) :
    (b.admits (totalEstimate ms) = true ∧ truncate ms b keep = .ok ms) ∨
      (b.admits (totalEstimate ms) = false ∧ ∃ i,
        truncate ms b keep = .ok (shrinkAfterFirst i (cut ms keep.toNat)) ∧
        (shrinkAfterFirst i (cut ms keep.toNat) = shrinkAll (cut ms keep.toNat) ∨
          b.admits (totalEstimate (shrinkAfterFirst i (cut ms keep.toNat))) = true)) := by
  have htokens := conversationTokens_typed h
  cases hadm : b.admits (totalEstimate ms) with
  | true =>
    exact .inl ⟨rfl, by simp [truncate, htokens, hadm, bind, Except.bind, pure, Except.pure]⟩
  | false =>
    refine .inr ⟨rfl, ?_⟩
    have hcut := cut_typed h keep.toNat
    have hover : truncate ms b keep = truncateOver ms b keep.toNat := by
      simp [truncate, htokens, hadm, bind, Except.bind]
    rw [hover]
    unfold truncateOver
    by_cases hlong : 2 + keep.toNat < ms.length
    · rw [cut_of_lt hlong] at hcut ⊢
      simp only [gt_iff_lt, hlong, if_true, conversationTokens_typed hcut, bind, Except.bind,
        pure, Except.pure]
      cases hfit : b.admits (totalEstimate (ms.take 2 ++ truncationNote (ms.length - 2 - keep.toNat) ::
          ms.drop (ms.length - keep.toNat))) with
      | true =>
        -- the cut fits: it is the result, nothing shortened
        refine ⟨0, ?_, .inr ?_⟩ <;> rw [shrinkAfterFirst_zero]
        · simp only [if_true]
        · exact hfit
      | false => simpa using shrinkLong_typed hcut b
    · rw [cut_of_not_lt hlong]
      simp only [gt_iff_lt, hlong, if_false]
      exact shrinkLong_typed h b

/-! ## Message by message -/

/-- Shortening the first `i` messages relates each message to its new form by any relation that
holds of a typed message and itself, and of it and its shortened form. -/
theorem forall₂_shrinkPrefix {R : Message → Message → Prop}
    (hshrunk : ∀ m : Message, m.Typed → R m m.shrunk) (hrefl : ∀ m : Message, m.Typed → R m m) :
    ∀ (i : Nat) {rest : List Message}, (∀ m ∈ rest, m.Typed) →
      List.Forall₂ R rest (shrinkPrefix i rest)
  | _, [], _ => by simp [shrinkPrefix]
  | 0, m :: rest, h => by
    rw [shrinkPrefix_zero]
    exact List.forall₂_same.2 fun x hx => hrefl x (h x hx)
  | i + 1, m :: rest, h => by
    rw [shrinkPrefix_succ_cons]
    exact .cons (hshrunk m (h m List.mem_cons_self))
      (forall₂_shrinkPrefix hshrunk hrefl i fun x hx => h x (List.mem_cons_of_mem m hx))

/-- The same for every message after the first: the first stays. -/
theorem forall₂_shrinkAfterFirst {R : Message → Message → Prop}
    (hshrunk : ∀ m : Message, m.Typed → R m m.shrunk) (hrefl : ∀ m : Message, m.Typed → R m m)
    (i : Nat) {ms : List Message} (h : ∀ m ∈ ms, m.Typed) :
    (shrinkAfterFirst i ms).head? = ms.head? ∧
      List.Forall₂ R ms.tail (shrinkAfterFirst i ms).tail := by
  cases ms with
  | nil => exact ⟨rfl, .nil⟩
  | cons first rest =>
    exact ⟨rfl, forall₂_shrinkPrefix hshrunk hrefl i fun x hx => h x (List.mem_cons_of_mem _ hx)⟩

theorem shrinkAfterFirst_typed {ms : List Message} (h : ∀ m ∈ ms, m.Typed) (i : Nat) :
    ∀ m ∈ shrinkAfterFirst i ms, m.Typed := by
  cases ms with
  | nil => simp [shrinkAfterFirst]
  | cons first rest =>
    intro m hm
    simp only [shrinkAfterFirst, shrinkPrefix, List.mem_cons, List.mem_append, List.mem_map] at hm
    rcases hm with rfl | ⟨x, hx, rfl⟩ | hm
    · exact h m List.mem_cons_self
    · exact (h x (List.mem_cons_of_mem _ (List.mem_of_mem_take hx))).shrunk
    · exact h m (List.mem_cons_of_mem _ (List.mem_of_mem_drop hm))

/-- A conversation whose messages each cost no more than their counterparts costs no more. -/
theorem totalEstimate_le_of_forall₂ {xs ys : List Message}
    (h : List.Forall₂ (fun m m' => m'.estimate ≤ m.estimate) xs ys) :
    totalEstimate ys ≤ totalEstimate xs := by
  induction h with
  | nil => exact Nat.le_refl _
  | cons hm _ ih =>
    simp only [totalEstimate_cons]
    omega

/-- Shortening never raises the estimate of a conversation. -/
theorem totalEstimate_shrinkAfterFirst_le {ms : List Message} (h : ∀ m ∈ ms, m.Typed) (i : Nat) :
    totalEstimate (shrinkAfterFirst i ms) ≤ totalEstimate ms := by
  obtain ⟨hhead, htail⟩ := @forall₂_shrinkAfterFirst (fun m m' => m'.estimate ≤ m.estimate)
    (fun _ hm => Message.estimate_shrunk_le hm) (fun _ _ => Nat.le_refl _) i ms h
  cases ms with
  | nil => simp [shrinkAfterFirst]
  | cons first rest =>
    simp only [shrinkAfterFirst, totalEstimate_cons, List.tail_cons] at htail ⊢
    have := totalEstimate_le_of_forall₂ htail
    omega

/-- The estimate of a cut: the middle's replaced by the note's. -/
theorem totalEstimate_cut {ms : List Message} {keep : Nat} (hlong : 2 + keep < ms.length) :
    totalEstimate (cut ms keep) + totalEstimate ((ms.drop 2).take (ms.length - 2 - keep)) =
      totalEstimate ms + (truncationNote (ms.length - 2 - keep)).estimate := by
  have hsplit : ms = ms.take 2 ++ ((ms.drop 2).take (ms.length - 2 - keep) ++
      ms.drop (ms.length - keep)) := by
    have hdrop : (ms.drop 2).drop (ms.length - 2 - keep) = ms.drop (ms.length - keep) := by
      rw [List.drop_drop]
      congr 1
      omega
    rw [← hdrop, List.take_append_drop, List.take_append_drop]
  have hsum : totalEstimate ms = totalEstimate (ms.take 2) +
      totalEstimate ((ms.drop 2).take (ms.length - 2 - keep)) +
      totalEstimate (ms.drop (ms.length - keep)) := by
    conv_lhs => rw [hsplit]
    simp only [totalEstimate_append]
    omega
  rw [cut_of_lt hlong, hsum]
  simp only [totalEstimate_append, totalEstimate_cons]
  omega

/-! ## The main results

Each is stated for every typed conversation, budget and number of recent messages, and
followed by its instance at `threeShort` under a budget of 2 tokens with no recent message
kept: the middle message is cut, and the note that replaces it stays over the budget. -/

/-- A system prompt, a request and a reply, of one character each. -/
def threeShort : List Message :=
  [.text .system "s", .text .user "u", .text .assistant "a"]

theorem threeShort_typed : ∀ m ∈ threeShort, m.Typed := by
  intro m hm
  simp only [threeShort, List.mem_cons, List.not_mem_nil, or_false] at hm
  rcases hm with rfl | rfl | rfl <;> exact Message.typed_text _ _

/-- Truncating a conversation of typed messages: within the budget it comes back as it is.
Over the budget the result is its `cut` (the first two messages, the note on how many were
removed, and the `keep` last ones, when there are more than those), with the first message
kept and each later one kept or shortened: a long text that is no system message cut to a
prefix and marked with its former size. -/
theorem truncate_cuts_then_shortens {ms : List Message} (hms : ∀ m ∈ ms, m.Typed) (b : Budget)
    (keep : Int) :
    ∃ n out, conversationTokens ms = .ok n ∧ truncate ms b keep = .ok out ∧
      (b.admits n = true → out = ms) ∧
      (b.admits n = false → out.head? = (cut ms keep.toNat).head? ∧
        List.Forall₂ Message.KeptOrShortened (cut ms keep.toNat).tail out.tail) := by
  refine ⟨totalEstimate ms, ?_⟩
  rcases truncate_typed hms b keep with ⟨hfit, hrun⟩ | ⟨hover, i, hrun, -⟩
  · refine ⟨ms, conversationTokens_typed hms, hrun, fun _ => rfl, fun h => ?_⟩
    rw [hfit] at h
    exact absurd h (by decide)
  · refine ⟨_, conversationTokens_typed hms, hrun, fun h => ?_, fun _ => ?_⟩
    · rw [hover] at h
      exact absurd h (by decide)
    · exact forall₂_shrinkAfterFirst (fun _ hm => Message.keptOrShortened_shrunk hm)
        (fun _ _ => Or.inl rfl) i (cut_typed hms _)

theorem three_short_cut_then_shortened : (∀ m ∈ threeShort, m.Typed) ∧
    ∃ n out, conversationTokens threeShort = .ok n ∧ truncate threeShort (.whole 2) 0 = .ok out ∧
      ((Budget.whole 2).admits n = true → out = threeShort) ∧
      ((Budget.whole 2).admits n = false → out.head? = (cut threeShort (0 : Int).toNat).head? ∧
        List.Forall₂ Message.KeptOrShortened (cut threeShort (0 : Int).toNat).tail out.tail) :=
  ⟨threeShort_typed, truncate_cuts_then_shortens threeShort_typed (.whole 2) 0⟩

/-- A list is given by its first element and its tail. -/
theorem eq_of_head?_tail {xs ys : List Message} (hhead : xs.head? = ys.head?)
    (htail : xs.tail = ys.tail) : xs = ys := by
  cases xs <;> cases ys <;> simp_all

/-- Shortening every message after the first, once each, has one result. -/
theorem eq_of_shrinkOne_forall₂ {xs ys zs : List Message}
    (hy : List.Forall₂ (fun m m' => shrinkOne m = .ok m') xs ys)
    (hz : List.Forall₂ (fun m m' => shrinkOne m = .ok m') xs zs) : ys = zs := by
  have hunique : Relator.RightUnique (fun m m' => shrinkOne m = Except.ok m') :=
    fun _ _ _ h1 h2 => Except.ok.inj (h1.symm.trans h2)
  exact hunique.forall₂ hy hz

/-- Shortening every message after the first, message by message. -/
theorem shrinkAll_shrinkOne {ms : List Message} (h : ∀ m ∈ ms, m.Typed) :
    (shrinkAll ms).head? = ms.head? ∧
      List.Forall₂ (fun m m' => shrinkOne m = .ok m') ms.tail (shrinkAll ms).tail := by
  cases ms with
  | nil => exact ⟨rfl, .nil⟩
  | cons first rest =>
    refine ⟨rfl, ?_⟩
    simp only [shrinkAll, List.tail_cons, List.forall₂_map_right_iff]
    exact List.forall₂_same.2 fun m hm => shrinkOne_typed (h m (List.mem_cons_of_mem _ hm))

/-- Truncation ends within the budget, or with its `cut` shortened as far as shortening goes:
every message after the first shortened once (a long text that is no system message cut, any
other message as it was). So the result fits whenever that fully shortened form does. -/
theorem truncate_fits_or_fully_shrunk {ms : List Message} (hms : ∀ m ∈ ms, m.Typed) (b : Budget)
    (keep : Int) :
    ∃ out k, truncate ms b keep = .ok out ∧ conversationTokens out = .ok k ∧
      (b.admits k = true ∨ out.head? = (cut ms keep.toNat).head? ∧
        List.Forall₂ (fun m m' => shrinkOne m = .ok m') (cut ms keep.toNat).tail out.tail) ∧
      (∀ full k', full.head? = (cut ms keep.toNat).head? →
        List.Forall₂ (fun m m' => shrinkOne m = .ok m') (cut ms keep.toNat).tail full.tail →
        conversationTokens full = .ok k' → b.admits k' = true → b.admits k = true) := by
  rcases truncate_typed hms b keep with ⟨hfit, hrun⟩ | ⟨-, i, hrun, hstop⟩
  · exact ⟨ms, _, hrun, conversationTokens_typed hms, .inl hfit, fun _ _ _ _ _ _ => hfit⟩
  · have hcut := cut_typed hms keep.toNat
    have hk := conversationTokens_typed (shrinkAfterFirst_typed hcut i)
    obtain ⟨hhead, htail⟩ := shrinkAll_shrinkOne hcut
    refine ⟨_, _, hrun, hk, ?_, ?_⟩
    · rcases hstop with hall | hfit
      · rw [hall]
        exact .inr ⟨hhead, htail⟩
      · exact .inl hfit
    · intro full k' hfullHead hfullTail hfull hfits
      rcases hstop with hall | hfit
      · -- the result is the fully shortened form, and so is `full`
        have hsame : full = shrinkAfterFirst i (cut ms keep.toNat) := by
          rw [hall]
          exact eq_of_head?_tail (hfullHead.trans hhead.symm)
            (eq_of_shrinkOne_forall₂ hfullTail htail)
        rw [hsame, hk] at hfull
        rw [Except.ok.inj hfull]
        exact hfits
      · exact hfit

theorem three_short_over_budget_fully_shrunk : (∀ m ∈ threeShort, m.Typed) ∧
    ∃ out k, truncate threeShort (.whole 2) 0 = .ok out ∧ conversationTokens out = .ok k ∧
      ((Budget.whole 2).admits k = true ∨ out.head? = (cut threeShort (0 : Int).toNat).head? ∧
        List.Forall₂ (fun m m' => shrinkOne m = .ok m') (cut threeShort (0 : Int).toNat).tail
          out.tail) ∧
      (∀ full k', full.head? = (cut threeShort (0 : Int).toNat).head? →
        List.Forall₂ (fun m m' => shrinkOne m = .ok m') (cut threeShort (0 : Int).toNat).tail
          full.tail →
        conversationTokens full = .ok k' → (Budget.whole 2).admits k' = true →
          (Budget.whole 2).admits k = true) :=
  ⟨threeShort_typed, truncate_fits_or_fully_shrunk threeShort_typed (.whole 2) 0⟩

theorem truncationNote_typed (n : Nat) : (truncationNote n).Typed :=
  Message.typed_text _ _

/-- Truncation raises the estimate of a conversation only by cutting its middle and staying
over the budget. A result within the budget costs less than the conversation that was over it,
and one whose middle was not cut costs no more, since shortening never raises an estimate. A
result whose middle was cut and that stays over the budget costs no more than the conversation
and the note together, less the messages the note replaces. -/
theorem truncate_estimate_le {ms : List Message} (hms : ∀ m ∈ ms, m.Typed) (b : Budget)
    (keep : Int) :
    ∃ n out k, conversationTokens ms = .ok n ∧ truncate ms b keep = .ok out ∧
      conversationTokens out = .ok k ∧
      (b.admits k = true ∨ ms.length ≤ 2 + keep.toNat → k ≤ n) ∧
      (b.admits k = false → 2 + keep.toNat < ms.length →
        ∃ span note,
          conversationTokens ((ms.drop 2).take (ms.length - 2 - keep.toNat)) = .ok span ∧
          messageTokens (truncationNote (ms.length - 2 - keep.toNat)) = .ok note ∧
          k + span ≤ n + note) := by
  rcases truncate_typed hms b keep with ⟨hfit, hrun⟩ | ⟨hover, i, hrun, -⟩
  · -- within the budget, the conversation is kept as it is
    refine ⟨_, ms, _, conversationTokens_typed hms, hrun, conversationTokens_typed hms,
      fun _ => Nat.le_refl _, fun hout _ => absurd hfit (by simp [hout])⟩
  · have hcut := cut_typed hms keep.toNat
    have hk := conversationTokens_typed (shrinkAfterFirst_typed hcut i)
    have hle := totalEstimate_shrinkAfterFirst_le hcut i
    refine ⟨_, _, _, conversationTokens_typed hms, hrun, hk, ?_, ?_⟩
    · rintro (hfits | hshort)
      · exact (Budget.lt_of_admits hfits hover).le
      · -- nothing was cut, and shortening alone never raises the estimate
        have hnot : ¬ 2 + keep.toNat < ms.length := by omega
        rw [cut_of_not_lt hnot] at hle ⊢
        exact hle
    · -- the middle was cut: the note stands in its place
      intro _ hlong
      have hspan : ∀ m ∈ (ms.drop 2).take (ms.length - 2 - keep.toNat), m.Typed :=
        fun m hm => hms m (List.mem_of_mem_drop (List.mem_of_mem_take hm))
      have hcutEst := totalEstimate_cut hlong
      exact ⟨_, _, conversationTokens_typed hspan, (truncationNote_typed _).messageTokens,
        by omega⟩

theorem three_short_grows_by_note : (∀ m ∈ threeShort, m.Typed) ∧
    ∃ n out k, conversationTokens threeShort = .ok n ∧
      truncate threeShort (.whole 2) 0 = .ok out ∧ conversationTokens out = .ok k ∧
      ((Budget.whole 2).admits k = true ∨ threeShort.length ≤ 2 + (0 : Int).toNat → k ≤ n) ∧
      ((Budget.whole 2).admits k = false → 2 + (0 : Int).toNat < threeShort.length →
        ∃ span note,
          conversationTokens ((threeShort.drop 2).take (threeShort.length - 2 - (0 : Int).toNat)) =
            .ok span ∧
          messageTokens (truncationNote (threeShort.length - 2 - (0 : Int).toNat)) = .ok note ∧
          k + span ≤ n + note) :=
  ⟨threeShort_typed, truncate_estimate_le threeShort_typed (.whole 2) 0⟩

/-- The note that replaces one message costs at least 22 tokens: 85 characters. -/
theorem twentytwo_le_truncationNote_estimate : 22 ≤ (truncationNote 1).estimate := by
  have hlen : (CodingAgent.Text.codePoints ("[Context truncated: " ++ toString 1 ++
      " earlier messages were removed to stay within the token budget.]").toList).length = 85 := by
    decide +kernel
  have hle := codeLength_le_estimateTokens ("[Context truncated: " ++ toString 1 ++
      " earlier messages were removed to stay within the token budget.]")
  simp only [truncationNote, Message.estimate_text]
  omega

/-- Cutting a reply of one token out of three short messages puts a note of twenty-odd tokens
in its place; the result stays over a budget of 2 tokens, and costs more than the conversation
it came from. -/
theorem note_outweighs_elided_message :
    ∃ n out k, conversationTokens threeShort = .ok n ∧
      truncate threeShort (.whole 2) 0 = .ok out ∧ conversationTokens out = .ok k ∧ n < k := by
  have hn := conversationTokens_typed threeShort_typed
  obtain ⟨hs1, hs3⟩ := estimateTokens_of_length_one "s" rfl
  obtain ⟨hu1, hu3⟩ := estimateTokens_of_length_one "u" rfl
  obtain ⟨ha1, ha3⟩ := estimateTokens_of_length_one "a" rfl
  have hsum : totalEstimate threeShort =
      estimateTokens "s" + (estimateTokens "u" + (estimateTokens "a" + 0)) := by
    simp [threeShort]
  have hover : (Budget.whole 2).admits (totalEstimate threeShort) = false := by
    simp only [Budget.admits, decide_eq_false_iff_not, Int.not_le]
    omega
  -- the messages left after the cut: the first two and the note
  have hleft : ∀ m ∈ [Message.text .system "s", .text .user "u", truncationNote 1], m.Typed :=
    fun m hm => cut_typed threeShort_typed 0 m (by simpa [cut, threeShort] using hm)
  -- those after the first are short, or the note, a system message
  have hcut : truncate threeShort (.whole 2) 0 =
      .ok [.text .system "s", .text .user "u", truncationNote 1] := by
    refine truncate_cut hn hover (by decide) (fun m hm => ?_) (fun m hm => ?_)
    · exact ⟨_, (hleft m (by simpa [threeShort] using hm)).messageTokens⟩
    · have hm' : m = .text .user "u" ∨ m = truncationNote 1 := by simpa [threeShort] using hm
      rcases hm' with rfl | rfl
      · exact .inr ⟨_, contentTokens_str "u", by unfold longMessageTokens; omega⟩
      · exact .inl rfl
  have hk := conversationTokens_typed hleft
  have hnote := twentytwo_le_truncationNote_estimate
  refine ⟨_, _, _, hn, hcut, hk, ?_⟩
  simp only [totalEstimate_cons, totalEstimate_nil, Message.estimate_text]
  omega

end CodingAgent.Context
