import CodingAgent.Recovery.Sanitize
import Mathlib.Data.List.Chain
import Mathlib.Data.List.TakeWhile

/-!
# Cleaned values are clean

`sanitize` cleans a value scraped from tagged text. A clean value (`Clean`) holds no tag (a
`<`, at least one character other than `>`, then `>`), no control character, no two blanks
side by side, and no blank at either end. The main statement, `sanitize_cleans`, says that
every text comes out clean, that the texts `sanitize` leaves alone are exactly the clean ones
not wrapped in a pair of matching quotes (`Wrapped`), and hence that cleaning a second time
only unwraps one more pair.

The proof follows the passes of `sanitize`, each keeping what the passes before it achieved.

* `stripTags` leaves no tag (`tagFree_stripTags`). A `<` it keeps is followed at once by `>`,
  or by no `>` at all, and its output holds only spaces and characters of its input
  (`mem_stripTags`), so no `>` can come to stand after such a `<`.
* `replaceRuns` keeps a text free of tags as long as its class holds neither `<` nor `>`
  (`tagFree_replaceRuns`). With runs of one it removes every character of its class
  (`replaceRuns_one_none`); with runs of two it leaves no two of them side by side
  (`isChain_replaceRuns_two`).
* `trim` and `unquote` keep an infix of what they are given, which keeps all three properties
  (`Tidy.within`), and `trim` leaves no blank at either end.

Conversely each pass changes nothing on a text it finds nothing to do in
(`stripTags_of_tagFree`, `replaceRuns_of_none`, `replaceRuns_two_of_isChain`,
`trim_of_ends`), so a clean text is only unquoted (`sanitize_of_clean`).
-/

namespace CodingAgent.Recovery

open CodingAgent.Text

/-! ## Tags -/

/-- The text holds a tag: `<`, at least one character other than `>`, then `>`. -/
def HasTag (cs : List Char) : Prop :=
  ∃ body, body ≠ [] ∧ '>' ∉ body ∧ '<' :: body ++ ['>'] <:+: cs

/-- What follows a `<` makes it open a tag: it does not start with `>`, and a `>` comes. -/
def opensTag (rest : List Char) : Bool :=
  rest.head? != some '>' && rest.contains '>'

/-- No `<` of the text opens a tag. -/
def tagFree : List Char → Bool
  | [] => true
  | c :: rest => !(c == '<' && opensTag rest) && tagFree rest

/-- A `>` that comes after `<` closes a tag exactly when something stands between them. -/
theorem exists_tag_iff {rest : List Char} :
    (∃ body, body ≠ [] ∧ '>' ∉ body ∧ body ++ ['>'] <+: rest) ↔ opensTag rest = true := by
  constructor
  · rintro ⟨body, hne, hbody, post, rfl⟩
    obtain ⟨b, bs, rfl⟩ := List.exists_cons_of_ne_nil hne
    have hb : b ≠ '>' := fun h => hbody (h ▸ List.mem_cons_self)
    simp [opensTag, hb]
  · intro h
    simp only [opensTag, Bool.and_eq_true, bne_iff_ne, ne_eq, List.contains_iff_mem] at h
    obtain ⟨hhead, hmem⟩ := h
    -- the body is what comes before the first `>`
    refine ⟨rest.takeWhile (· != '>'), ?_, ?_, ?_⟩
    · cases rest with
      | nil => simp at hmem
      | cons b bs =>
        have hb : b ≠ '>' := fun h => hhead (by simp [h])
        simp [hb]
    · intro hm
      simpa using List.mem_takeWhile_imp hm
    · obtain ⟨post, hpost⟩ : ∃ post, rest.dropWhile (· != '>') = '>' :: post := by
        cases hd : rest.dropWhile (· != '>') with
        | nil =>
          rw [List.dropWhile_eq_nil_iff] at hd
          simpa using hd '>' hmem
        | cons d post =>
          have hd' : d = '>' := by
            simpa [hd] using List.head_dropWhile_not (· != '>') (l := rest) (by simp [hd])
          exact ⟨post, by rw [hd']⟩
      refine ⟨post, ?_⟩
      conv => rhs; rw [← List.takeWhile_append_dropWhile (p := (· != '>')) (l := rest), hpost]
      simp

theorem hasTag_cons {c : Char} {rest : List Char} :
    HasTag (c :: rest) ↔ (c = '<' ∧ opensTag rest = true) ∨ HasTag rest := by
  simp only [HasTag, List.infix_cons_iff, List.cons_append, List.cons_prefix_cons]
  rw [← exists_tag_iff]
  constructor
  · rintro ⟨body, hne, hbody, (⟨rfl, hp⟩ | hi)⟩
    · exact .inl ⟨rfl, body, hne, hbody, hp⟩
    · exact .inr ⟨body, hne, hbody, hi⟩
  · rintro (⟨rfl, body, hne, hbody, hp⟩ | ⟨body, hne, hbody, hi⟩)
    · exact ⟨body, hne, hbody, .inl ⟨rfl, hp⟩⟩
    · exact ⟨body, hne, hbody, .inr hi⟩

/-- `tagFree` decides that a text holds no tag. -/
theorem tagFree_iff : ∀ cs : List Char, tagFree cs = true ↔ ¬ HasTag cs
  | [] => by simp [tagFree, HasTag]
  | c :: rest => by
    rw [hasTag_cons, not_or, ← tagFree_iff rest]
    simp [tagFree, imp_iff_not_or]

/-- Characters other than `<` in front of a text do not change whether it is free of tags. -/
theorem tagFree_append_of_not_mem {xs : List Char} (hxs : '<' ∉ xs) (ys : List Char) :
    tagFree (xs ++ ys) = tagFree ys := by
  induction xs with
  | nil => rfl
  | cons x xs ih =>
    have hx : x ≠ '<' := fun h => hxs (h ▸ List.mem_cons_self)
    simp [tagFree, hx, ih (fun h => hxs (List.mem_cons_of_mem x h))]

theorem tagFree_of_within {cs t : List Char} (ht : tagFree t = true) (h : cs <:+: t) :
    tagFree cs = true := by
  rw [tagFree_iff] at ht ⊢
  rintro ⟨body, hne, hbody, hi⟩
  exact ht ⟨body, hne, hbody, hi.trans h⟩

theorem opensTag_eq_false_iff {rest : List Char} :
    opensTag rest = false ↔ rest.head? = some '>' ∨ '>' ∉ rest := by
  simp [opensTag, imp_iff_not_or]

/-- A rewriting that writes only spaces and characters of its input, and keeps a leading `>`,
cannot make what follows a `<` open a tag. -/
theorem opensTag_false_of_rewrite {rest out : List Char}
    (hmem : ∀ x ∈ out, x = ' ' ∨ x ∈ rest) (hhead : rest.head? = some '>' → out.head? = some '>')
    (h : opensTag rest = false) : opensTag out = false := by
  rw [opensTag_eq_false_iff] at h ⊢
  rcases h with h | h
  · exact .inl (hhead h)
  · exact .inr fun hm => (hmem _ hm).elim (fun h' => absurd h' (by decide)) h

/-- A text that opens no tag at its front and holds none further on is free of tags. -/
theorem tagFree_cons {c : Char} {rest : List Char} (hc : c = '<' → opensTag rest = false)
    (hrest : tagFree rest = true) : tagFree (c :: rest) = true := by
  simp only [tagFree, hrest, Bool.and_true, Bool.not_eq_true', Bool.and_eq_false_iff,
    beq_eq_false_iff_ne]
  exact (Decidable.em (c = '<')).elim (fun h => .inr (hc h)) .inl

/-! ## The tag pass -/

/-- The tag pass writes only spaces and characters of its input. -/
theorem mem_stripTags {x : Char} {cs : List Char} (h : x ∈ stripTags cs) : x = ' ' ∨ x ∈ cs := by
  fun_induction stripTags cs with
  | case1 => simp at h
  | case2 c rest _ ih =>
    rcases List.mem_cons.1 h with rfl | h
    · exact .inl rfl
    · have hsuf : (rest.dropWhile (· != '>')).drop 1 <:+ c :: rest :=
        ((List.drop_suffix _ _).trans (List.dropWhile_suffix _)).trans (List.suffix_cons c rest)
      exact (ih h).imp_right fun hm => hsuf.subset hm
  | case3 c rest _ ih =>
    rcases List.mem_cons.1 h with rfl | h
    · exact .inr List.mem_cons_self
    · exact (ih h).imp_right (List.mem_cons_of_mem c)

/-- A leading `>` is kept. -/
theorem stripTags_close (rest : List Char) : stripTags ('>' :: rest) = '>' :: stripTags rest := by
  rw [stripTags]
  simp

theorem tagFree_stripTags (cs : List Char) : tagFree (stripTags cs) = true := by
  fun_induction stripTags cs with
  | case1 => rfl
  | case2 c rest _ ih => simpa [tagFree] using ih
  | case3 c rest hopen ih =>
    refine tagFree_cons (fun hc => ?_) ih
    subst hc
    -- a `<` that is kept is followed at once by `>`, or by no `>` at all
    have hclosed : opensTag rest = false := by simpa [opensTag, Bool.and_assoc] using hopen
    refine opensTag_false_of_rewrite (fun x hx => mem_stripTags hx) (fun hhead => ?_) hclosed
    cases rest with
    | nil => simp at hhead
    | cons b r =>
      simp only [List.head?_cons, Option.some.injEq] at hhead
      simp [hhead, stripTags_close]

theorem stripTags_of_tagFree {cs : List Char} (h : tagFree cs = true) : stripTags cs = cs := by
  fun_induction stripTags cs with
  | case1 => rfl
  | case2 c rest hopen _ =>
    -- a tag opens here, which a text free of tags does not hold
    have ho : c = '<' ∧ opensTag rest = true := by
      simpa only [Bool.and_eq_true, beq_iff_eq, opensTag, Bool.and_assoc] using hopen
    exact absurd (hasTag_cons.2 (.inl ho)) ((tagFree_iff _).1 h)
  | case3 c rest _ ih =>
    simp only [tagFree, Bool.and_eq_true] at h
    rw [ih h.2]

/-! ## Runs of a class of characters -/

section Runs

variable {p : Char → Bool} {m : Nat}

/-- The run pass writes only spaces and characters of its input. -/
theorem mem_replaceRuns {x : Char} {cs : List Char} (h : x ∈ replaceRuns p m cs) :
    x = ' ' ∨ x ∈ cs := by
  fun_induction replaceRuns p m cs with
  | case1 => simp at h
  | case2 c rest _ run ih =>
    rcases List.mem_append.1 h with h | h
    · split at h
      · exact .inl (List.mem_singleton.1 h)
      · simp only [run, List.mem_cons] at h
        rcases h with rfl | h
        · exact .inr List.mem_cons_self
        · exact .inr (List.mem_cons_of_mem c ((List.takeWhile_sublist p).subset h))
    · exact (ih h).imp_right fun hm =>
        List.mem_cons_of_mem c ((List.dropWhile_suffix p).subset hm)
  | case3 c rest _ ih =>
    rcases List.mem_cons.1 h with rfl | h
    · exact .inr List.mem_cons_self
    · exact (ih h).imp_right (List.mem_cons_of_mem c)

/-- A leading character outside the class is kept. -/
theorem replaceRuns_cons_of_not {c : Char} (hc : p c = false) (rest : List Char) :
    replaceRuns p m (c :: rest) = c :: replaceRuns p m rest := by
  rw [replaceRuns]
  simp [hc]

/-- The run pass starts as its input does when that starts outside the class. -/
theorem head?_replaceRuns {cs : List Char} (h : ∀ c ∈ cs.head?, p c = false) :
    ∀ c ∈ (replaceRuns p m cs).head?, p c = false := by
  cases cs with
  | nil => simp [replaceRuns]
  | cons c rest =>
    have hc : p c = false := h c rfl
    simpa [replaceRuns_cons_of_not hc] using hc

theorem replaceRuns_of_none {cs : List Char} (h : ∀ x ∈ cs, p x = false) :
    replaceRuns p m cs = cs := by
  induction cs with
  | nil => simp [replaceRuns]
  | cons c rest ih =>
    rw [replaceRuns_cons_of_not (h c List.mem_cons_self),
      ih fun x hx => h x (List.mem_cons_of_mem c hx)]

theorem tagFree_replaceRuns (hlt : p '<' = false) (hgt : p '>' = false) {cs : List Char}
    (h : tagFree cs = true) : tagFree (replaceRuns p m cs) = true := by
  fun_induction replaceRuns p m cs with
  | case1 => rfl
  | case2 c rest hc run ih =>
    -- the run, or the space in its place, holds no `<`
    have hno : '<' ∉ (if run.length ≥ m then [' '] else run) := by
      intro hm
      split at hm
      · simp at hm
      · simp only [run, List.mem_cons] at hm
        rcases hm with h' | h'
        · exact absurd (h' ▸ hc) (by simp [hlt])
        · exact absurd (List.mem_takeWhile_imp h') (by simp [hlt])
    rw [tagFree_append_of_not_mem hno]
    exact ih (tagFree_of_within h
      ((List.dropWhile_suffix p).trans (List.suffix_cons c rest)).isInfix)
  | case3 c rest hc ih =>
    have hrest : tagFree rest = true := by simp only [tagFree, Bool.and_eq_true] at h; exact h.2
    refine tagFree_cons (fun hlt' => ?_) (ih hrest)
    subst hlt'
    have hclosed : opensTag rest = false := by
      cases ho : opensTag rest
      · rfl
      · exact absurd (hasTag_cons.2 (.inl ⟨rfl, ho⟩)) ((tagFree_iff _).1 h)
    refine opensTag_false_of_rewrite (fun x hx => mem_replaceRuns hx) (fun hhead => ?_) hclosed
    -- a leading `>` stays in front
    cases rest with
    | nil => simp at hhead
    | cons b r =>
      simp only [List.head?_cons, Option.some.injEq] at hhead
      subst hhead
      simp [replaceRuns_cons_of_not hgt]

/-- Runs of one character are runs too: every character of the class goes. -/
theorem replaceRuns_one_none (hsp : p ' ' = false) (cs : List Char) :
    ∀ x ∈ replaceRuns p 1 cs, p x = false := by
  fun_induction replaceRuns p 1 cs with
  | case1 => simp
  | case2 c rest _ run ih =>
    intro x hx
    rcases List.mem_append.1 hx with hx | hx
    · simp only [run, List.length_cons, ge_iff_le, Nat.le_add_left, if_true,
        List.mem_singleton] at hx
      exact hx ▸ hsp
    · exact ih x hx
  | case3 c rest hc ih =>
    intro x hx
    rcases List.mem_cons.1 hx with rfl | hx
    · simpa using hc
    · exact ih x hx

/-- Two characters of the class never stand side by side. -/
def Apart (p : Char → Bool) (a b : Char) : Prop :=
  ¬ (p a = true ∧ p b = true)

theorem head?_dropWhile_false (p : Char → Bool) (l : List Char) :
    ∀ y ∈ (l.dropWhile p).head?, p y = false := by
  intro y hy
  have h := List.head?_dropWhile_not p l
  rwa [Option.mem_def.1 hy] at h

/-- Runs of two or more become one space, and a single character of the class stays alone:
either way what follows starts outside the class. -/
theorem isChain_replaceRuns_two (cs : List Char) :
    (replaceRuns p 2 cs).IsChain (Apart p) := by
  fun_induction replaceRuns p 2 cs with
  | case1 => exact List.isChain_nil
  | case2 c rest hc run ih =>
    have hnext : ∀ y ∈ (replaceRuns p 2 (rest.dropWhile p)).head?, p y = false :=
      head?_replaceRuns (head?_dropWhile_false p rest)
    -- the run, or the space in its place, is one character of the class
    obtain ⟨x, hx⟩ : ∃ x, (if run.length ≥ 2 then [' '] else run) = [x] := by
      split
      · exact ⟨' ', rfl⟩
      · rename_i hlen
        have : rest.takeWhile p = [] := by
          simp only [run, List.length_cons, ge_iff_le, not_le] at hlen
          exact List.eq_nil_of_length_eq_zero (by omega)
        exact ⟨c, by simp only [run, this]⟩
    rw [hx, List.singleton_append]
    exact List.isChain_cons.2 ⟨fun y hy h => by simp [hnext y hy] at h, ih⟩
  | case3 c rest hc ih =>
    refine List.isChain_cons.2 ⟨fun y _ h => ?_, ih⟩
    simp [hc] at h

/-- A text without two characters of the class side by side has no run of two to replace. -/
theorem replaceRuns_two_of_isChain {cs : List Char} (h : cs.IsChain (Apart p)) :
    replaceRuns p 2 cs = cs := by
  induction cs with
  | nil => simp [replaceRuns]
  | cons c rest ih =>
    obtain ⟨hhead, hrest⟩ := List.isChain_cons.1 h
    cases hc : p c
    · rw [replaceRuns_cons_of_not hc, ih hrest]
    · -- a character of the class stands alone, so its run is itself
      have htake : rest.takeWhile p = [] ∧ rest.dropWhile p = rest := by
        cases rest with
        | nil => simp
        | cons d r =>
          have hd : p d = false := by simpa [Apart, hc] using hhead d rfl
          simp [hd]
      rw [replaceRuns]
      simp [hc, htake.1, htake.2, ih hrest]

end Runs

/-! ## Trimming and unquoting -/

theorem toList_trim (s : String) :
    (trim s).toList = ((s.toList.dropWhile isSpace).reverse.dropWhile isSpace).reverse := by
  simp [trim, trimEnd, trimStart]

/-- Trimming keeps an infix of the text. -/
theorem trim_within (s : String) : (trim s).toList <:+: s.toList := by
  rw [toList_trim]
  have hpre : ((s.toList.dropWhile isSpace).reverse.dropWhile isSpace).reverse <+:
      s.toList.dropWhile isSpace := by
    rw [← List.reverse_suffix, List.reverse_reverse]
    exact List.dropWhile_suffix _
  exact hpre.isInfix.trans (List.dropWhile_suffix _).isInfix

theorem trim_starts (s : String) : ∀ c ∈ (trim s).toList.head?, isSpace c = false := by
  intro c hc
  rw [toList_trim, List.head?_reverse] at hc
  -- the last character left is the last of the text without its leading blanks
  generalize ht : s.toList.dropWhile isSpace = t at hc
  have hlead := head?_dropWhile_false isSpace s.toList
  rw [ht] at hlead
  obtain ⟨pre, hpre⟩ := List.dropWhile_suffix isSpace (l := t.reverse)
  have hne : t.reverse.dropWhile isSpace ≠ [] := List.ne_nil_of_mem (List.mem_of_getLast? hc)
  have hlast : t.reverse.getLast? = some c := by
    rw [← hpre, List.getLast?_append_of_ne_nil _ hne, hc]
  rw [List.getLast?_reverse] at hlast
  exact hlead c hlast

theorem trim_ends (s : String) : ∀ c ∈ (trim s).toList.getLast?, isSpace c = false := by
  rw [toList_trim, List.getLast?_reverse]
  exact head?_dropWhile_false isSpace _

/-- A text with no blank at either end is its own trimming. -/
theorem trim_of_ends {s : String} (hs : ∀ c ∈ s.toList.head?, isSpace c = false)
    (he : ∀ c ∈ s.toList.getLast?, isSpace c = false) : trim s = s := by
  have hdrop : ∀ l : List Char, (∀ c ∈ l.head?, isSpace c = false) → l.dropWhile isSpace = l
    | [], _ => rfl
    | c :: rest, h => by simp [h c rfl]
  apply String.toList_injective
  rw [toList_trim, hdrop _ hs, hdrop _ (by rwa [List.head?_reverse]), List.reverse_reverse]

/-- The text is wrapped in a pair of matching single or double quotes. -/
def Wrapped (s : String) : Prop :=
  2 ≤ s.toList.length ∧ s.toList.head? = s.toList.getLast? ∧
    (s.toList.head? = some '\'' ∨ s.toList.head? = some '"')

/-- The inside of a wrapped text, trimmed. -/
def unwrapped (s : String) : String :=
  trim (String.ofList (s.toList.drop 1).dropLast)

theorem unquote_of_wrapped {s : String} (h : Wrapped s) : unquote s = unwrapped s := by
  obtain ⟨hlen, hends, hquote⟩ := h
  unfold unquote
  dsimp only
  split
  · rename_i a b ha hb
    rw [if_pos]
    · rfl
    · rw [ha, hb] at hends
      rw [ha] at hquote
      simp only [Option.some.injEq] at hends hquote
      subst hends
      simp only [ge_iff_le, hlen, decide_true, beq_self_eq_true, Bool.and_self, Bool.true_and,
        Bool.or_eq_true, beq_iff_eq]
      exact hquote
  · rename_i hno
    cases hh : s.toList.head? with
    | none => simp [hh] at hquote
    | some a =>
      exact absurd (hh.symm.trans hends) fun hl => hno a a hh hl.symm

theorem unquote_of_not_wrapped {s : String} (h : ¬ Wrapped s) : unquote s = s := by
  unfold unquote
  dsimp only
  split
  · rename_i a b ha hb
    rw [if_neg]
    simp only [ge_iff_le, Bool.and_eq_true, decide_eq_true_eq, beq_iff_eq, Bool.or_eq_true]
    rintro ⟨⟨hlen, rfl⟩, hquote⟩
    exact h ⟨hlen, ha.trans hb.symm, by rw [ha]; simpa using hquote⟩
  · rfl

/-! ## Clean values -/

/-- What the passes before trimming achieve: no tag, no control character, and no two blanks
side by side. Every infix keeps it. -/
structure Tidy (cs : List Char) : Prop where
  tagFree : tagFree cs = true
  noControl : ∀ c ∈ cs, isControl c = false
  apart : cs.IsChain (Apart isSpace)

theorem Tidy.within {cs t : List Char} (h : Tidy t) (hi : cs <:+: t) : Tidy cs :=
  ⟨tagFree_of_within h.tagFree hi, fun c hc => h.noControl c (hi.subset hc), h.apart.infix hi⟩

/-- A clean value: no tag, no control character, no two blanks side by side, and no blank at
either end. -/
structure Clean (s : String) : Prop where
  noTag : ¬ HasTag s.toList
  noControl : ∀ c ∈ s.toList, isControl c = false
  apart : s.toList.IsChain (Apart isSpace)
  startsClean : ∀ c ∈ s.toList.head?, isSpace c = false
  endsClean : ∀ c ∈ s.toList.getLast?, isSpace c = false

theorem Clean.tidy {s : String} (h : Clean s) : Tidy s.toList :=
  ⟨(tagFree_iff _).2 h.noTag, h.noControl, h.apart⟩

/-- Trimming an infix of a tidy text gives a clean one. -/
theorem clean_trim {s : String} (h : Tidy s.toList) : Clean (trim s) := by
  have ht := h.within (trim_within s)
  exact ⟨(tagFree_iff _).1 ht.tagFree, ht.noControl, ht.apart, trim_starts s, trim_ends s⟩

theorem clean_unwrapped {s : String} (h : Clean s) : Clean (unwrapped s) := by
  unfold unwrapped
  apply clean_trim
  rw [String.toList_ofList]
  exact h.tidy.within ((List.dropLast_prefix _).isInfix.trans (List.drop_suffix _ _).isInfix)

theorem clean_unquote {s : String} (h : Clean s) : Clean (unquote s) := by
  by_cases hw : Wrapped s
  · rw [unquote_of_wrapped hw]
    exact clean_unwrapped h
  · rw [unquote_of_not_wrapped hw]
    exact h

/-- The three passes before trimming leave a tidy text. -/
theorem tidy_passes (cs : List Char) :
    Tidy (replaceRuns isSpace 2 (replaceRuns isControl 1 (stripTags cs))) := by
  refine ⟨?_, fun c hc => ?_, isChain_replaceRuns_two _⟩
  · exact tagFree_replaceRuns (by decide) (by decide)
      (tagFree_replaceRuns (by decide) (by decide) (tagFree_stripTags cs))
  · rcases mem_replaceRuns hc with rfl | hc
    · decide
    · exact replaceRuns_one_none (by decide) _ c hc

/-- Every cleaned value is clean. -/
theorem clean_sanitize (raw : String) : Clean (sanitize raw) := by
  unfold sanitize
  apply clean_unquote
  apply clean_trim
  rw [String.toList_ofList]
  exact tidy_passes _

/-- A clean value is only unquoted. -/
theorem sanitize_of_clean {v : String} (h : Clean v) : sanitize v = unquote v := by
  unfold sanitize
  dsimp only
  rw [stripTags_of_tagFree ((tagFree_iff _).2 h.noTag), replaceRuns_of_none h.noControl,
    replaceRuns_two_of_isChain h.apart, String.ofList_toList, trim_of_ends h.startsClean h.endsClean]

/-- Unwrapping drops at least the two quotes. -/
theorem length_unquote_lt {s : String} (h : Wrapped s) :
    (unquote s).toList.length < s.toList.length := by
  rw [unquote_of_wrapped h]
  have hle := (trim_within (String.ofList (s.toList.drop 1).dropLast)).length_le
  simp only [String.toList_ofList, List.length_dropLast, List.length_drop] at hle
  unfold unwrapped
  have := h.1
  omega

/-- The values `sanitize` leaves alone are exactly the clean ones that are not wrapped in
quotes. -/
theorem sanitize_eq_self_iff (v : String) : sanitize v = v ↔ Clean v ∧ ¬ Wrapped v := by
  constructor
  · intro hv
    have hc : Clean v := hv ▸ clean_sanitize v
    refine ⟨hc, fun hw => ?_⟩
    have hlt := length_unquote_lt hw
    rw [← sanitize_of_clean hc, hv] at hlt
    exact Nat.lt_irrefl _ hlt
  · rintro ⟨hc, hw⟩
    rw [sanitize_of_clean hc, unquote_of_not_wrapped hw]

/-- Cleaning a value makes it clean; the values it leaves alone are the clean ones not wrapped
in quotes; and cleaning twice differs from cleaning once only by one more unquoting. -/
theorem sanitize_cleans (raw v : String) :
    Clean (sanitize raw) ∧ (sanitize v = v ↔ Clean v ∧ ¬ Wrapped v) ∧
      sanitize (sanitize raw) = unquote (sanitize raw) :=
  ⟨clean_sanitize raw, sanitize_eq_self_iff v, sanitize_of_clean (clean_sanitize raw)⟩

end CodingAgent.Recovery
