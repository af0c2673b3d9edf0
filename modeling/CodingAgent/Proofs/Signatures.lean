import CodingAgent.Recovery.Signature
import Mathlib.Data.List.Lex
import Mathlib.Data.List.Nodup

/-!
# What a call signature tells apart

The signature of a call with a text name and an object of arguments is the name followed by
one part `|key=text` for each argument, keys in the order of their code points, where the text
is the argument's value written as `signedText` says. This file shows what two equal
signatures mean.

* The signature depends only on the name, the set of keys and the signed text under each key
  (`signature_eq_of_agree`): reordering the arguments, or changing a value to another one with
  the same signed text, keeps it. Keys are distinct texts (`KeysDistinct`), so sorting them
  gives one order whatever order they came in (`sortedKeys_eq`).
* Conversely, equal signatures give equal names, keys and signed texts as long as no separator
  stands inside a part (`Unambiguous`): then the first `|` ends the name, and in each part the
  first `=` ends the key and the next `|` the text (`partChars_injective`).
  `signature_eq_iff` puts the two together.
* Without that proviso the separators are read wrongly: an argument `a` whose value is
  `1|b=2` signs like the two arguments `a = 1` and `b = 2` (`separator_in_value_collides`), so
  the duplicate guard takes the second call for a repeat of the first.
-/

namespace CodingAgent.Recovery

open CodingAgent CodingAgent.Json CodingAgent.Text

/-- The text an argument is signed by under its key: text as itself, null as nothing and any
other value as JSON with sorted keys; path values then lose trailing slashes and backslashes
and query values their blanks at both ends, and both are lower-cased. -/
def signedText (key : String) (v : Value) : String :=
  if pathKeys.contains key then lower (trimEndChars ['/', '\\'] (signatureValue v))
  else if queryKeys.contains key then lower (trim (signatureValue v))
  else signatureValue v

theorem signaturePart_eq (key : String) (v : Value) :
    signaturePart key v = key ++ "=" ++ signedText key v := rfl

/-- The order in which a signature lists the arguments. -/
def keyOrder (a b : String × Value) : Bool :=
  codeLe a.1 b.1

theorem signature_obj (id : Value) (n : String) (ms : Members) :
    signature ⟨id, .str n, .obj ms⟩ =
      .ok ("|".intercalate (n :: (ms.mergeSort keyOrder).map fun kv => signaturePart kv.1 kv.2)) := by
  have hname : (Value.str n).orElse (.str "") = .str n := by
    unfold Value.orElse
    split
    · rfl
    · rename_i h
      simp only [Value.truthy, Bool.not_eq_true, Bool.not_eq_false', String.isEmpty_iff] at h
      rw [h]
  simp only [signature, argumentParts, ToolCall.nameOrEmpty, hname, bind, Except.bind, pure,
    Except.pure]
  rfl

/-! ## Reading the separators back -/

theorem takeWhile_eq_nil_of_head {q : Char → Bool} {r : List Char}
    (h : ∀ y ∈ r.head?, q y = false) : r.takeWhile q = [] := by
  cases r with
  | nil => rfl
  | cons y r => simp [h y rfl]

/-- Two texts cut before a first stop character agree on both sides of the cut. -/
theorem append_eq_append_of_stop {q : Char → Bool} {l₁ r₁ l₂ r₂ : List Char}
    (h : l₁ ++ r₁ = l₂ ++ r₂) (h₁ : ∀ x ∈ l₁, q x = true) (h₂ : ∀ x ∈ l₂, q x = true)
    (hr₁ : ∀ y ∈ r₁.head?, q y = false) (hr₂ : ∀ y ∈ r₂.head?, q y = false) :
    l₁ = l₂ ∧ r₁ = r₂ := by
  have hl : l₁ = l₂ := by
    have := congrArg (List.takeWhile q) h
    rwa [List.takeWhile_append_of_pos h₁, List.takeWhile_append_of_pos h₂,
      takeWhile_eq_nil_of_head hr₁, takeWhile_eq_nil_of_head hr₂, List.append_nil,
      List.append_nil] at this
  subst hl
  exact ⟨rfl, List.append_cancel_left h⟩

/-- The characters of the parts `|key=text`. -/
def partChars (ps : List (String × String)) : List Char :=
  (ps.map fun p => '|' :: (p.1.toList ++ '=' :: p.2.toList)).flatten

/-- No separator stands inside a part: the key holds neither `|` nor `=`, the text no `|`. -/
def PartClear (p : String × String) : Prop :=
  '|' ∉ p.1.toList ∧ '=' ∉ p.1.toList ∧ '|' ∉ p.2.toList

instance : DecidablePred PartClear := fun _ => inferInstanceAs (Decidable (_ ∧ _ ∧ _))

theorem partChars_head (ps : List (String × String)) :
    ∀ y ∈ (partChars ps).head?, (y != '|') = false := by
  cases ps with
  | nil => simp [partChars]
  | cons p ps => simp [partChars]

/-- Parts without separators inside are read back from their characters. -/
theorem partChars_injective :
    ∀ {ps qs : List (String × String)}, (∀ p ∈ ps, PartClear p) → (∀ q ∈ qs, PartClear q) →
      partChars ps = partChars qs → ps = qs
  | [], [], _, _, _ => rfl
  | [], q :: qs, _, _, h => by simp [partChars] at h
  | p :: ps, [], _, _, h => by simp [partChars] at h
  | (k, t) :: ps, (k', t') :: qs, hps, hqs, h => by
    obtain ⟨hk1, hk2, ht⟩ := hps _ List.mem_cons_self
    obtain ⟨hk1', hk2', ht'⟩ := hqs _ List.mem_cons_self
    simp only [partChars, List.map_cons, List.flatten_cons, List.cons_append, List.append_assoc,
      List.cons.injEq, true_and] at h
    -- the first `=` ends the key
    obtain ⟨hkey, h⟩ := append_eq_append_of_stop (q := (· != '=')) h
      (fun x hx => bne_iff_ne.2 fun he => hk2 (he ▸ hx))
      (fun x hx => bne_iff_ne.2 fun he => hk2' (he ▸ hx)) (by simp) (by simp)
    simp only [List.cons.injEq, true_and] at h
    -- the next `|` ends the text
    obtain ⟨htext, hrest⟩ := append_eq_append_of_stop (q := (· != '|')) h
      (fun x hx => bne_iff_ne.2 fun he => ht (he ▸ hx))
      (fun x hx => bne_iff_ne.2 fun he => ht' (he ▸ hx)) (partChars_head ps) (partChars_head qs)
    rw [String.toList_injective hkey, String.toList_injective htext,
      partChars_injective (fun p hp => hps p (List.mem_cons_of_mem _ hp))
        (fun q hq => hqs q (List.mem_cons_of_mem _ hq)) hrest]

/-- The parts of a signature, as pairs of key and signed text. -/
def signedPairs (ms : Members) : List (String × String) :=
  (ms.mergeSort keyOrder).map fun kv => (kv.1, signedText kv.1 kv.2)

/-- The characters of a signature: the name, then the parts. -/
theorem toList_signature_text (n : String) (l : Members) :
    ("|".intercalate (n :: l.map fun kv => signaturePart kv.1 kv.2)).toList =
      n.toList ++ partChars (l.map fun kv => (kv.1, signedText kv.1 kv.2)) := by
  induction l generalizing n with
  | nil => simp [partChars]
  | cons kv l ih =>
    rw [List.map_cons, String.intercalate_cons_of_ne_nil (by simp), String.toList_append,
      String.toList_append, ih]
    simp [partChars, signaturePart_eq]

/-! ## Sorting the keys -/

theorem codeLe_iff {a b : String} : codeLe a b = true ↔ codePoints a.toList ≤ codePoints b.toList := by
  simp [codeLe, codeLess, not_lt]

theorem pairwise_sortedKeys (ms : Members) :
    ((ms.mergeSort keyOrder).map Prod.fst).Pairwise fun a b => codeLe a b = true := by
  rw [List.pairwise_map]
  refine List.pairwise_mergeSort (fun a b c hab hbc => ?_) (fun a b => ?_) ms
  · simp only [codeLe_iff] at hab hbc ⊢
    exact le_trans hab hbc
  · simp only [Bool.or_eq_true, codeLe_iff]
    exact le_total _ _

/-- The keys of an argument object are distinct texts, that is, distinct sequences of code
points. -/
def KeysDistinct (ms : Members) : Prop :=
  (ms.map fun kv => codePoints kv.1.toList).Nodup

instance : DecidablePred KeysDistinct := fun _ => inferInstanceAs (Decidable (List.Nodup _))

theorem KeysDistinct.nodup {ms : Members} (h : KeysDistinct ms) : (ms.map Prod.fst).Nodup := by
  refine List.Nodup.of_map (fun k => codePoints k.toList) ?_
  rw [List.map_map]
  exact h

/-- Objects with the same distinct keys list them in the same order once sorted. -/
theorem sortedKeys_eq {ms ms' : Members} (hd : KeysDistinct ms) (hd' : KeysDistinct ms')
    (hkeys : ∀ k, k ∈ ms.map Prod.fst ↔ k ∈ ms'.map Prod.fst) :
    (ms.mergeSort keyOrder).map Prod.fst = (ms'.mergeSort keyOrder).map Prod.fst := by
  have hperm : List.Perm ((ms.mergeSort keyOrder).map Prod.fst)
      ((ms'.mergeSort keyOrder).map Prod.fst) :=
    ((List.mergeSort_perm ms keyOrder).map Prod.fst).trans
      (((List.perm_ext_iff_of_nodup hd.nodup hd'.nodup).2 hkeys).trans
        ((List.mergeSort_perm ms' keyOrder).map Prod.fst).symm)
  refine hperm.eq_of_pairwise (fun a b ha hb hab hba => ?_) (pairwise_sortedKeys ms)
    (pairwise_sortedKeys ms')
  -- keys with the same code points are the same key
  have hcp : codePoints a.toList = codePoints b.toList :=
    le_antisymm (codeLe_iff.1 hab) (codeLe_iff.1 hba)
  have ha' : a ∈ ms.map Prod.fst := (List.mergeSort_perm ms keyOrder).map Prod.fst |>.subset ha
  have hb' : b ∈ ms.map Prod.fst :=
    (hkeys b).2 (((List.mergeSort_perm ms' keyOrder).map Prod.fst).subset hb)
  obtain ⟨⟨a, va⟩, hma, rfl⟩ := List.mem_map.1 ha'
  obtain ⟨⟨b, vb⟩, hmb, rfl⟩ := List.mem_map.1 hb'
  have := List.inj_on_of_nodup_map hd hma hmb hcp
  simp only [Prod.mk.injEq] at this
  exact this.1

/-- Lists of arguments with the same keys in the same order and the same signed texts under
them have the same parts. -/
theorem map_signaturePart_eq :
    ∀ {l l' : Members}, l.map Prod.fst = l'.map Prod.fst →
      (∀ k v v', (k, v) ∈ l → (k, v') ∈ l' → signedText k v = signedText k v') →
      l.map (fun kv => signaturePart kv.1 kv.2) = l'.map (fun kv => signaturePart kv.1 kv.2)
  | [], [], _, _ => rfl
  | (k, v) :: l, (k', v') :: l', hk, hv => by
    simp only [List.map_cons, List.cons.injEq] at hk ⊢
    obtain ⟨rfl, hk⟩ := hk
    refine ⟨by rw [signaturePart_eq, signaturePart_eq, hv k v v' List.mem_cons_self
      List.mem_cons_self], map_signaturePart_eq hk fun k w w' hw hw' => ?_⟩
    exact hv k w w' (List.mem_cons_of_mem _ hw) (List.mem_cons_of_mem _ hw')

/-! ## Equal signatures -/

/-- The signature depends only on the name, the keys and the signed text under each key. -/
theorem signature_eq_of_agree {id id' : Value} {n : String} {ms ms' : Members}
    (hd : KeysDistinct ms) (hd' : KeysDistinct ms')
    (hkeys : ∀ k, k ∈ ms.map Prod.fst ↔ k ∈ ms'.map Prod.fst)
    (htext : ∀ k v v', (k, v) ∈ ms → (k, v') ∈ ms' → signedText k v = signedText k v') :
    signature ⟨id, .str n, .obj ms⟩ = signature ⟨id', .str n, .obj ms'⟩ := by
  rw [signature_obj, signature_obj,
    map_signaturePart_eq (sortedKeys_eq hd hd' hkeys) fun k v v' hv hv' =>
      htext k v v' (List.mem_mergeSort.1 hv) (List.mem_mergeSort.1 hv')]

/-- No separator stands inside a part of the signature: the name holds no `|`, and no key
`|` or `=`, and no signed text `|`. -/
def Unambiguous (n : String) (ms : Members) : Prop :=
  '|' ∉ n.toList ∧ ∀ kv ∈ ms, PartClear (kv.1, signedText kv.1 kv.2)

instance (n : String) (ms : Members) : Decidable (Unambiguous n ms) :=
  inferInstanceAs (Decidable (_ ∧ ∀ kv ∈ ms, _))

/-- Equal signatures without separators inside their parts have the same name and parts. -/
theorem eq_of_signature_eq {id id' : Value} {n n' : String} {ms ms' : Members}
    (hu : Unambiguous n ms) (hu' : Unambiguous n' ms')
    (h : signature ⟨id, .str n, .obj ms⟩ = signature ⟨id', .str n', .obj ms'⟩) :
    n = n' ∧ signedPairs ms = signedPairs ms' := by
  rw [signature_obj, signature_obj, Except.ok.injEq] at h
  have h := congrArg String.toList h
  rw [toList_signature_text, toList_signature_text] at h
  -- the first `|` ends the name
  obtain ⟨hname, hparts⟩ := append_eq_append_of_stop (q := (· != '|')) h
    (fun x hx => bne_iff_ne.2 fun he => hu.1 (he ▸ hx))
    (fun x hx => bne_iff_ne.2 fun he => hu'.1 (he ▸ hx)) (partChars_head _) (partChars_head _)
  have hclear : ∀ ms : Members, Unambiguous n ms → ∀ p ∈ signedPairs ms, PartClear p := by
    intro ms hu p hp
    obtain ⟨kv, hkv, rfl⟩ := List.mem_map.1 hp
    exact hu.2 kv (List.mem_mergeSort.1 hkv)
  exact ⟨String.toList_injective hname,
    partChars_injective (hclear ms hu) (fun p hp => by
      obtain ⟨kv, hkv, rfl⟩ := List.mem_map.1 hp
      exact hu'.2 kv (List.mem_mergeSort.1 hkv)) hparts⟩

/-- Equal parts give the same keys, and the same signed text under each key. -/
theorem agree_of_signedPairs_eq {ms ms' : Members} (hd' : KeysDistinct ms')
    (h : signedPairs ms = signedPairs ms') :
    (∀ k, k ∈ ms.map Prod.fst ↔ k ∈ ms'.map Prod.fst) ∧
      ∀ k v v', (k, v) ∈ ms → (k, v') ∈ ms' → signedText k v = signedText k v' := by
  have hkeys : (ms.mergeSort keyOrder).map Prod.fst = (ms'.mergeSort keyOrder).map Prod.fst := by
    have := congrArg (List.map Prod.fst) h
    simpa [signedPairs, List.map_map, Function.comp_def] using this
  refine ⟨fun k => ?_, fun k v v' hv hv' => ?_⟩
  · have hp := fun (l : Members) => ((List.mergeSort_perm l keyOrder).map Prod.fst).mem_iff (a := k)
    rw [← hp ms, ← hp ms', hkeys]
  · have hmem : (k, signedText k v) ∈ signedPairs ms' :=
      h ▸ List.mem_map.2 ⟨(k, v), List.mem_mergeSort.2 hv, rfl⟩
    obtain ⟨⟨k', w⟩, hw, hkw⟩ := List.mem_map.1 hmem
    simp only [Prod.mk.injEq] at hkw
    obtain ⟨rfl, hw'⟩ := hkw
    -- the key occurs once in the second object, so its value there is `v'`
    have := List.inj_on_of_nodup_map hd'.nodup (List.mem_mergeSort.1 hw) hv' rfl
    simp only [Prod.mk.injEq, true_and] at this
    rw [← hw', this]

/-- Two calls with text names and objects of distinct keys, neither with a separator inside a
part of its signature, have the same signature exactly when they have the same name, the same
keys, and the same signed text under each key. -/
theorem signature_eq_iff {id id' : Value} {n n' : String} {ms ms' : Members}
    (hd : KeysDistinct ms) (hd' : KeysDistinct ms') (hu : Unambiguous n ms)
    (hu' : Unambiguous n' ms') :
    signature ⟨id, .str n, .obj ms⟩ = signature ⟨id', .str n', .obj ms'⟩ ↔
      n = n' ∧ (∀ k, k ∈ ms.map Prod.fst ↔ k ∈ ms'.map Prod.fst) ∧
        ∀ k v v', (k, v) ∈ ms → (k, v') ∈ ms' → signedText k v = signedText k v' := by
  constructor
  · intro h
    obtain ⟨hn, hpairs⟩ := eq_of_signature_eq hu hu' h
    exact ⟨hn, agree_of_signedPairs_eq hd' hpairs⟩
  · rintro ⟨rfl, hkeys, htext⟩
    exact signature_eq_of_agree hd hd' hkeys htext

/-- Two arguments given in either order, with plain keys and values. -/
theorem signature_eq_iff_reordered :
    KeysDistinct [("a", .str "1"), ("b", .str "2")] ∧ KeysDistinct [("b", .str "2"), ("a", .str "1")] ∧
      Unambiguous "f" [("a", .str "1"), ("b", .str "2")] ∧
      Unambiguous "f" [("b", .str "2"), ("a", .str "1")] ∧
      (signature ⟨.null, .str "f", .obj [("a", .str "1"), ("b", .str "2")]⟩ =
          signature ⟨.null, .str "f", .obj [("b", .str "2"), ("a", .str "1")]⟩ ↔
        "f" = "f" ∧
          (∀ k, k ∈ [("a", Value.str "1"), ("b", .str "2")].map Prod.fst ↔
            k ∈ [("b", Value.str "2"), ("a", .str "1")].map Prod.fst) ∧
          ∀ k v v', (k, v) ∈ [("a", Value.str "1"), ("b", .str "2")] →
            (k, v') ∈ [("b", Value.str "2"), ("a", .str "1")] → signedText k v = signedText k v') := by
  have hd : KeysDistinct [("a", .str "1"), ("b", .str "2")] := by decide +kernel
  have hd' : KeysDistinct [("b", .str "2"), ("a", .str "1")] := by decide +kernel
  have hu : Unambiguous "f" [("a", .str "1"), ("b", .str "2")] := by decide +kernel
  have hu' : Unambiguous "f" [("b", .str "2"), ("a", .str "1")] := by decide +kernel
  exact ⟨hd, hd', hu, hu', signature_eq_iff hd hd' hu hu'⟩

/-- A value that holds the separators signs like two arguments: the call with the single
argument `a = "1|b=2"` has the signature of the call with `a = "1"` and `b = "2"`, though only
the second has a key `b`. -/
theorem separator_in_value_collides :
    signature ⟨.null, .str "f", .obj [("a", .str "1|b=2")]⟩ =
        signature ⟨.null, .str "f", .obj [("a", .str "1"), ("b", .str "2")]⟩ ∧
      "b" ∉ [("a", Value.str "1|b=2")].map Prod.fst := by
  refine ⟨?_, by simp⟩
  have hsorted : [("a", Value.str "1"), ("b", Value.str "2")].Pairwise
      (fun a b => keyOrder a b = true) := by decide +kernel
  rw [signature_obj, signature_obj, List.mergeSort_singleton, List.mergeSort_of_pairwise hsorted]
  congr 1

end CodingAgent.Recovery
