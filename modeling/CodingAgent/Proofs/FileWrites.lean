import CodingAgent.Workspace.Workspace

/-!
# What writing a file changes

A write resolves the path, makes the missing parent directories one by one, opens the file
(which empties it) and only then encodes the text. When it succeeds, the file at the path
found holds the UTF-8 bytes of the text, and every other path holds what it held, except the
parent directories that were missing, which now exist (`Workspace.write_none`). Nothing else
of the file tree changes.

* `Files.get?_set`: setting a node changes what one path holds.
* `Files.KeptOrMade p fs fs' q`: at `q`, `fs'` holds what `fs` holds, or a directory made where
  nothing was, on the way to `p`. Making directories (`makeDirs_keptOrMade`) and opening a file
  (`openFile_none`) change the tree only so.
* `Files.WrittenAt fs p bytes fs'`: the file at `p` holds `bytes`, and the rest is kept or
  made on the way to `p`.
* A file that could be read has directories above it (`readBytes_ok_dirs`), so writing it back
  changes that file alone (`WrittenAt.only`).

What a failed write leaves is not described here: the directories made stay, and a file opened
before the text failed to encode stays empty.
-/

namespace CodingAgent.Workspace

open CodingAgent.Text

namespace Files

variable {fs fs' fs'' : Files} {p q r : Path}

/-- Setting the node at `p` changes what `p` holds and nothing else; the root stays a
directory. -/
theorem get?_set (fs : Files) (p q : Path) (n : Node) :
    (fs.set p n).get? q = if q.isEmpty then some .dir else if q = p then some n else fs.get? q := by
  unfold get? set
  by_cases hq : q.isEmpty
  · simp [hq]
  simp only [hq, if_false, Bool.false_eq_true]
  split
  · rename_i hany
    -- the changed entries keep their paths, so the same entry is found
    have hpred : (fun e : Path × Node => (if e.1 == p then (p, n) else e).1 == q) =
        (fun e => e.1 == q) := by
      funext e
      by_cases he : e.1 = p <;> simp [he]
    rw [List.find?_map, Function.comp_def, hpred]
    by_cases hqp : q = p
    · subst hqp
      obtain ⟨e, he⟩ : ∃ e, fs.nodes.find? (fun e => e.1 == q) = some e := by
        obtain ⟨x, hx⟩ : ∃ x, (q, x) ∈ fs.nodes := by simpa using hany
        exact Option.isSome_iff_exists.1 (List.find?_isSome.2 ⟨(q, x), hx, by simp⟩)
      have hkey : e.1 = q := by simpa using List.find?_some he
      simp [he, hkey]
    · cases hf : fs.nodes.find? (fun e => e.1 == q) with
      | none => simp [hqp]
      | some e =>
        have hkey : e.1 = q := by simpa using List.find?_some hf
        simp [hqp, hkey]
  · rename_i hany
    rw [List.find?_append]
    by_cases hqp : q = p
    · subst hqp
      have hall : ∀ x, (q, x) ∉ fs.nodes := by simpa using hany
      have hnone : fs.nodes.find? (fun e => e.1 == q) = none := by
        refine List.find?_eq_none.2 fun ⟨a, b⟩ he hkey => ?_
        simp only [beq_iff_eq] at hkey
        subst hkey
        exact hall b he
      simp [hnone]
    · simp [hqp, Ne.symm hqp]

@[simp] theorem get?_nil (fs : Files) : fs.get? [] = some .dir := rfl

/-- At `q`, `fs'` holds what `fs` holds, or a directory made where nothing was, on the way to
`p`. -/
def KeptOrMade (p : Path) (fs fs' : Files) (q : Path) : Prop :=
  fs'.get? q = fs.get? q ∨ (fs.get? q = none ∧ fs'.get? q = some .dir ∧ q <+: p)

theorem KeptOrMade.refl (p : Path) (fs : Files) (q : Path) : KeptOrMade p fs fs q := .inl rfl

theorem KeptOrMade.trans (h : KeptOrMade p fs fs' q) (h' : KeptOrMade p fs' fs'' q) :
    KeptOrMade p fs fs'' q := by
  rcases h with h | ⟨hnone, hdir, hq⟩ <;> rcases h' with h' | ⟨hnone', hdir', hq'⟩
  · exact .inl (h'.trans h)
  · exact .inr ⟨h ▸ hnone', hdir', hq'⟩
  · exact .inr ⟨hnone, h'.trans hdir, hq⟩
  · -- a directory made is not missing afterwards
    rw [hdir] at hnone'
    cases hnone'

theorem KeptOrMade.mono (h : KeptOrMade p fs fs' q) (hp : p <+: r) : KeptOrMade r fs fs' q :=
  h.imp_right fun ⟨hnone, hdir, hq⟩ => ⟨hnone, hdir, hq.trans hp⟩

/-- Making one directory keeps the tree or adds that directory where nothing was. -/
theorem makeDir_keptOrMade (h : fs.makeDir q = .ok fs') (r : Path) : KeptOrMade q fs fs' r := by
  unfold makeDir at h
  split at h
  · cases h
  split at h
  · cases h
  · cases h
  · split at h
    · cases h
      exact .refl _ _ _
    · cases h
    · rename_i hnone
      cases h
      rw [KeptOrMade, get?_set]
      by_cases hr : r.isEmpty
      · simp [List.isEmpty_iff.1 hr]
      · by_cases hrq : r = q
        · subst hrq
          exact .inr ⟨hnone, by simp [hr], List.prefix_refl r⟩
        · simp [hr, hrq]

theorem step_makeDir_keptOrMade (fs : Files) (q r : Path) :
    KeptOrMade q fs (fs.step (fs.makeDir q)).1 r := by
  unfold step
  split
  · exact makeDir_keptOrMade (by assumption) r
  · exact .refl _ _ _

/-- Making a directory and its missing parents keeps the tree or adds directories where
nothing was, on the way to it; so does a failure part of the way. -/
theorem makeDirs_keptOrMade : ∀ (fuel : Nat) (fs : Files) (q r : Path),
    KeptOrMade q fs (fs.makeDirs fuel q).1 r
  | 0, fs, q, r => step_makeDir_keptOrMade fs q r
  | fuel + 1, fs, q, r => by
    unfold makeDirs
    split
    · exact .refl _ _ _
    split
    · exact .refl _ _ _
    split
    · -- the parent is missing: it is made first, and then the directory itself
      have hparent := makeDirs_keptOrMade fuel fs q.dropLast r
      split
      · rename_i fs₁ heq
        rw [heq] at hparent
        exact (hparent.mono (List.dropLast_prefix q)).trans (step_makeDir_keptOrMade fs₁ q r)
      · exact hparent.mono (List.dropLast_prefix q)
    · exact step_makeDir_keptOrMade fs q r

/-- Opening a file for writing makes its missing parents and then an empty file, which is not
the root. -/
theorem openFile_none (h : fs.openFile p = (fs', none)) :
    ∃ fs₁, (∀ r, KeptOrMade p.dropLast fs fs₁ r) ∧ p ≠ [] ∧ fs' = fs₁.set p (.file []) := by
  have hdirs := makeDirs_keptOrMade (p.length + 1) fs p.dropLast
  unfold openFile at h
  split at h
  · cases h
  rename_i fs₁ heq
  rw [heq] at hdirs
  split at h
  · cases h
  split at h
  · cases h
  · cases h
  · split at h
    · cases h
    · rename_i hnotdir
      cases h
      refine ⟨fs₁, hdirs, ?_, rfl⟩
      rintro rfl
      exact hnotdir rfl

/-- The file at `p` holds `bytes`, and every other path holds what it held, or a directory made
where nothing was, on the way to `p`. -/
def WrittenAt (fs : Files) (p : Path) (bytes : List UInt8) (fs' : Files) : Prop :=
  fs'.get? p = some (.file bytes) ∧ ∀ q ≠ p, KeptOrMade p fs fs' q

/-- Every proper prefix of a path without a blocked prefix is a directory. -/
theorem get?_of_blockedPrefix_none (h : fs.blockedPrefix p = none) (hq : q <+: p) (hne : q ≠ p) :
    fs.get? q = some .dir := by
  by_cases hq0 : q = []
  · subst hq0
    rfl
  have hlen : q.length < p.length :=
    Nat.lt_of_le_of_ne hq.length_le (fun hl => hne (hq.eq_of_length hl))
  have hmem : q ∈ (List.range p.length).filterMap
      (fun k => if k == 0 then none else some (p.take k)) := by
    refine List.mem_filterMap.2 ⟨q.length, List.mem_range.2 hlen, ?_⟩
    have hpos : q.length ≠ 0 := by simpa using hq0
    simp [hpos, ← List.prefix_iff_eq_take.1 hq]
  unfold blockedPrefix at h
  have hq' := List.findSome?_eq_none_iff.1 h q hmem
  revert hq'
  cases fs.get? q with
  | none => simp
  | some n => cases n <;> simp

/-- A file that could be read has a directory at every proper prefix of its path. -/
theorem readBytes_ok_dirs {bytes : List UInt8} (h : fs.readBytes p = .ok bytes)
    (hq : q <+: p) (hne : q ≠ p) : fs.get? q = some .dir := by
  unfold readBytes at h
  split at h
  · cases h
  split at h
  · cases h
  · cases h
  · rename_i hblocked
    exact get?_of_blockedPrefix_none hblocked hq hne

/-- Writing a file whose parents are all directories changes that file alone. -/
theorem WrittenAt.only {bytes : List UInt8} (hw : fs.WrittenAt p bytes fs')
    (hdirs : ∀ q, q <+: p → q ≠ p → fs.get? q = some .dir) : ∀ q ≠ p, fs'.get? q = fs.get? q := by
  intro q hq
  rcases hw.2 q hq with h | ⟨hnone, -, hpre⟩
  · exact h
  · rw [hdirs q hpre hq] at hnone
    cases hnone

end Files

section Operations

variable {w w' : Workspace} {path content : String}

/-- Asking a question touches neither the files nor the places paths are taken from. -/
theorem approve_paths (w : Workspace) (question : String) :
    (w.approve question).2.files = w.files ∧ (w.approve question).2.root = w.root ∧
      (w.approve question).2.home = w.home ∧ (w.approve question).2.accounts = w.accounts := by
  unfold approve
  split
  · exact ⟨rfl, rfl, rfl, rfl⟩
  · split <;> exact ⟨rfl, rfl, rfl, rfl⟩

/-- A path resolves by the files, the root, the home directory and the accounts alone. -/
theorem resolveFile_congr {w w' : Workspace} (hf : w'.files = w.files) (hr : w'.root = w.root)
    (hh : w'.home = w.home) (ha : w'.accounts = w.accounts) (path : String) :
    w'.resolveFile path = w.resolveFile path := by
  simp only [resolveFile, resolvePath, isAccessible, locate, homeOf?, inside, hf, hr, hh, ha]

/-- A write that succeeds leaves the bytes of the text in the file at the path found, and the
rest of the tree kept or with missing parents made. -/
theorem write_none (h : w.write path content = (w', none)) :
    ∃ p, w.resolveFile path = .ok p ∧ w.files.WrittenAt p (encodeUtf8 content) w'.files := by
  unfold write at h
  split at h
  · cases h
  rename_i p hp
  split at h
  · cases h
  rename_i files hopen
  obtain ⟨fs₁, hdirs, hne, rfl⟩ := Files.openFile_none hopen
  split at h
  · cases h
  cases h
  refine ⟨p, hp, ?_, fun q hq => ?_⟩
  · simp [Files.get?_set, List.isEmpty_iff, hne]
  · by_cases hq0 : q.isEmpty
    · exact .inl (by simp [List.isEmpty_iff.1 hq0])
    · have hkept := (hdirs q).mono (List.dropLast_prefix p)
      simpa [Files.KeptOrMade, Files.get?_set, hq0, hq] using hkept

/-- Whether a file exists is asked at the path found. -/
theorem fileExists_of_resolveFile {p : Path} (hp : w.resolveFile path = .ok p) :
    w.fileExists path =
      if w.files.tooLong p then .error (.fs (.nameTooLong p)) else .ok (w.files.isFile p) := by
  unfold fileExists
  rw [hp]

/-- A path that exists as a file, or does not, is answered so at the path found. -/
theorem isFile_of_fileExists {p : Path} {b : Bool} (hp : w.resolveFile path = .ok p)
    (he : w.fileExists path = .ok b) : w.files.isFile p = b := by
  rw [fileExists_of_resolveFile hp] at he
  split at he
  · cases he
  · exact Except.ok.inj he

/-- A text that could be read comes from a file at the path found. -/
theorem read_ok {text : String} (h : w.read path = .ok text) :
    ∃ p bytes, w.resolveFile path = .ok p ∧ w.files.readBytes p = .ok bytes := by
  unfold read at h
  cases hp : w.resolveFile path with
  | error e => simp [hp, bind, Except.bind, mapError_error] at h
  | ok p =>
    cases hb : w.files.readBytes p with
    | error e => simp [hp, hb, bind, Except.bind, mapError_ok, mapError_error] at h
    | ok bytes => exact ⟨p, bytes, rfl, hb⟩

end Operations

end CodingAgent.Workspace
