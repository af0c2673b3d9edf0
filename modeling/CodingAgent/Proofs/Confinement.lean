import CodingAgent.Workspace.Setup

/-!
# Confinement of the paths a workspace hands out

`resolveFile` resolves a request to a canonical path and then tests that path once more: it
trims the path's text and resolves that text again, and hands the first path back if the
second one lies inside the root. A canonical path resolves to itself
(`Files.resolve_canonical`), so when trimming leaves its text alone the second test is the
first one, and the path handed back lies inside the root.

Here a path is canonical when its components are names the system accepts (not empty, not
`.` or `..`, without `/`) and no path along it is a link, which is what resolving with the
semantics of `realpath` gives.

Main statement: when the path a request names is canonical and its text has no surrounding
blanks, `resolveFile` hands back only paths inside the root, and succeeds exactly when the
request is accessible. A path found whose last component ends with a blank escapes: trimmed,
its text names another path, which may be the root itself.
-/

namespace CodingAgent.Workspace

open CodingAgent.Text

/-! ## Canonical paths -/

/-- Whether a component is a name the system accepts: not empty, not `.` or `..`, without
`/`, and with a text the system does not refuse. -/
def isName (c : String) : Bool :=
  c != "" && c != "." && c != ".." && !c.toList.contains '/' && (textFault? c).isNone

/-- Whether no path along `q` is a link. -/
def Files.linkFree (fs : Files) (q : Path) : Bool :=
  (List.range q.length).all fun k => !(fs.get? (q.take (k + 1)) matches some (.link _))

/-- Whether `q` is canonical in the table: its components are names and no path along it is
a link. -/
def Files.canonical (fs : Files) (q : Path) : Bool :=
  q.all isName && fs.linkFree q

theorem Files.linkFree_iff {fs : Files} {q : Path} :
    fs.linkFree q = true ↔ ∀ k < q.length, ∀ t, fs.get? (q.take (k + 1)) ≠ some (.link t) := by
  simp only [Files.linkFree, List.all_eq_true, List.mem_range, Bool.not_eq_true']
  refine forall₂_congr fun k _ => ?_
  cases fs.get? (q.take (k + 1)) with
  | none => simp
  | some n => cases n <;> simp

/-! ## The text of a path, read back -/

theorem isName_spec {c : String} (h : isName c = true) :
    c ≠ "" ∧ c ≠ "." ∧ c ≠ ".." ∧ '/' ∉ c.toList ∧ textFault? c = none := by
  simp only [isName, Bool.and_eq_true, bne_iff_ne, ne_eq, Bool.not_eq_true',
    Option.isNone_iff_eq_none] at h
  exact ⟨h.1.1.1.1, h.1.1.1.2, h.1.1.2, by simpa using h.1.2, h.2⟩

theorem components_pathText {q : Path} (h : q.all isName = true) :
    components (pathText q) = q := by
  have hnames : ∀ c ∈ q, isName c = true := List.all_eq_true.1 h
  unfold components pathText
  rw [String.toList_append, String.toList_intercalate]
  cases q with
  | nil => decide +kernel
  | cons c cs =>
    -- the leading separator splits off an empty first piece
    have hlead : "/".toList ++ "/".toList.intercalate ((c :: cs).map String.toList) =
        ['/'].intercalate ([] :: (c :: cs).map String.toList) := by
      simp [List.intercalate_cons_cons]
    have hsep : ∀ l ∈ [] :: (c :: cs).map String.toList, '/' ∉ l := by
      intro l hl
      rw [List.mem_cons, List.mem_map] at hl
      rcases hl with rfl | ⟨d, hd, rfl⟩
      · simp
      · exact (isName_spec (hnames d hd)).2.2.2.1
    have hmap : ([] :: (c :: cs).map String.toList).map String.ofList = "" :: c :: cs := by
      simp [Function.comp_def]
    rw [hlead, List.splitOn_intercalate '/' hsep (by simp), hmap,
      List.filter_cons_of_neg (by simp), List.filter_eq_self]
    intro d hd
    obtain ⟨hne, hdot, -⟩ := isName_spec (hnames d hd)
    simp [hne, hdot]

/-! ## A canonical path resolves to itself -/

theorem Files.appendLexical_of_names (p : Path) {q : Path} (h : q.all isName = true) :
    Files.appendLexical p q = p ++ q := by
  induction q generalizing p with
  | nil => simp [Files.appendLexical]
  | cons c cs ih =>
    simp only [List.all_cons, Bool.and_eq_true] at h
    have hc : (c == "..") = false := by
      simp only [isName, Bool.and_eq_true, bne_iff_ne, ne_eq] at h
      simpa using h.1.1.1.2
    rw [Files.appendLexical, hc, if_neg (by simp), ih _ h.2, List.append_assoc, List.singleton_append]

theorem Files.joinReal_canonical (fs : Files) (seen : Seen) :
    ∀ (fuel : Nat) (p rest : Path), rest.all isName = true →
      (∀ k < (p ++ rest).length, p.length ≤ k →
        ∀ t, fs.get? ((p ++ rest).take (k + 1)) ≠ some (.link t)) →
      rest.length < fuel → fs.joinReal fuel p rest seen = .ok (p ++ rest, true, seen) := by
  intro fuel p rest hnames hlink hfuel
  -- induction on the components still to walk; each one is a name and no link
  induction rest generalizing p fuel with
  | nil =>
    obtain ⟨f, rfl⟩ : ∃ f, fuel = f + 1 := ⟨fuel - 1, by simp at hfuel; omega⟩
    simp [Files.joinReal]
  | cons name rest ih =>
    obtain ⟨f, rfl⟩ : ∃ f, fuel = f + 1 := ⟨fuel - 1, by simp at hfuel; omega⟩
    simp only [List.all_cons, Bool.and_eq_true] at hnames
    obtain ⟨-, -, hdots, -, hfault⟩ := isName_spec hnames.1
    have hnext : (p ++ name :: rest).take (p.length + 1) = p ++ [name] := by
      simp [List.take_length_add_append]
    have hnolink : ∀ t, fs.get? (p ++ [name]) ≠ some (.link t) := by
      rw [← hnext]
      exact hlink p.length (by simp) (Nat.le_refl _)
    have hwalk : fs.joinReal f (p ++ [name]) rest seen = .ok (p ++ name :: rest, true, seen) := by
      have hlink' : ∀ k < (p ++ [name] ++ rest).length, (p ++ [name]).length ≤ k →
          ∀ t, fs.get? ((p ++ [name] ++ rest).take (k + 1)) ≠ some (.link t) := by
        intro k hk hle
        rw [List.append_assoc, List.singleton_append] at hk ⊢
        exact hlink k hk (by simp at hle; omega)
      rw [ih f (p ++ [name]) hnames.2 hlink' (by simp at hfuel; omega)]
      simp
    rw [Files.joinReal.eq_def]
    simp only [beq_iff_eq, hdots, if_false, hfault]
    cases hg : fs.get? (p ++ [name]) with
    | none => exact hwalk
    | some n =>
      cases n with
      | link t => exact absurd hg (hnolink t)
      | dir => exact hwalk
      | file b => exact hwalk

theorem Files.realPath_canonical {fs : Files} {q : Path} (h : fs.canonical q = true) :
    fs.realPath q = .ok (q, true) := by
  simp only [Files.canonical, Bool.and_eq_true] at h
  have hwalk := Files.joinReal_canonical fs [] (fs.fuel q) [] q h.1
    (fun k hk _ t => by simpa using Files.linkFree_iff.1 h.2 k (by simpa using hk) t)
    (by simp [Files.fuel]; omega)
  simp only [List.nil_append] at hwalk
  simp [Files.realPath, hwalk, Files.appendLexical_of_names [] h.1, bind, Except.bind, pure,
    Except.pure]

/-- What a resolved path is: the path `realPath` found, whose text the system accepts and
whose walk meets no loop of links. -/
theorem Files.resolve_eq_ok_iff {fs : Files} {p q : Path} :
    fs.resolve p = .ok q ↔
      (∃ b, fs.realPath p = .ok (q, b)) ∧ textFault? (pathText q) = none ∧
        fs.walk q ≠ .tooManyLinks := by
  unfold Files.resolve
  cases hr : fs.realPath p with
  | error e => simp [mapError_error, bind, Except.bind]
  | ok r =>
    obtain ⟨q₀, b⟩ := r
    simp only [mapError_ok, bind, Except.bind]
    cases hf : textFault? (pathText q₀) with
    | some fault =>
      -- the text of the path found is refused
      simp [throw, throwThe, MonadExceptOf.throw]
      rintro rfl
      simp [hf]
    | none =>
      cases hw : fs.walk q₀ <;> simp <;> rintro rfl <;> simp [hf, hw]

/-- A path that resolving gave, if canonical, resolves to itself. -/
theorem Files.resolve_canonical {fs : Files} {p q : Path} (hp : fs.resolve p = .ok q)
    (hq : fs.canonical q = true) : fs.resolve q = .ok q := by
  obtain ⟨-, hfault, hwalk⟩ := Files.resolve_eq_ok_iff.1 hp
  exact Files.resolve_eq_ok_iff.2 ⟨⟨true, Files.realPath_canonical hq⟩, hfault, hwalk⟩

/-! ## The second test of `resolveFile` -/

theorem locate_pathText (w : Workspace) {q : Path} (hq : q.all isName = true)
    (htrim : trim (pathText q) = pathText q) : w.locate (pathText q) = .ok q := by
  have hne : (pathText q).isEmpty = false := by simp [pathText]
  have habs : isAbsoluteText (pathText q) = true := by simp [isAbsoluteText, pathText]
  simp only [locate, htrim, hne, habs, Bool.false_eq_true, if_false, if_true]
  rw [components_pathText hq]

/-- What a resolved request is: the path it names, resolved. -/
theorem resolvePath_eq_ok {w : Workspace} {r : String} {q : Path} (h : w.resolvePath r = .ok q) :
    ∃ p, w.locate r = .ok p ∧ w.files.resolve p = .ok q := by
  simp only [resolvePath, bind, Except.bind] at h
  split at h
  · simp at h
  · rename_i p hp
    cases hres : w.files.resolve p with
    | error e => simp [hres, mapError_error] at h
    | ok q' =>
      simp only [hres, mapError_ok, Except.ok.injEq] at h
      exact ⟨p, hp, h ▸ hres⟩

theorem resolvePath_pathText {w : Workspace} {r : String} {q : Path}
    (hr : w.resolvePath r = .ok q) (hq : w.files.canonical q = true)
    (htrim : trim (pathText q) = pathText q) : w.resolvePath (pathText q) = .ok q := by
  have hfirst : w.files.resolve q = .ok q := by
    obtain ⟨p, -, hres⟩ := resolvePath_eq_ok hr
    exact Files.resolve_canonical hres hq
  simp only [Files.canonical, Bool.and_eq_true] at hq
  simp [resolvePath, locate_pathText w hq.1 htrim, hfirst, bind, Except.bind, mapError_ok]

/-- For a canonical path found whose text has no surrounding blanks, `resolveFile` tests the
path itself: it hands it back exactly when it lies inside the root. -/
theorem resolveFile_canonical {w : Workspace} {r : String} {q : Path}
    (hr : w.resolvePath r = .ok q) (hq : w.files.canonical q = true)
    (htrim : trim (pathText q) = pathText q) :
    w.resolveFile r = if w.inside q then .ok q else .error (.outside r) := by
  simp [resolveFile, isAccessible, hr, resolvePath_pathText hr hq htrim, bind, Except.bind, pure,
    Except.pure]

/-! ## Main statement -/

/-- When the path a request names is canonical and its text has no surrounding blanks, every
path `resolveFile` hands back lies inside the root, and it hands one back exactly when the
request is accessible. -/
theorem resolveFile_confined (w : Workspace) (req : String)
    (hfound : ∀ p, w.resolvePath req = .ok p →
      w.files.canonical p = true ∧ trim (pathText p) = pathText p) :
    (∀ q, w.resolveFile req = .ok q → w.inside q = true) ∧
      ((∃ q, w.resolveFile req = .ok q) ↔ w.isAccessible req = .ok true) := by
  cases hr : w.resolvePath req with
  | error e =>
    -- a request that resolves to nothing is neither handed back nor accessible
    simp [resolveFile, isAccessible, hr, bind, Except.bind]
  | ok p =>
    obtain ⟨hcanon, htrim⟩ := hfound p hr
    have hacc : w.isAccessible req = .ok (w.inside p) := by
      simp [isAccessible, hr, bind, Except.bind, pure, Except.pure]
    rw [resolveFile_canonical hr hcanon htrim, hacc]
    cases hin : w.inside p <;> simp [hin]

/-- A workspace at `/ws` whose link `lnk` points at its directory `sub`, which holds the file
`notes.txt`. -/
def linkedNotes : Workspace :=
  let w := Workspace.empty ["ws"] ["home"]
  let fs := w.files.putFile ["ws", "sub", "notes.txt"] "one\n".toUTF8.toList
  { w with files := fs.putLink ["ws", "lnk"] "sub" }

/-- The request `lnk/notes.txt` is found through the link, at `/ws/sub/notes.txt`: a canonical
path, so it is confined and accessible both. -/
theorem notes_through_link_confined :
    (∀ p, linkedNotes.resolvePath "lnk/notes.txt" = .ok p →
        linkedNotes.files.canonical p = true ∧ trim (pathText p) = pathText p) ∧
      (∀ q, linkedNotes.resolveFile "lnk/notes.txt" = .ok q → linkedNotes.inside q = true) ∧
      ((∃ q, linkedNotes.resolveFile "lnk/notes.txt" = .ok q) ↔
        linkedNotes.isAccessible "lnk/notes.txt" = .ok true) := by
  have hfound : ∀ p, linkedNotes.resolvePath "lnk/notes.txt" = .ok p →
      linkedNotes.files.canonical p = true ∧ trim (pathText p) = pathText p := by
    intro p hp
    have hval : (linkedNotes.resolvePath "lnk/notes.txt").toOption =
        some ["ws", "sub", "notes.txt"] := by
      decide +kernel
    rw [hp] at hval
    cases hval
    decide +kernel
  exact ⟨hfound, resolveFile_confined linkedNotes "lnk/notes.txt" hfound⟩

/-- A workspace at `/work/root`, beside a file `/work/root ` whose name ends with a blank. -/
def besideBlankName : Workspace :=
  let w := Workspace.empty ["work", "root"] ["home"]
  { w with files := w.files.putFile ["work", "root "] "secret".toUTF8.toList }

/-- The request `../root /.` names the file beside the root, outside it, and is not
accessible. The text of that path, trimmed, names the root itself, so `resolveFile` hands the
file back anyway, and reading the request gives the file's text. -/
theorem blank_name_escapes_root :
    (besideBlankName.isAccessible "../root /.").toOption = some false ∧
      (besideBlankName.resolveFile "../root /.").toOption = some ["work", "root "] ∧
      besideBlankName.inside ["work", "root "] = false ∧
      (besideBlankName.read "../root /.").toOption = some "secret" := by
  decide +kernel

end CodingAgent.Workspace
