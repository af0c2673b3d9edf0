import CodingAgent.Tool.Registry
import CodingAgent.Proofs.FileWrites
import CodingAgent.Proofs.Replace

/-!
# What the file tools change

`write_to_file` and `edit` are the tools that change files. Each makes its checks, asks the
user, and writes last (`commitWrite`). Run through the registry, a call of either settles in
one of these ways (`file_tools_change_only_their_target`):

* a failure, returned by the tool or raised before the write, leaves the file tree as it was;
* a success of `write_to_file` found no file at the path, and the file there now holds the
  UTF-8 bytes of the content; every other path holds what it held, except the parent
  directories that were missing, which now exist (`Created`);
* a success of `edit` changed the file it read and nothing else. The text read is cut at the
  occurrences of `old_string` taken from the left, all that `occurrenceCount` counts, and there
  is one when `replace_all` is not true; the file holds the UTF-8 bytes of the same pieces
  joined by `new_string`, and the count reported is the number replaced (`Edited`,
  `Replacement`);
* an error raised by the last write itself, of the call's own content to its own path once
  every check has passed (text that UTF-8 cannot hold, a directory in the way), is reported
  as a failure, and what that write left is not described here (`WriteFailed`, `CreateFailed`,
  `EditFailed`).

`edit` reads its text with line ends translated (`Workspace.read`), so the pieces it keeps are
pieces of that text, not of the file's bytes: `crlf_edit_drops_carriage_return` is an edit of
a file with a Windows line end, whose carriage return is gone afterwards though no occurrence
touched it.

The proofs run through `toolWp`, the weakest precondition of a tool's computation. It is
irreducible, so that its rules, and not the unfolding of a tool's checks, take a proof from one
step to the next.
-/

namespace CodingAgent.Tool

open CodingAgent CodingAgent.Json CodingAgent.Text CodingAgent.Workspace

variable {α β : Type}

/-- Run from `h`, `m` returns `a` in a host satisfying `Q a`, or raises in one satisfying
`E`. -/
@[irreducible] def toolWp (m : ToolM α) (Q : α → Host → Prop) (E : Host → Prop) (h : Host) :
    Prop :=
  match (m.run.run h).run with
  | (.ok a, h') => Q a h'
  | (.error _, h') => E h'

section Rules

variable {Q : α → Host → Prop} {E : Host → Prop} {h : Host}

@[simp] theorem toolWp_bind {m : ToolM α} {f : α → ToolM β} {Q : β → Host → Prop} :
    toolWp (m >>= f) Q E h ↔ toolWp m (fun a h' => toolWp (f a) Q E h') E h := by
  simp only [toolWp, ExceptT.run_bind, StateT.run_bind]
  rcases hr : (m.run.run h).run with ⟨_ | a, h'⟩
  · simp [hr]
  · simp [hr]

@[simp] theorem toolWp_pure {a : α} : toolWp (pure a : ToolM α) Q E h ↔ Q a h := by
  unfold toolWp
  rfl

@[simp] theorem toolWp_get {Q : Host → Host → Prop} :
    toolWp (get : ToolM Host) Q E h ↔ Q h h := by
  unfold toolWp
  rfl

@[simp] theorem toolWp_set {h' : Host} {Q : Unit → Host → Prop} :
    toolWp (set h' : ToolM Unit) Q E h ↔ Q () h' := by
  unfold toolWp
  rfl

@[simp] theorem toolWp_throw {e : Raised} : toolWp (throw e : ToolM α) Q E h ↔ E h := by
  unfold toolWp
  rfl

@[simp] theorem toolWp_ite {c : Prop} [Decidable c] {m m' : ToolM α} :
    toolWp (if c then m else m') Q E h ↔ (if c then toolWp m Q E h else toolWp m' Q E h) := by
  split <;> rfl

@[simp] theorem toolWp_liftRaise_ok {a : α} : toolWp (liftRaise (.ok a)) Q E h ↔ Q a h := by
  unfold toolWp
  rfl

/-- A computation that may raise returns what its value allows, or raises in the same host. -/
theorem toolWp_liftRaise {e : Except Raised α} (hE : E h) (hQ : ∀ a, e = .ok a → Q a h) :
    toolWp (liftRaise e) Q E h := by
  unfold toolWp
  cases e with
  | error _ => exact hE
  | ok a => exact hQ a rfl

theorem toolWp_mono {m : ToolM α} {Q' : α → Host → Prop} {E' : Host → Prop}
    (hm : toolWp m Q E h) (hQ : ∀ a h', Q a h' → Q' a h') (hE : ∀ h', E h' → E' h') :
    toolWp m Q' E' h := by
  unfold toolWp at hm ⊢
  split at hm
  · exact hQ _ _ hm
  · exact hE _ hm

@[simp] theorem toolWp_map {f : α → β} {m : ToolM α} {Q : β → Host → Prop} :
    toolWp (f <$> m) Q E h ↔ toolWp m (fun a => Q (f a)) E h := by
  rw [map_eq_pure_bind, toolWp_bind]
  simp only [toolWp_pure]

/-- Where a raise asks nothing of the host, a computation that may raise asks only that each
value it can return satisfies `Q`. -/
theorem toolWp_liftRaise_true {e : Except Raised α} :
    toolWp (liftRaise e) Q (fun _ => True) h ↔ ∀ a, e = .ok a → Q a h := by
  cases e with
  | error x => simp [liftRaise]
  | ok a => simp [liftRaise]

end Rules

/-! ## What a call leaves -/

/-- The file tree after a call is the one before. -/
def FilesKept (h h' : Host) : Prop :=
  h'.workspace.files = h.workspace.files

/-- The last step of a tool, the write of `content` to the file of `path` once the user was
asked, failed part of the way from the workspace of `h`, and left the workspace of `h'`. -/
def WriteFailed (h : Host) (path content : String) (h' : Host) : Prop :=
  ∃ (question : String) (e : WorkspaceError),
    (h.workspace.approve question).2.write path content = (h'.workspace, some e)

/-- A result `r` in host `h'`, of a call from `h`: a success did what `done` says, and a
failure kept the file tree. -/
def Outcome (done : ToolResult → Host → Prop) (h : Host) (r : ToolResult) (h' : Host) : Prop :=
  if r.success then done r h' else FilesKept h h'

variable {done done' : ToolResult → Host → Prop} {h h' : Host}

theorem outcome_fail {message : String} (hk : FilesKept h h') :
    Outcome done h (ToolResult.fail message) h' := by
  simpa [Outcome, ToolResult.fail, ToolResult.make] using hk

theorem outcome_ok {message : String} (hd : done (ToolResult.ok message) h') :
    Outcome done h (ToolResult.ok message) h' := by
  simpa [Outcome, ToolResult.ok, ToolResult.make] using hd

theorem Outcome.mono {r : ToolResult} (ho : Outcome done h r h') (hd : done r h' → done' r h') :
    Outcome done' h r h' := by
  unfold Outcome at ho ⊢
  split
  · rename_i hs
    exact hd (by simpa [hs] using ho)
  · rename_i hs
    simpa [hs] using ho

/-! ## The last step: ask, then write -/

/-- The last step reported `message`, and the text was written at the path found from `h`. -/
def Committed (h : Host) (path content message : String) (r : ToolResult) (h' : Host) : Prop :=
  r = ToolResult.ok message ∧
    ∃ p, h.workspace.resolveFile path = .ok p ∧
      h.workspace.files.WrittenAt p (encodeUtf8 content) h'.workspace.files

/-- After a question, a refusal keeps the tree, a write that succeeds is a `Committed`, and one
that fails a `WriteFailed`: asking touches neither the files nor the paths. -/
theorem commitWrite_spec (h : Host) (question path content message : String) :
    toolWp (commitWrite (h.workspace.approve question) path content message)
      (Outcome (Committed h path content message) h) (WriteFailed h path content) h := by
  obtain ⟨hfiles, hroot, hhome, haccounts⟩ := Workspace.approve_paths h.workspace question
  simp only [commitWrite, toolWp_bind, toolWp_get, toolWp_set, toolWp_ite, toolWp_pure]
  split
  · exact outcome_fail hfiles
  generalize hwr : (h.workspace.approve question).2.write path content = res
  obtain ⟨w', failure⟩ := res
  cases failure with
  | some e =>
    simp only [toolWp_bind, toolWp_throw]
    exact ⟨question, e, hwr⟩
  | none =>
    obtain ⟨p, hp, hwritten⟩ := Workspace.write_none hwr
    simp only [toolWp_pure]
    refine outcome_ok ⟨rfl, p, ?_, ?_⟩
    · rwa [Workspace.resolveFile_congr hfiles hroot hhome haccounts] at hp
    · rwa [hfiles] at hwritten

/-! ## `write_to_file` -/

theorem exists?_ok {path : String} {b : Bool} (he : exists? h path = .ok b) :
    h.workspace.fileExists path = .ok b := by
  unfold exists? at he
  cases hf : h.workspace.fileExists path <;> simp_all [mapError_ok, mapError_error]

/-- `write_to_file` made the file of its `path` argument, where no file was, with the UTF-8
bytes of its `content` argument, and reported it. -/
def Created (call : ToolCall) (h : Host) (r : ToolResult) (h' : Host) : Prop :=
  ∃ (path content : Value) (p : Path),
    argGet call.arguments "path" = .ok path ∧ argGet call.arguments "content" = .ok content ∧
    h.workspace.resolveFile path.display = .ok p ∧ h.workspace.files.isFile p = false ∧
    h.workspace.files.WrittenAt p (encodeUtf8 content.display) h'.workspace.files ∧
    r = ToolResult.ok ("File created: " ++ path.display)

/-- `write_to_file` found its path and its content, found no file at the path, and its last
write, of the content to the path, failed. -/
def CreateFailed (call : ToolCall) (h h' : Host) : Prop :=
  ∃ (path content : Value),
    argGet call.arguments "path" = .ok path ∧ argGet call.arguments "content" = .ok content ∧
    h.workspace.fileExists path.display = .ok false ∧
    WriteFailed h path.display content.display h'

theorem writeRun_spec (call : ToolCall) (h : Host) :
    toolWp (writeRun call) (Outcome (Created call h) h)
      (fun h' => FilesKept h h' ∨ CreateFailed call h h') h := by
  have hkept : FilesKept h h ∨ CreateFailed call h h := .inl rfl
  simp only [writeRun, toolWp_bind, toolWp_get, toolWp_ite, toolWp_pure]
  -- each check fails in `h`, or raises there
  refine toolWp_liftRaise hkept fun path hpath => ?_
  split
  · exact outcome_fail rfl
  refine toolWp_liftRaise hkept fun content hcontent => ?_
  split
  · exact outcome_fail rfl
  refine toolWp_liftRaise hkept fun inside _ => ?_
  split
  · exact outcome_fail rfl
  refine toolWp_liftRaise hkept fun found hfound => ?_
  split
  · exact outcome_fail rfl
  rename_i hnew
  simp only [Bool.not_eq_true] at hnew
  subst hnew
  refine toolWp_mono (commitWrite_spec h _ _ _ _) (fun r h' ho => ho.mono ?_)
    (fun _ hw => .inr ⟨path, content, hpath, hcontent, exists?_ok hfound, hw⟩)
  rintro ⟨rfl, p, hp, hwritten⟩
  exact ⟨path, content, p, hpath, hcontent, hp,
    Workspace.isFile_of_fileExists hp (exists?_ok hfound), hwritten, rfl⟩

/-! ## `edit` -/

/-- `text` cut at the occurrences of `old` that an edit replaces: `parts` are the pieces
between them, taken from the left (`LeftCut`), one cut for each occurrence that
`occurrenceCount` counts. Without `all` there is one; with `all` no occurrence is left in the
last piece. -/
structure Replacement (old text : String) (all : Bool) (parts : List (List Nat)) : Prop where
  cut : LeftCut (codePoints old.toList) (codePoints text.toList) parts
  count : parts.length = occurrenceCount old text + 1
  single : all = false → parts.length = 2
  clear : all = true → ∀ last ∈ parts.getLast?, ¬ codePoints old.toList <:+: last

/-- When an edit's checks pass (an occurrence is found, and it is the only one unless `all`
asks for every one), its replacement keeps the pieces between the occurrences, and the count
it reports is the number of cuts. -/
theorem replacement_of_checks {old text : String} {all : Bool} {occ : Nat} (new : String)
    (hocc : (if old.isEmpty = true then 0 else occurrenceCount old text) = occ)
    (hfound : ¬ (occ == 0) = true) (hunique : ¬ (decide (occ > 1) && !all) = true) :
    ∃ parts, Replacement old text all parts ∧
      replaceOccurrences old new (if all = true then none else some 1) text =
        ofCodePoints ((codePoints new.toList).intercalate parts) ∧
      (if all = true then occ else 1) = parts.length - 1 := by
  -- an empty `old` counts no occurrence, and the first check refuses it
  have hold : old.isEmpty = false := by
    cases hempty : old.isEmpty
    · rfl
    · simp [hempty, ← hocc] at hfound
  simp only [hold, Bool.false_eq_true, if_false] at hocc
  subst hocc
  have hpos : 0 < occurrenceCount old text := by
    simpa [Nat.pos_iff_ne_zero] using hfound
  obtain ⟨parts, hcut, hrep, hlen, hlast⟩ :=
    replaceOccurrences_cut old new hold (if all = true then none else some 1) text
  cases all with
  | false =>
    -- the first occurrence only, and it is the only one
    have hone : occurrenceCount old text = 1 := by
      simp at hunique
      omega
    simp only [Bool.false_eq_true, if_false, Option.elim_some] at hlen
    refine ⟨parts, ⟨hcut, by omega, fun _ => by omega, nofun⟩, hrep, by simp; omega⟩
  | true =>
    simp only [if_true, Option.elim_none] at hlen
    refine ⟨parts, ⟨hcut, hlen, nofun, fun _ => hlast rfl⟩, hrep, by simp; omega⟩

/-- `edit` with its arguments read rewrote the file of `path` and nothing else: the text read
from it is cut at the occurrences of `old` it replaced (`Replacement`), the file holds the UTF-8
bytes of the pieces joined by `new`, and the count reported is the number of cuts. -/
def EditedWith (h : Host) (path old new : String) (all : Bool) (r : ToolResult) (h' : Host) :
    Prop :=
  ∃ (text : String) (p : Path) (parts : List (List Nat)),
    h.workspace.read path = .ok text ∧ h.workspace.resolveFile path = .ok p ∧
    Replacement old text all parts ∧
    h'.workspace.files.get? p =
      some (.file (encodeUtf8 (ofCodePoints ((codePoints new.toList).intercalate parts)))) ∧
    (∀ q ≠ p, h'.workspace.files.get? q = h.workspace.files.get? q) ∧
    r = ToolResult.ok ("File edited: " ++ path ++ " (" ++ toString (parts.length - 1) ++
      " replacement(s) made)")

/-- `edit` with its arguments read got past every check of the text it read from `path`, and
its last write, of the pieces between the occurrences joined by `new`, failed. -/
def EditFailedWith (h : Host) (path old new : String) (all : Bool) (h' : Host) : Prop :=
  ∃ (text : String) (parts : List (List Nat)),
    h.workspace.read path = .ok text ∧ Replacement old text all parts ∧
    WriteFailed h path (ofCodePoints ((codePoints new.toList).intercalate parts)) h'

theorem editWith_spec (h : Host) (path old new : String) (all : Bool) :
    toolWp (editWith path old new all) (Outcome (EditedWith h path old new all) h)
      (fun h' => FilesKept h h' ∨ EditFailedWith h path old new all h') h := by
  have hkept : FilesKept h h ∨ EditFailedWith h path old new all h := .inl rfl
  simp only [editWith, toolWp_bind, toolWp_get, toolWp_ite, toolWp_pure]
  refine toolWp_liftRaise hkept fun inside _ => ?_
  split
  · exact outcome_fail rfl
  refine toolWp_liftRaise hkept fun found _ => ?_
  split
  · exact outcome_fail rfl
  split
  · rename_i text htext
    simp only [toolWp_bind, toolWp_pure, toolWp_ite]
    generalize hocc : (if old.isEmpty = true then 0 else occurrenceCount old text) = occ
    split
    · exact outcome_fail rfl
    rename_i hfound
    split
    · exact outcome_fail rfl
    rename_i hunique
    split
    · exact outcome_fail rfl
    obtain ⟨parts, hrepl, hupd, hcount⟩ := replacement_of_checks new hocc hfound hunique
    rw [hupd, hcount]
    refine toolWp_mono (commitWrite_spec h _ _ _ _) (fun r h' ho => ho.mono ?_)
      (fun _ hw => .inr ⟨text, parts, htext, hrepl, hw⟩)
    rintro ⟨rfl, p, hp, hwritten⟩
    -- the file was read, so the directories above it exist, and the write changed it alone
    obtain ⟨p', bytes, hp', hb⟩ := Workspace.read_ok htext
    obtain rfl : p = p' := Except.ok.inj (hp.symm.trans hp')
    exact ⟨text, p, parts, htext, hp, hrepl, hwritten.1,
      hwritten.only (fun q hq hne => Files.readBytes_ok_dirs hb hq hne), rfl⟩
  · -- the file could not be read
    simp only [toolWp_bind, toolWp_throw]
    exact hkept

/-- `edit` found its three texts and the flag among its arguments, and did what `EditedWith`
says with them. -/
def Edited (call : ToolCall) (h : Host) (r : ToolResult) (h' : Host) : Prop :=
  ∃ (path old new all : Value),
    argGet call.arguments "file_path" = .ok path ∧ argGet call.arguments "old_string" = .ok old ∧
    argGet call.arguments "new_string" = .ok new ∧
    argGetD call.arguments "replace_all" (.bool false) = .ok all ∧
    EditedWith h path.display old.display new.display (lower (trim all.display) == "true") r h'

/-- `edit` found its three texts and the flag among its arguments, and failed in its last write
as `EditFailedWith` says. -/
def EditFailed (call : ToolCall) (h h' : Host) : Prop :=
  ∃ (path old new all : Value),
    argGet call.arguments "file_path" = .ok path ∧ argGet call.arguments "old_string" = .ok old ∧
    argGet call.arguments "new_string" = .ok new ∧
    argGetD call.arguments "replace_all" (.bool false) = .ok all ∧
    EditFailedWith h path.display old.display new.display (lower (trim all.display) == "true") h'

theorem editRun_spec (call : ToolCall) (h : Host) :
    toolWp (editRun call) (Outcome (Edited call h) h)
      (fun h' => FilesKept h h' ∨ EditFailed call h h') h := by
  have hkept : FilesKept h h ∨ EditFailed call h h := .inl rfl
  simp only [editRun, toolWp_bind, List.forIn_cons, List.forIn_nil, toolWp_ite, toolWp_pure]
  -- the loop checks that the three required arguments are there
  refine toolWp_liftRaise hkept fun path hpath => ?_
  split
  · exact outcome_fail rfl
  refine toolWp_liftRaise hkept fun old hold => ?_
  split
  · exact outcome_fail rfl
  refine toolWp_liftRaise hkept fun new hnew => ?_
  split
  · exact outcome_fail rfl
  -- they are looked up again, with the flag that asks to replace every occurrence
  simp only [hpath, hold, hnew, toolWp_liftRaise_ok]
  refine toolWp_liftRaise hkept fun all hall => ?_
  exact toolWp_mono (editWith_spec h _ _ _ _)
    (fun r h' ho => ho.mono fun he => ⟨path, old, new, all, hpath, hold, hnew, hall, he⟩)
    (fun _ hk => hk.imp_right fun hf => ⟨path, old, new, all, hpath, hold, hnew, hall, hf⟩)

/-! ## Through the registry -/

/-- How a call settled, as the registry reports it: as the tool's `Outcome`, or as a failure
raised by the tool's last write (`failed`). -/
def Settled (done : ToolResult → Host → Prop) (failed : Host → Prop) (h : Host) :
    ToolResult × Host × Registry → Prop
  | (r, h', _) => Outcome done h r h' ∨ ((∃ text, r = executionFailure text) ∧ failed h')

theorem settle_raised (e : Raised) (h : Host) (τ : Float) :
    ∃ text, settle (.raised e) h τ = executionFailure text := by
  cases e <;> exact ⟨_, rfl⟩

/-- A call of a built-in tool settles as the tool's specification says: the checks of the
registry fail before anything runs, and an error the tool raises is reported as a failure. -/
theorem Registry.execute_settled {reg : Registry} {call : ToolCall} {τ : Float} {t : Tool}
    {b : Builtin} {failed : Host → Prop} (ht : reg.find? call.lookupName = some t)
    (hb : t.behaviour = .builtin b)
    (hwp : toolWp (b.run call) (Outcome done h) (fun h' => FilesKept h h' ∨ failed h') h) :
    Settled done failed h (reg.execute call τ h) := by
  unfold Registry.execute
  rw [ht]
  dsimp only
  split
  · -- the arguments lack a required field
    exact .inl (outcome_fail rfl)
  split
  · -- the call was cancelled before it ran
    exact .inl (outcome_fail rfl)
  unfold toolWp at hwp
  rcases hrun : ((b.run call).run.run h) with ⟨_ | r, h'⟩ <;>
    simp only [Tool.run, hb, hrun, Run.ofExcept, Settled] at hwp ⊢
  · -- the tool raised: reported as a failure
    rename_i e
    obtain ⟨text, htext⟩ := settle_raised e h' τ
    rw [htext]
    rcases hwp with hkept | hfailed
    · exact .inl (outcome_fail hkept)
    · exact .inr ⟨⟨text, rfl⟩, hfailed⟩
  · exact .inl hwp

/-- What a call of `write_to_file` or `edit` leaves of the file tree, whatever the registry,
the call and the host. -/
theorem file_tools_change_only_their_target (reg : Registry) (call : ToolCall) (τ : Float)
    (h : Host) (t : Tool) (ht : reg.find? call.lookupName = some t) :
    (t.behaviour = .builtin .writing →
      Settled (Created call h) (CreateFailed call h) h (reg.execute call τ h)) ∧
    (t.behaviour = .builtin .editing →
      Settled (Edited call h) (EditFailed call h) h (reg.execute call τ h)) :=
  ⟨fun hb => Registry.execute_settled ht hb (writeRun_spec call h),
    fun hb => Registry.execute_settled ht hb (editRun_spec call h)⟩

/-! ## A file with a Windows line end -/

/-- A workspace whose one file reads `x`, a carriage return, a line feed and `y`. -/
def crlfWorkspace : Workspace :=
  { files := { nodes := [(["w"], .dir), (["w", "a.txt"], .file [120, 13, 10, 121])] },
    root := ["w"], home := ["root"] }

/-- An edit of that file from `x` to `z`. -/
def crlfEdit : ToolCall :=
  ⟨.str "call_1", .str "edit",
    .obj [("file_path", .str "a.txt"), ("old_string", .str "x"), ("new_string", .str "z")]⟩

/-- The default registry runs the edit on its `edit` tool, and the call settles as
`file_tools_change_only_their_target` says. -/
theorem crlf_edit_settles :
    Registry.builtin.find? crlfEdit.lookupName = some (ofBuiltin .editing) ∧
    (((ofBuiltin .editing).behaviour = .builtin .writing →
        Settled (Created crlfEdit { workspace := crlfWorkspace })
          (CreateFailed crlfEdit { workspace := crlfWorkspace }) { workspace := crlfWorkspace }
          (Registry.builtin.execute crlfEdit 1.0 { workspace := crlfWorkspace })) ∧
      ((ofBuiltin .editing).behaviour = .builtin .editing →
        Settled (Edited crlfEdit { workspace := crlfWorkspace })
          (EditFailed crlfEdit { workspace := crlfWorkspace }) { workspace := crlfWorkspace }
          (Registry.builtin.execute crlfEdit 1.0 { workspace := crlfWorkspace }))) :=
  have hfind : Registry.builtin.find? crlfEdit.lookupName = some (ofBuiltin .editing) := rfl
  ⟨hfind, file_tools_change_only_their_target _ _ _ _ _ hfind⟩

/-- The edit succeeds, and the carriage return, which no occurrence of `x` covers, is gone:
the file was read with its line end translated and written back so. -/
theorem crlf_edit_drops_carriage_return :
    (Registry.builtin.execute crlfEdit 1.0 { workspace := crlfWorkspace }).1.success = true ∧
    (crlfWorkspace.files.readBytes ["w", "a.txt"]).toOption = some [120, 13, 10, 121] ∧
    ((Registry.builtin.execute crlfEdit 1.0 { workspace := crlfWorkspace }).2.1.workspace.files.readBytes
      ["w", "a.txt"]).toOption = some [122, 10, 121] := by
  decide +kernel

end CodingAgent.Tool
