import Mathlib
import CodingAgent.Proofs.FileChanges

/-!
# Every call comes back as a result

The dispatcher answers every call with a result, whatever the registry, the call and the tool
do, and runs the tool at most once. This module proves that in four groups.

* The rule of results. `ToolResult.wellFormed` is the rule a result keeps: a success carries
  content and no error, a failure no content and an error that is not blank.
  `ToolResult.make_wellFormed` says that building a result from loose fields restores the rule
  for every combination of them; a blank error gives way to the trimmed content
  (`isBlankText_trim`), and that to the generic text.
* Every tool keeps the rule. A built-in tool builds each result it returns by `ToolResult.ok`
  or `ToolResult.fail` (`Builtin.run_wellFormed`, one lemma per tool, through `toolWp`), and a
  scripted tool reads its results from fields (`Script.run_wellFormed`); the other ways a run
  ends carry no result (`toolRun_wellFormed`).
* The dispatcher. `Settles` is what one call promises, and `Registry.execute_settles` proves
  it of every call: a failed lookup, a schema whose required field the arguments lack
  (`validate_error_of_lacks`) and a set abort signal each stop the call before the tool runs.
* The time limit. The limit is read as a double before any check, and that is the one way a
  call can raise: `dispatch_settles_unless_overflow` shows that a limit given as a number, or
  left out, raises only when it is an integer too large for a double, and
  `overflowing_timeout_raises` is such a call.
-/

namespace CodingAgent.Tool

open CodingAgent CodingAgent.Json CodingAgent.Text

/-! ## The rule of results -/

/-- Text trimmed to something is not blank: its last character is the first one, from the
end, that is no blank. -/
theorem isBlankText_trim {s : String} (h : trim s ≠ "") : isBlankText (trim s) = false := by
  have htext : (trim s).toList = ((trimStart s).toList.reverse.dropWhile isSpace).reverse := by
    simp [trim, trimEnd]
  have hne : (trimStart s).toList.reverse.dropWhile isSpace ≠ [] := by
    intro hnil
    apply h
    rw [← String.toList_inj, htext, hnil]
    rfl
  rw [isBlankText, htext, List.all_eq_false]
  exact ⟨_, List.mem_reverse.2 (List.head_mem hne), by simp [List.head_dropWhile_not]⟩

/-- Whether a result keeps the rule of results: a success has content and no error, a failure
has no content and an error that is not blank. -/
def ToolResult.wellFormed : ToolResult → Bool
  | ⟨true, some _, none⟩ => true
  | ⟨false, none, some e⟩ => !isBlankText e
  | _ => false

namespace ToolResult

/-- Building a result from loose fields restores the rule, whatever the fields. -/
theorem make_wellFormed (success : Bool) (content error : Option String) :
    (make success content error).wellFormed = true := by
  cases success with
  | true => rfl
  | false =>
    -- a blank error gives way to the trimmed content, and that to the generic text
    have hfallback : isBlankText (if (trim (content.getD "")).isEmpty then genericFailure
        else trim (content.getD "")) = false := by
      split
      · decide
      · rename_i hne
        exact isBlankText_trim (by simpa using hne)
    cases error with
    | none =>
      simp only [make, Bool.false_eq_true, if_false, Option.getD_none, wellFormed, hfallback,
        Bool.not_false]
    | some e =>
      by_cases he : isBlankText e = true
      · simp only [make, Bool.false_eq_true, if_false, he, if_true, Option.getD_none, wellFormed,
          hfallback, Bool.not_false]
      · simp only [make, Bool.false_eq_true, if_false, he, Option.getD_some, wellFormed]
        rfl

@[simp] theorem ok_wellFormed (content : String) : (ok content).wellFormed = true := by
  unfold ok
  exact make_wellFormed _ _ _

@[simp] theorem fail_wellFormed (error : String) : (fail error).wellFormed = true := by
  unfold fail
  exact make_wellFormed _ _ _

/-- A result read from fields was built from them. -/
theorem read_wellFormed {ms : Members} {r : ToolResult} (h : ToolResult.read ms = .ok r) :
    r.wellFormed = true := by
  dsimp only [ToolResult.read] at h
  split at h
  · cases h
    exact make_wellFormed _ _ _
  · cases h

end ToolResult

/-- Whether what a run gave keeps the rule of results: a result must, and the other ways a run
ends carry none. -/
def Run.wellFormed : Run → Bool
  | .done r => r.wellFormed
  | _ => true

theorem Run.ofExcept_wellFormed {e : Except Raised ToolResult}
    (he : ∀ r, e = .ok r → r.wellFormed = true) : (Run.ofExcept e).wellFormed = true := by
  cases e with
  | error _ => rfl
  | ok r => exact he r rfl

/-- The dispatcher's reading of a run keeps the rule: every other way to end is a failure with
a message of its own. -/
theorem settle_wellFormed {run : Run} (hrun : run.wellFormed = true) (h : Host) (τ : Float) :
    (settle run h τ).wellFormed = true := by
  cases run with
  | done r => exact hrun
  | invalid _ => simp [settle, executionFailure]
  | raised e => cases e <;> simp [settle, executionFailure]
  | cancelledItself => simp [settle]
  | waitsForAbort => by_cases hs : h.signalled <;> simp [settle, hs]

/-! ## Every tool keeps the rule -/

section Builtins

variable (h : Host)

theorem completionRun_wellFormed (call : ToolCall) :
    toolWp (completionRun call) (fun r _ => r.wellFormed = true) (fun _ => True) h := by
  simp [completionRun, toolWp_liftRaise_true]

theorem condenseRun_wellFormed (call : ToolCall) :
    toolWp (condenseRun call) (fun r _ => r.wellFormed = true) (fun _ => True) h := by
  simp [condenseRun, toolWp_liftRaise_true]

theorem readRun_wellFormed (call : ToolCall) :
    toolWp (readRun call) (fun r _ => r.wellFormed = true) (fun _ => True) h := by
  simp only [readRun, toolWp_bind, toolWp_get, toolWp_ite, toolWp_pure]
  refine toolWp_liftRaise trivial fun _ _ => ?_
  split
  · simp
  refine toolWp_liftRaise trivial fun _ _ => ?_
  split
  · simp
  refine toolWp_liftRaise trivial fun _ _ => ?_
  split
  · simp
  -- the file read, or not a text file, or an error raised
  split <;> simp [toolWp_liftRaise_true]

theorem listRun_wellFormed (call : ToolCall) :
    toolWp (listRun call) (fun r _ => r.wellFormed = true) (fun _ => True) h := by
  simp only [listRun, toolWp_bind, toolWp_get, toolWp_ite, toolWp_pure]
  refine toolWp_liftRaise trivial fun _ _ => ?_
  refine toolWp_liftRaise trivial fun _ _ => ?_
  split
  · simp
  split
  · simp only [toolWp_bind, toolWp_pure, toolWp_ite, toolWp_throw]
    split
    · trivial
    split
    · simp
    refine toolWp_liftRaise trivial fun _ _ => ?_
    refine toolWp_liftRaise trivial fun _ _ => ?_
    refine toolWp_liftRaise trivial fun _ _ => ?_
    split <;> simp
  · simp

/-- The last step of both tools that write: a refusal, a raise, or the message. -/
theorem commitWrite_wellFormed (answer : Bool × Workspace) (path content message : String) :
    toolWp (commitWrite answer path content message) (fun r _ => r.wellFormed = true)
      (fun _ => True) h := by
  simp only [commitWrite, toolWp_bind, toolWp_get, toolWp_set, toolWp_ite, toolWp_pure]
  split
  · simp
  split <;> simp

theorem writeRun_wellFormed (call : ToolCall) :
    toolWp (writeRun call) (fun r _ => r.wellFormed = true) (fun _ => True) h := by
  simp only [writeRun, toolWp_bind, toolWp_get, toolWp_ite, toolWp_pure]
  refine toolWp_liftRaise trivial fun _ _ => ?_
  split
  · simp
  refine toolWp_liftRaise trivial fun _ _ => ?_
  split
  · simp
  refine toolWp_liftRaise trivial fun _ _ => ?_
  split
  · simp
  refine toolWp_liftRaise trivial fun _ _ => ?_
  split
  · simp
  exact commitWrite_wellFormed _ _ _ _ _

theorem editWith_wellFormed (path old new : String) (all : Bool) :
    toolWp (editWith path old new all) (fun r _ => r.wellFormed = true) (fun _ => True) h := by
  simp only [editWith, toolWp_bind, toolWp_get, toolWp_ite, toolWp_pure]
  refine toolWp_liftRaise trivial fun _ _ => ?_
  split
  · simp
  refine toolWp_liftRaise trivial fun _ _ => ?_
  split
  · simp
  split
  · -- the text was read: four checks, then the write
    simp only [toolWp_bind, toolWp_pure, toolWp_ite]
    split
    · simp
    split
    · simp
    split
    · simp
    split
    · simp
    exact commitWrite_wellFormed _ _ _ _ _
  · simp only [toolWp_bind, toolWp_throw]

theorem editRun_wellFormed (call : ToolCall) :
    toolWp (editRun call) (fun r _ => r.wellFormed = true) (fun _ => True) h := by
  simp only [editRun, toolWp_bind, List.forIn_cons, List.forIn_nil, toolWp_ite, toolWp_pure]
  refine toolWp_liftRaise trivial fun _ _ => ?_
  split
  · simp
  refine toolWp_liftRaise trivial fun _ _ => ?_
  split
  · simp
  refine toolWp_liftRaise trivial fun _ _ => ?_
  split
  · simp
  simp only [toolWp_liftRaise_true]
  intro _ _ _ _ _ _ _ _
  exact editWith_wellFormed _ _ _ _ _

theorem Builtin.run_wellFormed (b : Builtin) (call : ToolCall) :
    toolWp (b.run call) (fun r _ => r.wellFormed = true) (fun _ => True) h := by
  cases b with
  | completion => exact completionRun_wellFormed h call
  | condense => exact condenseRun_wellFormed h call
  | listing => exact listRun_wellFormed h call
  | reading => exact readRun_wellFormed h call
  | writing => exact writeRun_wellFormed h call
  | editing => exact editRun_wellFormed h call

end Builtins

theorem resultOfFields_wellFormed {fields : Value} {r : ToolResult}
    (h : resultOfFields fields = .ok r) : r.wellFormed = true := by
  unfold resultOfFields at h
  split at h
  · split at h
    · cases h
      exact ToolResult.read_wellFormed ‹_›
    · cases h
  · cases h

theorem sequenceItem_wellFormed (results : Option Value) (served : Nat) :
    ∀ r, sequenceItem results served = .ok r → r.wellFormed = true := by
  intro r hr
  unfold sequenceItem at hr
  split at hr
  · cases hr
  · split at hr
    · cases hr
    · exact resultOfFields_wellFormed hr
  · dsimp only at hr
    split at hr
    · cases hr
    · exact resultOfFields_wellFormed hr
  · cases hr
  · cases hr

theorem Script.given_wellFormed (content : Value) : (Script.run.given content).wellFormed = true := by
  unfold Script.run.given
  split
  · exact ToolResult.read_wellFormed ‹_›
  · rfl

theorem Script.run_wellFormed (s : Script) (name : Value) (call : ToolCall) (h : Host) :
    (s.run name call h).1.wellFormed = true := by
  cases s with
  | fixed success content error =>
    simp only [Script.run]
    split
    · rename_i r hr
      split at hr <;> exact ToolResult.read_wellFormed hr
    · rfl
  | echo => simp [Script.run, Run.wellFormed]
  | sequence results => exact Run.ofExcept_wellFormed (sequenceItem_wellFormed _ _)
  | raise e => rfl
  | invalid v => rfl
  | selfCancel => rfl
  | awaitAbort =>
    simp only [Script.run]
    split <;> simp [Run.wellFormed]
  | halt content =>
    simp only [Script.run]
    split
    · rfl
    · exact Script.given_wellFormed content
  | cancel content =>
    simp only [Script.run]
    split
    · rfl
    · exact Script.given_wellFormed content

/-- Whatever a tool is, what its run gives keeps the rule of results. -/
theorem toolRun_wellFormed (t : Tool) (call : ToolCall) (h : Host) :
    (t.run call h).1.wellFormed = true := by
  cases hb : t.behaviour with
  | builtin b =>
    have hwp := Builtin.run_wellFormed h b call
    unfold toolWp at hwp
    rcases hrun : ((b.run call).run.run h) with ⟨_ | r, h'⟩ <;>
      simp only [Tool.run, hb, hrun, Run.ofExcept, Run.wellFormed] at hwp ⊢
    exact hwp
  | scripted s p =>
    simp only [Tool.run, hb]
    exact Script.run_wellFormed _ _ _ _

/-! ## The dispatcher -/

/-- Whether the arguments of a call lack a field that the schema of its tool requires. -/
def Lacks (t : Tool) (args : Value) : Prop :=
  ∃ fields f, requiredFields t.parameters = .ok fields ∧ f ∈ fields ∧ f.occursIn args = .ok false

/-- Arguments that lack a required field fail the check of the schema. -/
theorem validate_error_of_lacks {t : Tool} {args : Value} (hl : Lacks t args) :
    ∃ e, t.validate args = .error e := by
  obtain ⟨fields, f, hreq, hf, hmiss⟩ := hl
  have hfield : holdsField args f = .error (.missing f.display) := by
    simp [holdsField, hmiss]
  unfold Tool.validate
  rw [hreq]
  simp only [bind, Except.bind]
  clear hreq
  -- the walk over the fields stops at the first that fails, at the latest at `f`
  induction fields with
  | nil => cases hf
  | cons x rest ih =>
    simp only [List.forIn_cons]
    rcases List.mem_cons.1 hf with rfl | hrest
    · simp [hfield, bind, Except.bind]
    · cases hx : holdsField args x with
      | error e => exact ⟨e, by simp [bind, Except.bind]⟩
      | ok u => simpa [hx, bind, Except.bind, pure, Except.pure] using ih hrest

/-- What the dispatcher promises of one call: the result keeps the rule of results and the
registry is as it was; the tool ran at most once, so that the host is the one the call came
in with, or the one a single run of the tool left, with the result settled from that run; and
it did not run at all, and the call failed, when the name resolves to no tool, when the
arguments lack a field the schema requires, or when the abort signal was already set. -/
structure Settles (reg : Registry) (call : ToolCall) (τ : Float) (h : Host)
    (out : ToolResult × Host × Registry) : Prop where
  wellFormed : out.1.wellFormed = true
  registry : out.2.2 = reg
  atMostOnce : out.2.1 = h ∨ ∃ t, reg.find? call.lookupName = some t ∧
    out.2.1 = (t.run call h).2 ∧ out.1 = settle (t.run call h).1 (t.run call h).2 τ
  unknown : reg.find? call.lookupName = none → out.2.1 = h ∧ out.1.success = false
  lacking : ∀ t, reg.find? call.lookupName = some t → Lacks t call.arguments →
    out.2.1 = h ∧ out.1.success = false
  aborted : h.signalled = true → out.2.1 = h ∧ out.1.success = false

/-- Every call settles, whatever the registry holds and whatever its tool does. -/
theorem Registry.execute_settles (reg : Registry) (call : ToolCall) (τ : Float) (h : Host) :
    Settles reg call τ h (reg.execute call τ h) := by
  unfold Registry.execute
  cases hfind : reg.find? call.lookupName with
  | none =>
    refine ⟨by simp, rfl, .inl rfl, fun _ => ⟨rfl, rfl⟩, fun t ht => ?_, fun _ => ⟨rfl, rfl⟩⟩
    rw [hfind] at ht
    cases ht
  | some t =>
    dsimp only
    -- the name resolves to `t`, and only its checks stand between the call and its run
    have hother : ∀ t', reg.find? call.lookupName = some t' → t' = t := by
      intro t' ht'
      rw [hfind] at ht'
      exact (Option.some.inj ht').symm
    have hknown : reg.find? call.lookupName ≠ none := by simp [hfind]
    cases hval : t.validate call.arguments with
    | error e =>
      exact ⟨by simp [executionFailure], rfl, .inl rfl, fun hn => absurd hn hknown,
        fun _ _ _ => ⟨rfl, rfl⟩, fun _ => ⟨rfl, rfl⟩⟩
    | ok u =>
      have hfull : ¬ Lacks t call.arguments := by
        intro hl
        obtain ⟨e, he⟩ := validate_error_of_lacks hl
        rw [hval] at he
        cases he
      by_cases hs : h.signalled = true
      · simp only [hs, if_true]
        exact ⟨by simp, rfl, .inl rfl, fun hn => absurd hn hknown,
          fun t' ht' hl => absurd (hother t' ht' ▸ hl) hfull, fun _ => ⟨rfl, rfl⟩⟩
      · simp only [hs, Bool.false_eq_true, if_false]
        exact ⟨settle_wellFormed (toolRun_wellFormed t call h) _ _, rfl,
          .inr ⟨t, hfind, rfl, rfl⟩, fun hn => absurd hn hknown,
          fun t' ht' hl => absurd (hother t' ht' ▸ hl) hfull, fun h' => absurd h' hs⟩

/-! ## The time limit -/

/-- Whether a value is a number, as a time limit may be given: an integer, a double or a
Boolean. -/
def timeNumber : Value → Bool
  | .bool _ | .int _ | .num _ => true
  | _ => false

/-- Whether the time limit a call uses, the given one or else the default, is an integer too
large for a double. -/
def Overflows (given default : Value) : Prop :=
  ∃ n : Int, (if given.truthy then given else default) = .int n ∧ doubleOverflow ≤ n.natAbs

/-- A time limit given as a number, or left out for a default that is a number, is read as a
double unless it is an integer too large for one. -/
theorem callTimeout_of_number {given default : Value}
    (hg : timeNumber given = true ∨ given = .null) (hd : timeNumber default = true) :
    (∃ τ, callTimeout given default = .ok τ) ∨
      (callTimeout given default = .error .tooLarge ∧ Overflows given default) := by
  -- the limit used is a number: the given one counts as true, or the default is used
  have hused : timeNumber (if given.truthy then given else default) = true := by
    split
    · rcases hg with hg | rfl
      · exact hg
      · contradiction
    · exact hd
  unfold callTimeout Overflows
  generalize (if given.truthy then given else default) = v at hused ⊢
  cases v with
  | bool b => exact .inl ⟨_, rfl⟩
  | int n =>
    by_cases hbig : doubleOverflow ≤ n.natAbs
    · exact .inr ⟨by simp [Value.toReal, hbig, bind, Except.bind], n, rfl, hbig⟩
    · exact .inl ⟨_, by simp [Value.toReal, hbig, bind, Except.bind]; rfl⟩
  | num x => exact .inl ⟨_, rfl⟩
  | _ => cases hused

/-- A call with a time limit given as a number, or left out, settles; it raises only when its
name resolves to a tool and the limit it uses is an integer too large for a double, which is
read before any check or run. -/
theorem dispatch_settles_unless_overflow (reg : Registry) (call : ToolCall)
    (given default : Value) (h : Host) (hg : timeNumber given = true ∨ given = .null)
    (hd : timeNumber default = true) :
    (∃ τ out, reg.dispatch call given default h = .ok out ∧ Settles reg call τ h out) ∨
      ((reg.find? call.lookupName).isSome ∧
        reg.dispatch call given default h = .error .tooLarge ∧ Overflows given default) := by
  unfold Registry.dispatch
  cases hfind : reg.find? call.lookupName with
  | none =>
    -- an unknown tool fails before the limit is read, as the dispatcher itself would
    refine .inl ⟨1.0, _, rfl, ?_⟩
    have hex := Registry.execute_settles reg call 1.0 h
    unfold Registry.execute at hex
    rwa [hfind] at hex
  | some t =>
    rcases callTimeout_of_number hg hd with ⟨τ, hτ⟩ | ⟨hbig, hover⟩
    · exact .inl ⟨τ, _, by simp [hτ, bind, Except.bind]; rfl, Registry.execute_settles reg call τ h⟩
    · exact .inr ⟨rfl, by simp [hbig, bind, Except.bind], hover⟩

/-- A call of `attempt_completion` with a result. -/
def completionCall : ToolCall :=
  ⟨.str "call_1", .str "attempt_completion", .obj [("result", .str "x")]⟩

/-- A host over an empty workspace. -/
def emptyHost : Host :=
  { workspace := { files := {}, root := ["w"], home := ["root"] } }

/-- With the limit left out, the default of sixty seconds is used, and the call settles. -/
theorem dispatch_settles_with_default_limit :
    (timeNumber .null = true ∨ Value.null = .null) ∧ timeNumber (.num 60.0) = true ∧
      ((∃ τ out, Registry.builtin.dispatch completionCall .null (.num 60.0) emptyHost = .ok out ∧
          Settles Registry.builtin completionCall τ emptyHost out) ∨
        ((Registry.builtin.find? completionCall.lookupName).isSome ∧
          Registry.builtin.dispatch completionCall .null (.num 60.0) emptyHost = .error .tooLarge ∧
          Overflows .null (.num 60.0))) :=
  ⟨.inr rfl, rfl, dispatch_settles_unless_overflow _ _ _ _ _ (.inr rfl) rfl⟩

/-- A limit of `10^400` seconds is a number, but no double: the call raises instead of
answering. -/
theorem overflowing_timeout_raises :
    Registry.builtin.dispatch completionCall (.int (10 ^ 400)) (.num 60.0) emptyHost =
      .error .tooLarge := by
  have hfind : Registry.builtin.find? completionCall.lookupName = some (ofBuiltin .completion) :=
    rfl
  have hgiven : (Value.int (10 ^ 400)).truthy = true := by decide +kernel
  have hbig : doubleOverflow ≤ (10 ^ 400 : Int).natAbs := by decide +kernel
  simp only [Registry.dispatch, hfind, callTimeout, hgiven, if_true, Value.toReal, hbig]
  rfl

end CodingAgent.Tool
