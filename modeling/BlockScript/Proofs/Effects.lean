import BlockScript.Proofs.FileTable

/-!
How an invocation ends, on any lawful disk and with any libraries. It stops before it writes, or
the write it comes to decides; the exit code tells which. What `-v` adds is on the standard output
alone.
-/
namespace BlockScript.CommandLine

variable {σ Place : Type} {disk : Disk (StateM σ)} {fs : FileSystem σ Place}
  {libraries : Libraries} {before after : σ} {α β : Type} {verbose : Bool}

/-! Where a computation leads, whatever was printed before it -/

def Leads (x : Console (StateM σ) α) (before : σ) (a : α) (after : σ) : Prop :=
  ∀ printed, ∃ printed', x printed before = ((a, printed'), after)

theorem leads_pure (a : α) (before : σ) :
    Leads (pure a : Console (StateM σ) α) before a before := fun printed => ⟨printed, rfl⟩

theorem bind_run (x : Console (StateM σ) α) (f : α → Console (StateM σ) β)
    (printed : Printed) (before : σ) :
    (x >>= f) printed before =
      f (x printed before).1.1 (x printed before).1.2 (x printed before).2 := rfl

theorem leads_bind {x : Console (StateM σ) α} {f : α → Console (StateM σ) β} {a : α} {b : β}
    {middle : σ} (first : Leads x before a middle) (second : Leads (f a) middle b after) :
    Leads (x >>= f) before b after := by
  intro printed
  obtain ⟨printed', ran⟩ := first printed
  obtain ⟨printed'', ran'⟩ := second printed'
  refine ⟨printed'', ?_⟩
  rw [bind_run, ran]
  exact ran'

theorem leads_modify (f : Printed → Printed) (before : σ) :
    Leads (modify f : Console (StateM σ) Unit) before () before :=
  fun printed => ⟨f printed, rfl⟩

theorem leads_note (text : Text) (before : σ) :
    Leads (note (m := StateM σ) verbose text) before () before := by
  unfold note
  split
  · exact leads_modify _ before
  · exact leads_pure () before

theorem leads_report (failure : Failure) (source filename : Text) (before : σ) :
    Leads (report (m := StateM σ) libraries failure source filename) before () before := by
  unfold report
  split <;> exact leads_modify _ before

theorem leads_read (lawful : disk.Lawful fs) (path : Text) (before : σ) :
    Leads (liftM (disk.read path)) before (disk.read path before).1 before := by
  intro printed
  refine ⟨printed, ?_⟩
  change (((disk.read path before).1, printed), (disk.read path before).2) = _
  rw [lawful.read_keeps]

theorem leads_write (path text : Text) (before : σ) :
    Leads (liftM (disk.write path text)) before (disk.write path text before).1
      (disk.write path text before).2 := fun printed => ⟨printed, rfl⟩

/-! Stages of a run -/

/-- The settings that a configuration gives; the default ones where there is none. -/
def loaded (libraries : Libraries) (disk : Disk (StateM σ)) (before : σ) :
    Option Text → Except Failure Settings
  | none => .ok {}
  | some path =>
      match (disk.read path before).1 with
      | .error error => .error (.file error)
      | .ok text => (libraries.readSettings text).mapError .configuration

def Generates (disk : Disk (StateM σ)) (before : σ) (settings : Settings) (input : Text)
    (target : Target) (text : Text) : Prop :=
  ∃ source, (disk.read input before).1 = .ok source ∧
    settings.compileSource target source = .ok text

def Passes (disk : Disk (StateM σ)) (before : σ) (settings : Settings) (input : Text) : Prop :=
  ∃ source, (disk.read input before).1 = .ok source ∧
    ∀ target, ∃ text, settings.compileSource target source = .ok text

variable {settings : Settings} {input path text source : Text} {target : Target}
  {output : Option Text}

theorem generates_unique {text' : Text}
    (generates : Generates disk before settings input target text)
    (generates' : Generates disk before settings input target text') : text = text' := by
  obtain ⟨source, read, compiled⟩ := generates
  obtain ⟨source', read', compiled'⟩ := generates'
  cases read.symm.trans read'
  exact Except.ok.inj (compiled.symm.trans compiled')

theorem leads_loadSettings (lawful : disk.Lawful fs) (verbose : Bool)
    (configuration : Option Text) (before : σ) :
    Leads (loadSettings libraries disk verbose configuration) before
      (loaded libraries disk before configuration) before := by
  cases configuration with
  | none => exact leads_pure _ before
  | some path =>
    unfold loadSettings loaded
    dsimp only
    refine leads_bind (leads_note _ before) ?_
    refine leads_bind (leads_read lawful path before) ?_
    cases (disk.read path before).1 with
    | error error => exact leads_pure _ before
    | ok text => exact leads_pure _ before

theorem leads_readSource (lawful : disk.Lawful fs) (verbose : Bool) (input : Text) (before : σ) :
    Leads (readSource disk verbose input) before (disk.read input before).1.toOption before := by
  unfold readSource
  refine leads_bind (leads_read lawful input before) ?_
  cases (disk.read input before).1 with
  | error error => exact leads_bind (leads_modify _ before) (leads_pure _ before)
  | ok source => exact leads_bind (leads_note _ before) (leads_pure _ before)

theorem leads_writeOutput (path text : Text) (before : σ) :
    Leads (writeOutput disk path text) before (disk.write path text before).1.isOk
      (disk.write path text before).2 := by
  unfold writeOutput
  refine leads_bind (leads_write path text before) ?_
  cases (disk.write path text before).1 with
  | error error => exact leads_bind (leads_modify _ _) (leads_pure _ _)
  | ok done => exact leads_bind (leads_modify _ _) (leads_pure _ _)

theorem leads_compile (lawful : disk.Lawful fs)
    (generates : Generates disk before settings input target text) :
    Leads (compile libraries disk settings verbose input target output) before
      (disk.write (output.getD (defaultOutput target input)) text before).1.isOk
      (disk.write (output.getD (defaultOutput target input)) text before).2 := by
  obtain ⟨source, read, compiled⟩ := generates
  have led := leads_readSource lawful verbose input before
  rw [read] at led
  unfold compile
  refine leads_bind led (leads_bind (leads_note _ before) ?_)
  rw [compiled]
  exact leads_writeOutput _ text before

theorem leads_compile_of_not (lawful : disk.Lawful fs)
    (fails : ∀ text, ¬ Generates disk before settings input target text) :
    Leads (compile libraries disk settings verbose input target output) before false before := by
  have led := leads_readSource lawful verbose input before
  unfold compile
  cases read : (disk.read input before).1 with
  | error error =>
    rw [read] at led
    exact leads_bind led (leads_pure _ before)
  | ok source =>
    rw [read] at led
    refine leads_bind led (leads_bind (leads_note _ before) ?_)
    cases compiled : settings.compileSource target source with
    | error fault => exact leads_bind (leads_report _ _ _ before) (leads_pure _ before)
    | ok text => exact absurd ⟨source, read, compiled⟩ (fails text)

theorem leads_checkTarget (settings : Settings) (verbose : Bool) (input source : Text)
    (target : Target) (before : σ) :
    Leads (checkTarget (m := StateM σ) libraries settings verbose input source target) before
      (settings.compileSource target source).isOk before := by
  unfold checkTarget
  cases settings.compileSource target source with
  | error fault => exact leads_bind (leads_report _ _ _ before) (leads_pure _ before)
  | ok text => exact leads_bind (leads_note _ before) (leads_pure _ before)

theorem leads_mapM {f : α → Console (StateM σ) β} {g : α → β} (as : List α)
    (each : ∀ a, Leads (f a) before (g a) before) :
    Leads (as.mapM f) before (as.map g) before := by
  induction as with
  | nil => exact leads_pure _ before
  | cons a as ih =>
    rw [List.mapM_cons, List.map_cons]
    exact leads_bind (each a) (leads_bind ih (leads_pure _ before))

theorem all_isOk_iff : (Target.all.map fun target =>
      (settings.compileSource target source).isOk).all id = true ↔
    ∀ target, ∃ text, settings.compileSource target source = .ok text := by
  have isOk_iff : ∀ target, (settings.compileSource target source).isOk = true ↔
      ∃ text, settings.compileSource target source = .ok text := by
    intro target
    cases settings.compileSource target source <;> simp [Except.isOk, Except.toBool]
  simp only [List.all_map, List.all_eq_true, Function.comp, id, isOk_iff]
  have listed : ∀ target, target ∈ Target.all := by
    intro target
    cases target <;> simp [Target.all]
  exact ⟨fun all target => all target (listed target), fun all target _ => all target⟩

theorem leads_check (lawful : disk.Lawful fs) (settings : Settings) (verbose : Bool)
    (input : Text) (before : σ) :
    ∃ passed, (passed = true ↔ Passes disk before settings input) ∧
      Leads (check libraries disk settings verbose input) before passed before := by
  have led := leads_readSource lawful verbose input before
  unfold check
  cases read : (disk.read input before).1 with
  | error error =>
    rw [read] at led
    refine ⟨false, ?_, leads_bind led (leads_pure _ before)⟩
    simp [Passes, read]
  | ok source =>
    rw [read] at led
    have passes : Passes disk before settings input ↔
        ∀ target, ∃ text, settings.compileSource target source = .ok text := by
      simp [Passes, read]
    refine ⟨(Target.all.map fun target => (settings.compileSource target source).isOk).all id,
      all_isOk_iff.trans passes.symm, ?_⟩
    refine leads_bind led (leads_bind (leads_mapM Target.all
      fun target => leads_checkTarget settings verbose input source target before) ?_)
    split
    · rename_i all
      rw [all]
      exact leads_bind (leads_modify _ before) (leads_pure _ before)
    · rename_i not_all
      rw [Bool.not_eq_true] at not_all
      rw [not_all]
      exact leads_pure _ before

theorem leads_invoke_of_failure (lawful : disk.Lawful fs) {i : Invocation} {failure : Failure}
    (failed : loaded libraries disk before i.configuration = .error failure) :
    Leads (invoke libraries disk i) before false before := by
  have led : Leads (loadSettings libraries disk i.verbose i.configuration) before _ before :=
    leads_loadSettings lawful i.verbose i.configuration before
  rw [failed] at led
  unfold invoke
  exact leads_bind led (leads_bind (leads_modify _ before) (leads_pure _ before))

def perform (libraries : Libraries) (disk : Disk (StateM σ)) (settings : Settings)
    (verbose : Bool) : Command → Console (StateM σ) Bool
  | .compile input target output => compile libraries disk settings verbose input target output
  | .check input => check libraries disk settings verbose input

theorem leads_invoke (lawful : disk.Lawful fs) {i : Invocation} {succeeded : Bool}
    (loads : loaded libraries disk before i.configuration = .ok settings)
    (performed : Leads (perform libraries disk settings i.verbose i.command) before succeeded
      after) :
    Leads (invoke libraries disk i) before succeeded after := by
  have led : Leads (loadSettings libraries disk i.verbose i.configuration) before _ before :=
    leads_loadSettings lawful i.verbose i.configuration before
  rw [loads] at led
  have last : Leads (if succeeded then pure true else do
      note i.verbose (" Failed: " ++ i.command.input)
      pure false) after succeeded after := by
    cases succeeded with
    | true => exact leads_pure true after
    | false => exact leads_bind (leads_note _ after) (leads_pure false after)
  unfold invoke
  refine leads_bind led ?_
  cases named : i.command with
  | compile input target output =>
    rw [named] at performed last
    exact leads_bind performed last
  | check input =>
    rw [named] at performed last
    exact leads_bind performed last

/-! How a run ends -/

/-- The ways an invocation ends, with its exit code and what it leaves. -/
inductive Ends (libraries : Libraries) (disk : Disk (StateM σ)) (i : Invocation) (before : σ) :
    Nat → σ → Prop where
  | unloaded {failure : Failure} (loads : loaded libraries disk before i.configuration =
      .error failure) : Ends libraries disk i before 1 before
  | idle {settings : Settings} {input : Text} {target : Target} {output : Option Text}
      (named : i.command = .compile input target output)
      (loads : loaded libraries disk before i.configuration = .ok settings)
      (fails : ∀ text, ¬ Generates disk before settings input target text) :
      Ends libraries disk i before 1 before
  | written {settings : Settings} {input text : Text} {target : Target} {output : Option Text}
      (named : i.command = .compile input target output)
      (loads : loaded libraries disk before i.configuration = .ok settings)
      (generates : Generates disk before settings input target text)
      (done : (disk.write (output.getD (defaultOutput target input)) text before).1 = .ok ()) :
      Ends libraries disk i before 0
        (disk.write (output.getD (defaultOutput target input)) text before).2
  | refused {settings : Settings} {input text : Text} {target : Target} {output : Option Text}
      {error : FileError} (named : i.command = .compile input target output)
      (loads : loaded libraries disk before i.configuration = .ok settings)
      (generates : Generates disk before settings input target text)
      (failed : (disk.write (output.getD (defaultOutput target input)) text before).1 =
        .error error) :
      Ends libraries disk i before 1
        (disk.write (output.getD (defaultOutput target input)) text before).2
  | checked {settings : Settings} {input : Text} {passed : Bool}
      (named : i.command = .check input)
      (loads : loaded libraries disk before i.configuration = .ok settings)
      (passes : passed = true ↔ Passes disk before settings input) :
      Ends libraries disk i before (if passed then 0 else 1) before

theorem leads_ends (libraries : Libraries) (lawful : disk.Lawful fs) (i : Invocation)
    (before : σ) :
    ∃ succeeded after, Leads (invoke libraries disk i) before succeeded after ∧
      Ends libraries disk i before (if succeeded then 0 else 1) after := by
  cases loads : loaded libraries disk before i.configuration with
  | error failure => exact ⟨false, before, leads_invoke_of_failure lawful loads, .unloaded loads⟩
  | ok settings =>
    cases named : i.command with
    | compile input target output =>
      by_cases generates : ∃ text, Generates disk before settings input target text
      · obtain ⟨text, generates⟩ := generates
        have led : Leads (perform libraries disk settings i.verbose i.command) before
            (disk.write (output.getD (defaultOutput target input)) text before).1.isOk
            (disk.write (output.getD (defaultOutput target input)) text before).2 := by
          rw [named]
          exact leads_compile lawful generates
        refine ⟨_, _, leads_invoke lawful loads led, ?_⟩
        cases result :
            (disk.write (output.getD (defaultOutput target input)) text before).1 with
        | error error => exact .refused named loads generates result
        | ok done => exact .written named loads generates result
      · have fails := not_exists.mp generates
        have led : Leads (perform libraries disk settings i.verbose i.command) before false
            before := by
          rw [named]
          exact leads_compile_of_not lawful fails
        exact ⟨false, before, leads_invoke lawful loads led, .idle named loads fails⟩
    | check input =>
      obtain ⟨passed, passes, checks⟩ := leads_check lawful settings i.verbose input before
      have led : Leads (perform libraries disk settings i.verbose i.command) before passed
          before := by
        rw [named]
        exact checks
      exact ⟨passed, before, leads_invoke lawful loads led, .checked named loads passes⟩

theorem execute_eq (libraries : Libraries) (disk : Disk (StateM σ)) (i : Invocation)
    (before : σ) :
    execute libraries disk i before =
      (⟨if (invoke libraries disk i {} before).1.1 then 0 else 1,
        (invoke libraries disk i {} before).1.2.out,
        (invoke libraries disk i {} before).1.2.err⟩,
        (invoke libraries disk i {} before).2) := rfl

theorem execute_ends (libraries : Libraries) (lawful : disk.Lawful fs) (i : Invocation)
    (before : σ) :
    Ends libraries disk i before (execute libraries disk i before).1.code
      (execute libraries disk i before).2 := by
  obtain ⟨succeeded, after, led, ends⟩ := leads_ends libraries lawful i before
  obtain ⟨printed, ran⟩ := led {}
  rw [execute_eq, ran]
  exact ends

namespace Ends

variable {i : Invocation} {code : Nat}

theorem code_cases (whole : disk.WritesWhole) (ends : Ends libraries disk i before code after) :
    code = 0 ∨ code = 1 ∧ after = before := by
  cases ends with
  | unloaded => exact .inr ⟨rfl, rfl⟩
  | idle => exact .inr ⟨rfl, rfl⟩
  | written => exact .inl rfl
  | refused named loads generates failed => exact .inr ⟨rfl, whole _ _ _ _ failed⟩
  | @checked settings input passed => cases passed <;> simp

/-- A compilation has nothing to write, or its write decides. -/
theorem compile_cases (ends : Ends libraries disk i before code after)
    (named : i.command = .compile input target output) :
    (code = 1 ∧ after = before ∧
      ∀ settings text, loaded libraries disk before i.configuration = .ok settings →
        ¬ Generates disk before settings input target text) ∨
    ∃ settings text, loaded libraries disk before i.configuration = .ok settings ∧
      Generates disk before settings input target text ∧
      after = (disk.write (output.getD (defaultOutput target input)) text before).2 ∧
      (code = 0 ↔
        (disk.write (output.getD (defaultOutput target input)) text before).1 = .ok ()) := by
  cases ends with
  | unloaded failed => exact .inl ⟨rfl, rfl, by simp [failed]⟩
  | idle named' loads fails =>
    cases named.symm.trans named'
    refine .inl ⟨rfl, rfl, ?_⟩
    intro settings text loads'
    cases loads.symm.trans loads'
    exact fails text
  | written named' loads generates done =>
    cases named.symm.trans named'
    exact .inr ⟨_, _, loads, generates, rfl, iff_of_true rfl done⟩
  | refused named' loads generates failed =>
    cases named.symm.trans named'
    exact .inr ⟨_, _, loads, generates, rfl, iff_of_false (by decide) (by simp [failed])⟩
  | checked named' => cases named.symm.trans named'

theorem compiled_iff (ends : Ends libraries disk i before code after)
    (named : i.command = .compile input target output) :
    code = 0 ↔ ∃ settings text, loaded libraries disk before i.configuration = .ok settings ∧
      Generates disk before settings input target text ∧
      (disk.write (output.getD (defaultOutput target input)) text before).1 = .ok () := by
  rcases ends.compile_cases named with
    ⟨rfl, -, fails⟩ | ⟨settings, text, loads, generates, -, succeeds⟩
  · refine iff_of_false (by decide) ?_
    rintro ⟨settings, text, loads, generates, -⟩
    exact fails settings text loads generates
  · rw [succeeds]
    constructor
    · intro done
      exact ⟨settings, text, loads, generates, done⟩
    · rintro ⟨settings', text', loads', generates', done⟩
      cases loads.symm.trans loads'
      cases generates_unique generates generates'
      exact done

theorem sets_of_success (lawful : disk.Lawful fs) (ends : Ends libraries disk i before code after)
    (named : i.command = .compile input target output) (succeeded : code = 0) :
    ∃ settings text, loaded libraries disk before i.configuration = .ok settings ∧
      Generates disk before settings input target text ∧
      after = (disk.write (output.getD (defaultOutput target input)) text before).2 ∧
      fs.Sets before (output.getD (defaultOutput target input)) text after := by
  rcases ends.compile_cases named with
    ⟨rfl, -⟩ | ⟨settings, text, loads, generates, rfl, succeeds⟩
  · cases succeeded
  · exact ⟨settings, text, loads, generates, rfl, lawful.sets_of_write (succeeds.mp succeeded)⟩

theorem check_cases (ends : Ends libraries disk i before code after)
    (named : i.command = .check input) :
    after = before ∧
      (code = 0 ↔ ∃ settings, loaded libraries disk before i.configuration = .ok settings ∧
        Passes disk before settings input) := by
  cases ends with
  | unloaded failed => exact ⟨rfl, by simp [failed]⟩
  | idle named' => cases named.symm.trans named'
  | written named' => cases named.symm.trans named'
  | refused named' => cases named.symm.trans named'
  | @checked settings input passed named' loads passes =>
    cases named.symm.trans named'
    have code : (if passed then 0 else 1 : Nat) = 0 ↔ passed = true := by cases passed <;> simp
    refine ⟨rfl, ?_⟩
    rw [code, passes]
    constructor
    · intro passes
      exact ⟨settings, loads, passes⟩
    · rintro ⟨settings', loads', passes⟩
      cases loads.symm.trans loads'
      exact passes

end Ends

structure Effects (libraries : Libraries) (disk : Disk (StateM σ)) (fs : FileSystem σ Place)
    (i : Invocation) (before : σ) (code : Nat) (after : σ) : Prop where
  ends : code = 0 ∨ code = 1 ∧ after = before
  compiled : ∀ input target output, i.command = .compile input target output →
    (code = 0 ↔ ∃ settings text, loaded libraries disk before i.configuration = .ok settings ∧
      Generates disk before settings input target text ∧
      (disk.write (output.getD (defaultOutput target input)) text before).1 = .ok ())
  stored : ∀ input target output, i.command = .compile input target output → code = 0 →
    ∃ settings text, loaded libraries disk before i.configuration = .ok settings ∧
      Generates disk before settings input target text ∧
      after = (disk.write (output.getD (defaultOutput target input)) text before).2 ∧
      fs.Sets before (output.getD (defaultOutput target input)) text after
  checked : ∀ input, i.command = .check input →
    (code = 0 ↔ ∃ settings, loaded libraries disk before i.configuration = .ok settings ∧
      Passes disk before settings input)
  untouched : ∀ input, i.command = .check input → after = before

theorem Ends.effects {i : Invocation} {code : Nat} (lawful : disk.Lawful fs)
    (whole : disk.WritesWhole) (ends : Ends libraries disk i before code after) :
    Effects libraries disk fs i before code after where
  ends := ends.code_cases whole
  compiled _ _ _ named := ends.compiled_iff named
  stored _ _ _ named := ends.sets_of_success lawful named
  checked _ named := (ends.check_cases named).2
  untouched _ named := (ends.check_cases named).1

/-! Two runs that differ in what they print on the standard output -/

/-- The same value, errors and state from the same errors. -/
def SameButOut (x y : Console (StateM σ) α) : Prop :=
  ∀ (before : σ) (p q : Printed), p.err = q.err →
    (x p before).1.1 = (y q before).1.1 ∧ (x p before).1.2.err = (y q before).1.2.err ∧
      (x p before).2 = (y q before).2

theorem same_pure (a : α) : SameButOut (pure a : Console (StateM σ) α) (pure a) :=
  fun _ _ _ same => ⟨rfl, same, rfl⟩

theorem same_bind {x y : Console (StateM σ) α} {f g : α → Console (StateM σ) β}
    (first : SameButOut x y) (second : ∀ a, SameButOut (f a) (g a)) :
    SameButOut (x >>= f) (y >>= g) := by
  intro before p q same
  obtain ⟨value, errors, left⟩ := first before p q same
  have next := second (x p before).1.1 (x p before).2 (x p before).1.2 (y q before).1.2 errors
  rw [value, left] at next
  rw [bind_run, bind_run, value, left]
  exact next

theorem same_lift (x : StateM σ α) : SameButOut (liftM x : Console (StateM σ) α) (liftM x) :=
  fun _ _ _ same => ⟨rfl, same, rfl⟩

theorem same_say (text : Text) : SameButOut (say text : Console (StateM σ) Unit) (say text) :=
  fun _ _ _ same => ⟨rfl, same, rfl⟩

theorem same_note (verbose verbose' : Bool) (text : Text) :
    SameButOut (note verbose text : Console (StateM σ) Unit) (note verbose' text) := by
  cases verbose <;> cases verbose' <;> exact fun _ _ _ same => ⟨rfl, same, rfl⟩

theorem same_complain (text : Text) :
    SameButOut (complain text : Console (StateM σ) Unit) (complain text) := by
  intro before p q same
  refine ⟨rfl, ?_, rfl⟩
  change p.err ++ text ++ _ = q.err ++ text ++ _
  rw [same]

theorem same_report (failure : Failure) (source filename : Text) :
    SameButOut (report libraries failure source filename : Console (StateM σ) Unit)
      (report libraries failure source filename) := by
  unfold report
  split
  · exact same_complain _
  · intro before p q same
    refine ⟨rfl, ?_, rfl⟩
    change p.err ++ libraries.report failure source filename =
      q.err ++ libraries.report failure source filename
    rw [same]

theorem same_loadSettings (verbose verbose' : Bool) (configuration : Option Text) :
    SameButOut (loadSettings libraries disk verbose configuration)
      (loadSettings libraries disk verbose' configuration) := by
  cases configuration with
  | none => exact same_pure _
  | some path =>
    refine same_bind (same_note _ _ _) fun _ => same_bind (same_lift _) fun content => ?_
    cases content with
    | error error => exact same_pure _
    | ok text => exact same_pure _

theorem same_readSource (verbose verbose' : Bool) (input : Text) :
    SameButOut (readSource disk verbose input) (readSource disk verbose' input) := by
  refine same_bind (same_lift _) fun content => ?_
  cases content with
  | error error => exact same_bind (same_complain _) fun _ => same_pure _
  | ok source => exact same_bind (same_note _ _ _) fun _ => same_pure _

theorem same_writeOutput (path text : Text) :
    SameButOut (writeOutput disk path text) (writeOutput disk path text) := by
  refine same_bind (same_lift _) fun result => ?_
  cases result with
  | error error => exact same_bind (same_complain _) fun _ => same_pure _
  | ok done => exact same_bind (same_say _) fun _ => same_pure _

theorem same_compile (settings : Settings) (verbose verbose' : Bool) (input : Text)
    (target : Target) (output : Option Text) :
    SameButOut (compile libraries disk settings verbose input target output)
      (compile libraries disk settings verbose' input target output) := by
  refine same_bind (same_readSource _ _ _) fun source => ?_
  cases source with
  | none => exact same_pure _
  | some source =>
    refine same_bind (same_note _ _ _) fun _ => ?_
    cases settings.compileSource target source with
    | ok text => exact same_writeOutput _ _
    | error fault => exact same_bind (same_report _ _ _) fun _ => same_pure _

theorem same_checkTarget (settings : Settings) (verbose verbose' : Bool) (input source : Text)
    (target : Target) :
    SameButOut (checkTarget (m := StateM σ) libraries settings verbose input source target)
      (checkTarget libraries settings verbose' input source target) := by
  unfold checkTarget
  cases settings.compileSource target source with
  | ok text => exact same_bind (same_note _ _ _) fun _ => same_pure _
  | error fault => exact same_bind (same_report _ _ _) fun _ => same_pure _

theorem same_mapM {f g : α → Console (StateM σ) β} (as : List α)
    (each : ∀ a, SameButOut (f a) (g a)) : SameButOut (as.mapM f) (as.mapM g) := by
  induction as with
  | nil => exact same_pure _
  | cons a as ih =>
    rw [List.mapM_cons, List.mapM_cons]
    exact same_bind (each a) fun _ => same_bind ih fun _ => same_pure _

theorem same_check (settings : Settings) (verbose verbose' : Bool) (input : Text) :
    SameButOut (check libraries disk settings verbose input)
      (check libraries disk settings verbose' input) := by
  refine same_bind (same_readSource _ _ _) fun source => ?_
  cases source with
  | none => exact same_pure _
  | some source =>
    refine same_bind (same_mapM _ (same_checkTarget settings verbose verbose' input source))
      fun results => ?_
    split
    · exact same_bind (same_say _) fun _ => same_pure _
    · exact same_pure _

theorem same_invoke (i : Invocation) (verbose : Bool) :
    SameButOut (invoke libraries disk i) (invoke libraries disk { i with verbose := verbose }) := by
  refine same_bind (same_loadSettings _ _ _) fun settings => ?_
  cases settings with
  | error failure => exact same_bind (same_complain _) fun _ => same_pure _
  | ok settings =>
    have last : ∀ succeeded : Bool, SameButOut
        (if succeeded then pure true else do
          note (m := StateM σ) i.verbose (" Failed: " ++ i.command.input)
          pure false)
        (if succeeded then pure true else do
          note verbose (" Failed: " ++ i.command.input)
          pure false) := by
      intro succeeded
      cases succeeded with
      | true => exact same_pure true
      | false => exact same_bind (same_note _ _ _) fun _ => same_pure false
    cases named : i.command with
    | compile input target output =>
      rw [named] at last
      exact same_bind (same_compile _ _ _ _ _ _) last
    | check input =>
      rw [named] at last
      exact same_bind (same_check _ _ _ _) last

/-- On a lawful disk whose writes are whole, the exit code tells whether what was asked for was
    done, and a file is set only then. With `-v` the run prints more and does the same. -/
theorem exit_code_and_files (lawful : disk.Lawful fs) (whole : disk.WritesWhole)
    (libraries : Libraries) (i : Invocation) (before : σ) :
    Effects libraries disk fs i before (execute libraries disk i before).1.code
      (execute libraries disk i before).2 ∧
    ∀ verbose,
      (execute libraries disk { i with verbose := verbose } before).1.code =
        (execute libraries disk i before).1.code ∧
      (execute libraries disk { i with verbose := verbose } before).1.stderr =
        (execute libraries disk i before).1.stderr ∧
      (execute libraries disk { i with verbose := verbose } before).2 =
        (execute libraries disk i before).2 := by
  refine ⟨(execute_ends libraries lawful i before).effects lawful whole, ?_⟩
  intro verbose
  have same : SameButOut (invoke libraries disk i)
      (invoke libraries disk { i with verbose := verbose }) := same_invoke i verbose
  obtain ⟨value, errors, left⟩ := same before {} {} rfl
  rw [execute_eq, execute_eq]
  exact ⟨by rw [value], errors.symm, left.symm⟩

theorem exit_code_and_files_absolute :
    (execute .standard Disk.ofFiles
      ⟨.compile "prog.algo" .cpp (some ("/out/prog.cpp" : Text)), none, false⟩
      ⟨["work"], [(["work", "prog.algo"], .text "print 1"), (["out", "old"], .binary)]⟩).1.code =
        0 ∧
    ∃ text, Files.fileSystem.Sets
      ⟨["work"], [(["work", "prog.algo"], .text "print 1"), (["out", "old"], .binary)]⟩
      "/out/prog.cpp" text
      (execute .standard Disk.ofFiles
        ⟨.compile "prog.algo" .cpp (some ("/out/prog.cpp" : Text)), none, true⟩
        ⟨["work"], [(["work", "prog.algo"], .text "print 1"), (["out", "old"], .binary)]⟩).2 := by
  obtain ⟨effects, verbosely⟩ := exit_code_and_files Disk.lawful_ofFiles Disk.writesWhole_ofFiles
    .standard ⟨.compile "prog.algo" .cpp (some ("/out/prog.cpp" : Text)), none, false⟩
    ⟨["work"], [(["work", "prog.algo"], .text "print 1"), (["out", "old"], .binary)]⟩
  have succeeded : (execute .standard Disk.ofFiles
      ⟨.compile "prog.algo" .cpp (some ("/out/prog.cpp" : Text)), none, false⟩
      ⟨["work"], [(["work", "prog.algo"], .text "print 1"), (["out", "old"], .binary)]⟩).1.code =
        0 := by decide +kernel
  refine ⟨succeeded, ?_⟩
  obtain ⟨settings, text, -, -, -, sets⟩ := effects.stored _ _ _ rfl succeeded
  rw [← (verbosely true).2.2] at sets
  exact ⟨text, sets⟩

end BlockScript.CommandLine
