import BlockScript.Proofs.Outcome
import BlockScript.Settings

/-!
The calls for one line, one check and one write after the other. Nothing takes a write back, so a
call that failed behind one would leave it in the context. None does: the last check of a call comes
before its first write, and the sequence is the same as the change that a compilation makes at once.
-/
namespace BlockScript

namespace Context

def openBlock (ctx : Context) (frame : Frame) (line : Nat) : Context :=
  { ctx with stack := ctx.stack.push frame line }

def dropBlock (ctx : Context) : Context := { ctx with stack := ctx.stack.tail }

def define (ctx : Context) (texts : List Text) : Context :=
  { ctx with definitions := ctx.definitions ++ texts }

theorem write_ofLines (ctx : Context) (lines : List Text) :
    ctx.write (.ofLines lines) = ctx.setLines lines := by
  simp [write, setLines, Rendering.ofLines]

theorem foldl_pushLine (lines : List Text) (ctx : Context) :
    lines.foldl pushLine ctx = ctx.setLines (ctx.current ++ lines) := by
  induction lines generalizing ctx with
  | nil => exact (congrArg ctx.setLines (List.append_nil ctx.current)).symm
  | cons line lines ih =>
    rw [List.foldl_cons, ih]
    simp [pushLine, setLines]

end Context

namespace Emit

variable {α : Type}

def check (line : Nat) (x : Except Cause α) : Emit α := fun ctx =>
  match x with
  | .ok a => .ok a ctx
  | .error cause => .error ⟨cause, line⟩ ctx

/-- Where the call fails, it leaves the context that it was made in. -/
def KeepsOnError (call : Emit Unit) : Prop :=
  ∀ ctx fault after, call ctx = .error fault after → after = ctx

theorem keepsOnError_change (line : Nat) (f : Context → Except Cause Context) :
    KeepsOnError (change line f) := fun _ _ _ fails => (change_eq_error_iff.mp fails).1

section Sequence

variable {line : Nat} {f g : Context → Context} {effect : Context → Except Cause Context}

theorem modify_eq_change (line : Nat) (f : Context → Context) :
    (modify f : Emit Unit) = change line fun ctx => .ok (f ctx) := rfl

theorem forM_modify (as : List α) (write : α → Context → Context) :
    (forM as fun a => modify (write a) : Emit Unit) =
      modify fun ctx => as.foldl (fun ctx a => write a ctx) ctx := by
  induction as with
  | nil => rfl
  | cons a as ih =>
    rw [List.forM_cons, ih]
    rfl

theorem check_bind_change {x : Except Cause α} {next : α → Emit Unit}
    {effect : α → Context → Except Cause Context} (h : ∀ a, next a = change line (effect a)) :
    check line x >>= next = change line fun ctx => x >>= (effect · ctx) := by
  cases x with
  | ok a => exact h a
  | error cause => rfl

theorem change_bind_modify :
    (change line effect >>= fun _ => modify g) = change line fun ctx => g <$> effect ctx := by
  funext ctx
  show EStateM.bind (change line effect) (fun _ => modify g) ctx = change line _ ctx
  unfold EStateM.bind change
  cases done : effect ctx <;> simp only [done] <;> rfl

end Sequence

def setLines : List Text → Emit Unit
  | [] => modify (·.clearLine)
  | first :: others => do
      modify (·.setLine first)
      forM others fun text => modify (·.pushLine text)

theorem setLines_eq (lines : List Text) : setLines lines = modify (·.setLines lines) := by
  cases lines with
  | nil => rfl
  | cons first others =>
    have pushed := forM_modify others fun text ctx => ctx.pushLine text
    simp only [setLines, pushed]
    funext ctx
    exact congrArg (EStateM.Result.ok ()) (Context.foldl_pushLine others (ctx.setLine first))

def define (texts : List Text) : Emit Unit := do
  modify (·.define texts)
  modify (·.clearLine)

end Emit

def BlockAction.perform (line : Nat) : BlockAction → Emit Unit
  | plain => pure ()
  | opens frame => modify (·.openBlock frame line)
  | opensBranch frame refusal => do
      if (← get).stack.holds .switch then modify (·.openBlock frame line)
      else throw ⟨.structural refusal, line⟩
  | startsBody => do
      if (← get).stack.top = some .vars then modify (·.dropBlock)
  | closes => do
      match (← get).stack with
      | [] => throw ⟨.structural .stackUnderflow, line⟩
      | innermost :: _ => do
          modify (·.dropBlock)
          modify ({ · with closed := some innermost.frame })
  | returns => do
      match (← get).stack.enclosingFunction with
      | some .fx => pure ()
      | some _ => throw ⟨.structural .returnInProcedure, line⟩
      | none => throw ⟨.structural .returnOutsideFunction, line⟩

theorem BlockAction.perform_eq (a : BlockAction) (line : Nat) :
    a.perform line = Emit.change line fun ctx => do
      let (stack, closed) ← (a.apply line ctx.stack).mapError .structural
      return { ctx with stack, closed := closed.or ctx.closed } := by
  funext ctx
  unfold Emit.change
  cases a with
  | plain | opens => rfl
  | opensBranch frame refusal =>
    show (if ctx.stack.holds .switch then _ else _ : Emit Unit) ctx = _
    simp only [apply]
    cases ctx.stack.holds .switch <;> rfl
  | startsBody =>
    show (if ctx.stack.top = some .vars then _ else _ : Emit Unit) ctx = _
    simp only [apply]
    by_cases vars : ctx.stack.top = some .vars <;> simp only [vars, if_true, if_false] <;> rfl
  | closes =>
    obtain ⟨stack, closed, current, body, hoisted, definitions, returnCode⟩ := ctx
    cases stack <;> rfl
  | returns =>
    show (match ctx.stack.enclosingFunction with
      | some .fx => pure ()
      | some _ => throw _
      | none => throw _ : Emit Unit) ctx = _
    simp only [apply]
    cases ctx.stack.enclosingFunction with
    | none => rfl
    | some f => cases f <;> rfl

/-- The calls that a line can lead to. -/
structure Calls where
  enterBlock : Keyword → Instruction → Emit Unit
  instruction : Keyword → Instruction → Emit Unit
  defineVar : List Text → Nat → Emit Unit
  assignVar : List Text → Nat → Emit Unit

namespace Backend

def calls (b : Backend) : Calls where
  enterBlock := b.enterBlock
  instruction := b.instruction
  defineVar := b.defineVar
  assignVar := b.assignVar

def enterStepwise (b : Backend) (k : Keyword) (i : Instruction) : Emit Unit := do
  let action ← Emit.check i.line (BlockAction.ofLine b.entryPoint k i.params)
  action.perform i.line

theorem enterStepwise_eq (b : Backend) : b.enterStepwise = b.enterBlock := by
  funext k i
  refine (Emit.check_bind_change fun a => a.perform_eq i.line).trans ?_
  refine congrArg (Emit.change i.line) (funext fun ctx => ?_)
  exact (bind_assoc _ _ _).symm

def writeRead (b : Backend) (k : Keyword) (i : Instruction) : Emit Unit := do
  let r ← Emit.check i.line (b.render k i none)
  modify (·.write r)

section Instruction

variable {b : Backend} {k : Keyword} {i : Instruction}

theorem instruction_eq {effect : Context → Except Cause Context}
    (same : ∀ ctx, effect ctx = b.render k i ctx.closed >>= fun r => pure (ctx.write r)) :
    Emit.change i.line effect = b.instruction k i :=
  congrArg (Emit.change i.line) (funext same)

theorem writeRead_eq (unclosed : ∀ closed, b.render k i closed = b.render k i none) :
    b.writeRead k i = b.instruction k i := by
  refine (Emit.check_bind_change fun r => Emit.modify_eq_change i.line (·.write r)).trans ?_
  refine instruction_eq fun ctx => ?_
  rw [unclosed ctx.closed]
  rfl

variable {α : Type} (read : Except Cause α) (texts : α → List Text)

theorem setLines_eq (renders : ∀ closed, b.render k i closed = (.ofLines ∘ texts) <$> read) :
    (Emit.check i.line read >>= fun a => Emit.setLines (texts a)) = b.instruction k i := by
  simp only [Emit.setLines_eq]
  refine (Emit.check_bind_change fun a =>
    Emit.modify_eq_change i.line (·.setLines (texts a))).trans ?_
  refine instruction_eq fun ctx => ?_
  rw [renders]
  cases read with
  | error cause => rfl
  | ok a => exact congrArg Except.ok (ctx.write_ofLines (texts a)).symm

theorem define_eq (renders : ∀ closed, b.render k i closed = (.define ∘ texts) <$> read) :
    (Emit.check i.line read >>= fun a => Emit.define (texts a)) = b.instruction k i := by
  refine (Emit.check_bind_change fun a =>
    Emit.modify_eq_change i.line fun ctx => (ctx.define (texts a)).clearLine).trans ?_
  refine instruction_eq fun ctx => ?_
  rw [renders]
  cases read <;> rfl

end Instruction

end Backend

namespace Pseudocode

def instructionStepwise (p : Pseudocode) (k : Keyword) (i : Instruction) : Emit Unit :=
  match k with
  | .close => do
      match (← get).closed with
      | none | some .vars => modify (·.clearLine)
      | some frame => modify (·.setLine ("Fin " ++ blockWord frame))
  | .struct => do
      let block ← Emit.check i.line (StructDef.read i.params >>= p.structBlock)
      Emit.define block
  | .init => do
      let d ← Emit.check i.line (StructInit.read i.params)
      Emit.setLines (initLines d)
  | .returnCode => modify (·.clearLine)
  | _ => p.backend.writeRead k i

def assignStepwise (p : Pseudocode) (tokens : List Text) (line : Nat) : Emit Unit := do
  let lines ← Emit.check line (p.assign tokens)
  modify (·.setLines lines)

def declaredStepwise (p : Pseudocode) (keyword type : Text) (line : Nat) : Declared → Emit Unit
  | .initialised name value => do
      p.assignStepwise (name :: "=" :: value) line
      modify (·.prependLine (name ++ " : " ++ type))
  | .names first others =>
      modify (·.setLine
        (Text.join ", " (first :: others) ++ " : " ++ type ++ plural keyword others))

def defineStepwise (p : Pseudocode) (tokens : List Text) (line : Nat) : Emit Unit :=
  match tokens with
  | [] => throw ⟨.missingOperand, line⟩
  | keyword :: rest => do
      let type ← Emit.check line (p.declaredType keyword)
      let declared ← Emit.check line (Declared.read keyword rest)
      p.declaredStepwise keyword type line declared

def stepwise (p : Pseudocode) : Calls where
  enterBlock := p.backend.enterStepwise
  instruction := p.instructionStepwise
  defineVar := p.defineStepwise
  assignVar := p.assignStepwise

theorem instructionStepwise_eq (p : Pseudocode) :
    p.instructionStepwise = p.backend.instruction := by
  funext k i
  cases k with
  | close =>
    funext ctx
    have steps : p.instructionStepwise .close i ctx =
        .ok () (ctx.setLines (closingLines ctx.closed)) := by
      obtain ⟨stack, closed, current, body, hoisted, definitions, returnCode⟩ := ctx
      rcases closed with _ | f
      · rfl
      · cases f <;> rfl
    rw [steps, ← Context.write_ofLines]
    rfl
  | struct =>
    refine Backend.define_eq _ id fun _ => ?_
    exact (map_bind _ _ _).symm
  | init => exact Backend.setLines_eq _ initLines fun _ => rfl
  | returnCode => exact Backend.setLines_eq (.ok []) id fun _ => rfl
  | _ => exact Backend.writeRead_eq fun _ => rfl

theorem assignStepwise_eq (p : Pseudocode) : p.assignStepwise = p.backend.assignVar := by
  funext tokens line
  exact Emit.check_bind_change fun lines => Emit.modify_eq_change line (·.setLines lines)

def declaredLines (p : Pseudocode) (keyword type : Text) : Declared → Except Cause (List Text)
  | .initialised name value => do
      return (name ++ " : " ++ type) :: (← p.assign (name :: "=" :: value))
  | .names first others =>
      return [Text.join ", " (first :: others) ++ " : " ++ type ++ plural keyword others]

theorem declaredStepwise_eq (p : Pseudocode) (keyword type : Text) (line : Nat)
    (declared : Declared) :
    p.declaredStepwise keyword type line declared =
      Emit.change line fun ctx => ctx.setLines <$> p.declaredLines keyword type declared := by
  cases declared with
  | names first others => rfl
  | initialised name value =>
    simp only [declaredStepwise, declaredLines, assignStepwise_eq]
    refine Emit.change_bind_modify.trans (congrArg (Emit.change line) (funext fun ctx => ?_))
    show _ <$> (p.assign (name :: "=" :: value) >>= fun lines => pure (ctx.setLines lines)) = _
    cases p.assign (name :: "=" :: value) <;> rfl

theorem defineStepwise_eq (p : Pseudocode) : p.defineStepwise = p.backend.defineVar := by
  funext tokens line
  cases tokens with
  | nil => rfl
  | cons keyword rest =>
    refine (Emit.check_bind_change fun type => Emit.check_bind_change fun declared =>
      p.declaredStepwise_eq keyword type line declared).trans ?_
    refine congrArg (Emit.change line) (funext fun ctx => ?_)
    show _ = p.declare (keyword :: rest) >>= fun lines => pure (ctx.setLines lines)
    simp only [declare]
    cases p.declaredType keyword with
    | error cause => rfl
    | ok type =>
      cases Declared.read keyword rest with
      | error cause => rfl
      | ok declared => cases declared <;> rfl

end Pseudocode

namespace CPlusPlus

def instructionStepwise (c : CPlusPlus) (k : Keyword) (i : Instruction) : Emit Unit :=
  match k with
  | .close => do
      match (← get).closed with
      | none | some .vars => modify (·.clearLine)
      | some .case | some .default => modify (·.setLine (c.indent ++ "break;"))
      | some _ => modify (·.setLine closeBrace)
  | .returnCode => do
      unless i.rest = [] do modify ({ · with returnCode := i.rest })
      modify (·.clearLine)
  | .struct => do
      let text ← Emit.check i.line (StructDef.read i.params >>= c.structText)
      Emit.define [c.localize text]
  | .init => do
      let d ← Emit.check i.line (StructInit.read i.params)
      Emit.setLines (initLines d)
  | .const => do
      let text ← Emit.check i.line (ConstDecl.read i.params >>= c.constText)
      Emit.define [c.localize text]
  | _ => c.backend.writeRead k i

def assignStepwise (tokens : List Text) : Emit Unit := modify (·.setLine (assignment tokens))

/-- The value is assigned, and the declaration takes up the line that this wrote. -/
def declaredStepwise (type : Text) : Declared → Emit Unit
  | .initialised name value => do
      assignStepwise (name :: "=" :: value)
      modify fun ctx => ctx.setLine (type ++ " " ++ ctx.current.headD [])
  | .names first others => modify (·.setLine (type ++ " " ++ Text.join ", " (first :: others)))

def defineStepwise (c : CPlusPlus) (tokens : List Text) (line : Nat) : Emit Unit :=
  match tokens with
  | [] => throw ⟨.missingOperand, line⟩
  | keyword :: rest => do
      let type ← Emit.check line (c.declaredType keyword)
      let declared ← Emit.check line (Declared.read keyword rest)
      declaredStepwise type declared

def stepwise (c : CPlusPlus) : Calls where
  enterBlock := c.backend.enterStepwise
  instruction := c.instructionStepwise
  defineVar := c.defineStepwise
  assignVar tokens _ := assignStepwise tokens

theorem instructionStepwise_eq (c : CPlusPlus) :
    c.instructionStepwise = c.backend.instruction := by
  funext k i
  cases k with
  | close =>
    funext ctx
    have steps : c.instructionStepwise .close i ctx =
        .ok () (ctx.setLines (c.closingLines ctx.closed)) := by
      obtain ⟨stack, closed, current, body, hoisted, definitions, returnCode⟩ := ctx
      rcases closed with _ | f
      · rfl
      · cases f <;> rfl
    rw [steps, ← Context.write_ofLines]
    rfl
  | struct =>
    refine Backend.define_eq _ (fun text => [c.localize text]) fun _ => ?_
    exact (map_bind _ _ _).symm
  | const =>
    refine Backend.define_eq _ (fun text => [c.localize text]) fun _ => ?_
    exact (map_bind _ _ _).symm
  | init => exact Backend.setLines_eq _ initLines fun _ => rfl
  | returnCode =>
    have steps : c.instructionStepwise .returnCode i = modify fun ctx =>
        { ctx with
          current := []
          returnCode := (if i.rest = [] then none else some i.rest).getD ctx.returnCode } := by
      simp only [instructionStepwise]
      by_cases empty : i.rest = []
      · simp only [empty, if_true]
        rfl
      · simp only [empty, if_false]
        rfl
    rw [steps, Emit.modify_eq_change i.line]
    refine Backend.instruction_eq fun ctx => ?_
    refine congrArg Except.ok ?_
    simp [Context.write]
  | _ => exact Backend.writeRead_eq fun _ => rfl

theorem declaredStepwise_eq (type : Text) (line : Nat) (declared : Declared) :
    declaredStepwise type declared = Emit.change line fun ctx =>
      .ok (ctx.setLine (type ++ " " ++ match declared with
        | .initialised name value => assignment (name :: "=" :: value)
        | .names first others => Text.join ", " (first :: others))) := by
  cases declared <;> rfl

theorem defineStepwise_eq (c : CPlusPlus) : c.defineStepwise = c.backend.defineVar := by
  funext tokens line
  cases tokens with
  | nil => rfl
  | cons keyword rest =>
    refine (Emit.check_bind_change fun type => Emit.check_bind_change fun declared =>
      declaredStepwise_eq type line declared).trans ?_
    refine congrArg (Emit.change line) (funext fun ctx => ?_)
    show _ = c.declare (keyword :: rest) >>= fun lines => pure (ctx.setLines lines)
    simp only [declare]
    cases c.declaredType keyword with
    | error cause => rfl
    | ok type =>
      cases Declared.read keyword rest with
      | error cause => rfl
      | ok declared => cases declared <;> rfl

end CPlusPlus

namespace Settings

def stepwise (s : Settings) : Target → Calls
  | .pseudocode => s.pseudocode.stepwise
  | .cpp => s.cpp.stepwise

/-- Write for write the calls come to what a compilation makes of them. -/
theorem stepwise_eq (s : Settings) (target : Target) :
    s.stepwise target = (s.backend target).calls := by
  cases target with
  | pseudocode =>
    show Calls.mk _ _ _ _ = Calls.mk _ _ _ _
    rw [Backend.enterStepwise_eq, Pseudocode.instructionStepwise_eq, Pseudocode.defineStepwise_eq,
      Pseudocode.assignStepwise_eq]
    rfl
  | cpp =>
    show Calls.mk _ _ _ _ = Calls.mk _ _ _ _
    rw [Backend.enterStepwise_eq, CPlusPlus.instructionStepwise_eq, CPlusPlus.defineStepwise_eq]
    rfl

/-- A call that fails leaves every part of the context as it was, though it checks and writes step
    by step and takes nothing back. -/
theorem failed_call_keeps_context (s : Settings) (target : Target) :
    s.stepwise target = (s.backend target).calls ∧
      (∀ k i, ((s.stepwise target).enterBlock k i).KeepsOnError) ∧
      (∀ k i, ((s.stepwise target).instruction k i).KeepsOnError) ∧
      (∀ tokens line, ((s.stepwise target).defineVar tokens line).KeepsOnError) ∧
      ∀ tokens line, ((s.stepwise target).assignVar tokens line).KeepsOnError := by
  rw [s.stepwise_eq target]
  exact ⟨rfl, fun k i => Emit.keepsOnError_change i.line _,
    fun k i => Emit.keepsOnError_change i.line _,
    fun tokens line => Emit.keepsOnError_change line _,
    fun tokens line => Emit.keepsOnError_change line _⟩

theorem failed_call_keeps_context_new :
    let s : Settings := { pointers := true }
    let ctx : Context :=
      { stack := [⟨.fx, 1⟩], current := ["int* p = new"], hoisted := ["Fonction f () : Entier"] }
    ∃ fault,
      (s.stepwise .pseudocode).defineVar ["int*", "p", "=", "new"] 2 ctx = .error fault ctx := by
  intro s ctx
  have fails : ∃ fault after,
      (s.stepwise .pseudocode).defineVar ["int*", "p", "=", "new"] 2 ctx = .error fault after :=
    ⟨⟨.argument .newType, 2⟩, _, rfl⟩
  obtain ⟨fault, after, fails⟩ := fails
  have kept := (failed_call_keeps_context s .pseudocode).2.2.2.1 ["int*", "p", "=", "new"] 2
  exact ⟨fault, kept ctx fault after fails ▸ fails⟩

end Settings

end BlockScript
