import BlockScript.Proofs.BlockAction
import BlockScript.Settings

/-!
What a line can do wrong by itself, whatever stands around it. Each function that reads or renders a
line fails only with faults of certain categories; in particular no operand is found missing once
the action of the line is known.
-/
namespace BlockScript

section Operands

theorem StructDef.read_failsWith (params : List Text) : FailsWith [.argument] (read params) := by
  unfold read
  split
  · exact failsWith_error _
  · dsimp only
    split
    · exact failsWith_error _
    · trivial

theorem ArrayDecl.read_failsWith (params : List Text) : FailsWith [.argument] (read params) := by
  unfold read
  split
  · trivial
  · exact failsWith_error _

theorem StructInit.read_failsWith (params : List Text) : FailsWith [.argument] (read params) := by
  unfold read
  split
  · exact failsWith_error _
  · exact failsWith_error _
  · exact failsWith_error _
  · split
    · exact failsWith_error _
    · trivial

theorem ConstDecl.read_failsWith (params : List Text) : FailsWith [.argument] (read params) := by
  unfold read
  split
  · split
    · exact failsWith_error _
    · trivial
  · exact failsWith_error _

theorem Declared.names?_failsWith (keyword : Text) (tokens : List Text) :
    FailsWith [.argument] (names? keyword tokens) := by
  unfold names?
  split
  · exact failsWith_error _
  · trivial

theorem Declared.read_failsWith (keyword : Text) (tokens : List Text) :
    FailsWith [.argument] (read keyword tokens) := by
  unfold read
  split
  · split
    · trivial
    · exact names?_failsWith keyword _
  · exact names?_failsWith keyword _

theorem Declared.read_eq_ok {keyword : Text} {tokens : List Text} {d : Declared}
    (h : read keyword tokens = .ok d) :
    (∃ name value, d = initialised name value ∧ tokens = name :: ("=" : Text) :: value) ∨
      ∃ first others, d = names first others ∧ tokens.filter (· ≠ []) = first :: others := by
  have listed : ∀ {tokens'}, names? keyword tokens' = .ok d →
      ∃ first others, d = names first others ∧ tokens'.filter (· ≠ []) = first :: others := by
    intro tokens' h
    unfold names? at h
    split at h
    · cases h
    · rename_i first others kept
      cases h
      exact ⟨first, others, rfl, kept⟩
  unfold read at h
  split at h
  · rename_i name op value
    split at h
    · rename_i lone
      cases h
      exact .inl ⟨name, value, rfl, by rw [lone]⟩
    · exact .inr (listed h)
  · exact .inr (listed h)

theorem ForLoop.read_isOk {params : List Text} (h : ¬ params.length < 3) :
    ∃ l, read params = .ok l := by
  match params, h with
  | name :: start :: stop :: rest, _ => exact ⟨_, rfl⟩
  | [], h | [_], h | [_, _], h => simp at h

end Operands

namespace Pseudocode

variable (p : Pseudocode)

theorem requirePointers_failsWith (feature : PointerFeature) :
    FailsWith [.featureDisabled] (p.requirePointers feature) := by
  unfold requirePointers
  split
  · trivial
  · exact failsWith_error _

theorem typeName_failsWith (type : ValueType) : FailsWith [.type] (p.typeName type) := by
  cases type with
  | primitive keyword => exact p.types.resolve_failsWith keyword
  | array element dims => exact failsWith_map (p.types.resolve_failsWith element)
  | struct name => trivial

theorem param_failsWith (x : Param) : FailsWith [.type] (p.param x) :=
  failsWith_map (p.typeName_failsWith x.type)

theorem params_failsWith (tokens : List Text) :
    FailsWith [.type] ((ParamList.decode tokens).params.mapM p.param) :=
  failsWith_mapM p.param_failsWith

theorem functionHeader_failsWith {params more : List Text} {returnToken name : Text}
    (named : trimTrailingEmpty params = returnToken :: name :: more) :
    FailsWith [.type] (p.functionHeader params) := by
  unfold functionHeader
  rw [named]
  refine failsWith_bind (p.params_failsWith more) ?_
  intro rendered
  cases ReturnType.decode returnToken with
  | void => trivial
  | value type => exact failsWith_map (p.typeName_failsWith type)

theorem structBlock_failsWith (d : StructDef) : FailsWith [.type] (p.structBlock d) :=
  failsWith_map (failsWith_mapM p.param_failsWith)

theorem arrayLine_failsWith (d : ArrayDecl) : FailsWith [.type] (p.arrayLine d) :=
  failsWith_map (p.types.resolve_failsWith d.type)

theorem constLine_failsWith (d : ConstDecl) : FailsWith [.type] (p.constLine d) :=
  failsWith_map (p.types.resolve_failsWith d.type)

theorem releaseLine_failsWith (params : List Text) :
    FailsWith [.featureDisabled, .argument] (p.releaseLine params) := by
  refine failsWith_bind (failsWith_mono (p.requirePointers_failsWith .release) (by simp)) ?_
  intro _
  cases releaseText? params with
  | some text => trivial
  | none => exact failsWith_mono (failsWith_error _) (by simp [Cause.category])

theorem assignedValue_failsWith (value : List Text) :
    FailsWith [.featureDisabled, .argument] (p.assignedValue value) := by
  unfold assignedValue
  split
  · trivial
  · split
    · refine failsWith_bind (failsWith_mono (p.requirePointers_failsWith .allocation) (by simp)) ?_
      intro _
      split
      · exact failsWith_mono (failsWith_error _) (by simp [Cause.category])
      · trivial
    · split
      · trivial
      · exact failsWith_map (failsWith_mono (p.requirePointers_failsWith .addressOf) (by simp))

theorem compoundOperator?_of_endsWith {op : Text} (h : op.endsWith (· == '=') = true) :
    compoundOperator? op = some op.dropLast := by
  have last : op.getLast? = some '=' := by
    unfold Text.endsWith at h
    cases hl : op.getLast? with
    | none => simp [hl] at h
    | some c => simpa [hl] using h
  have byte : op.endsWith (·.utf8Size == 1) = true := by
    simp only [Text.endsWith, last]
    rfl
  exact if_pos byte

theorem assign_failsWith {name : Text} {rest : List Text}
    (operator : ∀ op, rest.head? = some op → op.endsWith (· == '=') = true) :
    FailsWith [.featureDisabled, .argument] (p.assign (name :: rest)) := by
  unfold assign
  dsimp only
  split
  · exact failsWith_map (p.assignedValue_failsWith rest.tail)
  · rename_i compound
    cases rest with
    | nil => exact absurd rfl compound
    | cons op value =>
      simp only [List.headD_cons, compoundOperator?_of_endsWith (operator op rfl)]
      trivial

theorem declaredType_failsWith (keyword : Text) :
    FailsWith [.featureDisabled, .type] (p.declaredType keyword) := by
  unfold declaredType
  split
  · refine failsWith_bind (failsWith_mono (p.requirePointers_failsWith .pointerType) (by simp)) ?_
    intro _
    exact failsWith_map (failsWith_mono (p.types.resolve_failsWith _) (by simp))
  · exact failsWith_mono (p.types.resolve_failsWith keyword) (by simp)

theorem declare_failsWith (keyword : Text) (rest : List Text) :
    FailsWith Category.ofLine (p.declare (keyword :: rest)) := by
  refine failsWith_bind (failsWith_mono (p.declaredType_failsWith keyword) (by decide)) ?_
  intro type
  refine failsWith_bind (failsWith_mono (Declared.read_failsWith keyword rest) (by decide)) ?_
  intro declared
  cases declared with
  | initialised name value =>
    refine failsWith_map (failsWith_mono (p.assign_failsWith ?_) (by decide))
    simp [Text.endsWith]
  | names first others => trivial

/-- Whatever a structural line lacks, its action has already missed. -/
theorem render_failsWith {entryPoint : Option Text} {k : Keyword} {i : Instruction}
    {a : BlockAction} (acts : BlockAction.ofLine entryPoint k i.params = .ok a)
    (closed : Option Frame) : FailsWith Category.ofLine (p.render k i closed) := by
  cases k with
  | forLoop =>
    obtain ⟨l, hl⟩ := ForLoop.read_isOk (BlockAction.ofLine_forLoop_eq_ok_iff.mp acts).1
    simp only [render, hl]
    trivial
  | fx =>
    obtain ⟨returnToken, name, more, named, _⟩ := BlockAction.ofFunction_eq_ok_iff.mp acts
    exact failsWith_map (failsWith_mono (p.functionHeader_failsWith named) (by decide))
  | arr =>
    refine failsWith_bind (failsWith_mono (ArrayDecl.read_failsWith i.params) (by decide)) ?_
    intro d
    exact failsWith_map (failsWith_mono (p.arrayLine_failsWith d) (by decide))
  | struct =>
    refine failsWith_bind (failsWith_mono (StructDef.read_failsWith i.params) (by decide)) ?_
    intro d
    exact failsWith_map (failsWith_mono (p.structBlock_failsWith d) (by decide))
  | init => exact failsWith_map (failsWith_mono (StructInit.read_failsWith i.params) (by decide))
  | const =>
    refine failsWith_bind (failsWith_mono (ConstDecl.read_failsWith i.params) (by decide)) ?_
    intro d
    exact failsWith_map (failsWith_mono (p.constLine_failsWith d) (by decide))
  | delete => exact failsWith_map (failsWith_mono (p.releaseLine_failsWith i.params) (by decide))
  | _ => trivial

end Pseudocode

namespace CPlusPlus

variable (c : CPlusPlus)

theorem param_failsWith (x : Param) : FailsWith [.type] (c.param x) := by
  unfold param
  cases x.type with
  | primitive keyword => exact failsWith_map (c.types.resolve_failsWith keyword)
  | array element dims => exact failsWith_map (c.types.resolve_failsWith element)
  | struct name => trivial

theorem params_failsWith (tokens : List Text) :
    FailsWith [.type] ((ParamList.decode tokens).params.mapM c.param) :=
  failsWith_mapM c.param_failsWith

theorem returnType_failsWith (type : ReturnType) : FailsWith [.type] (c.returnType type) := by
  match type with
  | .void => trivial
  | .value (.primitive keyword) => exact c.types.resolve_failsWith keyword
  | .value (.array element _) => exact failsWith_map (c.types.resolve_failsWith element)
  | .value (.struct _) => trivial

theorem functionHeader_failsWith {params more : List Text} {returnToken name : Text}
    (named : trimTrailingEmpty params = returnToken :: name :: more) :
    FailsWith [.type] (c.functionHeader params) := by
  unfold functionHeader
  rw [named]
  refine failsWith_bind (c.returnType_failsWith (ReturnType.decode returnToken)) ?_
  intro returned
  exact failsWith_map (c.params_failsWith more)

theorem structText_failsWith (d : StructDef) : FailsWith [.type] (c.structText d) :=
  failsWith_map (failsWith_mapM c.param_failsWith)

theorem arrayLine_failsWith (d : ArrayDecl) : FailsWith [.type] (c.arrayLine d) :=
  failsWith_map (c.types.resolve_failsWith d.type)

theorem constText_failsWith (d : ConstDecl) : FailsWith [.type] (c.constText d) :=
  failsWith_map (c.types.resolve_failsWith d.type)

theorem declaredType_failsWith (keyword : Text) : FailsWith [.type] (c.declaredType keyword) :=
  failsWith_map (c.types.resolve_failsWith _)

theorem declare_failsWith (keyword : Text) (rest : List Text) :
    FailsWith Category.ofLine (c.declare (keyword :: rest)) := by
  refine failsWith_bind (failsWith_mono (c.declaredType_failsWith keyword) (by decide)) ?_
  intro type
  refine failsWith_bind (failsWith_mono (Declared.read_failsWith keyword rest) (by decide)) ?_
  intro declared
  cases declared <;> trivial

theorem render_failsWith {entryPoint : Option Text} {k : Keyword} {i : Instruction}
    {a : BlockAction} (acts : BlockAction.ofLine entryPoint k i.params = .ok a)
    (closed : Option Frame) : FailsWith Category.ofLine (c.render k i closed) := by
  cases k with
  | forLoop =>
    obtain ⟨l, hl⟩ := ForLoop.read_isOk (BlockAction.ofLine_forLoop_eq_ok_iff.mp acts).1
    simp only [render, hl]
    trivial
  | fx =>
    obtain ⟨returnToken, name, more, named, _⟩ := BlockAction.ofFunction_eq_ok_iff.mp acts
    exact failsWith_map (failsWith_mono (c.functionHeader_failsWith named) (by decide))
  | arr =>
    refine failsWith_bind (failsWith_mono (ArrayDecl.read_failsWith i.params) (by decide)) ?_
    intro d
    exact failsWith_map (failsWith_mono (c.arrayLine_failsWith d) (by decide))
  | struct =>
    refine failsWith_bind (failsWith_mono (StructDef.read_failsWith i.params) (by decide)) ?_
    intro d
    exact failsWith_map (failsWith_mono (c.structText_failsWith d) (by decide))
  | init => exact failsWith_map (failsWith_mono (StructInit.read_failsWith i.params) (by decide))
  | const =>
    refine failsWith_bind (failsWith_mono (ConstDecl.read_failsWith i.params) (by decide)) ?_
    intro d
    exact failsWith_map (failsWith_mono (c.constText_failsWith d) (by decide))
  | _ => trivial

end CPlusPlus

namespace Backend

/-- What is wrong with a line lies in the line: its rendering fails only for what it says itself,
    and the same whatever block it closes and wherever it stands. A line that depends on the blocks
    around it can always be rendered. -/
structure SelfContained (b : Backend) : Prop where
  render_failsWith : ∀ {k i a}, BlockAction.ofLine b.entryPoint k i.params = .ok a →
    ∀ closed, FailsWith Category.ofLine (b.render k i closed)
  declare_failsWith : ∀ keyword rest, FailsWith Category.ofLine (b.declare (keyword :: rest))
  assign_failsWith : ∀ name rest,
    (∀ op, rest.head? = some op → op.endsWith (· == '=') = true) →
    FailsWith Category.ofLine (b.assign (name :: rest))
  render_error : ∀ {k i closed cause}, b.render k i closed = .error cause →
    ∀ closed' line, b.render k { i with line } closed' = .error cause
  render_isOk : ∀ {k}, k ∈ [.case, .default, .close, .returnValue] →
    ∀ i closed, ∃ r, b.render k i closed = .ok r

section SelfContained

variable {b : Backend} {l l' : SourceLine}

theorem isAssignment_of_resolve {i : Instruction} (h : b.resolve i = .assignment) :
    isAssignment i = true := by
  unfold resolve at h
  split at h
  · cases h
  · split at h
    · cases h
    · split at h
      · assumption
      · cases h

variable (hb : b.SelfContained)
include hb

theorem SelfContained.written_error (same : l.text = l'.text) {closed closed' : Option Frame}
    {cause : Cause} (h : b.written l closed = .error cause) : b.written l' closed' = .error cause := by
  obtain ⟨text, line⟩ := l
  obtain ⟨text', line'⟩ := l'
  cases same
  have resolution : b.resolve (SourceLine.instruction ⟨text, line'⟩) =
      b.resolve (SourceLine.instruction ⟨text, line⟩) := rfl
  unfold written at h ⊢
  rw [resolution]
  cases hr : b.resolve (SourceLine.instruction ⟨text, line⟩) with
  | keyword k =>
    rw [hr] at h
    exact hb.render_error h closed' line'
  | _ =>
    rw [hr] at h
    exact h

theorem SelfContained.written_failsWith {a : BlockAction} (acts : b.action l = .ok a)
    (closed : Option Frame) : FailsWith Category.ofLine (b.written l closed) := by
  unfold action at acts
  unfold written
  cases hr : b.resolve l.instruction with
  | keyword k =>
    rw [hr] at acts
    exact hb.render_failsWith acts closed
  | declaration => exact failsWith_map (hb.declare_failsWith _ _)
  | assignment =>
    refine failsWith_map (hb.assign_failsWith _ _ ?_)
    intro op first
    simpa [isAssignment, first] using isAssignment_of_resolve hr
  | passThrough => trivial

theorem SelfContained.written_isOk {a : BlockAction} {line : Nat} {stack : FrameStack}
    {fault : StructuralFault} (acts : b.action l = .ok a) (fails : a.apply line stack = .error fault)
    (closed : Option Frame) : ∃ r, b.written l closed = .ok r := by
  unfold action at acts
  unfold written
  cases hr : b.resolve l.instruction with
  | keyword k =>
    rw [hr] at acts
    exact hb.render_isOk (BlockAction.needs_of_apply_error acts fails) _ closed
  | _ =>
    rw [hr] at acts
    cases acts
    cases fails

end SelfContained

theorem selfContained_pseudocode (p : Pseudocode) : p.backend.SelfContained where
  render_failsWith acts closed := p.render_failsWith acts closed
  declare_failsWith := p.declare_failsWith
  assign_failsWith _ _ operator := failsWith_mono (p.assign_failsWith operator) (by decide)
  render_error {k i closed cause} h closed' line := by
    cases k with
    | close => cases h
    | _ => exact h
  render_isOk {k} needs i closed := by
    simp only [List.mem_cons, List.not_mem_nil, or_false] at needs
    rcases needs with rfl | rfl | rfl | rfl <;> exact ⟨_, rfl⟩

theorem selfContained_cpp (c : CPlusPlus) : c.backend.SelfContained where
  render_failsWith acts closed := c.render_failsWith acts closed
  declare_failsWith := c.declare_failsWith
  assign_failsWith _ _ _ := trivial
  render_error {k i closed cause} h closed' line := by
    cases k with
    | close => cases h
    | _ => exact h
  render_isOk {k} needs i closed := by
    simp only [List.mem_cons, List.not_mem_nil, or_false] at needs
    rcases needs with rfl | rfl | rfl | rfl <;> exact ⟨_, rfl⟩

theorem selfContained_backend (s : Settings) (target : Target) :
    (s.backend target).SelfContained := by
  cases target with
  | pseudocode => exact selfContained_pseudocode s.pseudocode
  | cpp => exact selfContained_cpp s.cpp

end Backend
end BlockScript
