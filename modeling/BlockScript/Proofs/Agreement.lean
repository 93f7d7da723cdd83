import BlockScript.Proofs.Lockstep
import BlockScript.Proofs.TwoRuns

/-!
Two targets with the same type keywords accept the same programs, as long as a program asks for
nothing that only one of them has: a release of memory, a function named like the entry point, or an
allocation without a type.
-/
namespace BlockScript

def TypeTable.SameKeys (t u : TypeTable) : Prop :=
  ∀ keyword, t.contains keyword = u.contains keyword

theorem TypeTable.contains_iff {t : TypeTable} {keyword : Text} :
    t.contains keyword = true ↔ keyword ∈ t.entries.map (·.1) := by
  unfold contains get?
  rw [List.lookup_isSome_iff, List.mem_map]
  simp only [beq_iff_eq, @eq_comm Text keyword]

theorem TypeTable.sameKeys_iff {t u : TypeTable} :
    t.SameKeys u ↔ ∀ keyword, keyword ∈ t.entries.map (·.1) ↔ keyword ∈ u.entries.map (·.1) := by
  simp only [SameKeys, ← contains_iff]
  exact forall_congr' fun _ => Bool.eq_iff_iff

theorem TypeTable.sameKeys_default : french.SameKeys cpp := by
  have keywords : french.entries.map (·.1) = cpp.entries.map (·.1) := by decide
  rw [sameKeys_iff, keywords]
  exact fun _ => Iff.rfl

namespace Backend

def assigned? (b : Backend) (i : Instruction) : Option (List Text) :=
  match b.resolve i, i.params with
  | .declaration, _ :: op :: value => if op = "=" then some value else none
  | .assignment, op :: value => if op = "=" then some value else none
  | _, _ => none

/-- The line asks for nothing that only one of the targets has. -/
structure Portable (b : Backend) (i : Instruction) : Prop where
  keyword : i.name ≠ ("delete" : Text)
  function : i.name = ("fx" : Text) → i.params[1]? ≠ some ("main" : Text)
  value : b.assigned? i ≠ some [("new" : Text)]

end Backend

theorem BlockAction.ofFunction_entryPoint {params : List Text} {main : Text}
    (free : params[1]? ≠ some main) : ofFunction (some main) params = ofFunction none params := by
  unfold ofFunction
  split
  · rename_i returnToken name more named
    obtain ⟨dropped, whole⟩ := trimTrailingEmpty_isPrefix params
    rw [named] at whole
    have other : main ≠ name := by
      rintro rfl
      exact free (by rw [← whole]; rfl)
    simp [other]
  · rfl

section Types

variable {t u : TypeTable} (keys : t.SameKeys u)
include keys

theorem TypeTable.resolve_agree (keyword : Text) :
    Agree (t.resolve keyword) (u.resolve keyword) := by
  have same := keys keyword
  unfold contains at same
  unfold resolve
  cases ht : t.get? keyword with
  | some spelling =>
    obtain ⟨spelling', hu⟩ := Option.isSome_iff_exists.mp (same ▸ congrArg Option.isSome ht : _)
    rw [hu]
    trivial
  | none =>
    have hu : u.get? keyword = none := by simpa [ht] using same.symm
    rw [hu]
    exact agree_refl _

end Types

section Targets

variable {p : Pseudocode} {c : CPlusPlus} (keys : p.types.SameKeys c.types)
include keys

theorem param_agree (x : Param) : Agree (p.param x) (c.param x) := by
  unfold Pseudocode.param CPlusPlus.param Pseudocode.typeName
  cases x.type with
  | primitive keyword => exact agree_map (TypeTable.resolve_agree keys keyword)
  | array element dims =>
    simp only [bind_assoc, pure_bind]
    exact agree_map (TypeTable.resolve_agree keys element)
  | struct name => trivial

theorem returnType_agree (type : ValueType) :
    Agree (p.typeName type) (c.returnType (.value type)) := by
  cases type with
  | primitive keyword => exact TypeTable.resolve_agree keys keyword
  | array element dims => exact agree_map (TypeTable.resolve_agree keys element)
  | struct name => trivial

/-- One target reads the parameters first and the other the return type; both find unknown types
    only. -/
theorem functionHeader_agree {params more : List Text} {returnToken name : Text}
    (named : trimTrailingEmpty params = returnToken :: name :: more) :
    Agree (p.functionHeader params) (c.functionHeader params) := by
  unfold Pseudocode.functionHeader CPlusPlus.functionHeader
  rw [named]
  have parameters : Agree ((ParamList.decode more).params.mapM p.param)
      ((ParamList.decode more).params.mapM c.param) := agree_mapM (param_agree keys)
  cases hr : ReturnType.decode returnToken with
  | void =>
    simp only [hr]
    exact agree_map parameters
  | value type =>
    simp only [hr]
    exact agree_swap (p.params_failsWith more) (p.typeName_failsWith type) parameters
      (returnType_agree keys type)

theorem declaredType_agree (pointers : p.pointers = true) (keyword : Text) :
    Agree (p.declaredType keyword) (c.declaredType keyword) := by
  have base := TypeTable.resolve_agree keys (keyword.dropEndWhile (· == '*'))
  unfold Pseudocode.declaredType CPlusPlus.declaredType
  split
  · simp only [Pseudocode.requirePointers, if_pos pointers]
    exact agree_map base
  · rename_i plain
    rw [Text.dropEndWhile_of_endsWith_eq_false (Bool.eq_false_iff.mpr plain)] at base ⊢
    exact agree_map_right base

end Targets

section Values

variable {p : Pseudocode} (pointers : p.pointers = true)
include pointers

theorem assignedValue_isOk {value : List Text} (typed : value ≠ [("new" : Text)]) :
    ∃ spelled, p.assignedValue value = .ok spelled := by
  unfold Pseudocode.assignedValue
  simp only [Pseudocode.requirePointers, if_pos pointers]
  split
  · exact ⟨_, rfl⟩
  · rename_i first rest
    split
    · rename_i allocates
      cases rest with
      | nil => exact absurd (allocates ▸ rfl) typed
      | cons operand more => exact ⟨_, rfl⟩
    · cases Pseudocode.addressed? first with
      | none => exact ⟨_, rfl⟩
      | some target => exact ⟨_, rfl⟩

theorem assign_isOk (name : Text) {rest : List Text}
    (operator : ∀ op, rest.head? = some op → op.endsWith (· == '=') = true)
    (typed : rest.head? = some ("=" : Text) → rest.tail ≠ [("new" : Text)]) :
    ∃ lines, p.assign (name :: rest) = .ok lines := by
  unfold Pseudocode.assign
  cases rest with
  | nil => exact ⟨_, rfl⟩
  | cons op value =>
    dsimp only
    split
    · rename_i lone
      obtain ⟨spelled, h⟩ := assignedValue_isOk pointers (typed (congrArg some lone))
      exact ⟨_, by rw [h]; rfl⟩
    · have h := Pseudocode.compoundOperator?_of_endsWith (operator op rfl)
      exact ⟨_, by rw [List.headD_cons, h]⟩

end Values

section Written

variable {p : Pseudocode} {c : CPlusPlus} (keys : p.types.SameKeys c.types)
include keys

theorem declare_agree (pointers : p.pointers = true) {keyword : Text} {rest : List Text}
    (typed : ∀ name value, rest = name :: ("=" : Text) :: value → value ≠ [("new" : Text)]) :
    Agree (p.declare (keyword :: rest)) (c.declare (keyword :: rest)) := by
  refine agree_bind (declaredType_agree keys pointers keyword) ?_
  intro type type'
  refine agree_bind_same ?_
  intro declared read
  rcases Declared.read_eq_ok read with ⟨name, value, rfl, whole⟩ | ⟨first, others, rfl, _⟩
  · have operator : ∀ op : Text, (("=" : Text) :: value).head? = some op →
        op.endsWith (· == '=') = true := by
      rintro op ⟨⟩
      rfl
    obtain ⟨lines, h⟩ := assign_isOk pointers name operator
      fun _ => typed name value whole
    simp only [h]
    trivial
  · trivial

theorem render_agree {k : Keyword} {i : Instruction} {a : BlockAction} {entryPoint : Option Text}
    (shared : k ≠ .delete) (acts : BlockAction.ofLine entryPoint k i.params = .ok a)
    (closed : Option Frame) : Agree (p.render k i closed) (c.render k i closed) := by
  cases k with
  | forLoop => exact agree_map (agree_refl (ForLoop.read i.params))
  | fx =>
    obtain ⟨returnToken, name, more, named, _⟩ := BlockAction.ofFunction_eq_ok_iff.mp acts
    exact agree_map (functionHeader_agree keys named)
  | arr =>
    refine agree_bind_same ?_
    intro d _
    exact agree_map (agree_map (TypeTable.resolve_agree keys d.type))
  | struct =>
    refine agree_bind_same ?_
    intro d _
    exact agree_map (agree_map (agree_mapM (param_agree keys)))
  | init => exact agree_map (agree_refl (StructInit.read i.params))
  | const =>
    refine agree_bind_same ?_
    intro d _
    exact agree_map (agree_map (TypeTable.resolve_agree keys d.type))
  | delete => exact absurd rfl shared
  | _ => trivial

end Written

namespace Backend

section Lines

variable {p : Pseudocode} {c : CPlusPlus} (keys : p.types.SameKeys c.types) {l : SourceLine}

theorem keyword?_agree {word : Text} (shared : word ≠ ("delete" : Text)) :
    p.backend.keyword? word = c.backend.keyword? word := by
  rw [keyword?_pseudocode, keyword?_cpp]
  cases hk : Keyword.ofText? word with
  | none => rfl
  | some k =>
    have other : k ≠ .delete := by
      rintro rfl
      exact shared (Keyword.spelling_of_ofText? hk).symm
    rw [Option.filter_some, if_pos (decide_eq_true other)]

include keys in
theorem resolve_agree {i : Instruction} (shared : i.name ≠ ("delete" : Text)) :
    p.backend.resolve i = c.backend.resolve i := by
  have declares : p.backend.isTypeKeyword i.name = c.backend.isTypeKeyword i.name := by
    unfold isTypeKeyword
    dsimp only
    rw [show p.backend.types.contains _ = c.backend.types.contains _ from keys _]
  unfold resolve
  rw [keyword?_agree shared, declares]

theorem keyword?_of_resolve {b : Backend} {i : Instruction} {k : Keyword}
    (h : b.resolve i = .keyword k) : b.keyword? i.name = some k := by
  unfold resolve at h
  split at h
  · rename_i k' found
    cases h
    exact found
  · split at h
    · cases h
    · split at h <;> cases h

theorem spelling_of_keyword? {b : Backend} {word : Text} {k : Keyword}
    (h : b.keyword? word = some k) : word = k.spelling :=
  Keyword.ofText?_eq_some_iff.mp (Option.filter_eq_some_iff.mp h).1

theorem action_agree (portable : p.backend.Portable l.instruction) :
    p.backend.action l = c.backend.action l := by
  rw [action_eq, action_eq, keyword?_agree portable.keyword]
  cases hk : c.backend.keyword? l.instruction.name with
  | none => rfl
  | some k =>
    cases k with
    | fx =>
      have named : l.instruction.name = ("fx" : Text) := spelling_of_keyword? hk
      exact (BlockAction.ofFunction_entryPoint (portable.function named)).symm
    | _ => rfl

section Run

variable (pointers : p.pointers = true)
include keys pointers

theorem written_agree {a : BlockAction} (portable : p.backend.Portable l.instruction)
    (acts : p.backend.action l = .ok a) (closed : Option Frame) :
    Agree (p.backend.written l closed) (c.backend.written l closed) := by
  have value := portable.value
  unfold assigned? at value
  unfold action at acts
  unfold written
  rw [← resolve_agree keys portable.keyword]
  cases hr : p.backend.resolve l.instruction with
  | keyword k =>
    rw [hr] at acts
    have shared : k ≠ .delete := by
      rintro rfl
      exact portable.keyword (spelling_of_keyword? (keyword?_of_resolve hr))
    exact render_agree keys shared acts closed
  | declaration =>
    rw [hr] at value
    refine agree_map (declare_agree keys pointers ?_)
    intro name tokens whole
    rw [whole] at value
    simpa using value
  | assignment =>
    rw [hr] at value
    have operator : ∀ op, l.instruction.params.head? = some op → op.endsWith (· == '=') = true := by
      intro op first
      simpa [isAssignment, first] using isAssignment_of_resolve hr
    have typed : l.instruction.params.head? = some ("=" : Text) →
        l.instruction.params.tail ≠ [("new" : Text)] := by
      intro lone
      obtain ⟨tokens, whole⟩ := List.head?_eq_some_iff.mp lone
      rw [whole] at value ⊢
      simpa using value
    obtain ⟨lines, h⟩ := assign_isOk pointers l.instruction.name operator typed
    show Agree ((p.assign (l.instruction.name :: l.instruction.params)).map _) _
    rw [h]
    trivial
  | passThrough => trivial

theorem outcome_agree (portable : p.backend.Portable l.instruction) {s t : Context}
    (same : s.stack = t.stack) :
    Alike (fun d e => d.category = e.category) (fun s' t' => s'.stack = t'.stack)
      (p.backend.outcome l s) (c.backend.outcome l t) := by
  refine outcome_alike (B := Eq) (W := fun _ _ => True) ?_ ?_ ?_ ?_
  · rw [← action_agree portable]
    exact alike_refl (fun cause => Eq.refl cause.category) (fun _ => rfl) _
  · intro a _
    rw [← same]
    refine alike_refl ?_ ?_ _
    · exact fun _ => Eq.refl Category.structural
    · exact fun _ => ⟨rfl, rfl⟩
  · exact fun a acts => written_agree keys pointers portable acts
  · rintro stack _ _ _ _ rfl _
    exact Eq.refl stack

theorem reach_agree {lines : List SourceLine}
    (portable : ∀ l ∈ lines, p.backend.Portable l.instruction) {s t : Context}
    (same : s.stack = t.stack) :
    Alike (fun f g => f.category = g.category ∧ f.line = g.line)
      (fun s' t' => s'.stack = t'.stack) (p.backend.reach lines s) (c.backend.reach lines t) := by
  refine reach_alike (L := fun l l' => l = l' ∧ p.backend.Portable l.instruction) ?_ ?_ same
  · rintro l _ ⟨rfl, asks⟩ s t same
    refine alike_mono (outcome_agree keys pointers asks same) ?_ fun _ _ next => next
    exact fun _ _ category => ⟨category, rfl⟩
  · exact List.forall₂_same.mpr fun l mem => ⟨rfl, portable l mem⟩

end Run

end Lines

/-- The targets accept the same programs, and refuse the others on the same line for the same kind
    of fault, if a program keeps to what both have. -/
theorem targets_agree (s : Settings) (lines : List Text) (pointers : s.pointers = true)
    (keys : s.pseudocodeTypes.SameKeys s.cppTypes)
    (portable : ∀ l ∈ SourceLine.number lines,
      (s.backend .pseudocode).Portable l.instruction) :
    ((∃ out, (s.backend .pseudocode).compile lines = .ok out) ↔
        ∃ out, (s.backend .cpp).compile lines = .ok out) ∧
      ∀ f g, (s.backend .pseudocode).compile lines = .error f →
        (s.backend .cpp).compile lines = .error g → f.category = g.category ∧ f.line = g.line := by
  have alike : Alike (fun f g => f.category = g.category ∧ f.line = g.line) (fun _ _ => True)
      ((s.backend .pseudocode).compile lines) ((s.backend .cpp).compile lines) := by
    rw [compile_eq, compile_eq]
    have runs : Alike _ _ ((s.backend .pseudocode).reach _ {}) ((s.backend .cpp).reach _ {}) :=
      reach_agree (p := s.pseudocode) (c := s.cpp) keys pointers portable rfl
    refine alike_bind runs ?_
    intro ctx ctx' same
    unfold conclude
    rw [← same]
    cases ctx.stack with
    | nil => trivial
    | cons innermost others => exact ⟨rfl, rfl⟩
  exact ⟨isOk_iff_of_alike alike, fun f g => error_of_alike alike⟩

theorem targets_agree_misplaced_case :
    let s : Settings := { pointers := true }
    let lines : List Text := ["int* p = new int", "x += 1", "case 1"]
    ∃ f g, (s.backend .pseudocode).compile lines = .error f ∧
      (s.backend .cpp).compile lines = .error g ∧ f.category = g.category ∧ f.line = g.line := by
  intro s lines
  have portable : ∀ l ∈ SourceLine.number lines, (s.backend .pseudocode).Portable l.instruction := by
    refine List.forall_mem_cons.mpr ⟨⟨by decide, by decide, by decide⟩, ?_⟩
    refine List.forall_mem_cons.mpr ⟨⟨by decide, by decide, by decide⟩, ?_⟩
    exact List.forall_mem_singleton.mpr ⟨by decide, by decide, by decide⟩
  have agree := targets_agree s lines rfl TypeTable.sameKeys_default portable
  have fails : ((s.backend .pseudocode).compile lines).toOption.isSome = false := by
    decide +kernel
  cases hp : (s.backend .pseudocode).compile lines with
  | ok out =>
    rw [hp] at fails
    cases fails
  | error f =>
    cases hc : (s.backend .cpp).compile lines with
    | ok out =>
      obtain ⟨_, ok⟩ := agree.1.mpr ⟨out, hc⟩
      rw [hp] at ok
      cases ok
    | error g => exact ⟨f, g, rfl, rfl, agree.2 f g hp hc⟩

end Backend
end BlockScript
