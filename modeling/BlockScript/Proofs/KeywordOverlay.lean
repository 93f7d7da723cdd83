import BlockScript.Proofs.Agreement
import BlockScript.Proofs.FirstDifference

/-!
Type keywords that are added to those of a target. A table that spells every old keyword as before
can only accept what was refused for an unknown type. In two places a word is compared with the
keywords without need of one, the first token of a line and the operand of an allocation; where the
added keywords are none of these words, every program that compiled comes to the same output.
-/
namespace BlockScript

namespace TypeTable

variable {t u : TypeTable} {entries : List (Text × Text)} {keyword : Text}

theorem get?_extend_of_not_mem (other : ∀ e ∈ entries, e.1 ≠ keyword) :
    (t.extend entries).get? keyword = t.get? keyword := by
  induction entries generalizing t with
  | nil => rfl
  | cons e entries ih =>
    obtain ⟨first, others⟩ := List.forall_mem_cons.mp other
    have rest : ((t.insert e.1 e.2).extend entries).get? keyword =
        (t.insert e.1 e.2).get? keyword := ih others
    show ((t.insert e.1 e.2).extend entries).get? keyword = t.get? keyword
    rw [rest, get?_insert, if_neg first.symm]

/-- Every keyword of the first table has its spelling in the second. -/
def Extends (t u : TypeTable) : Prop :=
  ∀ keyword spelling, t.get? keyword = some spelling → u.get? keyword = some spelling

theorem extends_extend (fresh : ∀ e ∈ entries, t.contains e.1 = false) :
    t.Extends (t.extend entries) := by
  intro keyword spelling listed
  rw [get?_extend_of_not_mem, listed]
  rintro e mem rfl
  have absent := fresh e mem
  simp [contains, listed] at absent

theorem Extends.resolve (h : t.Extends u) (keyword : Text) :
    SameUnless (·.category = .type) (t.resolve keyword) (u.resolve keyword) := by
  unfold TypeTable.resolve
  cases listed : t.get? keyword with
  | none =>
    have unknown : (Cause.unknownType keyword).category = .type := rfl
    exact sameUnless_error unknown _
  | some spelling =>
    rw [h keyword spelling listed]
    exact sameUnless_refl _

end TypeTable

namespace Backend

def allocatedWords : List Text → List Text
  | first :: operand :: _ => if first = "new" then [operand.takeWhile (· ≠ '[')] else []
  | _ => []

/-- The words of a line that are compared with the type keywords, and are in order if they are
    none: the first token without stars, and the type of an allocation. -/
def lookedUp (b : Backend) (i : Instruction) : List Text :=
  i.name.dropEndWhile (· == '*') :: ((b.assigned? i).map allocatedWords).getD []

def SpelledAlike (b : Backend) (u : TypeTable) (i : Instruction) : Prop :=
  ∀ word ∈ b.lookedUp i, u.get? word = b.types.get? word

variable {b c : Backend} {l : SourceLine}

theorem SpelledAlike.resolve (alike : b.SpelledAlike c.types l.instruction)
    (keywords : b.keywords = c.keywords) : b.resolve l.instruction = c.resolve l.instruction := by
  have keyword : b.keyword? l.instruction.name = c.keyword? l.instruction.name := by
    unfold keyword?
    rw [keywords]
  have declares : b.isTypeKeyword l.instruction.name = c.isTypeKeyword l.instruction.name := by
    unfold isTypeKeyword TypeTable.contains
    dsimp only
    rw [alike _ List.mem_cons_self]
  unfold Backend.resolve
  rw [keyword, declares]

theorem action_of_resolve (same : b.resolve l.instruction = c.resolve l.instruction)
    (entryPoint : b.entryPoint = c.entryPoint) : b.action l = c.action l := by
  unfold action
  rw [same, entryPoint]

theorem settle_of_resolve (same : b.resolve l.instruction = c.resolve l.instruction)
    (finish : b.finish = c.finish) (ctx : Context) (stack : FrameStack) (closed : Option Frame)
    (r : Rendering) : b.settle l ctx stack closed r = c.settle l ctx stack closed r := by
  unfold settle emitted
  rw [same, finish]

end Backend

namespace Pseudocode

def setTypes (p : Pseudocode) (types : TypeTable) : Pseudocode := { p with types }

section Rendering

variable (p : Pseudocode) {u : TypeTable} (h : p.types.Extends u)
include h

theorem typeName_setTypes (type : ValueType) :
    SameUnless (·.category = .type) (p.typeName type) ((p.setTypes u).typeName type) := by
  cases type with
  | primitive keyword => exact h.resolve keyword
  | array element dims => exact sameUnless_map _ (h.resolve element)
  | struct name => exact sameUnless_refl _

theorem param_setTypes (x : Param) :
    SameUnless (·.category = .type) (p.param x) ((p.setTypes u).param x) :=
  sameUnless_map _ (p.typeName_setTypes h x.type)

theorem functionHeader_setTypes (params : List Text) :
    SameUnless (·.category = .type) (p.functionHeader params)
      ((p.setTypes u).functionHeader params) := by
  unfold functionHeader
  split
  · refine sameUnless_bind (sameUnless_mapM (p.param_setTypes h)) ?_
    intro rendered
    dsimp only
    split
    · exact sameUnless_refl _
    · exact sameUnless_map _ (p.typeName_setTypes h _)
  · exact sameUnless_refl _

theorem structBlock_setTypes (d : StructDef) :
    SameUnless (·.category = .type) (p.structBlock d) ((p.setTypes u).structBlock d) :=
  sameUnless_map _ (sameUnless_mapM (p.param_setTypes h))

theorem arrayLine_setTypes (d : ArrayDecl) :
    SameUnless (·.category = .type) (p.arrayLine d) ((p.setTypes u).arrayLine d) :=
  sameUnless_map _ (h.resolve d.type)

theorem constLine_setTypes (d : ConstDecl) :
    SameUnless (·.category = .type) (p.constLine d) ((p.setTypes u).constLine d) :=
  sameUnless_map _ (h.resolve d.type)

theorem declaredType_setTypes (keyword : Text) :
    SameUnless (·.category = .type) (p.declaredType keyword)
      ((p.setTypes u).declaredType keyword) := by
  unfold declaredType
  split
  · refine sameUnless_bind_same ?_
    intro _
    exact sameUnless_map _ (h.resolve _)
  · exact h.resolve keyword

theorem render_setTypes (k : Keyword) (i : Instruction) (closed : Option Frame) :
    SameUnless (·.category = .type) (p.render k i closed) ((p.setTypes u).render k i closed) := by
  cases k with
  | fx => exact sameUnless_map _ (p.functionHeader_setTypes h i.params)
  | arr => exact sameUnless_bind_same fun d => sameUnless_map _ (p.arrayLine_setTypes h d)
  | struct => exact sameUnless_bind_same fun d => sameUnless_map _ (p.structBlock_setTypes h d)
  | const => exact sameUnless_bind_same fun d => sameUnless_map _ (p.constLine_setTypes h d)
  | _ => exact sameUnless_refl _

end Rendering

section Values

variable {p : Pseudocode} {u : TypeTable} {value : List Text}

def AllocatesAlike (p : Pseudocode) (u : TypeTable) (value : List Text) : Prop :=
  ∀ word ∈ Backend.allocatedWords value, u.get? word = p.types.get? word

theorem assignedValue_setTypes (alike : p.AllocatesAlike u value) :
    p.assignedValue value = (p.setTypes u).assignedValue value := by
  match value with
  | [] => rfl
  | [first] => rfl
  | first :: operand :: more =>
    unfold assignedValue
    dsimp only
    split
    · rename_i allocates
      have mem : operand.takeWhile (· ≠ '[') ∈
          Backend.allocatedWords (first :: operand :: more) := by
        simp [Backend.allocatedWords, allocates]
      have same := alike _ mem
      have spelled : p.allocated operand = (p.setTypes u).allocated operand := by
        unfold allocated
        dsimp only [setTypes]
        rw [same]
      simp only [spelled]
      rfl
    · rfl

theorem assign_setTypes (name : Text) {rest : List Text}
    (alike : rest.headD ("=" : Text) = ("=" : Text) → p.AllocatesAlike u rest.tail) :
    p.assign (name :: rest) = (p.setTypes u).assign (name :: rest) := by
  unfold assign
  dsimp only
  split
  · rename_i lone
    rw [assignedValue_setTypes (alike lone)]
  · rfl

theorem declare_setTypes (h : p.types.Extends u) (keyword : Text) {rest : List Text}
    (alike : ∀ name value, rest = name :: ("=" : Text) :: value → p.AllocatesAlike u value) :
    SameUnless (·.category = .type) (p.declare (keyword :: rest))
      ((p.setTypes u).declare (keyword :: rest)) := by
  refine sameUnless_bind (p.declaredType_setTypes h keyword) ?_
  intro type
  cases read : Declared.read keyword rest with
  | error cause => exact sameUnless_refl _
  | ok declared =>
    rcases Declared.read_eq_ok read with ⟨name, value, rfl, whole⟩ | ⟨first, others, rfl, _⟩
    · have same : p.assign (name :: ("=" : Text) :: value) =
          (p.setTypes u).assign (name :: ("=" : Text) :: value) :=
        assign_setTypes name fun _ => alike name value whole
      refine .inl ?_
      simp only [bind, Except.bind, same]
    · exact sameUnless_refl _

end Values

theorem written_setTypes {p : Pseudocode} {u : TypeTable} (h : p.types.Extends u) {l : SourceLine}
    (alike : p.backend.SpelledAlike u l.instruction) (closed : Option Frame) :
    SameUnless (·.category = .type) (p.backend.written l closed)
      ((p.setTypes u).backend.written l closed) := by
  have resolution : p.backend.resolve l.instruction =
      (p.setTypes u).backend.resolve l.instruction := alike.resolve rfl
  have allocates : ∀ value, p.backend.assigned? l.instruction = some value →
      p.AllocatesAlike u value := by
    intro value assigned word mem
    refine alike word (List.mem_cons_of_mem _ ?_)
    rw [assigned]
    exact mem
  unfold Backend.assigned? at allocates
  unfold Backend.written
  rw [← resolution]
  cases resolved : p.backend.resolve l.instruction with
  | keyword k => exact p.render_setTypes h k l.instruction closed
  | declaration =>
    rw [resolved] at allocates
    refine sameUnless_map _ (declare_setTypes h _ ?_)
    intro name value whole
    rw [whole] at allocates
    exact allocates value rfl
  | assignment =>
    rw [resolved] at allocates
    have sign := Backend.isAssignment_of_resolve resolved
    obtain ⟨op, first, _⟩ := (Option.any_eq_true _ _).mp sign
    obtain ⟨value, operands⟩ := List.head?_eq_some_iff.mp first
    rw [operands] at allocates
    have same : p.assign l.instruction.tokens = (p.setTypes u).assign l.instruction.tokens := by
      refine assign_setTypes l.instruction.name ?_
      rw [operands]
      rintro rfl
      exact allocates value rfl
    exact .inl (congrArg (Except.map _) same)
  | passThrough => exact sameUnless_refl _

end Pseudocode

namespace CPlusPlus

def setTypes (c : CPlusPlus) (types : TypeTable) : CPlusPlus := { c with types }

section Rendering

variable (c : CPlusPlus) {u : TypeTable} (h : c.types.Extends u)
include h

theorem param_setTypes (x : Param) :
    SameUnless (·.category = .type) (c.param x) ((c.setTypes u).param x) := by
  unfold param
  dsimp only
  split
  · exact sameUnless_map _ (h.resolve _)
  · exact sameUnless_map _ (h.resolve _)
  · exact sameUnless_refl _

theorem returnType_setTypes (type : ReturnType) :
    SameUnless (·.category = .type) (c.returnType type) ((c.setTypes u).returnType type) := by
  match type with
  | .void => exact sameUnless_refl _
  | .value (.primitive keyword) => exact h.resolve keyword
  | .value (.array element _) => exact sameUnless_map _ (h.resolve element)
  | .value (.struct _) => exact sameUnless_refl _

theorem functionHeader_setTypes (params : List Text) :
    SameUnless (·.category = .type) (c.functionHeader params)
      ((c.setTypes u).functionHeader params) := by
  unfold functionHeader
  split
  · exact sameUnless_refl _
  · refine sameUnless_bind (c.returnType_setTypes h _) ?_
    intro returned
    split
    · exact sameUnless_refl _
    · exact sameUnless_map _ (sameUnless_mapM (c.param_setTypes h))

theorem structText_setTypes (d : StructDef) :
    SameUnless (·.category = .type) (c.structText d) ((c.setTypes u).structText d) :=
  sameUnless_map _ (sameUnless_mapM (c.param_setTypes h))

theorem arrayLine_setTypes (d : ArrayDecl) :
    SameUnless (·.category = .type) (c.arrayLine d) ((c.setTypes u).arrayLine d) :=
  sameUnless_map _ (h.resolve d.type)

theorem constText_setTypes (d : ConstDecl) :
    SameUnless (·.category = .type) (c.constText d) ((c.setTypes u).constText d) :=
  sameUnless_map _ (h.resolve d.type)

theorem declare_setTypes (tokens : List Text) :
    SameUnless (·.category = .type) (c.declare tokens) ((c.setTypes u).declare tokens) := by
  unfold declare
  split
  · exact sameUnless_refl _
  · exact sameUnless_bind (sameUnless_map _ (h.resolve _)) fun _ => sameUnless_refl _

theorem render_setTypes (k : Keyword) (i : Instruction) (closed : Option Frame) :
    SameUnless (·.category = .type) (c.render k i closed) ((c.setTypes u).render k i closed) := by
  cases k with
  | fx => exact sameUnless_map _ (c.functionHeader_setTypes h i.params)
  | arr => exact sameUnless_bind_same fun d => sameUnless_map _ (c.arrayLine_setTypes h d)
  | struct => exact sameUnless_bind_same fun d => sameUnless_map _ (c.structText_setTypes h d)
  | const => exact sameUnless_bind_same fun d => sameUnless_map _ (c.constText_setTypes h d)
  | _ => exact sameUnless_refl _

end Rendering

theorem written_setTypes {c : CPlusPlus} {u : TypeTable} (h : c.types.Extends u) {l : SourceLine}
    (alike : c.backend.SpelledAlike u l.instruction) (closed : Option Frame) :
    SameUnless (·.category = .type) (c.backend.written l closed)
      ((c.setTypes u).backend.written l closed) := by
  have resolution : c.backend.resolve l.instruction =
      (c.setTypes u).backend.resolve l.instruction := alike.resolve rfl
  unfold Backend.written
  rw [← resolution]
  cases c.backend.resolve l.instruction with
  | keyword k => exact c.render_setTypes h k l.instruction closed
  | declaration => exact sameUnless_map _ (c.declare_setTypes h l.instruction.tokens)
  | assignment => exact sameUnless_refl _
  | passThrough => exact sameUnless_refl _

end CPlusPlus

namespace Settings

def overlay (s : Settings) (target : Target) (entries : List (Text × Text)) : Settings :=
  match target with
  | .pseudocode => { s with pseudocodeTypes := s.pseudocodeTypes.extend entries }
  | .cpp => { s with cppTypes := s.cppTypes.extend entries }

variable (s : Settings) (target : Target) {entries : List (Text × Text)}

theorem outcome_overlay {l : SourceLine}
    (fresh : ∀ e ∈ entries, (s.backend target).types.contains e.1 = false)
    (apart : ∀ e ∈ entries, e.1 ∉ (s.backend target).lookedUp l.instruction) (ctx : Context) :
    SameUnless (·.category = .type) ((s.backend target).outcome l ctx)
      (((s.overlay target entries).backend target).outcome l ctx) := by
  have alike : (s.backend target).SpelledAlike ((s.backend target).types.extend entries)
      l.instruction := by
    intro word looksUp
    apply TypeTable.get?_extend_of_not_mem
    rintro e mem rfl
    exact apart e mem looksUp
  have extends_ := TypeTable.extends_extend fresh
  cases target with
  | pseudocode =>
    have resolves : (s.backend .pseudocode).resolve l.instruction =
        ((s.overlay .pseudocode entries).backend .pseudocode).resolve l.instruction :=
      alike.resolve rfl
    exact Backend.outcome_sameUnless_of_line (Backend.action_of_resolve resolves rfl)
      (Pseudocode.written_setTypes (p := s.pseudocode) extends_ alike)
      (Backend.settle_of_resolve resolves rfl) ctx
  | cpp =>
    have resolves : (s.backend .cpp).resolve l.instruction =
        ((s.overlay .cpp entries).backend .cpp).resolve l.instruction := alike.resolve rfl
    exact Backend.outcome_sameUnless_of_line (Backend.action_of_resolve resolves rfl)
      (CPlusPlus.written_setTypes (c := s.cpp) extends_ alike)
      (Backend.settle_of_resolve resolves rfl) ctx

/-- New type keywords that no line looks up leave a program as it is: what compiled comes to the
    same output, and what failed for anything but an unknown type fails alike. -/
theorem compile_overlay (s : Settings) (target : Target) (entries : List (Text × Text))
    (lines : List Text) (fresh : ∀ e ∈ entries, (s.backend target).types.contains e.1 = false)
    (apart : ∀ l ∈ SourceLine.number lines, ∀ e ∈ entries,
      e.1 ∉ (s.backend target).lookedUp l.instruction) :
    (∀ out, (s.backend target).compile lines = .ok out →
        ((s.overlay target entries).backend target).compile lines = .ok out) ∧
      ∀ fault, (s.backend target).compile lines = .error fault → fault.category ≠ .type →
        ((s.overlay target entries).backend target).compile lines = .error fault := by
  have assembles : (s.backend target).assemble =
      ((s.overlay target entries).backend target).assemble := by
    cases target <;> rfl
  have step : ∀ l ∈ SourceLine.number lines, ∀ ctx,
      SameUnless (·.category = .type) ((s.backend target).outcome l ctx)
        (((s.overlay target entries).backend target).outcome l ctx) :=
    fun l mem => s.outcome_overlay target fresh (apart l mem)
  rcases Backend.compile_sameUnless_of_lines step assembles with
    same | ⟨cause, n, _, unknown, fails, _⟩
  · rw [same]
    exact ⟨fun _ compiles => compiles, fun _ fails _ => fails⟩
  · rw [fails]
    constructor
    · intro out compiles
      cases compiles
    · rintro _ ⟨⟩ other
      exact absurd unknown other

theorem compile_overlay_unused :
    let s : Settings := { pointers := true }
    let entries : List (Text × Text) := [("long", "Entier long"), ("t", "Tableau")]
    let lines : List Text := ["int* t"]
    ((s.overlay .pseudocode entries).backend .pseudocode).compile lines =
        .ok ("Début\n\t" ++ "t : Pointeur sur Entier" ++ "\nFin") ∧
      ((s.overlay .pseudocode entries).backend .pseudocode).compile (lines ++ [("int*" : Text)]) =
        .error ⟨.argument (.variableName "int*"), 2⟩ := by
  intro s entries lines
  have fresh : ∀ e ∈ entries, (s.backend .pseudocode).types.contains e.1 = false := by decide
  have compiled := compile_overlay s .pseudocode entries lines fresh (by decide +kernel)
  have refused := compile_overlay s .pseudocode entries (lines ++ [("int*" : Text)]) fresh
    (by decide +kernel)
  refine ⟨compiled.1 _ (by decide +kernel), refused.2 _ (by decide +kernel) ?_⟩
  decide

end Settings

end BlockScript
