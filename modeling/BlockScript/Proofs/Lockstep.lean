import BlockScript.Proofs.LineFaults
import BlockScript.Proofs.Run

/-!
Two targets run over one program. They resolve lines differently and refuse different ones, but what
a line does to the open blocks is the same wherever both accept it, so the blocks stay in lockstep.
-/
namespace BlockScript

theorem BlockAction.ofLine_unique {e e' : Option Text} {k : Keyword} {params : List Text}
    {a a' : BlockAction} (h : ofLine e k params = .ok a) (h' : ofLine e' k params = .ok a') :
    a = a' := by
  cases k with
  | fx =>
    obtain ⟨returnToken, name, more, named, _, rfl⟩ := ofFunction_eq_ok_iff.mp h
    obtain ⟨returnToken', name', more', named', _, rfl⟩ := ofFunction_eq_ok_iff.mp h'
    rw [named] at named'
    cases named'
    rfl
  | _ => exact Except.ok.inj (h.symm.trans h')

theorem Fault.eq_structural {fault : Fault} (h : fault.category = .structural) :
    ∃ f n, fault = ⟨.structural f, n⟩ := by
  obtain ⟨cause, n⟩ := fault
  cases cause with
  | structural f => exact ⟨f, n, rfl⟩
  | _ => cases h

namespace Backend

/-- What a line does to the blocks is the same for both, where both accept its operands. -/
def ActsAlike (b c : Backend) : Prop :=
  ∀ l a a', b.action l = .ok a → c.action l = .ok a' → a = a'

theorem ActsAlike.symm {b c : Backend} (h : ActsAlike b c) : ActsAlike c b :=
  fun l a a' hc hb => (h l a' a hb hc).symm

theorem keyword?_pseudocode (p : Pseudocode) (word : Text) :
    p.backend.keyword? word = Keyword.ofText? word := by
  unfold keyword?
  cases Keyword.ofText? word with
  | none => rfl
  | some k => exact Option.filter_some_pos (decide_eq_true (Keyword.mem_all k))

theorem keyword?_cpp (c : CPlusPlus) (word : Text) :
    c.backend.keyword? word = (Keyword.ofText? word).filter (· ≠ .delete) := by
  unfold keyword?
  congr 1
  funext k
  cases k <;> rfl

theorem actsAlike_pseudocode_cpp (p : Pseudocode) (c : CPlusPlus) :
    ActsAlike p.backend c.backend := by
  intro l a a' hp hc
  rw [action_eq, keyword?_pseudocode] at hp
  rw [action_eq, keyword?_cpp] at hc
  cases hk : Keyword.ofText? l.instruction.name with
  | none =>
    rw [hk] at hp hc
    exact Except.ok.inj (hp.symm.trans hc)
  | some k =>
    rw [hk] at hp hc
    by_cases release : k = .delete
    · subst release
      exact Except.ok.inj (hp.symm.trans hc)
    · simp only [Option.filter_some, release, ne_eq, not_false_eq_true, decide_true] at hc
      exact BlockAction.ofLine_unique hp hc

section Lockstep

variable {b c : Backend} {l : SourceLine} {s s' t t' : Context}

theorem outcome_lockstep (alike : ActsAlike b c) (same : s.stack = s'.stack)
    (hb : b.outcome l s = .ok t) (hc : c.outcome l s' = .ok t') :
    t.stack = t'.stack ∧ t.closed = t'.closed := by
  obtain ⟨a, acts, stack, closed, applies, r, _, rfl⟩ := outcome_eq_ok_iff.mp hb
  obtain ⟨a', acts', stack', closed', applies', r', _, rfl⟩ := outcome_eq_ok_iff.mp hc
  cases alike l a a' acts acts'
  rw [same, applies'] at applies
  cases applies
  exact ⟨rfl, rfl⟩

theorem reach_lockstep (alike : ActsAlike b c) {lines : List SourceLine}
    (same : s.stack = s'.stack) (closed : s.closed = s'.closed)
    (hb : b.reach lines s = .ok t) (hc : c.reach lines s' = .ok t') :
    t.stack = t'.stack ∧ t.closed = t'.closed := by
  induction lines generalizing s s' with
  | nil =>
    cases hb; cases hc
    exact ⟨same, closed⟩
  | cons l rest ih =>
    obtain ⟨mid, first, hb⟩ := reach_cons_eq_ok_iff.mp hb
    obtain ⟨mid', first', hc⟩ := reach_cons_eq_ok_iff.mp hc
    obtain ⟨blocks, closings⟩ := outcome_lockstep alike same first first'
    exact ih blocks closings hb hc

theorem apply_of_outcome_structural (sound : b.SelfContained) {fault : StructuralFault}
    (h : b.outcome l s = .error (.structural fault)) :
    ∃ a, b.action l = .ok a ∧ a.apply l.index s.stack = .error fault := by
  rcases outcome_eq_error_iff.mp h with h | ⟨a, acts, ⟨f, applies, eq⟩ | ⟨_, closed, _, h⟩⟩
  · have own := category_of_failsWith (b.action_failsWith l) h
    simp [Cause.category, Category.ofLine] at own
  · cases eq
    exact ⟨a, acts, applies⟩
  · have own := category_of_failsWith (sound.written_failsWith acts closed) h
    simp [Cause.category, Category.ofLine] at own

theorem outcome_structural (alike : ActsAlike b c) (hb : b.SelfContained) (hc : c.SelfContained)
    (same : s.stack = s'.stack) {fault : StructuralFault}
    (h : b.outcome l s = .error (.structural fault)) :
    (∀ t', c.outcome l s' ≠ .ok t') ∧
      ∀ fault', c.outcome l s' = .error (.structural fault') → fault' = fault := by
  obtain ⟨a, acts, applies⟩ := apply_of_outcome_structural hb h
  constructor
  · intro t' ok
    obtain ⟨a', acts', stack, closed, applies', _⟩ := outcome_eq_ok_iff.mp ok
    rw [← alike l a a' acts acts', ← same, applies] at applies'
    cases applies'
  · intro fault' h'
    obtain ⟨a', acts', applies'⟩ := apply_of_outcome_structural hc h'
    rw [← alike l a a' acts acts', ← same, applies] at applies'
    exact (Except.error.inj applies').symm

theorem reach_structural (alike : ActsAlike b c) (hb : b.SelfContained) (hc : c.SelfContained)
    (same : s.stack = s'.stack) {lines : List SourceLine} {fault : StructuralFault} {n : Nat}
    (h : b.reach lines s = .error ⟨.structural fault, n⟩) :
    (∀ t', c.reach lines s' ≠ .ok t') ∧
      ∀ fault' n', c.reach lines s' = .error ⟨.structural fault', n'⟩ →
        fault' = fault ∧ n' = n := by
  induction lines generalizing s s' with
  | nil => cases h
  | cons l rest ih =>
    rcases reach_cons_eq_error_iff.mp h with ⟨cause, first, eq⟩ | ⟨mid, ok, h⟩
    · cases eq
      obtain ⟨fails, unique⟩ := outcome_structural alike hb hc same first
      constructor
      · intro t' run
        obtain ⟨mid', ok', _⟩ := reach_cons_eq_ok_iff.mp run
        exact fails mid' ok'
      · intro fault' n' run
        rcases reach_cons_eq_error_iff.mp run with ⟨cause', h', eq⟩ | ⟨mid', ok', _⟩
        · cases eq
          exact ⟨unique fault' h', rfl⟩
        · exact absurd ok' (fails mid')
    · cases hl : c.outcome l s' with
      | ok mid' =>
        have later := ih (outcome_lockstep alike same ok hl).1 h
        constructor
        · intro t' run
          obtain ⟨_, first, run⟩ := reach_cons_eq_ok_iff.mp run
          cases hl.symm.trans first
          exact later.1 t' run
        · intro fault' n' run
          rcases reach_cons_eq_error_iff.mp run with ⟨cause', h', _⟩ | ⟨_, first, run⟩
          · cases hl.symm.trans h'
          · cases hl.symm.trans first
            exact later.2 fault' n' run
      | error cause =>
        constructor
        · intro t' run
          obtain ⟨_, first, _⟩ := reach_cons_eq_ok_iff.mp run
          cases hl.symm.trans first
        · intro fault' n' run
          rcases reach_cons_eq_error_iff.mp run with ⟨cause', h', eq⟩ | ⟨_, first, _⟩
          · cases eq
            exact absurd ok ((outcome_structural alike.symm hc hb same.symm h').1 mid)
          · cases hl.symm.trans first

theorem compile_structural (alike : ActsAlike b c) (hb : b.SelfContained) (hc : c.SelfContained)
    {lines : List Text} {fault : StructuralFault} {n : Nat}
    (h : b.compile lines = .error ⟨.structural fault, n⟩) :
    (∀ out, c.compile lines ≠ .ok out) ∧
      ∀ fault' n', c.compile lines = .error ⟨.structural fault', n'⟩ →
        fault' = fault ∧ n' = n := by
  rcases compile_eq_error_iff.mp h with early | ⟨ctx, run, innermost, others, stack, eq⟩
  · obtain ⟨fails, unique⟩ := reach_structural alike hb hc rfl early
    constructor
    · intro out ok
      obtain ⟨ctx', run', _⟩ := compile_eq_ok_iff.mp ok
      exact fails ctx' run'
    · intro fault' n' h'
      rcases compile_eq_error_iff.mp h' with early' | ⟨ctx', run', _⟩
      · exact unique fault' n' early'
      · exact absurd run' (fails ctx')
  · constructor
    · intro out ok
      obtain ⟨ctx', run', empty, _⟩ := compile_eq_ok_iff.mp ok
      have same := (reach_lockstep alike rfl rfl run run').1
      rw [stack, empty] at same
      cases same
    · intro fault' n' h'
      rcases compile_eq_error_iff.mp h' with early' | ⟨ctx', run', innermost', others', stack', eq'⟩
      · exact absurd run ((reach_structural alike.symm hc hb rfl early').1 ctx)
      · have same := (reach_lockstep alike rfl rfl run run').1
        rw [stack, stack'] at same
        cases same
        cases eq.trans eq'.symm
        exact ⟨rfl, rfl⟩

end Lockstep

/-- The blocks stay the same for both targets line after line. So malformed nesting for one target
    is a failure for the other, and where both fail for nesting they name one fault on one line. -/
theorem blocks_in_lockstep (p : Pseudocode) (c : CPlusPlus) (lines : List Text) :
    (∀ k ctx ctx', p.backend.run ((SourceLine.number lines).take k) {} = .ok () ctx →
        c.backend.run ((SourceLine.number lines).take k) {} = .ok () ctx' →
        ctx.stack = ctx'.stack ∧ ctx.closed = ctx'.closed ∧ ctx.relocating = ctx'.relocating) ∧
      (∀ fault, p.backend.compile lines = .error fault → fault.category = .structural →
        ∀ out, c.backend.compile lines ≠ .ok out) ∧
      (∀ fault, c.backend.compile lines = .error fault → fault.category = .structural →
        ∀ out, p.backend.compile lines ≠ .ok out) ∧
      ∀ fault fault', p.backend.compile lines = .error fault →
        c.backend.compile lines = .error fault' → fault.category = .structural →
        fault'.category = .structural → fault' = fault := by
  have alike := actsAlike_pseudocode_cpp p c
  have hp := selfContained_pseudocode p
  have hc := selfContained_cpp c
  refine ⟨?_, ?_, ?_, ?_⟩
  · intro k ctx ctx' runP runC
    obtain ⟨stack, closed⟩ :=
      reach_lockstep alike rfl rfl (reach_eq_ok_iff.mpr runP) (reach_eq_ok_iff.mpr runC)
    refine ⟨stack, closed, ?_⟩
    rw [Context.relocating, Context.relocating, Context.closesFunction, Context.closesFunction,
      stack, closed]
  · intro fault h structural
    obtain ⟨f, n, rfl⟩ := Fault.eq_structural structural
    exact (compile_structural alike hp hc h).1
  · intro fault h structural
    obtain ⟨f, n, rfl⟩ := Fault.eq_structural structural
    exact (compile_structural alike.symm hc hp h).1
  · intro fault fault' h h' structural structural'
    obtain ⟨f, n, rfl⟩ := Fault.eq_structural structural
    obtain ⟨f', n', rfl⟩ := Fault.eq_structural structural'
    obtain ⟨rfl, rfl⟩ := (compile_structural alike hp hc h).2 f' n' h'
    rfl

end Backend
end BlockScript
