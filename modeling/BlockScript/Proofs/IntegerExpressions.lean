import BlockScript.Proofs.Words

/-!
Integer expressions without parentheses, read with the usual precedence from the left. Their values
are unbounded integers, so no operation overflows, and a literal has no leading zeros. What stands
behind an operand and an operator is not always read as one operand: the operators in it decide.
-/
namespace BlockScript

inductive Operator where
  | plus | minus | times | divide | remainder
  deriving DecidableEq, Repr

namespace Operator

def all : List Operator := [plus, minus, times, divide, remainder]

def sign : Operator → Text
  | plus => "+"
  | minus => "-"
  | times => "*"
  | divide => "/"
  | remainder => "%"

def ofText? (t : Text) : Option Operator := all.find? (·.sign == t)

/-- Division truncates, and there is none by zero. -/
def apply : Operator → Int → Int → Option Int
  | plus, m, n => some (m + n)
  | minus, m, n => some (m - n)
  | times, m, n => some (m * n)
  | divide, m, n => if n = 0 then none else some (m.tdiv n)
  | remainder, m, n => if n = 0 then none else some (m.tmod n)

def isAdditive : Operator → Bool
  | plus | minus => true
  | _ => false

/-- `m op n o p` is `m op (n o p)`, whatever the operands. -/
def absorbs : Operator → Operator → Bool
  | plus, _ => true
  | minus, o => !o.isAdditive
  | times, o => o = times
  | divide, _ | remainder, _ => false

/-- An operand that changes nothing behind the operator, if what stands before it is a digit. -/
def neutral : Operator → Fin 11
  | plus | minus => 0
  | times | divide => 1
  | remainder => 10

/-- Operands `m`, `n` and `p` that tell `m op n o p` from `m op (n o p)`. -/
def distinguishing : Operator → Operator → Fin 11 × Fin 11 × Fin 11
  | times, divide | times, remainder => (2, 1, 2)
  | times, _ => (2, 1, 1)
  | divide, times => (4, 1, 2)
  | divide, divide => (8, 4, 2)
  | divide, remainder => (6, 3, 2)
  | divide, _ => (4, 2, 1)
  | remainder, times => (3, 2, 2)
  | remainder, divide => (5, 4, 2)
  | remainder, remainder => (1, 3, 2)
  | remainder, _ => (4, 3, 2)
  | _, _ => (0, 1, 1)

theorem isAdditive_of_absorbs {op o : Operator} (absorbed : op.absorbs o = true)
    (term : op ≠ plus) : o.isAdditive = false := by
  cases op with
  | plus => exact absurd rfl term
  | minus => simpa [absorbs] using absorbed
  | times =>
    have same : o = times := by simpa [absorbs] using absorbed
    rw [same]
    rfl
  | divide | remainder => cases absorbed

theorem ofText?_sign (o : Operator) : ofText? o.sign = some o := by cases o <;> decide

end Operator

inductive Expr where
  | name (t : Text)
  | number (n : Int)
  | binary (op : Operator) (left right : Expr)
  deriving DecidableEq, Repr

namespace Expr

/-- An unbounded integer; there is none where an operation has none. -/
def value? (env : Text → Int) : Expr → Option Int
  | name t => some (env t)
  | number n => some n
  | binary op left right =>
      (left.value? env).bind fun m => (right.value? env).bind fun n => op.apply m n

/-- A variable or a literal without leading zeros. -/
def atom? (t : Text) : Option Expr :=
  match Text.integer? t with
  | some n => some (number n)
  | none => if t.IsVariable then some (name t) else none

/-- The expression, given the operators and operands to come: `pending` takes the term at hand once
    that is complete. -/
def assemble (pending : Expr → Expr) (term : Expr) : List (Operator × Expr) → Expr
  | [] => pending term
  | (op, operand) :: rest =>
      if op.isAdditive then assemble (binary op (pending term)) operand rest
      else assemble pending (binary op term operand) rest

def operations? : List Text → Option (List (Operator × Expr))
  | [] => some []
  | [_] => none
  | op :: operand :: rest => do
      return (← Operator.ofText? op, ← atom? operand) :: (← operations? rest)

def ofTokens? : List Text → Option Expr
  | [] => none
  | first :: rest => do return assemble id (← atom? first) (← operations? rest)

example : ofTokens? ["a", "-", "b", "*", "2", "+", "c"] =
    some (binary .plus (binary .minus (name "a") (binary .times (name "b") (number 2)))
      (name "c")) := by
  decide

section Values

variable {env : Text → Int} {pending pending' : Expr → Expr} {term term' operand : Expr}
  {rest : List (Operator × Expr)} {op o : Operator} {n : Int}

def Alike (env : Text → Int) (pending pending' : Expr → Expr) : Prop :=
  ∀ s t, s.value? env = t.value? env → (pending s).value? env = (pending' t).value? env

theorem alike_id : Alike env id id := fun _ _ same => same

theorem alike_binary (op : Operator) {left left' : Expr}
    (same : left.value? env = left'.value? env) :
    Alike env (binary op left) (binary op left') := by
  intro s t terms
  rw [value?, value?, same, terms]

theorem value?_assemble_congr (alike : Alike env pending pending')
    (same : term.value? env = term'.value? env) (rest : List (Operator × Expr)) :
    (assemble pending term rest).value? env = (assemble pending' term' rest).value? env := by
  induction rest generalizing pending pending' term term' with
  | nil => exact alike _ _ same
  | cons operation rest ih =>
    obtain ⟨op, operand⟩ := operation
    unfold assemble
    split
    · exact ih (alike_binary op (alike _ _ same)) rfl
    · refine ih alike ?_
      rw [value?, value?, same]

theorem value?_sum {left sum right : Expr} (additive : op.isAdditive = true)
    (same : sum.value? env = (binary .plus left right).value? env) (operand : Expr) :
    (binary op sum operand).value? env =
      (binary .plus left (binary op right operand)).value? env := by
  simp only [value?] at same ⊢
  rw [same]
  cases left.value? env <;> cases right.value? env <;> cases operand.value? env <;>
    cases op <;> simp_all [Operator.apply, Operator.isAdditive] <;> omega

theorem value?_product {left product right : Expr}
    (same : product.value? env = (binary .times left right).value? env) (operand : Expr) :
    (binary .times product operand).value? env =
      (binary .times left (binary .times right operand)).value? env := by
  simp only [value?] at same ⊢
  rw [same]
  cases left.value? env <;> cases right.value? env <;> cases operand.value? env <;>
    simp [Operator.apply, Int.mul_assoc]

theorem value?_assemble_plus {left : Expr}
    (link : ∀ s, (pending s).value? env = (binary .plus left (pending' s)).value? env)
    (term : Expr) (rest : List (Operator × Expr)) :
    (assemble pending term rest).value? env =
      (binary .plus left (assemble pending' term rest)).value? env := by
  induction rest generalizing pending pending' term with
  | nil => exact link term
  | cons operation rest ih =>
    obtain ⟨op, operand⟩ := operation
    unfold assemble
    split
    · rename_i additive
      exact ih (value?_sum additive (link term)) operand
    · exact ih link _

theorem assemble_of_term (term : Expr) (binds : ∀ p ∈ rest, p.1.isAdditive = false) :
    assemble pending term rest = pending (assemble id term rest) := by
  induction rest generalizing term with
  | nil => rfl
  | cons operation rest ih =>
    obtain ⟨first, later⟩ := List.forall_mem_cons.mp binds
    simp only [assemble, first, Bool.false_eq_true, if_false]
    exact ih _ later

theorem value?_assemble_times {left product : Expr} (only : ∀ p ∈ rest, p.1 = .times)
    (same : product.value? env = (binary .times left term).value? env) :
    (assemble id product rest).value? env =
      (binary .times left (assemble id term rest)).value? env := by
  induction rest generalizing product term with
  | nil => exact same
  | cons operation rest ih =>
    obtain ⟨op, operand⟩ := operation
    obtain ⟨rfl, later⟩ := List.forall_mem_cons.mp only
    exact ih later (value?_product same operand)

theorem value?_of_absorbs (env : Text → Int) (left first : Expr)
    (absorbed : ∀ p ∈ rest, op.absorbs p.1 = true) :
    (assemble id left ((op, first) :: rest)).value? env =
      (binary op left (assemble id first rest)).value? env := by
  cases op with
  | plus => exact value?_assemble_plus (fun s => rfl) first rest
  | minus =>
    have binds : ∀ p ∈ rest, p.1.isAdditive = false := by
      intro p mem
      simpa [Operator.absorbs] using absorbed p mem
    exact congrArg (value? env) (assemble_of_term first binds)
  | times =>
    have only : ∀ p ∈ rest, p.1 = .times := by
      intro p mem
      simpa [Operator.absorbs] using absorbed p mem
    exact value?_assemble_times only rfl
  | divide | remainder =>
    cases rest with
    | nil => rfl
    | cons operation rest => cases absorbed operation List.mem_cons_self

def IsDigit (env : Text → Int) (term : Expr) : Prop := ∃ n ∈ term.value? env, 0 ≤ n ∧ n < 10

instance (env : Text → Int) (term : Expr) : Decidable (IsDigit env term) :=
  inferInstanceAs (Decidable (∃ n ∈ term.value? env, 0 ≤ n ∧ n < 10))

def neutrals (ops : List Operator) : List (Operator × Expr) :=
  ops.map fun op => (op, number op.neutral.val)

theorem value?_neutral_additive (additive : op.isAdditive = true) (left : Expr) :
    (binary op left (number op.neutral.val)).value? env = left.value? env := by
  rw [value?]
  cases left.value? env <;> cases op <;>
    simp_all [value?, Operator.apply, Operator.isAdditive, Operator.neutral]

theorem value?_neutral_term (digit : IsDigit env term) (binds : op.isAdditive = false) :
    (binary op term (number op.neutral.val)).value? env = term.value? env := by
  obtain ⟨n, value, low, high⟩ := digit
  have small : n.tmod 10 = n := Int.tmod_eq_of_lt low high
  rw [value?, value]
  cases op with
  | plus | minus => cases binds
  | times | divide => simp [value?, Operator.apply, Operator.neutral]
  | remainder => exact congrArg some small

theorem IsDigit.congr (digit : IsDigit env term) (same : term'.value? env = term.value? env) :
    IsDigit env term' := by
  obtain ⟨n, value, range⟩ := digit
  exact ⟨n, same.trans value, range⟩

theorem value?_assemble_neutrals (alike : Alike env pending pending) (digit : IsDigit env term)
    (ops : List Operator) :
    (assemble pending term (neutrals ops)).value? env = (pending term).value? env := by
  induction ops generalizing pending term with
  | nil => rfl
  | cons op ops ih =>
    show (assemble pending term ((op, number op.neutral.val) :: neutrals ops)).value? env = _
    unfold assemble
    split
    · rename_i additive
      have zero : IsDigit env (number op.neutral.val) := by
        refine ⟨_, rfl, ?_⟩
        revert additive
        cases op <;> decide
      rw [ih (alike_binary op rfl) zero, value?_neutral_additive additive]
    · rename_i binds
      have kept := value?_neutral_term digit (by simpa using binds)
      rw [ih alike (digit.congr kept)]
      exact alike _ _ kept

theorem value?_assemble_neutrals_append (alike : Alike env pending pending)
    (digit : IsDigit env term) {ops : List Operator} (binds : ∀ o ∈ ops, o.isAdditive = false)
    (rest : List (Operator × Expr)) :
    (assemble pending term (neutrals ops ++ rest)).value? env =
      (assemble pending term rest).value? env := by
  induction ops generalizing term with
  | nil => rfl
  | cons op ops ih =>
    obtain ⟨first, later⟩ := List.forall_mem_cons.mp binds
    have kept := value?_neutral_term digit first
    have same := value?_assemble_congr alike kept rest
    show (assemble pending term ((op, number op.neutral.val) :: (neutrals ops ++ rest))).value? env
      = _
    simp only [assemble, first, Bool.false_eq_true, if_false]
    rw [ih (digit.congr kept) later, same]

def nextPending (pending : Expr → Expr) (term : Expr) (op : Operator) : Expr → Expr :=
  if op.isAdditive then binary op (pending term) else pending

def nextTerm (term : Expr) (op : Operator) (operand : Expr) : Expr :=
  if op.isAdditive then operand else binary op term operand

theorem assemble_cons (pending : Expr → Expr) (term : Expr) (op : Operator) (operand : Expr)
    (rest : List (Operator × Expr)) :
    assemble pending term ((op, operand) :: rest) =
      assemble (nextPending pending term op) (nextTerm term op operand) rest := by
  unfold nextPending nextTerm
  conv => lhs; unfold assemble
  split <;> rfl

theorem alike_nextPending (alike : Alike env pending pending) (term : Expr) (op : Operator) :
    Alike env (nextPending pending term op) (nextPending pending term op) := by
  unfold nextPending
  split
  · exact alike_binary op rfl
  · exact alike

theorem value?_assemble_between (alike : Alike env pending pending) (digit : IsDigit env term)
    {before : List Operator} (binds : ∀ o ∈ before, o.isAdditive = false)
    (digit' : IsDigit env (nextTerm term op operand)) (after : List Operator) :
    (assemble pending term (neutrals before ++ (op, operand) :: neutrals after)).value? env =
      (assemble pending term [(op, operand)]).value? env := by
  rw [value?_assemble_neutrals_append alike digit binds, assemble_cons, assemble_cons]
  exact value?_assemble_neutrals (alike_nextPending alike term op) digit' after

end Values

theorem distinguishing_spec {op o : Operator} (apart : op.absorbs o = false) :
    let left := number (op.distinguishing o).1.val
    let first := number (op.distinguishing o).2.1.val
    let second := number (op.distinguishing o).2.2.val
    let env : Text → Int := fun _ => (op.distinguishing o).1.val
    let spelled := (assemble id left [(op, first), (o, second)]).value? env
    let compound := (binary op left (assemble id first [(o, second)])).value? env
    spelled ≠ none ∧ compound ≠ none ∧ spelled ≠ compound ∧
      IsDigit env (nextTerm left op first) ∧ IsDigit env first ∧
      IsDigit env (nextTerm (nextTerm left op first) o second) ∧
      IsDigit env (nextTerm first o second) := by
  revert apart
  cases op <;> cases o <;> decide

theorem exists_values_ne (x : Text) {op : Operator} {ops : List Operator}
    (apart : ∃ o ∈ ops, op.absorbs o = false) :
    ∃ (env : Text → Int) (first : Fin 11) (rest : List (Operator × Fin 11)),
      rest.map (·.1) = ops ∧
        let operations := rest.map fun p => (p.1, number p.2.val)
        ∃ v w, (assemble id (name x) ((op, number first.val) :: operations)).value? env = some v ∧
          (binary op (name x) (assemble id (number first.val) operations)).value? env = some w ∧
          v ≠ w := by
  -- the first operator that is not absorbed; those before it stay within its left operand
  obtain ⟨o, found⟩ : ∃ o, ops.find? (!op.absorbs ·) = some o := by
    rw [← Option.isSome_iff_exists, List.find?_isSome]
    obtain ⟨o, mem, out⟩ := apart
    exact ⟨o, mem, by simp [out]⟩
  obtain ⟨out, before, after, rfl, absorbed⟩ := List.find?_eq_some_iff_append.mp found
  have out : op.absorbs o = false := by simpa using out
  have term : op ≠ .plus := by
    rintro rfl
    cases out
  have binds : ∀ o ∈ before, o.isAdditive = false := by
    intro o mem
    exact Operator.isAdditive_of_absorbs (by simpa using absorbed o mem) term
  obtain ⟨spelled, compound, differ, digit₁, digit₂, digit₃, digit₄⟩ := distinguishing_spec out
  generalize op.distinguishing o = operands at *
  obtain ⟨left, first, second⟩ := operands
  obtain ⟨v, hv⟩ := Option.ne_none_iff_exists'.mp spelled
  obtain ⟨w, hw⟩ := Option.ne_none_iff_exists'.mp compound
  refine ⟨fun _ => left.val, first, before.map (fun o => (o, o.neutral)) ++ (o, second) ::
    after.map (fun o => (o, o.neutral)), by simp [Function.comp_def], ?_⟩
  intro operations
  have whole : operations = neutrals before ++ (o, number second.val) :: neutrals after := by
    simp [operations, neutrals, Function.comp_def]
  have same : (name x).value? (fun _ => left.val) = (number left.val).value? fun _ => left.val :=
    rfl
  refine ⟨v, w, ?_, ?_, ?_⟩
  · rw [value?_assemble_congr alike_id same, assemble_cons, whole,
      value?_assemble_between (alike_nextPending alike_id _ _) digit₁ binds digit₃, ← assemble_cons]
    exact hv
  · rw [whole, ← hw]
    exact alike_binary op same _ _ (value?_assemble_between alike_id digit₂ binds digit₄ after)
  · rintro rfl
    exact differ (hv.trans hw.symm)

end Expr

end BlockScript
