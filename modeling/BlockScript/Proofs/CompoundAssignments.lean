import BlockScript.Proofs.AddedLine
import BlockScript.Proofs.IntegerExpressions

/-!
Compound assignments in both targets. C++ keeps `x op= e` and takes all of `e` for the operand; the
pseudocode has `x op e` written out behind the arrow, where only operators that `op` absorbs leave
`e` one operand.
-/
namespace BlockScript
open Text

structure Operand where
  text : Text
  expr : Expr
  reads : Expr.atom? text = some expr

namespace Operand

theorem isWord (t : Operand) : t.text.IsWord := by
  have reads := t.reads
  unfold Expr.atom? at reads
  split at reads
  · rename_i n number
    exact isWord_of_integer? number
  · split at reads
    · rename_i named
      exact named.1.isWord
    · cases reads

def ofVariable (x : Text) (named : x.IsVariable) : Operand where
  text := x
  expr := .name x
  reads := by
    unfold Expr.atom?
    rw [integer?_of_isVariable named]
    exact if_pos named

def ofDigits (n : Fin 11) : Operand := ⟨ofNat n.val, .number n.val, by revert n; decide⟩

end Operand

structure Formula where
  first : Operand
  rest : List (Operator × Operand)

namespace Formula

def tokens (e : Formula) : List Text :=
  e.first.text :: e.rest.flatMap fun p => [p.1.sign, p.2.text]

def operations (e : Formula) : List (Operator × Expr) := e.rest.map fun p => (p.1, p.2.expr)

def expr (e : Formula) : Expr := .assemble id e.first.expr e.operations

def operators (e : Formula) : List Operator := e.rest.map (·.1)

theorem operations?_flatMap (rest : List (Operator × Operand)) :
    Expr.operations? (rest.flatMap fun p => [p.1.sign, p.2.text]) =
      some (rest.map fun p => (p.1, p.2.expr)) := by
  induction rest with
  | nil => rfl
  | cons p rest ih =>
    have first : (p :: rest).flatMap (fun p => [p.1.sign, p.2.text]) =
        p.1.sign :: p.2.text :: rest.flatMap fun p => [p.1.sign, p.2.text] := rfl
    rw [first]
    simp only [Expr.operations?, Operator.ofText?_sign, p.2.reads, ih]
    rfl

theorem ofTokens?_tokens (e : Formula) : Expr.ofTokens? e.tokens = some e.expr := by
  unfold tokens Expr.ofTokens?
  simp only [e.first.reads, operations?_flatMap]
  rfl

theorem plain_of_mem_tokens {e : Formula} {t : Text} (mem : t ∈ e.tokens) :
    ' ' ∉ t ∧ '(' ∉ t ∧ ':' ∉ t := by
  have signs : ∀ o : Operator, ' ' ∉ o.sign ∧ '(' ∉ o.sign ∧ ':' ∉ o.sign := by
    intro o
    cases o <;> decide
  have words : ∀ t : Operand, ' ' ∉ t.text ∧ '(' ∉ t.text ∧ ':' ∉ t.text :=
    fun t => ⟨t.isWord.no_space, t.isWord.no_mark⟩
  rcases List.mem_cons.mp mem with rfl | later
  · exact words e.first
  · obtain ⟨p, _, inside⟩ := List.mem_flatMap.mp later
    rcases List.mem_cons.mp inside with rfl | inside
    · exact signs p.1
    · rw [List.mem_singleton.mp inside]
      exact words p.2

theorem exists_tokens_concat (e : Formula) :
    ∃ front last, e.tokens = front ++ [last] ∧ IsWord last := by
  unfold tokens
  rcases List.eq_nil_or_concat e.rest with none | ⟨before, p, some⟩
  · exact ⟨[], e.first.text, by rw [none]; rfl, e.first.isWord⟩
  · refine ⟨e.first.text :: before.flatMap (fun p => [p.1.sign, p.2.text]) ++ [p.1.sign], p.2.text,
      ?_, p.2.isWord⟩
    simp [some]

end Formula

def Pseudocode.assigned? (line : Text) : Option (Text × Expr) :=
  match tokenize line with
  | name :: arrow :: value =>
      if arrow = "<-" then (Expr.ofTokens? value).map (name, ·) else none
  | _ => none

/-- `name op= value;` assigns `name op (value)`. -/
def CPlusPlus.assigned? (line : Text) : Option (Text × Expr) := do
  match tokenize (← before? ';' line) with
  | name :: assign :: value =>
      let op ← (before? '=' assign).bind Operator.ofText?
      (Expr.ofTokens? value).map fun e => (name, .binary op (.name name) e)
  | _ => none

section Lines

variable (x : Text) (op : Operator) (e : Formula)

def Pseudocode.compoundText : Text := join " " (x :: "<-" :: x :: op.sign :: e.tokens)

def CPlusPlus.compoundText : Text := join " " (x :: (op.sign ++ "=") :: e.tokens)

def Formula.spelledOut : Expr := .assemble id (.name x) ((op, e.first.expr) :: e.operations)

def Formula.compound : Expr := .binary op (.name x) e.expr

variable {x op e}

theorem Pseudocode.assigned?_compoundText (named : x.IsVariable) :
    assigned? (compoundText x op e) = some (x, e.spelledOut x op) := by
  have cut : tokenize (compoundText x op e) = x :: "<-" :: x :: op.sign :: e.tokens := by
    refine tokenize_join _ ?_ (List.cons_ne_nil _ _)
    have space := named.1.isWord.no_space
    have sign : ' ' ∉ op.sign := by cases op <;> decide
    simp only [List.forall_mem_cons]
    exact ⟨space, by decide, space, sign, fun t mem => (Formula.plain_of_mem_tokens mem).1⟩
  have read : Expr.ofTokens? (x :: op.sign :: e.tokens) = some (e.spelledOut x op) :=
    Formula.ofTokens?_tokens ⟨.ofVariable x named, (op, e.first) :: e.rest⟩
  unfold assigned?
  rw [cut]
  dsimp only
  rw [if_pos rfl, read]
  rfl

theorem CPlusPlus.assigned?_compoundText (named : x.IsVariable) :
    assigned? (compoundText x op e ++ ";") = some (x, e.compound x op) := by
  have cut : tokenize (compoundText x op e) = x :: (op.sign ++ "=") :: e.tokens := by
    refine tokenize_join _ ?_ (List.cons_ne_nil _ _)
    have sign : ' ' ∉ op.sign ++ ("=" : Text) := by cases op <;> decide
    simp only [List.forall_mem_cons]
    exact ⟨named.1.isWord.no_space, sign, fun t mem => (Formula.plain_of_mem_tokens mem).1⟩
  have ended : before? ';' (compoundText x op e ++ ";") = some (compoundText x op e) :=
    before?_concat ';' _
  have assign : before? '=' (op.sign ++ "=") = some op.sign := before?_concat '=' _
  unfold assigned?
  rw [ended]
  simp only [Option.bind_eq_bind, Option.bind_some, cut, assign, Operator.ofText?_sign,
    e.ofTokens?_tokens, Option.map_some]
  rfl

end Lines

namespace Settings

def IsAssignable (s : Settings) (x : Text) : Prop :=
  x.IsVariable ∧ ∀ target, (s.backend target).keyword? x = none ∧
    (s.backend target).isTypeKeyword x = false

variable {s : Settings} {x : Text} {op : Operator} {e : Formula} {l : SourceLine}

theorem resolve_compound (assignable : s.IsAssignable x)
    (tokens : l.instruction.tokens = x :: (op.sign ++ "=") :: e.tokens) (target : Target) :
    (s.backend target).resolve l.instruction = .assignment := by
  obtain ⟨name, params⟩ : l.instruction.name = x ∧
      l.instruction.params = (op.sign ++ "=") :: e.tokens := List.cons.inj tokens
  obtain ⟨word, type⟩ := assignable.2 target
  have assigns : Backend.isAssignment l.instruction = true := by
    unfold Backend.isAssignment
    rw [params]
    cases op <;> rfl
  unfold Backend.resolve
  rw [name, word, type, assigns]
  rfl

theorem adds_assignment {target : Target} {parts : List Text} (word : x.IsWord)
    (resolved : (s.backend target).resolve l.instruction = .assignment)
    (assigns : (s.backend target).assign l.instruction.tokens = .ok [join " " (x :: parts)])
    (plain : ∀ part ∈ parts, '(' ∉ part ∧ ':' ∉ part) :
    (s.backend target).Adds l fun stack => s.padding target .assignment stack ++
      ended target .assignment (join " " (x :: parts)) := by
  have acts : (s.backend target).action l = .ok .plain := by
    unfold Backend.action
    rw [resolved]
  have writes : (s.backend target).written l none = .ok (.ofLine (join " " (x :: parts))) := by
    unfold Backend.written
    rw [resolved]
    dsimp only
    rw [assigns]
    rfl
  have solid : Text.isBlank (join " " (x :: parts)) = false := by
    obtain ⟨d, rest, rfl⟩ := List.exists_cons_of_ne_nil word.1
    refine CPlusPlus.not_isBlank (d := d) ?_ (word.solid d List.mem_cons_self)
    cases parts <;> simp [join_singleton, join_cons_cons]
  obtain ⟨free, foreign⟩ := unmarked_join _ (List.forall_mem_cons.mpr ⟨word.no_mark, plain⟩)
  exact adds_of_markFree resolved acts (.inl rfl) writes solid free foreign

theorem adds_spelledOut (assignable : s.IsAssignable x)
    (tokens : l.instruction.tokens = x :: (op.sign ++ "=") :: e.tokens) :
    (s.backend .pseudocode).Adds l fun stack =>
      s.padding .pseudocode .assignment stack ++ Pseudocode.compoundText x op e := by
  have word := assignable.1.1.isWord
  have assigns : s.pseudocode.assign l.instruction.tokens =
      .ok [join " " (x :: "<-" :: x :: op.sign :: e.tokens)] := by
    have operator : Pseudocode.compoundOperator? (op.sign ++ "=") = some op.sign := by
      cases op <;> decide
    have plain : op.sign ++ ("=" : Text) ≠ "=" := by cases op <;> decide
    have some : join " " (x :: op.sign :: e.tokens) ≠ [] := by
      rw [join_cons_cons]
      simp [word.1]
    have text : phrase (x ++ " <-") (join " " (x :: op.sign :: e.tokens)) =
        join " " (x :: "<-" :: x :: op.sign :: e.tokens) := by
      unfold phrase
      rw [if_neg some, join_cons_cons _ x "<-", join_cons_cons _ "<-"]
      simp only [String.reduceToList, List.append_assoc, List.cons_append, List.nil_append]
    rw [tokens, ← text]
    simp only [Pseudocode.assign, List.headD_cons, if_neg plain, operator, List.tail_cons]
    rfl
  have plain : ∀ part ∈ ("<-" : Text) :: x :: op.sign :: e.tokens, '(' ∉ part ∧ ':' ∉ part := by
    have sign : '(' ∉ op.sign ∧ ':' ∉ op.sign := by cases op <;> decide
    simp only [List.forall_mem_cons]
    exact ⟨by decide, word.no_mark, sign, fun t mem => (Formula.plain_of_mem_tokens mem).2⟩
  exact adds_assignment word (resolve_compound assignable tokens .pseudocode) assigns plain

theorem adds_compound (assignable : s.IsAssignable x)
    (tokens : l.instruction.tokens = x :: (op.sign ++ "=") :: e.tokens) :
    (s.backend .cpp).Adds l fun stack =>
      s.padding .cpp .assignment stack ++ (CPlusPlus.compoundText x op e ++ ";") := by
  have word := assignable.1.1.isWord
  have assigns : (s.backend .cpp).assign l.instruction.tokens =
      .ok [join " " (x :: (op.sign ++ "=") :: e.tokens)] := by
    rw [tokens]
    rfl
  have plain : ∀ part ∈ (op.sign ++ "=") :: e.tokens, '(' ∉ part ∧ ':' ∉ part := by
    have sign : '(' ∉ op.sign ++ ("=" : Text) ∧ ':' ∉ op.sign ++ ("=" : Text) := by
      cases op <;> decide
    exact List.forall_mem_cons.mpr ⟨sign, fun t mem => (Formula.plain_of_mem_tokens mem).2⟩
  have adds := adds_assignment word (resolve_compound assignable tokens .cpp) assigns plain
  obtain ⟨front, last, final, ends⟩ := e.exists_tokens_concat
  have ended : CPlusPlus.terminated .assignment (CPlusPlus.compoundText x op e) =
      CPlusPlus.compoundText x op e ++ ";" := by
    have whole : CPlusPlus.compoundText x op e =
        join " " (x :: (op.sign ++ "=") :: front) ++ " " ++ last := by
      unfold CPlusPlus.compoundText
      rw [final, ← List.cons_append, ← List.cons_append,
        join_append (List.cons_ne_nil _ _) (List.cons_ne_nil _ _), join_singleton]
    rw [whole]
    exact CPlusPlus.terminated_append_word (.inr rfl) ends _
  show (s.backend .cpp).Adds l _
  rw [← ended]
  exact adds

end Settings

/-- A compound assignment is written out in the pseudocode and kept in C++. Both assign the same
    unbounded integer, defined in the same environments, if the operator of the assignment absorbs
    those of the expression, whose literals have no leading zeros; with any other operators some
    operands give both a value, but not the same. -/
theorem Settings.compound_values_agree_iff (s : Settings) (x : Text) (op : Operator)
    (assignable : s.IsAssignable x) :
    (∀ (e : Formula) (l : SourceLine),
        l.instruction.tokens = x :: (op.sign ++ "=") :: e.tokens →
        let spelled := Pseudocode.compoundText x op e
        let kept := CPlusPlus.compoundText x op e ++ ";"
        ((s.backend .pseudocode).Adds l fun stack =>
            s.padding .pseudocode .assignment stack ++ spelled) ∧
          ((s.backend .cpp).Adds l fun stack => s.padding .cpp .assignment stack ++ kept) ∧
          Pseudocode.assigned? spelled = some (x, e.spelledOut x op) ∧
          CPlusPlus.assigned? kept = some (x, e.compound x op)) ∧
      ∀ ops : List Operator,
        ((∀ o ∈ ops, op.absorbs o = true) → ∀ e : Formula, e.operators = ops → ∀ env,
          (e.spelledOut x op).value? env = (e.compound x op).value? env) ∧
        ((∃ o ∈ ops, op.absorbs o = false) → ∃ e : Formula, e.operators = ops ∧ ∃ env v w,
          (e.spelledOut x op).value? env = some v ∧ (e.compound x op).value? env = some w ∧
            v ≠ w) := by
  refine ⟨?_, ?_⟩
  · intro e l tokens spelled kept
    exact ⟨adds_spelledOut assignable tokens, adds_compound assignable tokens,
      Pseudocode.assigned?_compoundText assignable.1, CPlusPlus.assigned?_compoundText assignable.1⟩
  · intro ops
    refine ⟨?_, ?_⟩
    · rintro absorbed e rfl env
      refine Expr.value?_of_absorbs env _ _ ?_
      intro p mem
      obtain ⟨q, inside, rfl⟩ := List.mem_map.mp mem
      exact absorbed q.1 (List.mem_map_of_mem inside)
    · intro apart
      obtain ⟨env, first, rest, rfl, v, w, spelled, kept, differ⟩ := Expr.exists_values_ne x apart
      let e : Formula := ⟨.ofDigits first, rest.map fun p => (p.1, .ofDigits p.2)⟩
      have operations : e.operations = rest.map fun p => (p.1, .number p.2.val) := by
        simp [e, Formula.operations, Operand.ofDigits, Function.comp_def]
      refine ⟨e, by simp [e, Formula.operators, Function.comp_def], env, v, w, ?_, ?_, differ⟩
      · rw [Formula.spelledOut, operations]
        exact spelled
      · rw [Formula.compound, Formula.expr, operations]
        exact kept

theorem Settings.compound_values_agree_iff_product :
    let s : Settings := {}
    let e : Formula := ⟨.ofVariable "y" (by decide), [(.times, .ofDigits 3)]⟩
    (∃ after, (s.backend .pseudocode).step ⟨"x *= y * 3", 1⟩ {} = .ok () after ∧
        after.body = [("x <- x * y * 3" : Text)]) ∧
      ∀ env, (e.spelledOut "x" .times).value? env = (e.compound "x" .times).value? env := by
  intro s e
  have assignable : s.IsAssignable "x" :=
    ⟨by decide, fun target => by cases target <;> exact ⟨by decide, by decide⟩⟩
  obtain ⟨lines, values⟩ := Settings.compound_values_agree_iff s "x" .times assignable
  obtain ⟨spells, _⟩ := lines e ⟨"x *= y * 3", 1⟩ (by decide)
  obtain ⟨after, steps, _, body⟩ := spells {}
  cases steps
  exact ⟨⟨_, rfl, body.trans (by decide +kernel)⟩, (values [.times]).1 (by decide) e rfl⟩

/-- A sum is none: the pseudocode adds 2 to the product, and C++ to the factor. -/
theorem Settings.compound_sum_apart :
    let s : Settings := {}
    let spelled : Expr := .binary .plus (.binary .times (.name "x") (.name "y")) (.number 2)
    let kept : Expr := .binary .times (.name "x") (.binary .plus (.name "y") (.number 2))
    (s.backend .pseudocode).compile ["x *= y + 2"] = .ok "Début\n\tx <- x * y + 2\nFin" ∧
      (s.backend .cpp).compile ["x *= y + 2"] =
        .ok "#include <iostream>\n\nint main() \x7b\n\tx *= y + 2;\n\treturn 0;\n\x7d" ∧
      Pseudocode.assigned? "x <- x * y + 2" = some (("x" : Text), spelled) ∧
      CPlusPlus.assigned? "x *= y + 2;" = some (("x" : Text), kept) ∧
      spelled.value? (fun _ => 2) = some 6 ∧ kept.value? (fun _ => 2) = some 8 := by
  intro s spelled kept
  refine ⟨by decide +kernel, by decide +kernel, by decide, by decide, by decide, by decide⟩

end BlockScript
