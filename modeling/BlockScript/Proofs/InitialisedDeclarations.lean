import BlockScript.Proofs.AddedLine
import BlockScript.Proofs.Renumbering

/-!
Declarations with a value in pseudocode. `type name = value` writes what `type name` and
`name = value` write on two lines of their own, and fails where one of them does, so the one line
may stand for the two in every program.
-/
namespace BlockScript

section Tokens

theorem Text.dropEndWhile_append {p : Char → Bool} {s : Text} (kept : s.endsWith p = false)
    (t : Text) : dropEndWhile p (s ++ t) = s ++ dropEndWhile p t := by
  have whole := dropEndWhile_of_endsWith_eq_false kept
  unfold dropEndWhile at whole ⊢
  rw [List.reverse_append, List.dropWhile_append]
  split
  · rename_i gone
    rw [whole, List.isEmpty_iff.mp gone, List.reverse_nil, List.append_nil]
  · rw [List.reverse_append, List.reverse_reverse]

variable {word : Text}

theorem tokenize_trimmed_cons (uncut : ' ' ∉ word) (t : Text) :
    tokenize (Text.dropEndWhile (· == '\r') (word ++ ' ' :: t)) =
      word :: tokenize (t.dropEndWhile (· == '\r')) := by
  have kept : Text.endsWith (word ++ [' ']) (· == '\r') = false := by simp [Text.endsWith]
  have whole : word ++ ' ' :: t = (word ++ [' ']) ++ t := by simp
  rw [whole, Text.dropEndWhile_append kept, List.append_assoc]
  exact List.splitOn_append_cons_self_of_not_mem uncut _

theorem tokenize_trimmed_join (uncut : ' ' ∉ word) {parts : List Text} (more : parts ≠ []) :
    tokenize (Text.dropEndWhile (· == '\r') (Text.join " " (word :: parts))) =
      word :: tokenize ((Text.join " " parts).dropEndWhile (· == '\r')) := by
  obtain ⟨next, parts, rfl⟩ := List.exists_cons_of_ne_nil more
  rw [Text.join_cons_cons, List.append_assoc]
  exact tokenize_trimmed_cons uncut _

theorem exists_tokens_value (value : List Text) :
    ∃ rest, tokenize (Text.dropEndWhile (· == '\r') (Text.join " " (("=" : Text) :: value))) =
      ("=" : Text) :: rest := by
  by_cases none : value = []
  · rw [none]
    exact ⟨[], rfl⟩
  · exact ⟨_, tokenize_trimmed_join (by decide) none⟩

end Tokens

namespace Backend

variable {b : Backend} {l : SourceLine} {ctx : Context}

theorem resolve_of_tokens {first : Text} {params : List Text}
    (tokens : l.instruction.tokens = first :: params) :
    b.resolve l.instruction = b.resolve ⟨first, params, l.instruction.line⟩ := by
  obtain ⟨rfl, rfl⟩ := List.cons.inj tokens
  rfl

theorem outcome_of_declaration (declares : b.resolve l.instruction = .declaration) :
    b.outcome l ctx = (b.declare l.instruction.tokens).map fun lines =>
      b.settle l ctx ctx.stack none (.ofLines lines) := by
  unfold outcome action written
  rw [declares]
  cases b.declare l.instruction.tokens <;> rfl

theorem outcome_of_assignment (assigns : b.resolve l.instruction = .assignment) :
    b.outcome l ctx = (b.assign l.instruction.tokens).map fun lines =>
      b.settle l ctx ctx.stack none (.ofLines lines) := by
  unfold outcome action written
  rw [assigns]
  cases b.assign l.instruction.tokens <;> rfl

theorem NumberFree.compile_eq_ok_iff_of_place (hb : b.NumberFree) {before after : List Text}
    {one other : List Text} {out : Text}
    (sources : ∀ source source' ctx, b.assemble source ctx = b.assemble source' ctx)
    (same : ∀ ctx, Alike (fun _ _ => True) Eq (b.reach (SourceLine.unnumbered one) ctx)
      (b.reach (SourceLine.unnumbered other) ctx)) :
    b.compile (before ++ one ++ after) = .ok out ↔ b.compile (before ++ other ++ after) = .ok out := by
  refine hb.compile_eq_ok_iff_of_reach (fun ctx => sources _ _ ctx) ?_
  unfold SourceLine.unnumbered at same ⊢
  simp only [List.map_append, reach_append]
  refine alike_bind (alike_bind_same (fun _ => trivial) fun ctx _ => same ctx) ?_
  rintro ctx _ rfl
  exact alike_refl (fun _ => trivial) (fun _ => rfl) _

end Backend

namespace Pseudocode

variable {p : Pseudocode} {l : SourceLine} {ctx : Context} {keyword x : Text} {value : List Text}

def added (p : Pseudocode) (ctx : Context) (lines : List Text) : Context :=
  ({ ctx with closed := none, current := [] } : Context).commit
    ((lines.filter (· ≠ [])).map fun text =>
      Text.times ctx.stack.depth p.indent ++ substitute nativeNames text)

theorem added_added (first second : List Text) :
    p.added (p.added ctx first) second = p.added ctx (first ++ second) := by
  unfold added Context.commit Context.relocating Context.closesFunction
  cases within : ctx.stack.inFunction <;> simp [within]

theorem settle_ofLines (level : (p.backend.resolve l.instruction).isDelimiter = false)
    (lines : List Text) :
    p.backend.settle l ctx ctx.stack none (.ofLines lines) = p.added ctx lines := by
  have emitted : p.backend.emitted l ctx.stack (.ofLines lines) =
      (lines.filter (· ≠ [])).map fun text =>
        Text.times ctx.stack.depth p.indent ++ substitute nativeNames text := by
    show p.finish _ ctx.stack _ = _
    simp only [finish, Resolution.indentDepth, level, Bool.false_eq_true, if_false]
    rfl
  unfold Backend.settle added Context.commit Context.relocating Context.closesFunction
  rw [emitted]
  cases within : ctx.stack.inFunction <;>
    simp [Backend.relocates, within, Rendering.ofLines]

theorem outcome_of_declaration (declares : p.backend.resolve l.instruction = .declaration)
    (ctx : Context) :
    p.backend.outcome l ctx = (p.declare l.instruction.tokens).map (p.added ctx) := by
  have level : (p.backend.resolve l.instruction).isDelimiter = false := by rw [declares]; rfl
  rw [Backend.outcome_of_declaration declares]
  exact congrArg (Except.map · _) (funext (settle_ofLines level))

theorem outcome_of_assignment (assigns : p.backend.resolve l.instruction = .assignment)
    (ctx : Context) :
    p.backend.outcome l ctx = (p.assign l.instruction.tokens).map (p.added ctx) := by
  have level : (p.backend.resolve l.instruction).isDelimiter = false := by rw [assigns]; rfl
  rw [Backend.outcome_of_assignment assigns]
  exact congrArg (Except.map · _) (funext (settle_ofLines level))

theorem declare_initialised (keyword x : Text) (value : List Text) :
    p.declare (keyword :: x :: ("=" : Text) :: value) = do
      let type ← p.declaredType keyword
      return (x ++ " : " ++ type) :: (← p.assign (x :: ("=" : Text) :: value)) := rfl

theorem declare_name (keyword : Text) (named : x ≠ []) :
    p.declare [keyword, x] = do
      let type ← p.declaredType keyword
      return [x ++ " : " ++ type] := by
  have read : Declared.read keyword [x] = .ok (.names x []) := by
    simp [Declared.read, Declared.names?, named]
  unfold declare
  simp only [read, bind, Except.bind, Text.join_singleton, plural, decide_true, Bool.true_or,
    if_true, List.append_nil]

/-- The one line adds what the two add, or fails as the first of them that fails. -/
theorem reach_initialised {one : SourceLine} {first second : SourceLine}
    (declares : ∀ params n, p.backend.resolve ⟨keyword, params, n⟩ = .declaration)
    (assigns : ∀ params n, p.backend.resolve ⟨x, ("=" : Text) :: params, n⟩ = .assignment)
    (named : x ≠ []) (whole : one.instruction.tokens = keyword :: x :: ("=" : Text) :: value)
    (name : first.instruction.tokens = [keyword, x])
    (given : second.instruction.tokens = x :: ("=" : Text) :: value) (ctx : Context) :
    Alike (fun _ _ => True) Eq (p.backend.reach [one] ctx) (p.backend.reach [first, second] ctx) := by
  have resolvesOne := (Backend.resolve_of_tokens whole).trans (declares _ _)
  have resolvesFirst := (Backend.resolve_of_tokens name).trans (declares _ _)
  have resolvesSecond := (Backend.resolve_of_tokens given).trans (assigns _ _)
  have one := outcome_of_declaration resolvesOne ctx
  have first := outcome_of_declaration resolvesFirst ctx
  rw [whole, declare_initialised] at one
  rw [name, declare_name keyword named] at first
  cases type : p.declaredType keyword with
  | error cause =>
    rw [type] at one first
    rw [Backend.reach_cons, Backend.reach_cons, one, first]
    trivial
  | ok type' =>
    have second := outcome_of_assignment resolvesSecond (p.added ctx [x ++ " : " ++ type'])
    rw [given] at second
    rw [type] at one first
    rw [Backend.reach_cons, Backend.reach_cons, one, first]
    show Alike _ _ _ (p.backend.reach [_] (p.added ctx [x ++ " : " ++ type']))
    rw [Backend.reach_cons, second]
    cases p.assign (x :: ("=" : Text) :: value) with
    | error cause => trivial
    | ok lines => exact (p.added_added [x ++ " : " ++ type'] lines).symm

end Pseudocode

/-- A declaration with a value is short for the declaration and the assignment on lines of their
    own: one program has an output exactly when the other has, and it is the same. -/
theorem Pseudocode.initialised_declaration (p : Pseudocode) (before after : List Text)
    (keyword x : Text) (value : List Text)
    (declares : ∀ params n, p.backend.resolve ⟨keyword, params, n⟩ = .declaration)
    (uncut : ' ' ∉ keyword ∧ ' ' ∉ x) (named : x ≠ []) (unreturned : '\r' ∉ x)
    (structural : ∀ k : Keyword, x ≠ k.spelling) (type : p.backend.isTypeKeyword x = false)
    (out : Text) :
    p.backend.compile
        (before ++ [Text.join " " (keyword :: x :: ("=" : Text) :: value)] ++ after) = .ok out ↔
      p.backend.compile
        (before ++ [Text.join " " [keyword, x], Text.join " " (x :: ("=" : Text) :: value)] ++
          after) = .ok out := by
  obtain ⟨rest, tokens⟩ := exists_tokens_value value
  have assigns : ∀ params n, p.backend.resolve ⟨x, ("=" : Text) :: params, n⟩ = .assignment := by
    intro params n
    have other : p.backend.keyword? x = none := by
      unfold Backend.keyword?
      rw [Option.filter_eq_none_iff]
      intro k spelled
      exact absurd (Keyword.ofText?_eq_some_iff.mp spelled) (structural k)
    unfold Backend.resolve
    rw [other]
    dsimp only
    rw [type]
    rfl
  have given : tokenize (Text.dropEndWhile (· == '\r') (Text.join " " (x :: ("=" : Text) :: value))) =
      x :: ("=" : Text) :: rest := by
    rw [tokenize_trimmed_join uncut.2 (List.cons_ne_nil _ _), tokens]
  have whole : tokenize (Text.dropEndWhile (· == '\r')
      (Text.join " " (keyword :: x :: ("=" : Text) :: value))) =
      keyword :: x :: ("=" : Text) :: rest := by
    rw [tokenize_trimmed_join uncut.1 (List.cons_ne_nil _ _), given]
  have name : tokenize (Text.dropEndWhile (· == '\r') (Text.join " " [keyword, x])) =
      [keyword, x] := by
    have kept : x.endsWith (· == '\r') = false := by
      rw [Text.endsWith, ← Bool.not_eq_true, Option.any_eq_true]
      rintro ⟨c, last, returned⟩
      rw [beq_iff_eq.mp returned] at last
      exact unreturned (List.mem_of_getLast? last)
    rw [tokenize_trimmed_join uncut.1 (List.cons_ne_nil _ _), Text.join_singleton,
      Text.dropEndWhile_of_endsWith_eq_false kept]
    exact congrArg (keyword :: ·) (List.splitOn_eq_singleton uncut.2)
  refine (Backend.numberFree_pseudocode p).compile_eq_ok_iff_of_place (fun _ _ _ => rfl) ?_
  intro ctx
  show Alike _ _ (p.backend.reach [_] ctx) (p.backend.reach [_, _] ctx)
  exact Pseudocode.reach_initialised declares assigns named
    ((SourceLine.tokens_instruction _).trans whole) ((SourceLine.tokens_instruction _).trans name)
    ((SourceLine.tokens_instruction _).trans given) ctx

theorem Pseudocode.initialised_declaration_allocated :
    let p : Pseudocode := { pointers := true }
    let lines : List Text :=
      ["while x", "fx void f", "int* q", "q = new int[3]", "end", "end"]
    p.backend.compile lines =
      .ok ("Début\n\tTant Que x\n\tFin Tant Que\nFin\n\n\tProcédure f ()\n" ++
        "\t\tq : Pointeur sur Entier\n\t\tq <- Réserver Entier[3]\n\tFin Procédure") := by
  intro p lines
  have declares : ∀ params n, p.backend.resolve ⟨"int*", params, n⟩ = .declaration :=
    fun _ _ => rfl
  have other : ∀ k : Keyword, ("q" : Text) ≠ k.spelling := by
    intro k
    cases k <;> decide
  refine (Pseudocode.initialised_declaration p ["while x", "fx void f"] ["end", "end"] "int*" "q"
    ["new", "int[3]"] declares (by decide) (by decide) (by decide) other (by decide) _).mp ?_
  decide +kernel

end BlockScript
