import Mathlib.Data.List.DropRight
import BlockScript.Proofs.BlankLines
import BlockScript.Proofs.Lockstep

/-!
What stands behind the operands of a function or a structure. Every reader drops the empty tokens
that spaces leave there. A type without a name is dropped from the header of a function and refused
as a field of a structure. It must stand behind one space: a second one encloses an empty token,
which is then a type, and what follows is its name.
-/
namespace BlockScript

/-- A further token behind one space, if there is one, and spaces. -/
def leftover (token? : Option Text) (spaces : Nat) : Text :=
  (token?.map (' ' :: ·)).getD [] ++ List.replicate spaces ' '

section Tokens

variable {line : Text} {tokens : List Text} {token? : Option Text}

theorem tokenize_append_space (s t : Text) : tokenize (s ++ ' ' :: t) = tokenize s ++ tokenize t :=
  List.splitOn_append_cons_self s t

theorem tokenize_append_replicate (line : Text) (n : Nat) :
    tokenize (line ++ List.replicate n ' ') = tokenize line ++ List.replicate n [] := by
  induction n generalizing line with
  | zero => simp
  | succ n ih =>
    have empty : tokenize [] = [[]] := rfl
    have spaces := ih []
    rw [List.nil_append, empty] at spaces
    rw [List.replicate_succ, tokenize_append_space, spaces]
    rfl

theorem tokenize_append_leftover (line : Text) (token? : Option Text)
    (solid : ∀ token ∈ token?, ' ' ∉ token) (n : Nat) :
    tokenize (line ++ leftover token? n) =
      tokenize line ++ token?.toList ++ List.replicate n [] := by
  cases token? with
  | none => simpa [leftover] using tokenize_append_replicate line n
  | some token =>
    have whole : tokenize token = [token] := List.splitOn_eq_singleton (solid token rfl)
    have cut : tokenize (line ++ ' ' :: (token ++ List.replicate n ' ')) =
        tokenize line ++ ([token] ++ List.replicate n []) := by
      rw [tokenize_append_space, tokenize_append_replicate, whole]
    rw [List.append_assoc]
    exact cut

theorem trimTrailingEmpty_append_replicate (tokens : List Text) (n : Nat) :
    trimTrailingEmpty (tokens ++ List.replicate n []) = trimTrailingEmpty tokens := by
  have empty : ∀ token ∈ List.replicate n ([] : Text), decide (token = []) = true := by
    intro token mem
    exact decide_eq_true (List.eq_of_mem_replicate mem)
  unfold trimTrailingEmpty
  rw [List.reverse_append, List.reverse_replicate, List.dropWhile_append_of_pos empty]

theorem trimTrailingEmpty_of_getLast? (last : tokens.getLast? ≠ some []) :
    trimTrailingEmpty tokens = tokens := by
  refine List.rdropWhile_eq_self_iff.mpr ?_
  intro some empty
  apply last
  rw [List.getLast?_eq_some_getLast some, of_decide_eq_true empty]

theorem trimTrailingEmpty_leftover (last : tokens.getLast? ≠ some [])
    (given : ∀ token ∈ token?, token ≠ []) (n : Nat) :
    trimTrailingEmpty (tokens ++ token?.toList ++ List.replicate n []) =
      tokens ++ token?.toList := by
  rw [trimTrailingEmpty_append_replicate]
  apply trimTrailingEmpty_of_getLast?
  cases token? with
  | none => simpa using last
  | some token => simpa using given token rfl

theorem ParamList.decode_append_toList (paired : tokens.length % 2 = 0) (token? : Option Text) :
    decode (tokens ++ token?.toList) = ⟨(decode tokens).params, token?⟩ := by
  induction tokens using ParamList.decode.induct with
  | case1 type name rest ih =>
    have fewer : rest.length % 2 = 0 := by
      simp only [List.length_cons] at paired
      omega
    simp only [List.cons_append, decode, ih fewer]
  | case2 type => simp at paired
  | case3 => cases token? <;> rfl

theorem StructDef.read_leftover {token : Text} (name : Text) (paired : tokens.length % 2 = 0)
    (given : token ≠ []) (n : Nat) :
    read (name :: tokens ++ [token] ++ List.replicate n []) =
      .error (.argument (.fieldName token)) := by
  have last : (name :: tokens ++ [token]).getLast? ≠ some [] := by
    rw [List.getLast?_concat]
    simpa using given
  have trimmed : trimTrailingEmpty (name :: tokens ++ [token] ++ List.replicate n []) =
      name :: (tokens ++ [token]) := by
    rw [trimTrailingEmpty_append_replicate, trimTrailingEmpty_of_getLast? last, List.cons_append]
  have pairs : ParamList.decode (tokens ++ [token]) =
      ⟨(ParamList.decode tokens).params, some token⟩ :=
    ParamList.decode_append_toList paired (some token)
  unfold read
  rw [trimmed]
  dsimp only
  rw [pairs]

end Tokens

section Headers

variable {operands others params more : List Text} {returnToken name : Text}
  (h : trimTrailingEmpty operands = returnToken :: name :: params)
  (h' : trimTrailingEmpty others = returnToken :: name :: more)
include h h'

theorem BlockAction.ofFunction_congr (entryPoint : Option Text) :
    ofFunction entryPoint operands = ofFunction entryPoint others := by
  unfold ofFunction
  rw [h, h']

variable (same : (ParamList.decode params).params = (ParamList.decode more).params)
include same

theorem Pseudocode.functionHeader_congr (p : Pseudocode) :
    p.functionHeader operands = p.functionHeader others := by
  unfold functionHeader
  rw [h, h']
  simp only [same]

theorem CPlusPlus.functionHeader_congr (c : CPlusPlus) :
    c.functionHeader operands = c.functionHeader others := by
  unfold functionHeader
  rw [h, h']
  simp only [same]

theorem Settings.render_fx_congr (s : Settings) (target : Target) (n : Nat)
    (closed : Option Frame) :
    (s.backend target).render .fx ⟨"fx", operands, n⟩ closed =
      (s.backend target).render .fx ⟨"fx", others, n⟩ closed := by
  cases target with
  | pseudocode =>
    have header := s.pseudocode.functionHeader_congr h h' same
    exact congrArg (Except.map Rendering.ofLine) header
  | cpp =>
    have header := s.cpp.functionHeader_congr h h' same
    exact congrArg (Except.map Rendering.ofLine) header

end Headers

theorem SourceLine.instruction_of_tokenize {line name : Text} {operands : List Text}
    (cut : tokenize line = name :: operands) (n : Nat) :
    instruction ⟨line, n⟩ = ⟨name, operands, n⟩ := by
  unfold instruction
  rw [cut]
  rfl

namespace Backend

section Keywords

variable {b : Backend} {k : Keyword} {line : Text} {operands : List Text}
  (known : b.keyword? k.spelling = some k) (cut : tokenize line = k.spelling :: operands) (n : Nat)
include known cut

theorem resolve_of_tokenize : b.resolve (SourceLine.instruction ⟨line, n⟩) = .keyword k := by
  unfold resolve
  rw [SourceLine.instruction_of_tokenize cut, known]

theorem action_of_tokenize :
    b.action ⟨line, n⟩ = BlockAction.ofLine b.entryPoint k operands := by
  rw [action_of_keyword (resolve_of_tokenize known cut n), SourceLine.instruction_of_tokenize cut]

theorem written_of_tokenize (closed : Option Frame) :
    b.written ⟨line, n⟩ closed = b.render k ⟨k.spelling, operands, n⟩ closed := by
  rw [written_of_keyword (resolve_of_tokenize known cut n), SourceLine.instruction_of_tokenize cut]

end Keywords

variable {b : Backend} {l l' : SourceLine} {before after : List Text} {line other : Text}

theorem exists_step_error {ctx : Context} {cause : Cause} (fails : b.outcome l ctx = .error cause) :
    ∃ after, b.step l ctx = .error ⟨cause, l.index⟩ after := by
  have whole := b.verdict_step l ctx
  rw [fails] at whole
  cases run : b.step l ctx with
  | ok _ after =>
    rw [run] at whole
    cases whole
  | error fault after =>
    rw [run] at whole
    cases whole
    exact ⟨after, rfl⟩

theorem outcome_congr (index : l.index = l'.index)
    (resolves : b.resolve l.instruction = b.resolve l'.instruction)
    (acts : b.action l = b.action l') (writes : ∀ closed, b.written l closed = b.written l' closed)
    (replaces : ∀ closed r, b.written l closed = .ok r → r.lines ≠ none) (ctx : Context) :
    b.outcome l ctx = b.outcome l' ctx := by
  unfold outcome
  rw [acts, index]
  refine bind_congr fun action => bind_congr fun blocks => ?_
  dsimp only
  rw [← writes]
  cases rendering : b.written l blocks.2 with
  | error cause => rfl
  | ok r =>
    obtain ⟨lines, own⟩ := Option.ne_none_iff_exists'.mp (replaces _ r rendering)
    have settles : b.settle l ctx blocks.1 blocks.2 r = b.settle l' ctx blocks.1 blocks.2 r := by
      unfold settle emitted
      rw [own, resolves]
      rfl
    exact congrArg Except.ok settles

theorem compile_congr_line
    (same : ∀ ctx, b.outcome ⟨line.dropEndWhile (· == '\r'), before.length + 1⟩ ctx =
      b.outcome ⟨other.dropEndWhile (· == '\r'), before.length + 1⟩ ctx)
    (sources : ∀ ctx, b.assemble (Text.join "\n" (before ++ line :: after)) ctx =
      b.assemble (Text.join "\n" (before ++ other :: after)) ctx) :
    b.compile (before ++ line :: after) = b.compile (before ++ other :: after) := by
  have ends : b.conclude (before ++ line :: after) = b.conclude (before ++ other :: after) := by
    funext ctx
    unfold conclude
    rw [sources]
  have runs : b.reach (SourceLine.number (before ++ line :: after)) {} =
      b.reach (SourceLine.number (before ++ other :: after)) {} := by
    rw [SourceLine.number_append_cons, SourceLine.number_append_cons, reach_append, reach_append]
    refine bind_congr fun ctx => ?_
    rw [reach_cons, reach_cons, same]
  rw [compile_eq, compile_eq, runs, ends]

/-- The lines do the same to the open blocks, write the same, and can stand for one another in
    every program. -/
structure Interchangeable (b : Backend) (line other : Text) : Prop where
  action : ∀ n, b.action ⟨line, n⟩ = b.action ⟨other, n⟩
  written : ∀ n closed, b.written ⟨line, n⟩ closed = b.written ⟨other, n⟩ closed
  compile : ∀ before after, b.compile (before ++ line :: after) =
    b.compile (before ++ other :: after)

end Backend

theorem Text.dropEndWhile_of_not_mem {c : Char} {t : Text} (free : c ∉ t) :
    t.dropEndWhile (· == c) = t := by
  refine List.rdropWhile_eq_self_iff.mpr ?_
  intro some last
  exact free (beq_iff_eq.mp last ▸ List.getLast_mem some)

namespace Settings

variable (s : Settings) (target : Target) {line other : Text}

theorem keyword?_spelling {k : Keyword} (shared : k ≠ .delete) :
    (s.backend target).keyword? k.spelling = some k := by
  cases target with
  | pseudocode => exact (Backend.keyword?_pseudocode _ _).trans k.ofText?_spelling
  | cpp =>
    refine (Backend.keyword?_cpp _ _).trans ?_
    rw [k.ofText?_spelling]
    exact Option.filter_some_pos (decide_eq_true shared)

theorem assemble_congr_line (calls : ∀ f : Builtin, f.usedIn line = f.usedIn other)
    (before after : List Text) (ctx : Context) :
    (s.backend target).assemble (Text.join "\n" (before ++ line :: after)) ctx =
      (s.backend target).assemble (Text.join "\n" (before ++ other :: after)) ctx := by
  cases target with
  | pseudocode => rfl
  | cpp =>
    have sources : ∀ f : Builtin, f.usedIn (Text.join "\n" (before ++ line :: after)) =
        f.usedIn (Text.join "\n" (before ++ other :: after)) := by
      intro f
      rw [Bool.eq_iff_iff]
      simp only [Builtin.usedIn_join_iff, List.mem_append, List.mem_cons, or_and_right, exists_or,
        exists_eq_left, calls]
    have assembles : (s.backend .cpp).assemble = s.cpp.assemble := rfl
    rw [assembles, s.cpp.assemble_congr sources]

theorem interchangeable_of_keyword {k : Keyword} {operands others : List Text}
    (known : (s.backend target).keyword? k.spelling = some k)
    (cut : tokenize line = k.spelling :: operands) (cut' : tokenize other = k.spelling :: others)
    (unreturned : '\r' ∉ line) (unreturned' : '\r' ∉ other)
    (acts : BlockAction.ofLine (s.backend target).entryPoint k operands =
      BlockAction.ofLine (s.backend target).entryPoint k others)
    (renders : ∀ n closed, (s.backend target).render k ⟨k.spelling, operands, n⟩ closed =
      (s.backend target).render k ⟨k.spelling, others, n⟩ closed)
    (replaces : ∀ i closed r, (s.backend target).render k i closed = .ok r → r.lines ≠ none)
    (calls : ∀ f : Builtin, f.usedIn line = f.usedIn other) :
    (s.backend target).Interchangeable line other := by
  have action : ∀ n, (s.backend target).action ⟨line, n⟩ =
      (s.backend target).action ⟨other, n⟩ := by
    intro n
    rw [Backend.action_of_tokenize known cut, Backend.action_of_tokenize known cut', acts]
  have written : ∀ n closed, (s.backend target).written ⟨line, n⟩ closed =
      (s.backend target).written ⟨other, n⟩ closed := by
    intro n closed
    rw [Backend.written_of_tokenize known cut, Backend.written_of_tokenize known cut', renders]
  refine ⟨action, written, fun before after => ?_⟩
  refine Backend.compile_congr_line ?_ (s.assemble_congr_line target calls before after)
  rw [Text.dropEndWhile_of_not_mem unreturned, Text.dropEndWhile_of_not_mem unreturned']
  refine Backend.outcome_congr rfl ?_ (action _) (written _) ?_
  · rw [Backend.resolve_of_tokenize known cut, Backend.resolve_of_tokenize known cut']
  · intro closed r writes
    rw [Backend.written_of_tokenize known cut] at writes
    exact replaces _ closed r writes

end Settings

namespace Builtin

theorem usedIn_append_space (f : Builtin) (s t : Text) :
    f.usedIn (s ++ ' ' :: t) = (f.usedIn s || f.usedIn t) := by
  have spelled : ∀ name ∈ f.sourceNames, ' ' ∉ name ∧ name ≠ [] := by
    cases f <;> decide
  rw [Bool.eq_iff_iff, Bool.or_eq_true]
  simp only [usedIn, List.any_eq_true, Text.occursIn_iff]
  constructor
  · rintro ⟨name, mem, found⟩
    obtain ⟨solid, nonempty⟩ := spelled name mem
    rcases (Text.infix_append_cons_iff solid nonempty).mp found with before | behind
    · exact .inl ⟨name, mem, before⟩
    · exact .inr ⟨name, mem, behind⟩
  · rintro (⟨name, mem, found⟩ | ⟨name, mem, found⟩)
    · exact ⟨name, mem, found.trans (List.prefix_append s _).isInfix⟩
    · exact ⟨name, mem, found.trans ((List.suffix_cons ' ' t).trans
        (List.suffix_append s _)).isInfix⟩

theorem usedIn_append_replicate (f : Builtin) (t : Text) (n : Nat) :
    f.usedIn (t ++ List.replicate n ' ') = f.usedIn t := by
  cases n with
  | zero => rw [List.replicate_zero, List.append_nil]
  | succ n =>
    have spaces : f.usedIn (List.replicate n ' ') = false :=
      CPlusPlus.usedIn_of_spaces (fun _ => List.eq_of_mem_replicate) f
    rw [List.replicate_succ, usedIn_append_space, spaces, Bool.or_false]

theorem usedIn_append_leftover (f : Builtin) (line : Text) (token? : Option Text)
    (unused : ∀ token ∈ token?, f.usedIn token = false) (n : Nat) :
    f.usedIn (line ++ leftover token? n) = f.usedIn line := by
  cases token? with
  | none => exact f.usedIn_append_replicate line n
  | some token =>
    have further : f.usedIn (line ++ ' ' :: (token ++ List.replicate n ' ')) = f.usedIn line := by
      rw [usedIn_append_space, usedIn_append_replicate, unused token rfl, Bool.or_false]
    exact further

end Builtin

theorem not_mem_append_leftover {c : Char} {line : Text} (space : c ≠ ' ') (free : c ∉ line)
    (token? : Option Text) (plain : ∀ token ∈ token?, c ∉ token) (n : Nat) :
    c ∉ line ++ leftover token? n := by
  cases token? with
  | none => simp [leftover, free, space]
  | some token => simp [leftover, free, space, plain token rfl]

structure IsLoneToken (token : Text) : Prop where
  given : token ≠ []
  solid : ' ' ∉ token
  unreturned : '\r' ∉ token
  uncalled : ∀ f : Builtin, f.usedIn token = false

namespace Settings

variable (s : Settings) (target : Target) {line : Text}

theorem interchangeable_fx {returnToken name : Text} {params : List Text}
    (cut : tokenize line = ("fx" : Text) :: returnToken :: name :: params)
    (last : (tokenize line).getLast? ≠ some []) (paired : params.length % 2 = 0)
    (unreturned : '\r' ∉ line) {token? : Option Text} (lone : ∀ token ∈ token?, IsLoneToken token)
    (n : Nat) : (s.backend target).Interchangeable (line ++ leftover token? n) line := by
  have tokens := tokenize_append_leftover line token? (fun token mem => (lone token mem).solid) n
  rw [cut] at last tokens
  rw [List.getLast?_cons_cons] at last
  have own := trimTrailingEmpty_of_getLast? last
  have extended := trimTrailingEmpty_leftover last (fun token mem => (lone token mem).given) n
  have same : (ParamList.decode (params ++ token?.toList)).params =
      (ParamList.decode params).params := by
    rw [ParamList.decode_append_toList paired]
  have plain := not_mem_append_leftover (by decide) unreturned token?
    (fun token mem => (lone token mem).unreturned) n
  have known := s.keyword?_spelling target (k := .fx) (by decide)
  refine s.interchangeable_of_keyword target known tokens cut plain unreturned
    (BlockAction.ofFunction_congr extended own _) (s.render_fx_congr extended own same target) ?_ ?_
  · intro i closed r renders
    cases target with
    | pseudocode | cpp =>
      obtain ⟨header, _, written⟩ := bind_eq_ok_iff.mp renders
      cases written
      exact Option.some_ne_none _
  · intro f
    exact f.usedIn_append_leftover line token? (fun token mem => (lone token mem).uncalled f) n

theorem interchangeable_struct {operands : List Text}
    (cut : tokenize line = ("struct" : Text) :: operands) (unreturned : '\r' ∉ line) (n : Nat) :
    (s.backend target).Interchangeable (line ++ leftover none n) line := by
  have tokens := tokenize_append_leftover line none nofun n
  rw [cut, Option.toList_none, List.append_nil, List.cons_append] at tokens
  have reads : StructDef.read (operands ++ List.replicate n []) = StructDef.read operands := by
    unfold StructDef.read
    rw [trimTrailingEmpty_append_replicate]
  have plain := not_mem_append_leftover (by decide) unreturned none nofun n
  have known := s.keyword?_spelling target (k := .struct) (by decide)
  refine s.interchangeable_of_keyword target known tokens cut plain unreturned rfl ?_ ?_ ?_
  · intro n closed
    cases target with
    | pseudocode | cpp =>
      show StructDef.read (operands ++ _) >>= _ = StructDef.read operands >>= _
      rw [reads]
  · intro i closed r renders
    cases target with
    | pseudocode | cpp =>
      obtain ⟨d, _, defines⟩ := bind_eq_ok_iff.mp renders
      obtain ⟨text, _, written⟩ := bind_eq_ok_iff.mp defines
      cases written
      exact Option.some_ne_none _
  · intro f
    exact f.usedIn_append_leftover line none nofun n

theorem step_struct_leftover {name token : Text} {fields : List Text}
    (cut : tokenize line = ("struct" : Text) :: name :: fields) (paired : fields.length % 2 = 0)
    (given : token ≠ []) (solid : ' ' ∉ token) (spaces n : Nat) (ctx : Context) :
    ∃ after, (s.backend target).step ⟨line ++ leftover (some token) spaces, n⟩ ctx =
      .error ⟨.argument (.fieldName token), n⟩ after := by
  have tokens := tokenize_append_leftover line (some token) (by simpa using solid) spaces
  rw [cut] at tokens
  have known := s.keyword?_spelling target (k := .struct) (by decide)
  have acts := Backend.action_of_tokenize known tokens n
  have writes : (s.backend target).written ⟨line ++ leftover (some token) spaces, n⟩ none =
      .error (.argument (.fieldName token)) := by
    rw [Backend.written_of_tokenize known tokens]
    cases target with
    | pseudocode | cpp =>
      show StructDef.read (name :: fields ++ [token] ++ List.replicate spaces []) >>= _ = _
      rw [StructDef.read_leftover name paired given]
      rfl
  exact Backend.exists_step_error
    (Backend.outcome_eq_error_iff.mpr (.inr ⟨_, acts, .inr ⟨ctx.stack, none, rfl, writes⟩⟩))

/-- Spaces and a further token behind complete parameters change nothing. Spaces behind complete
    fields change nothing either, and a further token behind an odd number of spaces is refused
    there as a field without a name. -/
theorem leftover_operands (s : Settings) (target : Target) (line : Text) (unreturned : '\r' ∉ line)
    (last : (tokenize line).getLast? ≠ some []) :
    (∀ returnToken name params,
      tokenize line = ("fx" : Text) :: returnToken :: name :: params → params.length % 2 = 0 →
        ∀ (token? : Option Text) (spaces : Nat), (∀ token ∈ token?, IsLoneToken token) →
          (s.backend target).Interchangeable (line ++ leftover token? spaces) line) ∧
      ∀ name fields, tokenize line = ("struct" : Text) :: name :: fields → fields.length % 2 = 0 →
        (∀ spaces, (s.backend target).Interchangeable (line ++ leftover none spaces) line) ∧
        ∀ token pairs spaces n ctx, token ≠ [] → ' ' ∉ token →
          ∃ after, (s.backend target).step
            ⟨line ++ List.replicate (2 * pairs) ' ' ++ leftover (some token) spaces, n⟩ ctx =
              .error ⟨.argument (.fieldName token), n⟩ after := by
  constructor
  · intro returnToken name params cut paired token? spaces lone
    exact s.interchangeable_fx target cut last paired unreturned lone spaces
  · intro name fields cut paired
    refine ⟨s.interchangeable_struct target cut unreturned, ?_⟩
    intro token pairs spaces n ctx given solid
    -- the spaces in front are pairs of empty tokens
    have spaced : tokenize (line ++ List.replicate (2 * pairs) ' ') =
        ("struct" : Text) :: name :: (fields ++ List.replicate (2 * pairs) []) := by
      rw [tokenize_append_replicate, cut, List.cons_append, List.cons_append]
    have even : (fields ++ List.replicate (2 * pairs) ([] : Text)).length % 2 = 0 := by
      rw [List.length_append, List.length_replicate]
      omega
    exact s.step_struct_leftover target spaced even given solid spaces n ctx

theorem leftover_operands_arrays :
    let s : Settings := {}
    let above : List Text := ["x = 1"]
    let below : List Text := ["return a", "end"]
    (s.backend .cpp).compile (above ++ ("fx int f int a &arr_int_3  " : Text) :: below) =
        (s.backend .cpp).compile (above ++ ("fx int f int a" : Text) :: below) ∧
      ∃ after, (s.backend .pseudocode).step ⟨"struct S int a   arr_int_3 ", 1⟩ {} =
        .error ⟨.argument (.fieldName "arr_int_3"), 1⟩ after := by
  intro s above below
  have lone : ∀ token ∈ some ("&arr_int_3" : Text), IsLoneToken token := by
    rintro _ ⟨⟩
    refine ⟨by decide, by decide, by decide, fun f => ?_⟩
    cases f <;> decide
  have header := (leftover_operands s .cpp "fx int f int a" (by decide) (by decide)).1 "int" "f"
    ["int", "a"] rfl rfl (some ("&arr_int_3" : Text)) 2 lone
  have fields := (leftover_operands s .pseudocode "struct S int a" (by decide) (by decide)).2 "S"
    ["int", "a"] rfl rfl
  exact ⟨header.compile above below, fields.2 "arr_int_3" 1 1 1 {} (by decide) (by decide)⟩

/-- Behind two spaces the further token is a name, and its type is empty. -/
theorem leftover_behind_two_spaces :
    let s : Settings := {}
    ((s.backend .cpp).compile ["fx void f", "end"]).isOk = true ∧
      (s.backend .cpp).compile ["fx void f  x", "end"] = .error ⟨.unknownType [], 1⟩ ∧
      (s.backend .cpp).compile ["struct S  x"] = .error ⟨.unknownType [], 1⟩ := by
  decide +kernel

end Settings

end BlockScript
