import BlockScript.Proofs.Concatenation
import BlockScript.Proofs.Replacement

/-!
What importing the namespace does to the C++ text. The program runs as it does without the import,
and its qualifier is dropped from each structure, constant and finished line by itself. The value
that the program returns is written as the source has it.
-/
namespace BlockScript
open Text

def Context.mapTexts (f : Text → Text) (ctx : Context) : Context :=
  { ctx with
    body := ctx.body.map f
    hoisted := ctx.hoisted.map f
    definitions := ctx.definitions.map f }

def Context.texts (ctx : Context) : List Text := ctx.definitions ++ ctx.body ++ ctx.hoisted

theorem Context.texts_mapTexts (f : Text → Text) (ctx : Context) :
    (ctx.mapTexts f).texts = ctx.texts.map f := by
  simp only [texts, mapTexts, List.map_append]

def Rendering.mapDefinitions (f : Text → Text) (r : Rendering) : Rendering :=
  { r with definitions := r.definitions.map f }

namespace CPlusPlus

def qualifier (c : CPlusPlus) : Text := c.namespaceName ++ "::"

def Unqualified (c : CPlusPlus) (t : Text) : Prop := ¬ c.qualifier <:+: t

instance (c : CPlusPlus) (t : Text) : Decidable (c.Unqualified t) :=
  inferInstanceAs (Decidable (¬ c.qualifier <:+: t))

def qualified (c : CPlusPlus) : CPlusPlus := { c with importNamespace := false }

variable {c : CPlusPlus}

theorem qualifier_ne_nil (c : CPlusPlus) : c.qualifier ≠ [] :=
  List.append_ne_nil_of_right_ne_nil _ (by decide)

theorem colon_mem_qualifier (c : CPlusPlus) : ':' ∈ c.qualifier :=
  List.mem_append_right _ (by decide)

theorem unqualified_of_not_mem {t : Text} (foreign : ':' ∉ t) : c.Unqualified t :=
  fun found => foreign (found.subset c.colon_mem_qualifier)

theorem unqualified_localize (imported : c.importNamespace = true) {t : Text}
    (apart : ¬ Nested c.qualifier t) : c.Unqualified (c.localize t) := by
  have removed : Replaced c.qualifier [] t (c.localize t) := by
    unfold localize
    rw [if_pos imported]
    exact replaced_replaceAll c.qualifier_ne_nil t
  intro found
  exact apart (nested_of_removed c.qualifier_ne_nil removed found)

theorem localize_nil (c : CPlusPlus) : c.localize [] = [] := by
  simp [localize, replaceAll, replaceFrom]

section Import

variable (c)

theorem finish_localize (r : Resolution) (stack : FrameStack) (lines : List Text) :
    c.finish r stack lines = (c.qualified.finish r stack lines).map c.localize := by
  unfold finish
  rw [List.map_map]
  rfl

theorem render_localize (k : Keyword) (i : Instruction) (closed : Option Frame) :
    c.render k i closed =
      Rendering.mapDefinitions c.localize <$> c.qualified.render k i closed := by
  cases k with
  | forLoop | fx | arr | struct | init | const =>
    simp only [render, map_bind, map_pure]
    rfl
  | _ => rfl

theorem written_localize (l : SourceLine) (closed : Option Frame) :
    c.backend.written l closed =
      Rendering.mapDefinitions c.localize <$> c.qualified.backend.written l closed := by
  have resolution : c.backend.resolve l.instruction = c.qualified.backend.resolve l.instruction :=
    rfl
  unfold Backend.written
  rw [resolution]
  cases c.qualified.backend.resolve l.instruction with
  | keyword k => exact c.render_localize k l.instruction closed
  | declaration =>
    show (c.declare l.instruction.tokens).map _ =
      _ <$> (c.declare l.instruction.tokens).map _
    cases c.declare l.instruction.tokens <;> rfl
  | assignment => rfl
  | passThrough => rfl

theorem settle_localize (l : SourceLine) (ctx : Context) (stack : FrameStack)
    (closed : Option Frame) (r : Rendering) :
    c.backend.settle l (ctx.mapTexts c.localize) stack closed (r.mapDefinitions c.localize) =
      (c.qualified.backend.settle l ctx stack closed r).mapTexts c.localize := by
  have lines : c.backend.emitted l stack (r.mapDefinitions c.localize) =
      (c.qualified.backend.emitted l stack r).map c.localize := c.finish_localize _ stack _
  unfold Backend.settle Context.mapTexts
  rw [lines]
  -- the empty line behind a function is added as it is, and there is nothing in it to drop
  cases Backend.relocates stack closed <;> cases closed.any Frame.isFunction <;>
    simp [Rendering.mapDefinitions, c.localize_nil]

theorem outcome_localize (l : SourceLine) (ctx : Context) :
    c.backend.outcome l (ctx.mapTexts c.localize) =
      Context.mapTexts c.localize <$> c.qualified.backend.outcome l ctx := by
  have acts : c.backend.action l = c.qualified.backend.action l := rfl
  unfold Backend.outcome
  simp only [acts, c.written_localize, map_bind, map_pure, bind_map_left, c.settle_localize]
  rfl

theorem reach_localize (lines : List SourceLine) (ctx : Context) :
    c.backend.reach lines (ctx.mapTexts c.localize) =
      Context.mapTexts c.localize <$> c.qualified.backend.reach lines ctx := by
  induction lines generalizing ctx with
  | nil => rfl
  | cons l rest ih =>
    rw [Backend.reach_cons, Backend.reach_cons, c.outcome_localize]
    cases c.qualified.backend.outcome l ctx with
    | error cause => rfl
    | ok mid => exact ih mid

end Import

/-- The settings import a namespace with a name of one word, and the indentation is no part of its
    qualifier. -/
structure Imports (c : CPlusPlus) : Prop where
  imported : c.importNamespace = true
  solid : c.namespaceName.any isBlankChar = false
  indent : Detached c.qualifier c.indent

section Output

theorem getLast?_qualifier (c : CPlusPlus) : c.qualifier.getLast? = some ':' := by
  unfold qualifier
  rw [List.getLast?_append]
  rfl

theorem infix_concat_semicolon_iff (c : CPlusPlus) (t : Text) :
    c.qualifier <:+: t ++ ";" ↔ c.qualifier <:+: t := by
  have other : c.qualifier.getLast? ≠ some ';' := by
    rw [getLast?_qualifier]
    decide
  exact infix_concat_iff_of_getLast?_ne other c.qualifier_ne_nil

variable (hc : c.Imports)
include hc

theorem Imports.foreign {d : Char} (blank : isBlankChar d = true) : d ∉ c.qualifier := by
  intro mem
  rcases List.mem_append.mp mem with name | colons
  · exact List.any_eq_false.mp hc.solid d name blank
  · have colon : d = ':' := by simpa using colons
    have solid : isBlankChar ':' = false := by decide
    rw [colon, solid] at blank
    cases blank

theorem Imports.unqualified_preamble (source : Text) :
    ∀ t ∈ c.preamble source, c.Unqualified t := by
  have name : c.Unqualified ("using namespace " ++ c.namespaceName ++ ";" : Text) := by
    intro found
    have short := (c.infix_concat_semicolon_iff _).mp found
    have cut : c.qualifier <:+: ("using namespace" : Text) ++ ' ' :: c.namespaceName := short
    rw [infix_append_cons_iff (hc.foreign (by decide)) c.qualifier_ne_nil] at cut
    rcases cut with words | within
    · exact unqualified_of_not_mem (by decide) words
    · have longer := within.length_le
      have colons : ("::" : Text).length = 2 := rfl
      rw [qualifier, List.length_append, colons] at longer
      omega
  intro t mem
  unfold preamble headers at mem
  simp only [List.mem_append, List.mem_cons, mem_linesIf_iff, List.not_mem_nil, or_false] at mem
  rcases mem with ((((rfl | ⟨_, rfl⟩) | ⟨_, rfl | rfl⟩) | ⟨_, rfl⟩) | ⟨_, rfl⟩) | rfl
  case inl.inr => exact name
  all_goals exact unqualified_of_not_mem (by decide)

theorem Imports.unqualified_seed (source : Text) : ∀ t ∈ c.seed source, c.Unqualified t := by
  intro t mem
  obtain ⟨_, here⟩ := mem_linesIf_iff.mp mem
  rw [List.mem_singleton.mp here, Unqualified, hc.indent.infix_append_iff]
  exact unqualified_of_not_mem (by decide)

theorem Imports.unqualified_returnLine_iff (code : Text) :
    c.Unqualified (c.indent ++ "return " ++ code ++ ";") ↔ c.Unqualified code := by
  have front : c.Unqualified "return" := unqualified_of_not_mem (by decide)
  have spaced : ' ' ∉ c.qualifier := hc.foreign (by decide)
  have cut : c.qualifier <:+: ("return" : Text) ++ ' ' :: code ↔
      c.qualifier <:+: "return" ∨ c.qualifier <:+: code :=
    infix_append_cons_iff spaced c.qualifier_ne_nil
  unfold Unqualified
  have words : ("return " : Text) ++ code = ("return" : Text) ++ ' ' :: code := rfl
  rw [infix_concat_semicolon_iff, List.append_assoc, hc.indent.infix_append_iff, words, cut,
    or_iff_right front]

theorem Imports.unqualified_join_iff (parts : List Text) :
    c.Unqualified (join "\n" parts) ↔ ∀ part ∈ parts, c.Unqualified part := by
  have oneLine : '\n' ∉ c.qualifier := hc.foreign (by decide)
  have within : c.qualifier <:+: join "\n" parts ↔ ∃ part ∈ parts, c.qualifier <:+: part :=
    infix_join_iff oneLine c.qualifier_ne_nil parts
  unfold Unqualified
  rw [within]
  simp only [not_exists, not_and]

theorem Imports.unqualified_assemble_iff (source : Text) (ctx : Context) :
    c.Unqualified (c.assemble source ctx) ↔
      (∀ t ∈ ctx.texts, c.Unqualified t) ∧ c.Unqualified ctx.returnCode := by
  have preamble := hc.unqualified_preamble source
  have entry : c.Unqualified ("int " ++ entryPoint ++ "() " ++ openBrace) :=
    unqualified_of_not_mem (by decide)
  have seed := hc.unqualified_seed source
  have value := hc.unqualified_returnLine_iff ctx.returnCode
  have brace : c.Unqualified closeBrace := unqualified_of_not_mem (by decide)
  have empty : c.Unqualified [] := unqualified_of_not_mem List.not_mem_nil
  have definitions :
      (∀ d ∈ (if ctx.definitions = [] then [] else ctx.definitions ++ [[]]), c.Unqualified d) ↔
        ∀ d ∈ ctx.definitions, c.Unqualified d := by
    split
    · rename_i none
      rw [none]
    · rw [List.forall_mem_append, List.forall_mem_singleton]
      exact and_iff_left empty
  have body : (∀ t ∈ ctx.body.map (c.indent ++ ·), c.Unqualified t) ↔
      ∀ t ∈ ctx.body, c.Unqualified t := by
    simp only [List.forall_mem_map, Unqualified, hc.indent.infix_append_iff]
  rw [assemble_eq, hc.unqualified_join_iff, Context.texts]
  simp only [List.forall_mem_append, body, definitions, List.forall_mem_cons, value]
  constructor
  · rintro ⟨⟨⟨⟨⟨_, structures⟩, hoisted⟩, _⟩, lines⟩, code, _⟩
    exact ⟨⟨⟨structures, lines⟩, hoisted⟩, code⟩
  · rintro ⟨⟨⟨structures, lines⟩, hoisted⟩, code⟩
    exact ⟨⟨⟨⟨⟨preamble, structures⟩, hoisted⟩, entry, seed⟩, lines⟩, code, brace, nofun⟩

end Output

end CPlusPlus

/-- The import drops the qualifier from every text that the same program writes without it, each by
    itself, and from nothing else. So the qualifier remains in the output only where the returned
    value has it, or where it stood within another one. -/
theorem CPlusPlus.unqualified_output_iff (c : CPlusPlus) (lines : List Text) (out : Text)
    (hc : c.Imports) (compiles : c.backend.compile lines = .ok out) :
    ∃ plain, c.qualified.backend.run (SourceLine.number lines) {} = .ok () plain ∧
      c.backend.run (SourceLine.number lines) {} = .ok () (plain.mapTexts c.localize) ∧
      (c.Unqualified out ↔
        (∀ t ∈ plain.texts, Nested c.qualifier t → c.Unqualified (c.localize t)) ∧
          c.Unqualified ((c.returnCodes lines).getLastD "0")) := by
  obtain ⟨ctx, run, ended, rfl⟩ := Backend.compile_eq_ok_iff.mp compiles
  have start : (({} : Context).mapTexts c.localize) = {} := rfl
  have both := c.reach_localize (SourceLine.number lines) {}
  rw [start, run] at both
  cases reached : c.qualified.backend.reach (SourceLine.number lines) {} with
  | error fault =>
    rw [reached] at both
    cases both
  | ok plain =>
    rw [reached] at both
    obtain rfl : ctx = plain.mapTexts c.localize := Except.ok.inj both
    refine ⟨plain, Backend.reach_eq_ok_iff.mp reached, Backend.reach_eq_ok_iff.mp run, ?_⟩
    have code : (plain.mapTexts c.localize).returnCode = (c.returnCodes lines).getLastD "0" :=
      reach_returnCode run
    have cleared : (∀ t ∈ plain.texts, c.Unqualified (c.localize t)) ↔
        ∀ t ∈ plain.texts, Nested c.qualifier t → c.Unqualified (c.localize t) := by
      constructor
      · intro free t mem _
        exact free t mem
      · intro free t mem
        by_cases nested : Nested c.qualifier t
        · exact free t mem nested
        · exact unqualified_localize hc.imported nested
    have assembled := hc.unqualified_assemble_iff (join "\n" lines) (plain.mapTexts c.localize)
    rw [Context.texts_mapTexts, List.forall_mem_map, code, cleared] at assembled
    exact assembled

theorem CPlusPlus.unqualified_output_iff_printed :
    let c : CPlusPlus := { importNamespace := true }
    let lines : List Text :=
      ["const string HELLO = std::move(s)", "fx string f", "return std::s", "end", "print s"]
    ∃ out, c.backend.compile lines = .ok out ∧ c.Unqualified out := by
  intro c lines
  have compiles : (c.backend.compile lines).toOption.isSome = true := by decide +kernel
  have imports : c.Imports := ⟨rfl, by decide, by decide⟩
  have apart : (c.qualified.backend.reach (SourceLine.number lines) {}).toOption.all
      (fun plain => plain.texts.all fun t => !decide (Nested c.qualifier t)) = true := by
    decide +kernel
  have code : c.Unqualified ((c.returnCodes lines).getLastD "0") := by decide +kernel
  obtain ⟨out, compiles⟩ := exists_eq_ok_of_isSome compiles
  obtain ⟨plain, run, _, free⟩ := CPlusPlus.unqualified_output_iff c lines out imports compiles
  rw [Backend.reach_eq_ok_iff.mpr run] at apart
  refine ⟨out, compiles, free.mpr ⟨?_, code⟩⟩
  intro t mem nested
  have none := List.all_eq_true.mp apart t mem
  simp [nested] at none

/-- The returned value keeps the qualifier of the namespace that the output imports. -/
theorem CPlusPlus.qualifier_in_returnCode :
    let c : CPlusPlus := { importNamespace := true }
    c.namespaceName ≠ [] ∧ c.Imports ∧
      ∃ out, c.backend.compile ["CODE_RETOUR std::f()"] = .ok out ∧ ("std::" : Text) <:+: out := by
  intro c
  refine ⟨by decide, ⟨rfl, by decide, by decide⟩, ?_⟩
  have found : (c.backend.compile ["CODE_RETOUR std::f()"]).toOption.any
      (Text.occursIn "std::") = true := by
    decide +kernel
  obtain ⟨out, compiles, occurs⟩ := exists_eq_ok_of_any found
  exact ⟨out, compiles, (Text.occursIn_iff _ _).mp occurs⟩

end BlockScript
