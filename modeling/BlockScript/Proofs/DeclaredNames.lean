import BlockScript.Proofs.CallSites
import BlockScript.Proofs.Drafts

/-!
The name in the header of a function and the name in its calls. Both go through the substitution,
and a call keeps its parenthesis right behind the name wherever it is written. In pseudocode a space
stands there in the header, so the header has the name as it is declared.
-/
namespace BlockScript
open Text

namespace Settings

variable {s : Settings} {target : Target} {l : SourceLine} {f before : Text}

/-- `word` stands behind `before` and before `mark` in the one line that `l` writes, and `name`
    stands for it in the finished line. What is before it is finished by itself. -/
structure RendersAs (s : Settings) (target : Target) (past : List SourceLine) (l : SourceLine)
    (before word mark name : Text) : Prop where
  draft : ∃ tail, (s.backend target).drafts past l = [before ++ word ++ mark ++ tail]
  finished : ∃ n back, (s.backend target).finished past l =
    [s.localized target (Text.times n s.indent ++ substitute target.nativeNames before) ++ name ++
      mark ++ back]

theorem colon_not_mem_calledAs (target : Target) (named : f.IsName) :
    ':' ∉ target.nativeNames.calledAs f := by
  have colons : (substitute target.nativeNames (f ++ ['('])).filter (· == ':') =
      (f ++ ['(']).filter (· == ':') := by
    cases target with
    | pseudocode => exact filter_substitute (by decide) (by decide) _
    | cpp => exact filter_substitute (by decide) (by decide) _
  have absent : ':' ∉ substitute target.nativeNames (f ++ ['(']) := by
    rw [← filter_beq_eq_nil_iff, colons, filter_beq_eq_nil_iff]
    simp [named.isWord.no_mark.2]
  intro mem
  exact absent (List.dropLast_subset _ mem)

theorem rendersAs_call {lines : List Text} {out tail : Text} {past later : List SourceLine}
    (hs : s.Callable) (named : f.IsName) (compiles : (s.backend target).compile lines = .ok out)
    (split : SourceLine.number lines = past ++ l :: later)
    (writes : (s.backend target).drafts past l = [before ++ (f ++ ['(']) ++ tail])
    (apart : before.endsWith isWordChar = false) (called : ¬ ("ENDL)" : Text) <+: tail) :
    s.RendersAs target past l before f "(" (target.nativeNames.calledAs f) := by
  have plain : '(' ∉ f ∧ ')' ∉ f :=
    ⟨named.isWord.no_mark.1, named.isWord.not_mem (by decide) (by decide)⟩
  obtain ⟨n, back, finished⟩ := exists_finished_call compiles split writes
    (endsApart_of_endsWith apart) plain called
  refine ⟨⟨tail, ?_⟩, n, ?_⟩
  · rw [writes]
    simp
  · rw [finished]
    cases target with
    | pseudocode => exact ⟨back, by simp [localized]⟩
    | cpp =>
      refine ⟨s.cpp.localize back, ?_⟩
      have colon := colon_not_mem_calledAs .cpp named
      show [s.cpp.localize (_ ++ '(' :: back)] = _
      rw [CPlusPlus.localize_append_cons hs.namespaceName (by decide),
        CPlusPlus.localize_append_of_not_mem colon]
      simp [localized]

end Settings

section Headers

variable {s : Settings} {target : Target} {d : SourceLine} {past later : List SourceLine}
  {lines params : List Text} {out token f : Text}

theorem Settings.resolve_fx (s : Settings) (target : Target) (named : d.instruction.name = "fx") :
    (s.backend target).resolve d.instruction = .keyword .fx := by
  have found : (s.backend target).keyword? d.instruction.name = some .fx := by
    rw [named]
    cases target <;> rfl
  unfold Backend.resolve
  rw [found]

structure SourceLine.Declares (d : SourceLine) (token f : Text) (params : List Text) : Prop where
  keyword : d.instruction.name = "fx"
  operands : trimTrailingEmpty d.instruction.params = token :: f :: params

theorem SourceLine.Declares.infix_text (h : d.Declares token f params) {operand : Text}
    (mem : operand ∈ token :: f :: params) : operand <:+: d.text := by
  have given : operand ∈ d.instruction.params :=
    (trimTrailingEmpty_isPrefix d.instruction.params).subset (h.operands ▸ mem)
  rw [d.text_eq_join]
  exact infix_join_of_mem _ (List.mem_cons_of_mem _ given)

def ValueType.texts : ValueType → List Text
  | primitive _ => []
  | array _ dims => dims
  | struct name => [name]

theorem ValueType.infix_of_mem_texts {text : Text} (mem : text ∈ (decode token).texts) :
    text <:+: token := by
  unfold decode at mem
  cases structure_ : Text.after? "struct_" token with
  | some name =>
    rw [structure_] at mem
    rw [List.mem_singleton.mp mem, Text.after?_eq_some_iff.mp structure_]
    exact (List.suffix_append _ name).isInfix
  | none =>
    rw [structure_] at mem
    cases array_ : Text.after? "arr_" token with
    | none =>
      rw [array_] at mem
      cases mem
    | some rest =>
      rw [array_] at mem
      have piece := infix_of_mem_splitOnP (List.mem_filter.mp (List.mem_of_mem_tail mem)).1
      rw [Text.after?_eq_some_iff.mp array_]
      exact piece.trans (List.suffix_append _ rest).isInfix

theorem Param.infix_of_mem_type {name text : Text} (mem : text ∈ (decode token name).type.texts) :
    text <:+: token := by
  unfold decode at mem
  cases reference : Text.after? "&" token with
  | none =>
    rw [reference] at mem
    exact ValueType.infix_of_mem_texts mem
  | some rest =>
    rw [reference] at mem
    rw [Text.after?_eq_some_iff.mp reference]
    exact (ValueType.infix_of_mem_texts mem).trans (List.suffix_append _ rest).isInfix

theorem CPlusPlus.param_apart {c : CPlusPlus} {x : Param} {text : Text}
    (spellings : ∀ e ∈ c.types.entries, ¬ ("ENDL)" : Text) <+: e.2)
    (label : ∀ t ∈ x.type.texts, ¬ ("ENDL)" : Text) <+: t)
    (h : c.param x = .ok text) (more : Text) : ¬ ("ENDL)" : Text) <+: text ++ more := by
  have listed : ∀ {keyword spelling}, c.types.resolve keyword = .ok spelling →
      ¬ ("ENDL)" : Text) <+: spelling := by
    intro keyword spelling found
    have listed := TypeTable.mem_entries_of_get? (TypeTable.resolve_eq_ok_iff.mp found)
    exact spellings (keyword, spelling) listed
  -- what stands before the first space of the parameter decides
  have spaced : ∀ (tail : Text) {head : Text}, ¬ ("ENDL)" : Text) <+: head →
      ¬ ("ENDL)" : Text) <+: head ++ ' ' :: tail := by
    intro tail head apart
    rwa [prefix_append_cons_iff (by decide)]
  have marked : ∀ {head : Text}, ¬ ("ENDL)" : Text) <+: head →
      ¬ ("ENDL)" : Text) <+: head ++ (if x.byRef then ("&" : Text) else []) := by
    intro head apart
    split
    · have reference : ("&" : Text) = ['&'] := rfl
      rwa [reference, prefix_append_cons_iff (by decide)]
    · rwa [List.append_nil]
  unfold param at h
  cases type : x.type with
  | primitive keyword =>
    simp only [type, bind_eq_ok_iff, pure, Except.pure, Except.ok.injEq] at h
    obtain ⟨spelling, found, rfl⟩ := h
    simpa using spaced (x.name ++ more) (marked (listed found))
  | array element dims =>
    simp only [type, bind_eq_ok_iff, pure, Except.pure, Except.ok.injEq] at h
    obtain ⟨spelling, found, rfl⟩ := h
    simpa using spaced (x.name ++ paramDims dims ++ more) (listed found)
  | struct name =>
    simp only [type, Except.ok.injEq] at h
    subst h
    have apart : ¬ ("ENDL)" : Text) <+: c.structName name := by
      unfold structName
      split
      · intro found
        exact absurd (List.cons_prefix_cons.mp found).1 (by decide)
      · exact label name (by rw [type]; exact List.mem_singleton_self name)
    simpa using spaced (x.name ++ more) (marked apart)

theorem CPlusPlus.params_apart {c : CPlusPlus} {rendered : List Text}
    (spellings : ∀ e ∈ c.types.entries, ¬ ("ENDL)" : Text) <+: e.2)
    (plain : ∀ operand ∈ params, ¬ ("ENDL)" : Text) <:+: operand)
    (h : (ParamList.decode params).params.mapM c.param = .ok rendered) :
    ¬ ("ENDL)" : Text) <+: join ", " rendered ++ (") " ++ openBrace) := by
  match params, h with
  | [], h =>
    cases h
    decide
  | [_], h =>
    cases h
    decide
  | type :: name :: rest, h =>
    have h : (Param.decode type name :: (ParamList.decode rest).params).mapM c.param =
        .ok rendered := h
    rw [List.mapM_cons] at h
    obtain ⟨first, written, h⟩ := bind_eq_ok_iff.mp h
    obtain ⟨others, _, h⟩ := bind_eq_ok_iff.mp h
    cases h
    have label : ∀ t ∈ (Param.decode type name).type.texts, ¬ ("ENDL)" : Text) <+: t := by
      intro t mem found
      have within := found.isInfix.trans (Param.infix_of_mem_type mem)
      exact plain type List.mem_cons_self within
    cases others with
    | nil =>
      rw [join_singleton]
      exact param_apart spellings label written _
    | cons next others =>
      rw [join_cons_cons, List.append_assoc, List.append_assoc]
      exact param_apart spellings label written _

theorem CPlusPlus.functionHeader_eq_ok {c : CPlusPlus} {operands : List Text} {header : Text}
    (trimmed : trimTrailingEmpty operands = token :: f :: params)
    (h : c.functionHeader operands = .ok header) :
    ∃ returned rendered, c.returnType (.decode token) = .ok returned ∧
      (ParamList.decode params).params.mapM c.param = .ok rendered ∧
      header = returned ++ " " ++ (f ++ ['(']) ++ (join ", " rendered ++ (") " ++ openBrace)) := by
  unfold functionHeader at h
  rw [trimmed] at h
  obtain ⟨returned, result, h⟩ := bind_eq_ok_iff.mp h
  obtain ⟨rendered, list, h⟩ := bind_eq_ok_iff.mp h
  cases h
  exact ⟨returned, rendered, result, list, by simp⟩

def Pseudocode.headerWord (token : Text) : Text :=
  if token = "void" then "Procédure" else "Fonction"

theorem Pseudocode.functionHeader_eq_ok {p : Pseudocode} {operands : List Text} {header : Text}
    (trimmed : trimTrailingEmpty operands = token :: f :: params)
    (h : p.functionHeader operands = .ok header) :
    ∃ tail, header = headerWord token ++ ' ' :: (f ++ ' ' :: tail) := by
  unfold functionHeader at h
  rw [trimmed] at h
  obtain ⟨rendered, _, h⟩ := bind_eq_ok_iff.mp h
  unfold ReturnType.decode at h
  unfold headerWord
  by_cases procedure : token = "void"
  · rw [if_pos procedure] at h ⊢
    cases h
    exact ⟨"(" ++ join ", " rendered ++ ")", by simp⟩
  · rw [if_neg procedure] at h ⊢
    obtain ⟨type, _, h⟩ := bind_eq_ok_iff.mp h
    cases h
    exact ⟨"(" ++ join ", " rendered ++ ")" ++ " : " ++ type, by simp⟩

theorem Pseudocode.substitute_header (named : f.IsName) (token tail : Text) :
    substitute nativeNames (headerWord token ++ ' ' :: (f ++ ' ' :: tail)) =
      substitute nativeNames (headerWord token ++ " ") ++ f ++ " " ++
        substitute nativeNames tail := by
  have spaced : ∀ m ∈ marks, ' ' ∉ m := by decide
  have name : substitute nativeNames f = f := substitute_of_not_mem _ named.isWord.no_mark.1
  have first : substitute nativeNames (headerWord token ++ (" " : Text)) =
      substitute nativeNames (headerWord token) ++ ' ' :: substitute nativeNames [] :=
    substitute_append_cons _ spaced _ []
  have nothing : substitute nativeNames [] = [] := by decide
  rw [substitute_append_cons _ spaced, substitute_append_cons _ spaced, name, first, nothing]
  simp

def Target.declaredName (target : Target) (f : Text) : Text :=
  match target with
  | pseudocode => f
  | cpp => CPlusPlus.nativeNames.calledAs f

namespace Settings

def HeaderAround (s : Settings) (target : Target) (token before mark : Text) : Prop :=
  match target with
  | .pseudocode => before = Pseudocode.headerWord token ++ " " ∧ mark = " "
  | .cpp => (∃ returned, s.cpp.returnType (.decode token) = .ok returned ∧
      before = returned ++ " ") ∧ mark = "("

theorem drafts_header (spellings : ∀ e ∈ s.cppTypes.entries, ¬ ("ENDL)" : Text) <+: e.2)
    (compiles : (s.backend .cpp).compile lines = .ok out)
    (split : SourceLine.number lines = past ++ d :: later) (declares : d.Declares token f params)
    (plain : ¬ ("ENDL)" : Text) <:+: d.text) :
    ∃ returned tail, s.cpp.returnType (.decode token) = .ok returned ∧
      (s.backend .cpp).drafts past d = [returned ++ " " ++ (f ++ ['(']) ++ tail] ∧
      ¬ ("ENDL)" : Text) <+: tail := by
  obtain ⟨_, _, _, w, _, writes, drafted, _⟩ := Backend.exists_drafts compiles split
  rw [Backend.written_of_keyword (s.resolve_fx .cpp declares.keyword)] at writes
  obtain ⟨header, written, h⟩ := bind_eq_ok_iff.mp writes
  cases h
  obtain ⟨returned, rendered, result, list, rfl⟩ :=
    CPlusPlus.functionHeader_eq_ok declares.operands written
  have closed := CPlusPlus.params_apart spellings
    (fun operand mem found => plain (found.trans
      (declares.infix_text (List.mem_cons_of_mem _ (List.mem_cons_of_mem _ mem))))) list
  refine ⟨returned, _, result, ?_, closed⟩
  rw [drafted]
  simp [Rendering.ofLine]

theorem rendersAs_header (hs : s.Callable) (named : f.IsName)
    (compiles : (s.backend target).compile lines = .ok out)
    (split : SourceLine.number lines = past ++ d :: later) (declares : d.Declares token f params)
    (plain : ¬ ("ENDL)" : Text) <:+: d.text) :
    ∃ before mark, s.HeaderAround target token before mark ∧
      s.RendersAs target past d before f mark (target.declaredName f) := by
  cases target with
  | cpp =>
    obtain ⟨returned, tail, result, draft, closed⟩ :=
      drafts_header hs.spellings compiles split declares plain
    have apart := endsWith_append_of (p := isWordChar) returned (by decide : (" " : Text) ≠ [])
      (by decide)
    exact ⟨returned ++ " ", "(", ⟨⟨returned, result, rfl⟩, rfl⟩,
      rendersAs_call hs named compiles split draft apart closed⟩
  | pseudocode =>
    obtain ⟨_, stack, _, w, _, writes, drafted, finished⟩ := Backend.exists_drafts compiles split
    rw [Backend.written_of_keyword (s.resolve_fx .pseudocode declares.keyword)] at writes
    obtain ⟨header, written, h⟩ := bind_eq_ok_iff.mp writes
    cases h
    obtain ⟨tail, rfl⟩ := Pseudocode.functionHeader_eq_ok declares.operands written
    have draft : (s.backend .pseudocode).drafts past d =
        [Pseudocode.headerWord token ++ ' ' :: (f ++ ' ' :: tail)] := by
      rw [drafted]
      simp [Rendering.ofLine]
    rw [draft] at finished
    refine ⟨_, " ", ⟨rfl, rfl⟩, ⟨tail, by rw [draft]; simp⟩,
      ((s.backend .pseudocode).resolve d.instruction).indentDepth stack,
      substitute Pseudocode.nativeNames tail, ?_⟩
    rw [finished]
    show [_ ++ substitute Pseudocode.nativeNames _] = _
    rw [Pseudocode.substitute_header named]
    simp [localized, Target.declaredName, Target.nativeNames, Settings.pseudocode]

end Settings

end Headers

/-- The name in the header of a function and the name in a call of it are found in the finished
    lines behind what stands before them. They are the same in C++; in pseudocode a name that ends
    in `alea` is kept in the header, and every call of it gets the ending of the random function. -/
theorem Settings.called_as_declared_iff (s : Settings) (target : Target) (lines : List Text)
    (out f token : Text) (params : List Text) (past later earlier rest : List SourceLine)
    (d l : SourceLine) (before after : Text) (settings : s.Callable) (named : f.IsName)
    (compiles : (s.backend target).compile lines = .ok out)
    (declaration : SourceLine.number lines = past ++ d :: later)
    (declares : d.Declares token f params) (plain : ¬ ("ENDL)" : Text) <:+: d.text)
    (line : SourceLine.number lines = earlier ++ l :: rest)
    (evaluates : ((s.backend target).resolve l.instruction).evaluates = true)
    (call : CallAt f l.text before after) (whole : after ≠ "ENDL") :
    ∃ declared called,
      (∃ front mark, s.HeaderAround target token front mark ∧
        s.RendersAs target past d front f mark declared) ∧
      (∃ text, (s.backend target).drafts earlier l = [text] ∧ HasCall f text ∧
        ∀ front back, CallAt f text front back →
          s.RendersAs target earlier l front f "(" called) ∧
      (declared = called ↔ target = .cpp ∨ ¬ ("alea" : Text) <:+ f) := by
  obtain ⟨_, _, _, _, _, writes, drafted, _⟩ := Backend.exists_drafts compiles line
  obtain ⟨text, single, calls⟩ := hasCall_written settings named evaluates call whole writes
  have draft : (s.backend target).drafts earlier l = [text] := by
    rw [drafted, single]
    simp [calls.ne_nil]
  refine ⟨target.declaredName f, target.nativeNames.calledAs f,
    rendersAs_header settings named compiles declaration declares plain,
    ⟨text, draft, calls, ?_⟩, ?_⟩
  · intro front back call
    rw [call.text_eq] at draft
    exact rendersAs_call settings named compiles line draft call.apart call.called
  · cases target with
    | cpp => simp [Target.declaredName, Target.nativeNames]
    | pseudocode =>
      have open_ := named.isWord.no_mark.1
      have close := named.isWord.not_mem (by decide : isNameChar ')' = false) (by decide)
      have same := Pseudocode.calledAs_eq_self_iff open_ close
      simp only [Target.declaredName, Target.nativeNames, reduceCtorEq, false_or, ← same]
      exact eq_comm

theorem Settings.called_as_declared_iff_renamed :
    let header : SourceLine := ⟨"fx int maracine int n", 1⟩
    let body : List SourceLine := [⟨"return n", 2⟩, ⟨"end", 3⟩]
    let last : SourceLine := ⟨"x = 2 * maracine(3)", 4⟩
    ∃ name, ({} : Settings).RendersAs .cpp [] header "int " "maracine" "(" name ∧
      ({} : Settings).RendersAs .cpp (header :: body) last "x = 2 * " "maracine" "(" name := by
  intro header body last
  let lines : List Text := ["fx int maracine int n", "return n", "end", "x = 2 * maracine(3)"]
  have settings : ({} : Settings).Callable :=
    ⟨by decide, by decide, fun imported => absurd imported Bool.false_ne_true⟩
  have compiles : ((({} : Settings).backend .cpp).compile lines).toOption.isSome = true := by
    decide +kernel
  obtain ⟨out, compiles⟩ := exists_eq_ok_of_isSome compiles
  obtain ⟨declared, called, ⟨front, mark, ⟨⟨returned, result, rfl⟩, rfl⟩, defined⟩,
    ⟨text, draft, _, calls⟩, same⟩ :=
    Settings.called_as_declared_iff {} .cpp lines out "maracine" "int" ["int", "n"] []
      (body ++ [last]) (header :: body) [] header last "x = 2 * " "3)" settings (by decide) compiles
      (by decide) ⟨by decide, by decide⟩ (by decide) (by decide) (by decide)
      ⟨by decide, by decide, by decide⟩ (by decide)
  have int : ({} : Settings).cpp.returnType (.decode "int") = .ok "int" := rfl
  obtain rfl : ("int" : Text) = returned := Except.ok.inj (int.symm.trans result)
  have written : (({} : Settings).backend .cpp).drafts (header :: body) last =
      ["x = 2 * maracine(3)"] := by decide +kernel
  obtain rfl : ("x = 2 * maracine(3)" : Text) = text :=
    List.head_eq_of_cons_eq (written.symm.trans draft)
  obtain rfl : declared = called := same.mpr (.inl rfl)
  exact ⟨declared, defined, calls "x = 2 * " "3)" ⟨by decide, by decide, by decide⟩⟩

/-- The function `monalea` is defined and the random function with a prefix called. -/
theorem Settings.called_by_another_name :
    let lines : List Text := ["fx int monalea int n", "return n", "end", "x = monalea(3)"]
    IsName "monalea" ∧ CallAt "monalea" "x = monalea(3)" "x = " "3)" ∧
      (({} : Settings).backend .pseudocode).compile lines =
        .ok ("Début\n\tx <- monaleatoire(3)\nFin\n\n" ++
          "Fonction monalea (n : Entier) : Entier\n\tRetourner n\nFin Fonction") := by
  intro lines
  refine ⟨by decide, ⟨by decide, by decide, by decide⟩, ?_⟩
  decide +kernel

end BlockScript
