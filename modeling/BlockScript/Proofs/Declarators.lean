import BlockScript.Proofs.AddedLine
import BlockScript.Proofs.Words

/-!
Declarations of several names in C++. Stars that are written behind the type belong to the first
name there, so only that one is declared as a pointer.
-/
namespace BlockScript

structure Declarator where
  levels : Nat
  name : Text
  deriving DecidableEq, Repr

def Declarator.read (t : Text) : Declarator :=
  ⟨(t.takeWhile (· ∈ [' ', '*'])).count '*', t.dropWhile (· ∈ [' ', '*'])⟩

/-- The declarators of a declaration, which follow its type and end with `;`. -/
def declarators? (t : Text) : Option (List Declarator) :=
  (Text.before? ';' t).map fun list => (list.splitOn ',').map Declarator.read

example : declarators? " a, *b, **c;" = some [⟨0, "a"⟩, ⟨1, "b"⟩, ⟨2, "c"⟩] := by decide

section Reading

variable {name first : Text} {others : List Text}

theorem Declarator.read_append (pad : Text) (marks : ∀ c ∈ pad, c ∈ [' ', '*'])
    (named : name.IsName) : read (pad ++ name) = ⟨pad.count '*', name⟩ := by
  obtain ⟨d, rest, rfl⟩ := List.exists_cons_of_ne_nil named.1
  have solid : d ∉ [' ', '*'] := by
    intro mem
    have mark : ∀ c ∈ [' ', '*'], Text.isNameChar c = false := by
      simp only [List.mem_cons, List.not_mem_nil, or_false, forall_eq_or_imp, forall_eq]
      decide
    have letter := named.2 d List.mem_cons_self
    rw [mark d mem] at letter
    cases letter
  unfold read
  rw [List.takeWhile_append_of_pos (by simpa using marks),
    List.dropWhile_append_of_pos (by simpa using marks),
    List.takeWhile_cons_of_neg (by simpa using solid),
    List.dropWhile_cons_of_neg (by simpa using solid), List.append_nil]

theorem join_comma_space (first : Text) (others : List Text) :
    Text.join ", " (first :: others) = Text.join "," (first :: others.map (' ' :: ·)) := by
  induction others generalizing first with
  | nil => rfl
  | cons next rest ih =>
    rw [List.map_cons, Text.join_cons_cons, Text.join_cons_cons, ih next]
    cases rest with
    | nil => simp [Text.join_singleton]
    | cons last rest => simp [Text.join_cons_cons, List.map_cons]

theorem declarators?_join {pad : Text} (marks : ∀ c ∈ pad, c ∈ [' ', '*'])
    (named : ∀ name ∈ first :: others, name.IsName) :
    declarators? (pad ++ Text.join ", " (first :: others) ++ ";") =
      some (⟨pad.count '*', first⟩ :: others.map (⟨0, ·⟩)) := by
  obtain ⟨named, rest⟩ := List.forall_mem_cons.mp named
  have whole : pad ++ Text.join ", " (first :: others) =
      Text.join "," ((pad ++ first) :: others.map (' ' :: ·)) := by
    rw [join_comma_space]
    cases others with
    | nil => simp [Text.join_singleton]
    | cons next others => simp [Text.join_cons_cons, List.append_assoc]
  have uncut : ∀ part ∈ (pad ++ first) :: others.map (' ' :: ·), ',' ∉ part := by
    have plain : ∀ name : Text, name.IsName → ',' ∉ name :=
      fun name named => named.isWord.not_mem (by decide) (by decide)
    refine List.forall_mem_cons.mpr ⟨?_, ?_⟩
    · intro mem
      rcases List.mem_append.mp mem with mark | letter
      · have := marks ',' mark
        revert this
        decide
      · exact plain first named letter
    · intro part mem
      obtain ⟨name, listed, rfl⟩ := List.mem_map.mp mem
      simpa using plain name (rest name listed)
  have read : ∀ name ∈ others, Declarator.read (' ' :: name) = ⟨0, name⟩ :=
    fun name mem => Declarator.read_append " " (by simp) (rest name mem)
  have cut := List.splitOn_intercalate ',' uncut (List.cons_ne_nil _ _)
  unfold declarators?
  rw [whole]
  show (Text.before? ';' (_ ++ [';'])).map _ = _
  rw [Text.before?_concat, Option.map_some]
  show some ((([','] : Text).intercalate _).splitOn ',' |>.map Declarator.read) = _
  rw [cut, List.map_cons, Declarator.read_append pad marks named, List.map_map]
  simp only [List.map_congr_left fun name mem => read name mem, Function.comp_def]

end Reading

theorem Text.dropEndWhile_append_replicate {d : Char} {t : Text}
    (plain : t.endsWith (· == d) = false) (n : Nat) :
    dropEndWhile (· == d) (t ++ List.replicate n d) = t := by
  rw [dropEndWhile, List.reverse_append, List.reverse_replicate,
    List.dropWhile_append_of_pos (by simp)]
  exact dropEndWhile_of_endsWith_eq_false plain

theorem substitute_append_replicate (n : NativeNames) {d : Char} (foreign : ∀ m ∈ marks, d ∉ m)
    (t : Text) (k : Nat) :
    substitute n (t ++ List.replicate k d) = substitute n t ++ List.replicate k d := by
  induction k with
  | zero => simp
  | succ k ih =>
    have empty : substitute n [] = [] := substitute_of_not_mem n (by simp)
    rw [List.replicate_succ', ← List.append_assoc, substitute_append_cons n foreign, ih, empty,
      List.append_assoc]

theorem Text.exists_join_eq_append (separator first : Text) (others : List Text) :
    ∃ init, ∃ last ∈ first :: others, join separator (first :: others) = init ++ last := by
  induction others generalizing first with
  | nil => exact ⟨[], first, List.mem_cons_self, join_singleton separator first⟩
  | cons next rest ih =>
    obtain ⟨init, last, mem, final⟩ := ih next
    refine ⟨first ++ separator ++ init, last, List.mem_cons_of_mem _ mem, ?_⟩
    rw [join_cons_cons, final]
    simp only [List.append_assoc]

namespace CPlusPlus

variable {c : CPlusPlus} {l : SourceLine} {keyword t first : Text} {others : List Text} {m : Nat}

theorem declare_names (plain : keyword.endsWith (· == '*') = false)
    (type : c.types.get? keyword = some t) (named : ∀ name ∈ first :: others, name.IsName) :
    c.declare ((keyword ++ List.replicate m '*') :: first :: others) =
      .ok [t ++ List.replicate m '*' ++ " " ++ Text.join ", " (first :: others)] := by
  have spelled : c.declaredType (keyword ++ List.replicate m '*') =
      .ok (t ++ List.replicate m '*') := by
    have known : c.types.resolve keyword = .ok t := by
      rw [TypeTable.resolve, type]
    simp [declaredType, Text.dropEndWhile_append_replicate plain, known, bind, Except.bind, pure,
      Except.pure]
  have kept : (first :: others).filter (· ≠ []) = first :: others := by
    rw [List.filter_eq_self]
    intro name mem
    simpa using (named name mem).1
  have listed : Declared.names? (keyword ++ List.replicate m '*') (first :: others) =
      .ok (.names first others) := by
    unfold Declared.names?
    rw [kept]
  have read : Declared.read (keyword ++ List.replicate m '*') (first :: others) =
      .ok (.names first others) := by
    cases others with
    | nil => exact listed
    | cons next rest =>
      have name : next ≠ "=" := by
        rintro rfl
        have := named "=" (by simp)
        revert this
        decide
      exact (if_neg name).trans listed
  unfold declare
  simp only [spelled, read, bind, Except.bind, pure, Except.pure]

theorem adds_declaration {list init word : Text}
    (declares : c.backend.resolve l.instruction = .declaration)
    (writes : c.declare l.instruction.tokens = .ok [t ++ List.replicate m '*' ++ " " ++ list])
    (final : list = init ++ word) (last : word.IsWord) (plain : '(' ∉ list) (foreign : ':' ∉ list) :
    c.backend.Adds l fun stack =>
      c.localize (Text.times (depth .declaration stack) c.indent ++ substitute nativeNames t) ++
        (List.replicate m '*' ++ " " ++ list ++ ";") := by
  have acts : c.backend.action l = .ok .plain := by
    unfold Backend.action
    rw [declares]
  have written : c.backend.written l none =
      .ok (.ofLine (t ++ List.replicate m '*' ++ " " ++ list)) := by
    have line : c.backend.declare l.instruction.tokens = _ := writes
    unfold Backend.written
    rw [declares]
    dsimp only
    rw [line]
    rfl
  have solid : Text.isBlank (t ++ List.replicate m '*' ++ " " ++ list) = false := by
    obtain ⟨d, rest, rfl⟩ := List.exists_cons_of_ne_nil last.1
    exact not_isBlank (by rw [final]; simp) (last.solid d List.mem_cons_self)
  have spelled : substitute nativeNames (t ++ List.replicate m '*' ++ " " ++ list) =
      substitute nativeNames t ++ List.replicate m '*' ++ " " ++ list := by
    have cut := substitute_append_cons nativeNames (c := ' ') (by decide)
      (t ++ List.replicate m '*') list
    rw [substitute_of_not_mem nativeNames plain,
      substitute_append_replicate nativeNames (by decide)] at cut
    simpa using cut
  have ended : terminated .declaration
      (substitute nativeNames t ++ List.replicate m '*' ++ " " ++ list) =
      substitute nativeNames t ++ List.replicate m '*' ++ " " ++ list ++ ";" := by
    rw [final, ← List.append_assoc]
    exact terminated_append_word (.inl rfl) last _
  have unqualified : ':' ∉ List.replicate m '*' ++ " " ++ list ++ (";" : Text) := by
    simp [foreign]
  refine Backend.adds_of_written acts (.inl rfl) written ?_
  intro stack
  rw [emitted_ofLine c l stack solid, declares, spelled, ended,
    ← localize_append_of_not_mem unqualified]
  simp only [List.append_assoc]

def declaratorList (levels : Nat) (names : List Text) : Text :=
  List.replicate levels '*' ++ " " ++ Text.join ", " names ++ ";"

theorem declarators?_declaratorList (named : ∀ name ∈ first :: others, name.IsName) :
    declarators? (declaratorList m (first :: others)) =
      some (⟨m, first⟩ :: others.map (⟨0, ·⟩)) := by
  have marks : ∀ d ∈ List.replicate m '*' ++ (" " : Text), d ∈ [' ', '*'] := by
    intro d mem
    rcases List.mem_append.mp mem with star | space
    · rw [List.eq_of_mem_replicate star]
      decide
    · rw [List.mem_singleton.mp space]
      decide
  have count : (List.replicate m '*' ++ (" " : Text)).count '*' = m := by
    simp [List.count_append]
  have read := declarators?_join marks named
  rw [count] at read
  exact read

end CPlusPlus

/-- Stars behind the type keyword of a declaration are read as the first name's alone, so all names
    have the levels that are asked for exactly when there are none or only one name. -/
theorem CPlusPlus.declared_levels_iff (c : CPlusPlus) (l : SourceLine) (keyword t first : Text)
    (others : List Text) (m : Nat) (declares : c.backend.resolve l.instruction = .declaration)
    (tokens : l.instruction.tokens = (keyword ++ List.replicate m '*') :: first :: others)
    (plain : keyword.endsWith (· == '*') = false) (type : c.types.get? keyword = some t)
    (named : ∀ name ∈ first :: others, name.IsName) :
    let list := declaratorList m (first :: others)
    (c.backend.Adds l fun stack =>
        c.localize (Text.times (depth .declaration stack) c.indent ++ substitute nativeNames t) ++
          list) ∧
      declarators? list = some (⟨m, first⟩ :: others.map (⟨0, ·⟩)) ∧
      (declarators? list = some ((first :: others).map (⟨m, ·⟩)) ↔ m = 0 ∨ others = []) := by
  intro list
  have free : ∀ d ∈ ['(', ':'], d ∉ Text.join ", " (first :: others) := by
    intro d mark mem
    have other : ∀ d ∈ ['(', ':'], d ∉ (", " : Text) ∧ Text.isNameChar d = false ∧
        d ≠ '-' ∧ d ≠ '+' := by
      simp only [List.mem_cons, List.not_mem_nil, or_false, forall_eq_or_imp, forall_eq]
      decide
    obtain ⟨name, listed, inside⟩ := Text.exists_mem_of_mem_join (other d mark).1 mem
    exact (named name listed).isWord.not_mem (other d mark).2.1 (other d mark).2.2 inside
  obtain ⟨init, last, listed, final⟩ := Text.exists_join_eq_append ", " first others
  have writes := declare_names (m := m) plain type named
  rw [← tokens] at writes
  have adds := adds_declaration declares writes final (named last listed).isWord
    (free '(' (by decide)) (free ':' (by decide))
  have read := declarators?_declaratorList (m := m) named
  refine ⟨adds, read, ?_⟩
  rw [read, List.map_cons, Option.some.injEq, List.cons.injEq]
  cases others with
  | nil => simp
  | cons next rest =>
    constructor
    · rintro ⟨_, same⟩
      simp only [List.map_cons, List.cons.injEq, Declarator.mk.injEq] at same
      exact .inl same.1.1.symm
    · rintro (rfl | none)
      · exact ⟨rfl, rfl⟩
      · cases none

theorem CPlusPlus.declared_levels_iff_one_name :
    let c : CPlusPlus := {}
    let ctx : Context := { stack := [⟨.forLoop, 1⟩] }
    ∃ after, c.backend.step ⟨"char** p", 2⟩ ctx = .ok () after ∧
      after.body = [("\tchar** p;" : Text)] ∧ declarators? "** p;" = some [⟨2, "p"⟩] := by
  intro c ctx
  obtain ⟨adds, _, levels⟩ := CPlusPlus.declared_levels_iff c ⟨"char** p", 2⟩ "char" "char" "p" [] 2
    (by decide) (by decide) (by decide) (by decide) (by decide)
  obtain ⟨after, steps, _, body⟩ := adds ctx
  cases steps
  exact ⟨_, rfl, body.trans (by decide +kernel), levels.mpr (.inr rfl)⟩

/-- Of two names behind one star, the second is no pointer. -/
theorem CPlusPlus.second_name_plain :
    let c : CPlusPlus := {}
    c.backend.resolve (SourceLine.instruction ⟨"int* a b", 1⟩) = .declaration ∧
      c.backend.compile ["int* a b"] =
        .ok "#include <iostream>\n\nint main() \x7b\n\tint* a, b;\n\treturn 0;\n\x7d" ∧
      declarators? "* a, b;" = some [⟨1, "a"⟩, ⟨0, "b"⟩] := by
  intro c
  exact ⟨by decide, by decide +kernel, by decide⟩

end BlockScript
