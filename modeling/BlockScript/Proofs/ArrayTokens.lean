import BlockScript.Settings
import BlockScript.Proofs.Occurrence
import BlockScript.Proofs.Outcome

/-!
Array tokens of the type keywords in a table. A token is cut at every separator, so a keyword with
separators in it comes out in pieces: the first one is looked up in its place, and the others are
dimensions.
-/
namespace BlockScript
open ValueType

def arrayToken (keyword : Text) (dims : List Text) : Text :=
  "arr_" ++ Text.join "_" (keyword :: dims)

def IsPiece (t : Text) : Prop := t ≠ [] ∧ ∀ c ∈ t, isSeparator c = false

instance (t : Text) : Decidable (IsPiece t) :=
  decidable_of_iff (t ≠ [] ∧ t.any isSeparator = false) (by simp [IsPiece])

section Pieces

variable {keyword s t : Text} {dims : List Text}

theorem arrayParts_append_cons {c : Char} (separator : isSeparator c = true) (s t : Text) :
    arrayParts (s ++ c :: t) = arrayParts s ++ arrayParts t := by
  unfold arrayParts
  rw [List.splitOnP_append_cons s t separator, List.filter_append]

theorem IsPiece.arrayParts (h : IsPiece t) : arrayParts t = [t] := by
  unfold ValueType.arrayParts
  rw [List.splitOnP_eq_singleton fun c mem => by simpa using h.2 c mem]
  simp [h.1]

theorem arrayParts_join (parts : List Text) :
    arrayParts (Text.join "_" parts) = parts.flatMap arrayParts := by
  induction parts with
  | nil => rfl
  | cons part parts ih =>
    cases parts with
    | nil => rw [Text.join_singleton, List.flatMap_singleton]
    | cons next parts =>
      have separator : isSeparator '_' = true := rfl
      have split : Text.join "_" (part :: next :: parts) =
          part ++ '_' :: Text.join "_" (next :: parts) := by
        rw [Text.join_cons_cons, List.append_assoc]
        rfl
      rw [split, arrayParts_append_cons separator, ih, ← List.flatMap_cons]

theorem arrayParts_keyword (pieces : ∀ d ∈ dims, IsPiece d) :
    arrayParts (Text.join "_" (keyword :: dims)) = arrayParts keyword ++ dims := by
  have whole : dims.flatMap arrayParts = dims := by
    rw [List.flatMap_congr fun d mem => (pieces d mem).arrayParts]
    exact List.flatMap_singleton' dims
  rw [arrayParts_join, List.flatMap_cons, whole]

theorem decode_arrayToken (pieces : ∀ d ∈ dims, IsPiece d) :
    ValueType.decode (arrayToken keyword dims) =
      .array ((arrayParts keyword ++ dims).headD []) (arrayParts keyword ++ dims).tail := by
  have array : Text.after? "arr_" (arrayToken keyword dims) =
      some (Text.join "_" (keyword :: dims)) := Text.after?_eq_some_iff.mpr rfl
  have struct : Text.after? "struct_" (arrayToken keyword dims) = none := rfl
  unfold ValueType.decode
  rw [struct, array]
  dsimp only
  rw [arrayParts_keyword pieces]

theorem decode_arrayToken_param (pieces : ∀ d ∈ dims, IsPiece d) (name : Text) :
    Param.decode (arrayToken keyword dims) name =
      ⟨.array ((arrayParts keyword ++ dims).headD []) (arrayParts keyword ++ dims).tail, name,
        false⟩ := by
  have value : Text.after? "&" (arrayToken keyword dims) = none := rfl
  unfold Param.decode
  rw [value, decode_arrayToken pieces]

theorem subset_arrayToken {piece : Text} (mem : piece ∈ arrayParts keyword ++ dims) :
    piece ⊆ arrayToken keyword dims := by
  have within : ∀ part ∈ keyword :: dims, part ⊆ Text.join "_" (keyword :: dims) :=
    fun part mem => (Text.infix_join_of_mem "_" mem).subset
  refine List.Subset.trans ?_ (List.subset_append_right _ _)
  rcases List.mem_append.mp mem with part | dim
  · exact List.Subset.trans (subset_of_mem_arrayParts part) (within keyword List.mem_cons_self)
  · exact within piece (List.mem_cons_of_mem keyword dim)

end Pieces

section Brackets

variable {dims more : List Text}

theorem length_brackets_cons (d : Text) (dims : List Text) :
    ((d :: dims).flatMap bracketed).length = d.length + 2 + (dims.flatMap bracketed).length := by
  have open_ : ("[" : Text).length = 1 := rfl
  have close : ("]" : Text).length = 1 := rfl
  simp only [List.flatMap_cons, bracketed, List.length_append, open_, close]
  omega

theorem length_brackets_append (more dims : List Text) :
    ((more ++ dims).flatMap bracketed).length =
      (more.flatMap bracketed).length + (dims.flatMap bracketed).length := by
  rw [List.flatMap_append, List.length_append]

theorem brackets_tail_iff {parts : List Text} (given : dims ≠ []) :
    (parts ++ dims).tail.flatMap bracketed = dims.flatMap bracketed ↔ ∃ e, parts = [e] := by
  constructor
  · intro same
    have same := congrArg List.length same
    cases parts with
    | nil =>
      obtain ⟨d, dims, rfl⟩ := List.exists_cons_of_ne_nil given
      rw [List.nil_append, List.tail_cons, length_brackets_cons] at same
      omega
    | cons e parts =>
      rw [List.cons_append, List.tail_cons, length_brackets_append] at same
      cases parts with
      | nil => exact ⟨e, rfl⟩
      | cons d parts =>
        rw [length_brackets_cons] at same
        omega
  · rintro ⟨e, rfl⟩
    rfl

theorem not_mem_brackets {ch : Char} (foreign : ∀ d ∈ dims, ch ∉ d)
    (other : ch ≠ '[' ∧ ch ≠ ']') : ch ∉ dims.flatMap bracketed := by
  intro mem
  obtain ⟨d, listed, inside⟩ := List.mem_flatMap.mp mem
  have inside : ch ∈ '[' :: d ++ [']'] := inside
  simp [other, foreign d listed] at inside

theorem not_mem_paramDims {ch : Char} (foreign : ∀ d ∈ dims, ch ∉ d)
    (other : ch ≠ '[' ∧ ch ≠ ']') : ch ∉ CPlusPlus.paramDims dims := by
  unfold CPlusPlus.paramDims
  split
  · simp [other]
  · exact not_mem_brackets foreign other

theorem paramDims_tail_iff {parts : List Text} (given : dims ≠ [])
    (pieces : ∀ d ∈ dims, IsPiece d) :
    CPlusPlus.paramDims (parts ++ dims).tail = dims.flatMap bracketed ↔ ∃ e, parts = [e] := by
  rw [← brackets_tail_iff given]
  unfold CPlusPlus.paramDims
  split
  · rename_i none
    -- an open array is written with brackets too, but with nothing between them
    obtain ⟨d, others, rfl⟩ := List.exists_cons_of_ne_nil given
    have some : 0 < d.length := List.length_pos_iff.mpr (pieces d List.mem_cons_self).1
    rw [none]
    constructor
    · intro same
      have same := congrArg List.length same
      rw [length_brackets_cons] at same
      have open_ : ("[]" : Text).length = 2 := rfl
      omega
    · intro same
      have same := congrArg List.length same
      rw [length_brackets_cons, List.flatMap_nil, List.length_nil] at same
      omega
  · exact Iff.rfl

end Brackets

/-- A token keeps the keyword in one piece, and that is spelled as the keyword is. -/
def TypeTable.Whole (t : TypeTable) (keyword : Text) : Prop :=
  ∃ e, arrayParts keyword = [e] ∧ t.get? e = t.get? keyword

theorem TypeTable.whole_of_isPiece (t : TypeTable) {keyword : Text} (h : IsPiece keyword) :
    t.Whole keyword := ⟨keyword, h.arrayParts, rfl⟩

section Rendering

variable {keyword name spelling : Text} {dims : List Text} {t : TypeTable}

structure ArrayOf (t : TypeTable) (keyword spelling : Text) (dims : List Text) : Prop where
  listed : t.get? keyword = some spelling
  given : dims ≠ []
  pieces : ∀ d ∈ dims, IsPiece d
  word : ' ' ∉ arrayToken keyword dims

variable (h : ArrayOf t keyword spelling dims)
include h

theorem ArrayOf.tail_no_space : ∀ d ∈ (arrayParts keyword ++ dims).tail, ' ' ∉ d := by
  intro d mem space
  exact h.word (subset_arrayToken (List.mem_of_mem_tail mem) space)

theorem ArrayOf.dims_no_space : ∀ d ∈ dims, ' ' ∉ d := by
  intro d mem space
  exact h.word (subset_arrayToken (List.mem_append_right _ mem) space)

theorem ArrayOf.whole_iff :
    t.Whole keyword ↔ t.get? ((arrayParts keyword ++ dims).headD []) = some spelling ∧
      ∃ e, arrayParts keyword = [e] := by
  unfold TypeTable.Whole
  rw [h.listed]
  constructor
  · rintro ⟨e, one, same⟩
    rw [one]
    exact ⟨same, e, rfl⟩
  · rintro ⟨same, e, one⟩
    rw [one] at same
    exact ⟨e, one, same⟩

end Rendering

namespace CPlusPlus

variable {c : CPlusPlus} {keyword spelling name : Text} {dims : List Text}

theorem param_array_eq_ok_iff {element text : Text} :
    c.param ⟨.array element dims, name, false⟩ = .ok text ↔
      ∃ p, c.types.get? element = some p ∧ p ++ " " ++ name ++ paramDims dims = text := by
  simp only [param, bind_eq_ok_iff, TypeTable.resolve_eq_ok_iff, pure, Except.pure, Except.ok.injEq]

theorem param_arrayToken_iff (h : ArrayOf c.types keyword spelling dims) (named : ' ' ∉ name) :
    c.param (.decode (arrayToken keyword dims) name) =
        .ok (spelling ++ " " ++ name ++ dims.flatMap bracketed) ↔ c.types.Whole keyword := by
  rw [decode_arrayToken_param h.pieces, param_array_eq_ok_iff, h.whole_iff,
    ← paramDims_tail_iff h.given h.pieces]
  constructor
  · rintro ⟨p, spelled, same⟩
    -- the name and its dimensions stand behind the last space
    have front : ' ' ∉ name ++ paramDims (arrayParts keyword ++ dims).tail := by
      rw [List.mem_append, not_or]
      exact ⟨named, not_mem_paramDims h.tail_no_space (by decide)⟩
    have back : ' ' ∉ name ++ dims.flatMap bracketed := by
      rw [List.mem_append, not_or]
      exact ⟨named, not_mem_brackets h.dims_no_space (by decide)⟩
    have cut : p ++ ' ' :: (name ++ paramDims (arrayParts keyword ++ dims).tail) =
        spelling ++ ' ' :: (name ++ dims.flatMap bracketed) := by simpa using same
    obtain ⟨rfl, behind⟩ := Text.append_cons_inj_right front back cut
    exact ⟨spelled, List.append_cancel_left behind⟩
  · rintro ⟨spelled, same⟩
    exact ⟨spelling, spelled, by rw [same]⟩

theorem returnType_arrayToken_iff (h : ArrayOf c.types keyword spelling dims) :
    c.returnType (.decode (arrayToken keyword dims)) = .ok (spelling ++ "*") ↔
      c.types.get? ((arrayParts keyword ++ dims).headD []) = c.types.get? keyword := by
  have value : arrayToken keyword dims ≠ "void" := by
    intro same
    cases List.head_eq_of_cons_eq same
  unfold ReturnType.decode
  rw [if_neg value, decode_arrayToken h.pieces, h.listed]
  simp only [returnType, bind_eq_ok_iff, TypeTable.resolve_eq_ok_iff, pure, Except.pure,
    Except.ok.injEq]
  constructor
  · rintro ⟨p, spelled, same⟩
    rw [spelled, List.append_cancel_right same]
  · intro spelled
    exact ⟨spelling, spelled, rfl⟩

end CPlusPlus

namespace Pseudocode

variable {p : Pseudocode} {keyword spelling name : Text} {dims : List Text}

theorem typeName_arrayToken_iff (h : ArrayOf p.types keyword spelling dims) :
    p.typeName (.decode (arrayToken keyword dims)) =
        .ok ("Tableau" ++ dims.flatMap bracketed ++ " de " ++ spelling ++ "s") ↔
      p.types.Whole keyword := by
  rw [decode_arrayToken h.pieces, h.whole_iff, ← brackets_tail_iff h.given]
  simp only [typeName, bind_eq_ok_iff, TypeTable.resolve_eq_ok_iff, pure, Except.pure,
    Except.ok.injEq]
  constructor
  · rintro ⟨q, spelled, same⟩
    -- the dimensions stand before the first space
    have front := not_mem_brackets h.tail_no_space (by decide : ' ' ≠ '[' ∧ ' ' ≠ ']')
    have back := not_mem_brackets h.dims_no_space (by decide : ' ' ≠ '[' ∧ ' ' ≠ ']')
    have cut : (arrayParts keyword ++ dims).tail.flatMap bracketed ++ ' ' :: ("de " ++ q ++ "s") =
        dims.flatMap bracketed ++ ' ' :: ("de " ++ spelling ++ "s") := by simpa using same
    obtain ⟨brackets, behind⟩ := Text.append_cons_inj front back cut
    have alike : q = spelling := by simpa using behind
    exact ⟨alike ▸ spelled, brackets⟩
  · rintro ⟨spelled, same⟩
    exact ⟨spelling, spelled, by rw [same]⟩

theorem param_arrayToken_iff (h : ArrayOf p.types keyword spelling dims) :
    p.param (.decode (arrayToken keyword dims) name) =
        .ok (name ++ " : Tableau" ++ dims.flatMap bracketed ++ " de " ++ spelling ++ "s") ↔
      p.types.Whole keyword := by
  rw [← typeName_arrayToken_iff h, decode_arrayToken_param h.pieces, decode_arrayToken h.pieces]
  simp only [param, bind_eq_ok_iff, pure, Except.pure, Except.ok.injEq]
  constructor
  · rintro ⟨type, typed, same⟩
    have whole : type = "Tableau" ++ dims.flatMap bracketed ++ " de " ++ spelling ++ "s" := by
      simpa using same
    rw [typed, whole]
  · intro typed
    exact ⟨_, typed, by simp⟩

end Pseudocode

def IsPlainType (token : Text) : Prop :=
  ∀ mark ∈ (["struct_", "arr_", "&"] : List Text), ¬ mark <+: token

instance (token : Text) : Decidable (IsPlainType token) :=
  inferInstanceAs (Decidable (∀ mark ∈ (["struct_", "arr_", "&"] : List Text), ¬ mark <+: token))

theorem IsPlainType.decode {token : Text} (plain : IsPlainType token) (name : Text) :
    Param.decode token name = ⟨.primitive token, name, false⟩ := by
  have unmarked : ∀ mark ∈ (["struct_", "arr_", "&"] : List Text),
      Text.after? mark token = none := by
    intro mark mem
    rw [Option.eq_none_iff_forall_not_mem]
    intro rest found
    exact plain mark mem ⟨rest, (Text.after?_eq_some_iff.mp found).symm⟩
  unfold Param.decode ValueType.decode
  rw [unmarked "&" (by decide), unmarked "struct_" (by decide), unmarked "arr_" (by decide)]

/-- A parameter, a field or a result with the token of an array is an array of the keyword in the
    dimensions of the token exactly where the keyword is one piece of it and that piece has the
    spelling of the keyword; a result in C++ needs only the first piece. A keyword without
    separators always is, whatever the table says. -/
theorem Settings.array_of_keyword_iff (s : Settings) (keyword name : Text) (dims : List Text)
    (given : dims ≠ []) (pieces : ∀ d ∈ dims, IsPiece d) (word : ' ' ∉ arrayToken keyword dims)
    (named : ' ' ∉ name) :
    let token := arrayToken keyword dims
    (∀ spelling, s.cppTypes.get? keyword = some spelling →
      (s.cpp.param (.decode token name) =
          .ok (spelling ++ " " ++ name ++ dims.flatMap bracketed) ↔ s.cppTypes.Whole keyword) ∧
      (s.cpp.returnType (.decode token) = .ok (spelling ++ "*") ↔
        s.cppTypes.get? ((arrayParts keyword ++ dims).headD []) = s.cppTypes.get? keyword) ∧
      (IsPlainType keyword →
        s.cpp.param (.decode keyword name) = .ok (spelling ++ " " ++ name))) ∧
    (∀ spelling, s.pseudocodeTypes.get? keyword = some spelling →
      (s.pseudocode.param (.decode token name) =
          .ok (name ++ " : Tableau" ++ dims.flatMap bracketed ++ " de " ++ spelling ++ "s") ↔
        s.pseudocodeTypes.Whole keyword) ∧
      (s.pseudocode.typeName (.decode token) =
          .ok ("Tableau" ++ dims.flatMap bracketed ++ " de " ++ spelling ++ "s") ↔
        s.pseudocodeTypes.Whole keyword) ∧
      (IsPlainType keyword →
        s.pseudocode.param (.decode keyword name) = .ok (name ++ " : " ++ spelling))) ∧
    (IsPiece keyword →
      s.cppTypes.Whole keyword ∧ s.pseudocodeTypes.Whole keyword ∧
        (arrayParts keyword ++ dims).headD [] = keyword) := by
  intro token
  refine ⟨?_, ?_, ?_⟩
  · intro spelling listed
    have h : ArrayOf s.cpp.types keyword spelling dims := ⟨listed, given, pieces, word⟩
    refine ⟨CPlusPlus.param_arrayToken_iff h named, CPlusPlus.returnType_arrayToken_iff h, ?_⟩
    intro plain
    rw [plain.decode]
    exact bind_eq_ok_iff.mpr
      ⟨spelling, TypeTable.resolve_eq_ok_iff.mpr listed, by simp [pure, Except.pure]⟩
  · intro spelling listed
    have h : ArrayOf s.pseudocode.types keyword spelling dims := ⟨listed, given, pieces, word⟩
    refine ⟨Pseudocode.param_arrayToken_iff h, Pseudocode.typeName_arrayToken_iff h, ?_⟩
    intro plain
    rw [plain.decode]
    exact bind_eq_ok_iff.mpr ⟨spelling, TypeTable.resolve_eq_ok_iff.mpr listed, rfl⟩
  · intro piece
    refine ⟨TypeTable.whole_of_isPiece _ piece, TypeTable.whole_of_isPiece _ piece, ?_⟩
    rw [piece.arrayParts]
    rfl

theorem Settings.array_of_keyword_iff_matrix :
    ({} : Settings).cpp.param (.decode "arr_int_3_2*n" "t") = .ok "int t[3][2*n]" ∧
      ({} : Settings).pseudocode.typeName (.decode "arr_int_3_2*n") =
        .ok "Tableau[3][2*n] de Entiers" := by
  obtain ⟨cpp, pseudocode, whole⟩ := Settings.array_of_keyword_iff {} "int" "t" ["3", "2*n"]
    (by decide) (by decide) (by decide) (by decide)
  obtain ⟨first, second, _⟩ := whole (by decide)
  exact ⟨(cpp "int" rfl).1.mpr first, (pseudocode "Entier" rfl).2.1.mpr second⟩

/-- A keyword of the table with a separator in it: a variable and an array have the type, but a
    field that is an array has not, and a parameter has another type and one dimension more. -/
theorem CPlusPlus.array_keyword_in_pieces :
    let c : CPlusPlus := { types := TypeTable.cpp.insert "long_int" "long int" }
    let d : CPlusPlus := { types := c.types.insert "long" "long" }
    c.types.get? "long_int" = some "long int" ∧
      c.declare ["long_int", "x"] = .ok ["long int x"] ∧
      c.render .arr ⟨"arr", ["long_int", "t", "3"], 1⟩ none = .ok (.ofLine "long int t[3];") ∧
      c.backend.compile ["struct S arr_long_int_3 t"] = .error ⟨.unknownType "long", 1⟩ ∧
      d.types.get? "long_int" = some "long int" ∧
      d.functionHeader ["void", "f", "arr_long_int_3", "t"] =
        .ok ("void f(long t[int][3]) " ++ openBrace) := by
  decide +kernel

end BlockScript
