import BlockScript.Proofs.ArrayTokens
import BlockScript.Proofs.Characters

/-!
Type tokens and what they decode to. The pieces of an array token come out in their order whatever
separators stand between and around them, and a decoded array can be written down again. Of the
prefixes `struct_` comes before `arr_`, and a token with neither stands for itself.
-/
namespace BlockScript
open ValueType

def IsRun (t : Text) : Prop := ∀ c ∈ t, isSeparator c = true

instance (t : Text) : Decidable (IsRun t) :=
  decidable_of_iff (t.all isSeparator = true) List.all_eq_true

/-- The pieces in their order, with a run of separators between each two. -/
inductive JoinedByRuns : List Text → Text → Prop
  | single (piece : Text) : JoinedByRuns [piece] piece
  | cons {pieces : List Text} {t : Text} (piece : Text) {run : Text} (some : run ≠ [])
      (separators : IsRun run) (rest : JoinedByRuns pieces t) :
      JoinedByRuns (piece :: pieces) (piece ++ run ++ t)

section Pieces

variable {run t piece : Text} {pieces : List Text}

theorem arrayParts_run_append (h : IsRun run) (t : Text) :
    arrayParts (run ++ t) = arrayParts t := by
  induction run with
  | nil => rfl
  | cons c run ih =>
    obtain ⟨separator, rest⟩ := List.forall_mem_cons.mp h
    have cut : arrayParts (c :: (run ++ t)) = arrayParts [] ++ arrayParts (run ++ t) :=
      arrayParts_append_cons separator [] (run ++ t)
    have empty : arrayParts [] = [] := rfl
    rw [List.cons_append, cut, empty, List.nil_append, ih rest]

theorem IsPiece.arrayParts_append (h : IsPiece piece) (some : run ≠ []) (separators : IsRun run)
    (t : Text) : ValueType.arrayParts (piece ++ run ++ t) = piece :: ValueType.arrayParts t := by
  obtain ⟨c, run, rfl⟩ := List.exists_cons_of_ne_nil some
  obtain ⟨separator, rest⟩ := List.forall_mem_cons.mp separators
  rw [List.append_assoc, List.cons_append, arrayParts_append_cons separator, h.arrayParts,
    arrayParts_run_append rest, List.singleton_append]

theorem JoinedByRuns.arrayParts (h : JoinedByRuns pieces t)
    (whole : ∀ piece ∈ pieces, IsPiece piece) {back : Text} (behind : IsRun back) :
    arrayParts (t ++ back) = pieces := by
  induction h with
  | single piece =>
    have piece := whole piece List.mem_cons_self
    by_cases none : back = []
    · rw [none, List.append_nil, piece.arrayParts]
    · have cut := piece.arrayParts_append none behind []
      rwa [List.append_nil] at cut
  | cons piece some separators _ ih =>
    obtain ⟨first, others⟩ := List.forall_mem_cons.mp whole
    rw [List.append_assoc, first.arrayParts_append some separators, ih others]

theorem isPiece_of_mem_arrayParts (mem : piece ∈ arrayParts t) : IsPiece piece := by
  obtain ⟨cut, some⟩ := List.mem_filter.mp mem
  exact ⟨of_decide_eq_true some, Text.not_of_mem_splitOnP cut⟩

end Pieces

section Tokens

variable {token e : Text} {dims : List Text}

theorem decode_arr (rest : Text) :
    ValueType.decode ("arr_" ++ rest) =
      .array ((arrayParts rest).headD []) (arrayParts rest).tail := by
  have struct : Text.after? "struct_" ("arr_" ++ rest) = none := rfl
  have array : Text.after? "arr_" ("arr_" ++ rest) = some rest := rfl
  unfold ValueType.decode
  rw [struct, array]

theorem exists_of_decode_eq_array (h : ValueType.decode token = .array e dims) :
    ∃ rest, e = (arrayParts rest).headD [] ∧ dims = (arrayParts rest).tail := by
  unfold ValueType.decode at h
  split at h
  · cases h
  · split at h
    · rename_i rest _
      cases h
      exact ⟨rest, rfl, rfl⟩
    · cases h

theorem decode_arrayToken_of_decode (h : ValueType.decode token = .array e dims) :
    ValueType.decode (arrayToken e dims) = .array e dims := by
  obtain ⟨rest, rfl, rfl⟩ := exists_of_decode_eq_array h
  cases parts : arrayParts rest with
  | nil => rfl
  | cons e dims =>
    have pieces : ∀ piece ∈ e :: dims, IsPiece piece :=
      fun piece mem => isPiece_of_mem_arrayParts (parts ▸ mem)
    obtain ⟨element, others⟩ := List.forall_mem_cons.mp pieces
    rw [List.headD_cons, List.tail_cons, decode_arrayToken others, element.arrayParts]
    rfl

theorem decode_of_not_prefix (struct : ¬ ("struct_" : Text) <+: token)
    (array : ¬ ("arr_" : Text) <+: token) : ValueType.decode token = .primitive token := by
  have unmarked : ∀ mark : Text, ¬ mark <+: token → Text.after? mark token = none := by
    intro mark other
    rw [Option.eq_none_iff_forall_ne_some]
    intro rest found
    exact other ⟨rest, (Text.after?_eq_some_iff.mp found).symm⟩
  unfold ValueType.decode
  rw [unmarked _ struct, unmarked _ array]

theorem Param.decode_reference (token name : Text) :
    Param.decode ("&" ++ token) name = ⟨.decode token, name, true⟩ := rfl

end Tokens

/-- Decoding undoes the encoding of arrays, structures and other types, also behind the mark of a
    reference, and an array that was decoded is encoded to one that decodes alike. -/
theorem ValueType.decode_encoded :
    (∀ (front e : Text) (dims : List Text) (t back : Text), IsRun front →
      JoinedByRuns (e :: dims) t → (∀ piece ∈ e :: dims, IsPiece piece) → IsRun back →
        decode ("arr_" ++ front ++ t ++ back) = .array e dims) ∧
    (∀ name : Text, decode ("struct_" ++ name) = .struct name) ∧
    (∀ token : Text, ¬ ("struct_" : Text) <+: token → ¬ ("arr_" : Text) <+: token →
      decode token = .primitive token) ∧
    (∀ token name : Text, Param.decode ("&" ++ token) name = ⟨decode token, name, true⟩) ∧
    ∀ (token e : Text) (dims : List Text), decode token = .array e dims →
      (∀ d ∈ dims, IsPiece d) ∧ decode (arrayToken e dims) = .array e dims := by
  refine ⟨?_, fun _ => rfl, fun _ => decode_of_not_prefix, Param.decode_reference, ?_⟩
  · intro front e dims t back before joined pieces behind
    have parts : arrayParts (front ++ (t ++ back)) = e :: dims := by
      rw [arrayParts_run_append before, joined.arrayParts pieces behind]
    rw [List.append_assoc, List.append_assoc, decode_arr, parts]
    rfl
  · intro token e dims decoded
    refine ⟨?_, decode_arrayToken_of_decode decoded⟩
    intro d mem
    obtain ⟨rest, _, rfl⟩ := exists_of_decode_eq_array decoded
    exact isPiece_of_mem_arrayParts (List.mem_of_mem_tail mem)

theorem ValueType.decode_encoded_runs :
    decode "arr__,int_,3,__n*2_" = .array "int" ["3", "n*2"] := by
  have joined : JoinedByRuns ["int", "3", "n*2"] ("int" ++ "_," ++ ("3" ++ ",__" ++ "n*2")) :=
    .cons "int" (by decide) (by decide) (.cons "3" (by decide) (by decide) (.single "n*2"))
  exact decode_encoded.1 "_," "int" ["3", "n*2"] _ "_" (by decide) joined (by decide) (by decide)

end BlockScript
