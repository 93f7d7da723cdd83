import Mathlib.Algebra.Group.Nat.Even
import BlockScript.Proofs.Characters
import BlockScript.Proofs.Replacement
import BlockScript.Proofs.Words

/-!
Texts between quotes. What works on the two sides of a quote by themselves works on each quoted text
by itself. A replacement does if its pattern has no quote, and so does a change of the words that
stand between two spaces if it leaves words with a quote in them alone.
-/
namespace BlockScript

namespace Text

/-- The second piece and every other one after it, if one more piece follows the last of them. -/
def enclosed : List Text → Option (List Text)
  | [] => none
  | [_] => some []
  | _ :: quoted :: rest => (enclosed rest).map (quoted :: ·)

/-- The texts between quotes, if the quotes come in pairs. No quote is escaped. -/
def literals? (t : Text) : Option (List Text) := enclosed (t.splitOn '"')

section Reading

variable {s t : Text}

theorem enclosed_map (f : Text → Text) (pieces : List Text) :
    enclosed (pieces.map f) = (enclosed pieces).map (List.map f) := by
  induction pieces using enclosed.induct with
  | case1 => rfl
  | case2 piece => rfl
  | case3 piece quoted rest ih =>
    simp only [List.map_cons, enclosed, ih, Option.map_map]
    rfl

theorem enclosed_concat (pieces : List Text) (last last' : Text) :
    enclosed (pieces ++ [last]) = enclosed (pieces ++ [last']) := by
  induction pieces using enclosed.induct with
  | case1 => rfl
  | case2 piece => rfl
  | case3 piece quoted rest ih =>
    simp only [List.cons_append, enclosed, ih]

theorem isSome_enclosed_iff (pieces : List Text) :
    (enclosed pieces).isSome = true ↔ ¬ Even pieces.length := by
  induction pieces using enclosed.induct with
  | case1 => simp [enclosed]
  | case2 piece => simp [enclosed]
  | case3 piece quoted rest ih =>
    rw [enclosed, Option.isSome_map, ih, List.length_cons, List.length_cons, Nat.even_add_one,
      Nat.even_add_one, not_not]

theorem length_splitOn (c : Char) (t : Text) : (t.splitOn c).length = t.count c + 1 := by
  induction t with
  | nil => rfl
  | cons d t ih =>
    rw [List.splitOn_cons_eq_if_modifyHead, List.count_cons]
    split
    · rw [List.length_cons, ih]
    · rw [List.length_modifyHead, ih]

theorem isSome_literals?_iff (t : Text) :
    (literals? t).isSome = true ↔ Even (t.count '"') := by
  rw [literals?, isSome_enclosed_iff, length_splitOn, Nat.even_add_one, not_not]

example :
    let quoted : List Text := ["a b", ""]
    literals? "x \"a b\" y \"\"" = some quoted ∧ literals? "x \"a b\" y \"" = none := by
  decide

theorem literals?_of_not_mem (quoteless : '"' ∉ t) : literals? t = some [] := by
  rw [literals?, List.splitOn_eq_singleton quoteless]
  rfl

theorem splitOn_append {c : Char} {front rest : List Text} {last first : Text}
    (hs : s.splitOn c = front ++ [last]) (ht : t.splitOn c = first :: rest) :
    (s ++ t).splitOn c = front ++ (last ++ first) :: rest := by
  have whole : s ++ t = join [c] (front ++ (last ++ first) :: rest) := by
    rw [← join_append_join, ← hs, ← ht, join, join, List.intercalate_splitOn,
      List.intercalate_splitOn]
  have uncut : ∀ part ∈ front ++ (last ++ first) :: rest, c ∉ part := by
    have left : ∀ part ∈ front ++ [last], c ∉ part := fun _ mem => not_mem_of_mem_splitOn (hs ▸ mem)
    have right : ∀ part ∈ first :: rest, c ∉ part := fun _ mem => not_mem_of_mem_splitOn (ht ▸ mem)
    simp only [List.mem_append, List.mem_cons, List.not_mem_nil, or_false] at left right ⊢
    rintro part (mem | rfl | mem)
    · exact left part (.inl mem)
    · exact List.not_mem_append (left last (.inr rfl)) (right first (.inl rfl))
    · exact right part (.inr mem)
  rw [whole]
  exact List.splitOn_intercalate c uncut (by simp)

theorem exists_splitOn_eq_concat (c : Char) (t : Text) :
    ∃ front last, t.splitOn c = front ++ [last] :=
  (List.eq_nil_or_concat' _).resolve_left (List.splitOn_ne_nil c t)

theorem exists_splitOn_eq_cons (c : Char) (t : Text) : ∃ first rest, t.splitOn c = first :: rest :=
  List.exists_cons_of_ne_nil (List.splitOn_ne_nil c t)

theorem literals?_append_left (quoteless : '"' ∉ s) (t : Text) :
    literals? (s ++ t) = literals? t := by
  obtain ⟨first, rest, cut⟩ := exists_splitOn_eq_cons '"' t
  have single : s.splitOn '"' = [] ++ [s] := List.splitOn_eq_singleton quoteless
  rw [literals?, literals?, splitOn_append single cut, cut]
  cases rest <;> rfl

theorem literals?_append_right (quoteless : '"' ∉ t) (s : Text) :
    literals? (s ++ t) = literals? s := by
  obtain ⟨front, last, cut⟩ := exists_splitOn_eq_concat '"' s
  rw [literals?, literals?, splitOn_append cut (List.splitOn_eq_singleton quoteless), cut]
  exact enclosed_concat front _ _

end Reading

/-- The function works on what stands before a quote and on what stands behind it by itself, and
    brings no quote in. -/
structure Quotewise (f : Text → Text) : Prop where
  append_cons : ∀ s t, f (s ++ '"' :: t) = f s ++ '"' :: f t
  not_mem : ∀ t, '"' ∉ t → '"' ∉ f t

section Quotewise

variable {f g : Text → Text} {pattern insert : Text}

theorem Quotewise.comp (hf : Quotewise f) (hg : Quotewise g) : Quotewise fun t => f (g t) where
  append_cons s t := by rw [hg.append_cons, hf.append_cons]
  not_mem t quoteless := hf.not_mem _ (hg.not_mem t quoteless)

theorem Quotewise.splitOn_join (hf : Quotewise f) {pieces : List Text} (some : pieces ≠ [])
    (quoteless : ∀ part ∈ pieces, '"' ∉ part) :
    (f (join ['"'] pieces)).splitOn '"' = pieces.map f := by
  induction pieces with
  | nil => exact absurd rfl some
  | cons part pieces ih =>
    obtain ⟨first, others⟩ := List.forall_mem_cons.mp quoteless
    have alone := List.splitOn_eq_singleton (hf.not_mem part first)
    cases pieces with
    | nil => rw [join_singleton, alone, List.map_singleton]
    | cons next pieces =>
      rw [join_cons_cons, List.append_assoc, List.singleton_append, hf.append_cons,
        List.splitOn_append_cons_self, alone, ih (List.cons_ne_nil next pieces) others]
      rfl

theorem Quotewise.literals? (hf : Quotewise f) (t : Text) :
    literals? (f t) = (literals? t).map (List.map f) := by
  have pieces := hf.splitOn_join (List.splitOn_ne_nil '"' t) fun _ => not_mem_of_mem_splitOn
  have whole : join ['"'] (t.splitOn '"') = t := List.intercalate_splitOn '"'
  rw [whole] at pieces
  rw [Text.literals?, pieces, enclosed_map]
  rfl

theorem quotewise_replaceAll (hp : '"' ∉ pattern) (hi : '"' ∉ insert) :
    Quotewise (replaceAll pattern insert) where
  append_cons := replaceAll_append_cons hp insert
  not_mem t quoteless := by
    rw [← filter_beq_eq_nil_iff] at hp hi quoteless ⊢
    rw [filter_replaceAll hp hi, quoteless]

end Quotewise

def mapButLast (f : Text → Text) : List Text → List Text
  | [] => []
  | [last] => [last]
  | word :: next :: rest => f word :: mapButLast f (next :: rest)

def betweenSpaces (f : Text → Text) (t : Text) : Text :=
  match tokenize t with
  | [] => []
  | first :: rest => join " " (first :: mapButLast f rest)

section Words

variable {f : Text → Text} {first word : Text} {words rest : List Text}

theorem mapButLast_cons (f : Text → Text) (word : Text) (some : words ≠ []) :
    mapButLast f (word :: words) = f word :: mapButLast f words := by
  cases words with
  | nil => exact absurd rfl some
  | cons next rest => rfl

theorem mapButLast_append_cons (f : Text → Text) (words : List Text) (word : Text)
    (rest : List Text) :
    mapButLast f (words ++ word :: rest) = words.map f ++ mapButLast f (word :: rest) := by
  induction words with
  | nil => rfl
  | cons first words ih =>
    rw [List.cons_append, mapButLast_cons f first (by simp), ih]
    rfl

theorem mapButLast_cons_of_fixed (fixed : f word = word) (rest : List Text) :
    mapButLast f (word :: rest) = word :: mapButLast f rest := by
  cases rest with
  | nil => rfl
  | cons next rest => rw [mapButLast_cons f word (List.cons_ne_nil next rest), fixed]

theorem mem_mapButLast {part : Text} (mem : part ∈ mapButLast f words) :
    ∃ word ∈ words, part = word ∨ part = f word := by
  induction words using mapButLast.induct with
  | case1 => cases mem
  | case2 last =>
    obtain rfl := List.mem_singleton.mp mem
    exact ⟨_, List.mem_singleton_self _, .inl rfl⟩
  | case3 word next rest ih =>
    rcases List.mem_cons.mp mem with rfl | mem
    · exact ⟨word, List.mem_cons_self, .inr rfl⟩
    · obtain ⟨other, listed, same⟩ := ih mem
      exact ⟨other, List.mem_cons_of_mem word listed, same⟩

theorem mapButLast_eq_self_iff :
    mapButLast f words = words ↔ ∀ word ∈ words.dropLast, f word = word := by
  induction words using mapButLast.induct with
  | case1 => simp [mapButLast]
  | case2 last => simp [mapButLast]
  | case3 word next rest ih =>
    rw [mapButLast, List.cons.injEq, ih, List.dropLast_cons_cons, List.forall_mem_cons]

theorem betweenSpaces_eq {t : Text} (cut : tokenize t = first :: rest) :
    betweenSpaces f t = join " " (first :: mapButLast f rest) := by
  rw [betweenSpaces, cut]

theorem quotewise_betweenSpaces (fixed : ∀ word, '"' ∈ word → f word = word)
    (quoteless : ∀ word, '"' ∉ word → '"' ∉ f word) : Quotewise (betweenSpaces f) where
  append_cons s t := by
    obtain ⟨front, last, hs⟩ := exists_splitOn_eq_concat ' ' s
    obtain ⟨first, rest, ht⟩ := exists_splitOn_eq_cons ' ' t
    -- the quote stands in one word with the last one before it and the first one behind it
    have behind : List.splitOn ' ' ('"' :: t) = [] ++ (['"'] ++ first) :: rest :=
      splitOn_append (s := ['"']) rfl ht
    have whole := splitOn_append hs behind
    have kept : ∀ rest, mapButLast f ((last ++ (['"'] ++ first)) :: rest) =
        (last ++ (['"'] ++ first)) :: mapButLast f rest :=
      mapButLast_cons_of_fixed (fixed _ (by simp))
    have quote : '"' :: join " " (first :: mapButLast f rest) =
        join " " ((['"'] ++ first) :: mapButLast f rest) :=
      join_append_join " " [] ['"'] first (mapButLast f rest)
    rw [betweenSpaces_eq ht, quote]
    cases front with
    | nil =>
      rw [betweenSpaces_eq hs, betweenSpaces_eq whole]
      exact (join_append_join " " [] last _ (mapButLast f rest)).symm
    | cons opening front =>
      rw [List.cons_append] at hs whole
      rw [betweenSpaces_eq hs, betweenSpaces_eq whole, mapButLast_append_cons, kept,
        mapButLast_append_cons]
      exact (join_append_join " " (opening :: front.map f) last _ (mapButLast f rest)).symm
  not_mem t free := by
    obtain ⟨first, rest, ht⟩ := exists_splitOn_eq_cons ' ' t
    have parts : ∀ word ∈ first :: rest, '"' ∉ word := by
      intro word mem inside
      exact free (subset_of_mem_splitOn (ht ▸ mem) inside)
    rw [betweenSpaces_eq ht]
    intro quoted
    obtain ⟨part, mem, inside⟩ := exists_mem_of_mem_join (by decide) quoted
    rcases List.mem_cons.mp mem with same | mem
    · exact parts first List.mem_cons_self (same ▸ inside)
    · obtain ⟨word, listed, rfl | rfl⟩ := mem_mapButLast mem
      · exact parts _ (List.mem_cons_of_mem first listed) inside
      · exact quoteless word (parts word (List.mem_cons_of_mem first listed)) inside

theorem mem_dropLast_iff {t : Text} (cut : tokenize t = first :: rest) (uncut : ' ' ∉ word) :
    word ∈ rest.dropLast ↔ ' ' :: (word ++ [' ']) <:+: t := by
  constructor
  · intro mem
    have whole := eq_join_of_tokenize cut
    rcases List.eq_nil_or_concat' rest with rfl | ⟨words, last, rfl⟩
    · cases mem
    rw [List.dropLast_concat] at mem
    obtain ⟨before, behind, rfl⟩ := List.append_of_mem mem
    have order : first :: (before ++ word :: behind ++ [last]) =
        (first :: before) ++ word :: (behind ++ [last]) := by simp
    obtain ⟨next, after, later⟩ := List.exists_cons_of_ne_nil
      (List.append_ne_nil_of_right_ne_nil behind (List.cons_ne_nil last []))
    rw [whole, order, join_append (List.cons_ne_nil first before) (List.cons_ne_nil word _), later,
      join_cons_cons]
    exact ⟨join " " (first :: before), join " " (next :: after), by simp⟩
  · intro found
    obtain ⟨before, behind, rfl⟩ := found
    have tokens : tokenize (before ++ ' ' :: (word ++ [' ']) ++ behind) =
        tokenize before ++ word :: tokenize behind := by
      have whole : before ++ ' ' :: (word ++ [' ']) ++ behind =
          before ++ ' ' :: (word ++ ' ' :: behind) := by simp
      rw [whole, tokenize, List.splitOn_append_cons_self,
        List.splitOn_append_cons_self_of_not_mem uncut]
      rfl
    obtain ⟨opening, words, hb⟩ := exists_splitOn_eq_cons ' ' before
    rw [tokens, tokenize, hb, List.cons_append] at cut
    obtain ⟨_, rfl⟩ := List.cons.inj cut
    have some : tokenize behind ≠ [] := List.splitOn_ne_nil ' ' behind
    rw [List.dropLast_append_of_ne_nil (List.cons_ne_nil word _), List.dropLast_cons_of_ne_nil some]
    exact List.mem_append_right words List.mem_cons_self

theorem betweenSpaces_of_fixed {t : Text}
    (fixed : ∀ word, ' ' :: (word ++ [' ']) <:+: t → f word = word) : betweenSpaces f t = t := by
  obtain ⟨first, rest, cut⟩ := exists_splitOn_eq_cons ' ' t
  have kept : mapButLast f rest = rest := by
    refine mapButLast_eq_self_iff.mpr fun word mem => fixed word ?_
    have uncut : ' ' ∉ word := by
      have listed := List.mem_cons_of_mem first (List.mem_of_mem_dropLast mem)
      exact not_mem_of_mem_splitOn (cut ▸ listed)
    exact (mem_dropLast_iff cut uncut).mp mem
  rw [betweenSpaces_eq cut, kept]
  exact (eq_join_of_tokenize cut).symm

/-- If each word that is changed gets more of some characters, then so do all words together, unless
    no word is changed. -/
theorem mapButLast_grows {p : Char → Bool}
    (grows : ∀ word, f word = word ∨ List.countP p word < (f word).countP p) (words : List Text) :
    mapButLast f words = words ∨
      words.flatten.countP p < (mapButLast f words).flatten.countP p := by
  induction words using mapButLast.induct with
  | case1 => exact .inl rfl
  | case2 last => exact .inl rfl
  | case3 word next rest ih =>
    rw [mapButLast, List.flatten_cons, List.countP_append,
      List.flatten_cons (L := mapButLast f _), List.countP_append]
    rcases grows word, ih with ⟨same | larger, kept | larger'⟩
    · exact .inl (by rw [same, kept])
    · rw [same]
      omega
    · rw [kept]
      omega
    · omega

theorem countP_join {p : Char → Bool} {separator : Text} (free : separator.filter p = [])
    (parts : List Text) : (join separator parts).countP p = parts.flatten.countP p := by
  rw [List.countP_eq_length_filter, List.countP_eq_length_filter, filter_join free,
    List.filter_flatten, List.flatMap_def]

theorem betweenSpaces_grows {p : Char → Bool} (space : p ' ' = false)
    (grows : ∀ word, f word = word ∨ List.countP p word < (f word).countP p) (t : Text) :
    (∀ word, ' ' ∉ word → ' ' :: (word ++ [' ']) <:+: t → f word = word) ∨
      t.countP p < (betweenSpaces f t).countP p := by
  obtain ⟨first, rest, cut⟩ := exists_splitOn_eq_cons ' ' t
  rcases mapButLast_grows grows rest with kept | larger
  · left
    intro word uncut found
    exact mapButLast_eq_self_iff.mp kept word ((mem_dropLast_iff cut uncut).mpr found)
  · right
    have free : List.filter p (" " : Text) = [] := by simp [space]
    rw [betweenSpaces_eq cut, eq_join_of_tokenize cut, countP_join free, countP_join free,
      List.flatten_cons, List.flatten_cons, List.countP_append, List.countP_append]
    omega

end Words

theorem Replaced.shrinks {p : Char → Bool} {pattern insert t r : Text}
    (smaller : insert.countP p < pattern.countP p) (h : Replaced pattern insert t r) :
    r = t ∧ ¬ pattern <:+: t ∨ r.countP p < t.countP p := by
  induction h with
  | nil =>
    refine .inl ⟨rfl, not_infix_nil ?_⟩
    rintro rfl
    cases smaller
  | @keep c t r other rest ih =>
    rcases ih with ⟨rfl, free⟩ | less
    · exact .inl ⟨rfl, fun found => (List.infix_cons_iff.mp found).elim other free⟩
    · right
      rw [List.countP_cons, List.countP_cons]
      omega
  | @swap t r rest ih =>
    have most : r.countP p ≤ t.countP p := by
      rcases ih with ⟨rfl, _⟩ | less
      · exact Nat.le_refl _
      · exact Nat.le_of_lt less
    right
    rw [List.countP_append, List.countP_append]
    omega

end Text
end BlockScript
