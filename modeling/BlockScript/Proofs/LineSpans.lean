import Mathlib.Data.List.DropRight
import BlockScript.Failure
import BlockScript.Proofs.FirstFault

/-!
The places of lines in a source text. A line is what stands between two line feeds; the span found
for its number covers its bytes, and a compilation that fails names a line that it has read there.
-/
namespace BlockScript

namespace Text

def bytes (t : Text) : List UInt8 := t.flatMap String.utf8EncodeChar

/-- The line with the number stands between the two other parts of the source. -/
structure LineAt (source : Text) (n : Nat) (before line rest : Text) : Prop where
  whole : source = before ++ line ++ rest
  number : before.count '\n' + 1 = n
  begins : before = [] ∨ before.getLast? = some '\n'
  solid : '\n' ∉ line
  ends : rest = [] ∨ rest.head? = some '\n'

section Bytes

variable {c : Char} {s t : Text}

theorem bytes_append (s t : Text) : bytes (s ++ t) = bytes s ++ bytes t := List.flatMap_append

theorem length_bytes (t : Text) : (bytes t).length = utf8Length t := by
  induction t with
  | nil => rfl
  | cons c t ih =>
    have first := String.length_utf8EncodeChar c
    rw [bytes, List.flatMap_cons, List.length_append, first, utf8Length, ← ih, bytes]

theorem utf8EncodeChar_eq_concat (other : c ≠ '\r') :
    ∃ front last, String.utf8EncodeChar c = front ++ [last] ∧ last ≠ 13 := by
  have code : c.toNat ≠ 13 := fun same => other (Char.ext (UInt32.toNat_inj.mp same))
  have single : c.toNat ≤ 127 → UInt8.ofNat c.toNat ≠ 13 := by
    intro ascii same
    have value := congrArg UInt8.toNat same
    rw [UInt8.toNat_ofNat'] at value
    exact code ((Nat.mod_eq_of_lt (by omega)).symm.trans value)
  -- beyond ASCII the last byte has the lowest six bits of the code, above 128
  have trailing : UInt8.ofNat (c.toNat % 64 + 128) ≠ 13 := by
    intro same
    have value := congrArg UInt8.toNat same
    rw [UInt8.toNat_ofNat'] at value
    have thirteen : UInt8.toNat 13 = 13 := rfl
    omega
  unfold String.utf8EncodeChar
  dsimp only
  split
  · rename_i ascii
    exact ⟨[], _, rfl, single ascii⟩
  · split
    · exact ⟨[_], _, rfl, trailing⟩
    · split
      · exact ⟨[_, _], _, rfl, trailing⟩
      · exact ⟨[_, _, _], _, rfl, trailing⟩

theorem rdropWhile_bytes (t : Text) :
    (bytes t).rdropWhile (· == 13) = bytes (t.dropEndWhile (· == '\r')) := by
  have same : ∀ t : Text, t.dropEndWhile (· == '\r') = t.rdropWhile (· == '\r') := fun _ => rfl
  rw [same]
  induction t using List.reverseRecOn with
  | nil => rfl
  | append_singleton t c ih =>
    have code : bytes [c] = String.utf8EncodeChar c := List.append_nil _
    by_cases ret : c = '\r'
    · subst ret
      have byte : bytes ['\r'] = [13] := rfl
      rw [bytes_append, byte, List.rdropWhile_concat_pos _ _ _ rfl, ih,
        List.rdropWhile_concat_pos _ _ _ rfl]
    · obtain ⟨front, last, encoded, apart⟩ := utf8EncodeChar_eq_concat ret
      rw [bytes_append, code, encoded, ← List.append_assoc,
        List.rdropWhile_concat_neg _ _ _ (by simpa using apart), List.append_assoc, ← encoded,
        ← code, ← bytes_append, List.rdropWhile_concat_neg _ _ _ (by simpa using ret)]

end Bytes

section Returns

variable (t : Text)

theorem dropReturn_cases : dropReturn t = t ∨ t = dropReturn t ++ ['\r'] := by
  unfold dropReturn
  split
  · rename_i ret
    right
    rcases List.eq_nil_or_concat' t with rfl | ⟨front, last, rfl⟩
    · cases ret
    · have last_eq : last = '\r' := by simpa [endsWith] using ret
      rw [List.dropLast_concat, last_eq]
  · exact .inl rfl

theorem dropEndWhile_dropReturn :
    (dropReturn t).dropEndWhile (· == '\r') = t.dropEndWhile (· == '\r') := by
  rcases dropReturn_cases t with same | cut
  · rw [same]
  · conv => rhs; rw [cut]
    exact (List.rdropWhile_concat_pos _ _ _ rfl).symm

theorem exists_eq_dropReturn_append : ∃ ret, t = dropReturn t ++ ret := by
  rcases dropReturn_cases t with same | cut
  · exact ⟨[], by rw [same, List.append_nil]⟩
  · exact ⟨['\r'], cut⟩

end Returns

section Lines

variable {source before line rest first more : Text} {n i : Nat} {span : Span}

theorem splitOn_newline_cases (source : Text) :
    ('\n' ∉ source ∧ source.splitOn '\n' = [source]) ∨
      ∃ first more, source = first ++ '\n' :: more ∧ '\n' ∉ first ∧
        source.splitOn '\n' = first :: more.splitOn '\n' := by
  by_cases feed : '\n' ∈ source
  · obtain ⟨first, more, rfl, solid⟩ := List.eq_append_cons_of_mem feed
    exact .inr ⟨first, more, rfl, solid, List.splitOn_append_cons_self_of_not_mem solid more⟩
  · exact .inl ⟨feed, List.splitOn_eq_singleton feed⟩

theorem LineAt.below (h : LineAt source n before line rest) (solid : '\n' ∉ first) :
    LineAt (first ++ '\n' :: source) (n + 1) (first ++ '\n' :: before) line rest where
  whole := by rw [h.whole]; simp
  number := by
    rw [List.count_append, List.count_cons_self, List.count_eq_zero_of_not_mem solid, ← h.number]
    omega
  begins := by
    right
    rcases h.begins with rfl | last
    · simp
    · simp [List.getLast?_cons, last]
  solid := h.solid
  ends := h.ends

theorem exists_lineAt (piece : (source.splitOn '\n')[i]? = some line) :
    ∃ before rest, LineAt source (i + 1) before line rest := by
  induction i generalizing source with
  | zero =>
    rcases splitOn_newline_cases source with ⟨solid, pieces⟩ | ⟨first, more, rfl, solid, pieces⟩
    · rw [pieces] at piece
      cases piece
      exact ⟨[], [], by simp, rfl, .inl rfl, solid, .inl rfl⟩
    · rw [pieces] at piece
      cases piece
      exact ⟨[], '\n' :: more, by simp, rfl, .inl rfl, solid, .inr rfl⟩
  | succ i ih =>
    rcases splitOn_newline_cases source with ⟨_, pieces⟩ | ⟨first, more, rfl, solid, pieces⟩
    · rw [pieces] at piece
      cases piece
    · rw [pieces] at piece
      obtain ⟨before, rest, h⟩ := ih piece
      exact ⟨first ++ '\n' :: before, rest, h.below solid⟩

theorem LineAt.lineSpanFrom (h : LineAt source (i + 1) before line rest) (start : Nat) :
    Text.lineSpanFrom start (source.splitOn '\n') i =
      some ⟨start + utf8Length before, start + utf8Length before + utf8Length (dropReturn line)⟩ := by
  induction i generalizing source before start with
  | zero =>
    have none : '\n' ∉ before := by
      rw [← List.count_eq_zero]
      have number := h.number
      omega
    have first : before = [] := by
      rcases h.begins with empty | last
      · exact empty
      · exact absurd (List.mem_of_getLast? last) none
    subst first
    have pieces : ∃ others, source.splitOn '\n' = line :: others := by
      rw [h.whole, List.nil_append]
      rcases h.ends with rfl | head
      · rw [List.append_nil]
        exact ⟨[], List.splitOn_eq_singleton h.solid⟩
      · obtain ⟨below, rfl⟩ := List.head?_eq_some_iff.mp head
        exact ⟨_, List.splitOn_append_cons_self_of_not_mem h.solid below⟩
    obtain ⟨others, pieces⟩ := pieces
    rw [pieces]
    rfl
  | succ i ih =>
    have number := h.number
    have feed : '\n' ∈ before := List.count_pos_iff.mp (by omega)
    obtain ⟨first, above, rfl, solid⟩ := List.eq_append_cons_of_mem feed
    rw [List.count_append, List.count_cons_self, List.count_eq_zero_of_not_mem solid] at number
    have begins : above = [] ∨ above.getLast? = some '\n' := by
      rcases List.eq_nil_or_concat' above with rfl | ⟨front, last, rfl⟩
      · exact .inl rfl
      · right
        simpa [List.getLast?_cons] using h.begins
    have lower : LineAt (above ++ line ++ rest) (i + 1) above line rest :=
      ⟨rfl, by omega, begins, h.solid, h.ends⟩
    have whole : source = first ++ '\n' :: (above ++ line ++ rest) := by
      rw [h.whole]
      simp
    have feedSize : utf8Length ['\n'] = 1 := rfl
    rw [whole, List.splitOn_append_cons_self_of_not_mem solid]
    show Text.lineSpanFrom (start + utf8Length first + 1) _ i = _
    rw [ih lower, utf8Length_append, ← List.singleton_append, utf8Length_append, feedSize]
    simp only [Nat.add_assoc]

theorem LineAt.lineSpan (h : LineAt source n before line rest) :
    Text.lineSpan source n =
      some ⟨utf8Length before, utf8Length before + utf8Length (dropReturn line)⟩ := by
  cases n with
  | zero => exact absurd h.number (Nat.succ_ne_zero _)
  | succ i =>
    have found := h.lineSpanFrom 0
    rw [Nat.zero_add] at found
    exact found

theorem exists_piece_of_lineSpanFrom {start : Nat} {pieces : List Text}
    (found : lineSpanFrom start pieces i = some span) : ∃ piece, pieces[i]? = some piece := by
  induction pieces generalizing start i with
  | nil => simp [lineSpanFrom] at found
  | cons piece pieces ih =>
    cases i with
    | zero => exact ⟨piece, rfl⟩
    | succ i => exact ih found

theorem exists_lineAt_of_lineSpan (found : Text.lineSpan source n = some span) :
    ∃ before line rest, LineAt source n before line rest ∧
      span = ⟨utf8Length before, utf8Length before + utf8Length (dropReturn line)⟩ := by
  cases n with
  | zero => cases found
  | succ i =>
    obtain ⟨line, piece⟩ := exists_piece_of_lineSpanFrom found
    obtain ⟨before, rest, h⟩ := exists_lineAt piece
    rw [h.lineSpan] at found
    exact ⟨before, line, rest, h, (Option.some.inj found).symm⟩

theorem exists_piece_of_lines {text : Text} (read : source.lines[i]? = some text) :
    ∃ line : Text, (source.splitOn '\n')[i]? = some line ∧
      text.dropEndWhile (· == '\r') = line.dropEndWhile (· == '\r') := by
  have nonempty : source.splitOn '\n' ≠ [] := List.splitOn_ne_nil _ _
  obtain ⟨front, last, pieces⟩ := (List.eq_nil_or_concat' (source.splitOn '\n')).resolve_left nonempty
  unfold lines at read
  rw [pieces] at read ⊢
  simp only [List.dropLast_concat, List.getLastD_concat] at read
  rcases Nat.lt_or_ge i front.length with inside | behind
  · rw [List.getElem?_append_left (by simpa using inside), List.getElem?_map] at read
    obtain ⟨line, piece, rfl⟩ := Option.map_eq_some_iff.mp read
    rw [List.getElem?_append_left inside]
    exact ⟨line, piece, dropEndWhile_dropReturn line⟩
  · rw [List.getElem?_append_right (by simpa using behind), List.length_map] at read
    rw [List.getElem?_append_right behind]
    split at read
    · cases read
    · exact ⟨text, read, rfl⟩

end Lines

end Text

namespace Span

def cut (span : Span) (bytes : List UInt8) : List UInt8 := (bytes.take span.stop).drop span.start

theorem cut_append (before covered rest : List UInt8) :
    (⟨before.length, before.length + covered.length⟩ : Span).cut (before ++ covered ++ rest) =
      covered := by
  unfold cut
  rw [← List.length_append, List.take_left, List.drop_left]

end Span

section Cutting

open Text

variable {source before line rest : Text} {n : Nat}

theorem Text.LineAt.cut_bytes (h : LineAt source n before line rest) :
    (⟨utf8Length before, utf8Length before + utf8Length (dropReturn line)⟩ : Span).cut
      (bytes source) = bytes (dropReturn line) := by
  obtain ⟨ret, split⟩ := exists_eq_dropReturn_append line
  have whole : bytes source = bytes before ++ bytes (dropReturn line) ++ bytes (ret ++ rest) := by
    rw [← bytes_append, ← bytes_append]
    congr 1
    calc source = before ++ line ++ rest := h.whole
      _ = before ++ (dropReturn line ++ ret) ++ rest := by rw [← split]
      _ = before ++ dropReturn line ++ (ret ++ rest) := by simp only [List.append_assoc]
  rw [whole, ← length_bytes, ← length_bytes (dropReturn line), Span.cut_append]

theorem Text.LineAt.stop_le (h : LineAt source n before line rest) :
    utf8Length before + utf8Length (dropReturn line) ≤ utf8Length source := by
  obtain ⟨ret, split⟩ := exists_eq_dropReturn_append line
  have whole := congrArg utf8Length h.whole
  have parts := congrArg utf8Length split
  rw [utf8Length_append] at parts
  rw [utf8Length_append, utf8Length_append] at whole
  omega

end Cutting

/-- A compilation that fails names a line that it has read, and the span of this line in the source
    covers the text that was read but for carriage returns at its end. -/
theorem Settings.fault_line_span (s : Settings) (target : Target) (source : Text) (fault : Fault)
    (fails : s.compileSource target source = .error fault) :
    ∃ n, (Failure.program fault).line = some n ∧ 1 ≤ n ∧ n ≤ source.lines.length ∧
      ∃ l ∈ SourceLine.number source.lines, l.index = n ∧
        ∃ span, source.lineSpan n = some span ∧ span.start ≤ span.stop ∧
          span.stop ≤ source.utf8Length ∧
          (span.cut source.bytes).rdropWhile (· == 13) = l.text.bytes := by
  obtain ⟨first, last⟩ := Backend.line_bounds_of_compile fails
  obtain ⟨before, l, later, split, position⟩ := Backend.exists_line_of_compile fails
  have numbered : l ∈ SourceLine.number source.lines := by
    rw [split]
    exact List.mem_append_right _ List.mem_cons_self
  refine ⟨fault.line, rfl, first, last, l, numbered, position.symm, ?_⟩
  obtain ⟨i, here⟩ := List.getElem?_of_mem numbered
  rw [SourceLine.getElem?_number] at here
  obtain ⟨text, read, rfl⟩ := Option.map_eq_some_iff.mp here
  obtain ⟨line, piece, trimmed⟩ := Text.exists_piece_of_lines read
  obtain ⟨above, rest, place⟩ := Text.exists_lineAt piece
  have span := place.lineSpan
  have number : i + 1 = fault.line := position.symm
  rw [number] at span
  refine ⟨_, span, Nat.le_add_right _ _, place.stop_le, ?_⟩
  rw [place.cut_bytes, Text.rdropWhile_bytes, Text.dropEndWhile_dropReturn, ← trimmed]

theorem Settings.fault_line_span_returns :
    let source : Text := "é\r\ncase 1\r\r\n"
    ({} : Settings).compileSource .cpp source = .error ⟨.structural .caseOutsideSwitch, 2⟩ ∧
      ∃ span, source.lineSpan 2 = some span ∧
        (span.cut source.bytes).rdropWhile (· == 13) = Text.bytes "case 1" := by
  intro source
  have fails : ({} : Settings).compileSource .cpp source =
      .error ⟨.structural .caseOutsideSwitch, 2⟩ := by
    rfl
  obtain ⟨n, named, _, _, l, read, index, span, found, _, _, covered⟩ :=
    Settings.fault_line_span {} .cpp source _ fails
  cases named
  have lines : ∀ l ∈ SourceLine.number source.lines, l.index = 2 → l.text = "case 1" := by decide
  rw [lines l read index] at covered
  exact ⟨fails, span, found, covered⟩

end BlockScript
