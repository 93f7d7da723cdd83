import BlockScript.Proofs.BareLines
import BlockScript.Proofs.Hoisting
import BlockScript.Proofs.Qualifier
import Mathlib.Data.List.DropRight

/-!
The ends of C++ statements. Whether a terminator is missing is decided on both ends of the text that
a line writes, and a missing one is put at the very end. So a statement is ended unless a comment
stands behind it; a comment then takes the terminator in.
-/
namespace BlockScript

namespace Text

variable {t w : Text} {d : Char}

theorem trimEnd_append_solid (solid : isBlankChar d = false) {tail : Text}
    (blank : tail.isBlank = true) (front : Text) : trimEnd (front ++ d :: tail) = front ++ [d] := by
  have whole : front ++ d :: tail = (front ++ [d]) ++ tail := by simp
  have last : (front ++ [d]).endsWith isBlankChar = false := by simp [endsWith, solid]
  rw [whole, trimEnd_append, if_pos blank]
  exact dropEndWhile_of_endsWith_eq_false last

theorem exists_solid_end (some : t.isBlank = false) :
    ∃ front d tail, t = front ++ d :: tail ∧ isBlankChar d = false ∧ isBlank tail = true := by
  induction t using List.reverseRecOn with
  | nil => cases some
  | append_singleton front last ih =>
    by_cases blank : isBlankChar last = true
    · have before : isBlank front = false := by simpa [isBlank, blank] using some
      obtain ⟨front', d, tail, rfl, solid, all⟩ := ih before
      exact ⟨front', d, tail ++ [last], by simp, solid, by simpa [isBlank, blank] using all⟩
    · exact ⟨front, last, [], rfl, by simpa using blank, rfl⟩

theorem trimStart_append_solid (solid : isBlankChar d = false) (front tail : Text) :
    ∃ front', trimStart (front ++ d :: tail) = front' ++ d :: tail := by
  unfold trimStart
  rw [List.dropWhile_append]
  split
  · exact ⟨[], by simp [solid]⟩
  · exact ⟨_, rfl⟩

theorem endsWith_trim_iff {p : Char → Bool} :
    t.trim.endsWith p = true ↔ ∃ front d tail, t = front ++ d :: tail ∧ isBlankChar d = false ∧
      isBlank tail = true ∧ p d = true := by
  cases blank : t.isBlank with
  | true =>
    have none : t.trim = [] := by
      rw [trim, trimStart_eq_nil_iff.mpr blank]
      rfl
    rw [none]
    constructor
    · nofun
    · intro parts
      obtain ⟨front, d, tail, whole, solid, _⟩ := parts
      have mem : d ∈ t := by simp [whole]
      exact absurd mem (not_mem_of_isBlank blank solid)
  | false =>
    obtain ⟨front, d, tail, rfl, solid, rest⟩ := exists_solid_end blank
    obtain ⟨front', start⟩ := trimStart_append_solid solid front tail
    rw [trim, start, trimEnd_append_solid solid rest]
    constructor
    · intro ends
      exact ⟨front, d, tail, rfl, solid, rest, by simpa [endsWith] using ends⟩
    · intro parts
      obtain ⟨front'', d', tail', same, solid', rest', holds⟩ := parts
      have ends := congrArg trimEnd same
      rw [trimEnd_append_solid solid rest, trimEnd_append_solid solid' rest'] at ends
      obtain ⟨_, last⟩ := List.append_inj' ends rfl
      obtain ⟨rfl, _⟩ := List.cons.inj last
      simpa [endsWith] using holds

theorem prefix_dropEndWhile_iff {p : Char → Bool} (kept : w.endsWith p = false) :
    w <+: t.dropEndWhile p ↔ w <+: t := by
  constructor
  · intro found
    exact found.trans (List.rdropWhile_prefix p t)
  · intro found
    obtain ⟨rest, rfl⟩ := found
    induction rest using List.reverseRecOn with
    | nil => rw [List.append_nil, dropEndWhile_of_endsWith_eq_false kept]
    | append_singleton rest last ih =>
      rw [← List.append_assoc]
      by_cases dropped : p last = true
      · have shorter : dropEndWhile p (w ++ rest ++ [last]) = dropEndWhile p (w ++ rest) :=
          List.rdropWhile_concat_pos _ _ _ dropped
        rw [shorter]
        exact ih
      · have whole : dropEndWhile p (w ++ rest ++ [last]) = w ++ rest ++ [last] :=
          List.rdropWhile_concat_neg _ _ _ dropped
        rw [whole, List.append_assoc]
        exact List.prefix_append w _

theorem prefix_trimStart_iff (some : w ≠ []) (solid : ∀ c ∈ w, isBlankChar c = false) :
    w <+: t.trimStart ↔ ∃ pad : Text, pad.isBlank = true ∧ pad ++ w <+: t := by
  constructor
  · intro found
    have cut : t.takeWhile isBlankChar ++ t.trimStart = t := List.takeWhile_append_dropWhile
    have behind := (List.prefix_append_right_inj (t.takeWhile isBlankChar)).mpr found
    rw [cut] at behind
    exact ⟨_, isBlank_iff.mpr fun c mem => List.mem_takeWhile_imp mem, behind⟩
  · intro behind
    obtain ⟨pad, blank, rest, rfl⟩ := behind
    rw [List.append_assoc, trimStart_append blank]
    cases w with
    | nil => exact absurd rfl some
    | cons c w =>
      have start : trimStart (c :: w ++ rest) = c :: w ++ rest :=
        List.dropWhile_cons_of_neg (by simp [solid])
      rw [start]
      exact List.prefix_append _ rest

theorem prefix_trim_iff (some : w ≠ []) (solid : ∀ c ∈ w, isBlankChar c = false) :
    w <+: t.trim ↔ ∃ pad : Text, pad.isBlank = true ∧ pad ++ w <+: t := by
  have kept : w.endsWith isBlankChar = false := by
    rw [← Bool.not_eq_true, endsWith, Option.any_eq_true]
    intro last
    obtain ⟨c, ends, blank⟩ := last
    rw [solid c (List.mem_of_getLast? ends)] at blank
    cases blank
  rw [← prefix_trimStart_iff some solid]
  exact prefix_dropEndWhile_iff kept

theorem isSome_after?_iff : (after? w t).isSome = true ↔ w <+: t := by
  rw [Option.isSome_iff_exists]
  exact exists_congr fun rest => after?_eq_some_iff.trans eq_comm

end Text

namespace CPlusPlus

theorem isBlank_substitute (t : Text) : (substitute nativeNames t).isBlank = t.isBlank := by
  refine substitute_preserves (P := fun u => Text.isBlank u = Text.isBlank t) ?_ ?_ rfl
  · intro u same
    rw [Text.isBlank_replaceAll (by decide) (by decide), same]
  · intro spelling mem u same
    have solid : ∀ spelling ∈ Builtin.spellings, Text.isBlank spelling.2 = false ∧
        Text.isBlank (nativeNames.call spelling.1) = false := by
      decide
    obtain ⟨hp, hi⟩ := solid spelling mem
    rw [Text.isBlank_replaceAll hp hi, same]

def starters : List Char := ['(', 'p', 'r', 'a', 'l', '\\', 's']

section Beginnings

variable {w : Text} (foreign : ∀ c ∈ starters, c ∉ w)
include foreign

theorem prefix_replaceAll_of_starters {pattern insert : Text}
    (hp : pattern.head?.any (· ∈ starters) = true) (hi : insert.head?.any (· ∈ starters) = true)
    (t : Text) : w <+: Text.replaceAll pattern insert t ↔ w <+: t := by
  cases pattern with
  | nil => cases hp
  | cons c p =>
    cases insert with
    | nil => cases hi
    | cons d i =>
      have hc : c ∉ w := foreign c (by simpa using hp)
      have hd : d ∉ w := foreign d (by simpa using hi)
      exact Text.prefix_replaceAll_iff hc hd

/-- The substitution touches no beginning of a text in which none of these characters is. -/
theorem prefix_substitute_iff (t : Text) : w <+: substitute nativeNames t ↔ w <+: t := by
  refine substitute_preserves (P := fun u => w <+: u ↔ w <+: t) ?_ ?_ Iff.rfl
  · intro u same
    exact (prefix_replaceAll_of_starters foreign (by decide) (by decide) u).trans same
  · intro spelling mem u same
    have begins : ∀ spelling ∈ Builtin.spellings, spelling.2.head?.any (· ∈ starters) = true ∧
        (nativeNames.call spelling.1).head?.any (· ∈ starters) = true := by
      decide
    obtain ⟨hp, hi⟩ := begins spelling mem
    exact (prefix_replaceAll_of_starters foreign hp hi u).trans same

end Beginnings

def IsNote (t : Text) : Prop := ("//" : Text) <+: t.trim ∨ ("#" : Text) <+: t.trim

theorem isNote_substitute_iff (t : Text) : IsNote (substitute nativeNames t) ↔ IsNote t := by
  have starter : ∀ c ∈ starters, Text.isBlankChar c = false := by simp [starters, Text.isBlankChar]
  have same : ∀ mark : Text, mark ≠ [] → (∀ c ∈ mark, Text.isBlankChar c = false) →
      (∀ c ∈ starters, c ∉ mark) →
        (mark <+: (substitute nativeNames t).trim ↔ mark <+: t.trim) := by
    intro mark some solid foreign
    rw [Text.prefix_trim_iff some solid, Text.prefix_trim_iff some solid]
    refine exists_congr fun pad => and_congr_right fun blank => ?_
    refine prefix_substitute_iff ?_ t
    intro c mem within
    rcases List.mem_append.mp within with inside | inside
    · exact Text.not_mem_of_isBlank blank (starter c mem) inside
    · exact foreign c mem inside
  have comment := same "//" (by decide) (by simp [Text.isBlankChar]) (by simp [starters])
  have directive := same "#" (by decide) (by simp [Text.isBlankChar]) (by simp [starters])
  exact or_congr comment directive

section Comments

/-- Where a reader of the line is: in the code, in a literal, or behind a backslash in one. -/
inductive Place where
  | code
  | literal (quote : Char)
  | escape (quote : Char)
  deriving DecidableEq, Repr

def Place.next (quotes : List Char) : Place → Char → Place
  | code, c => if c ∈ quotes then literal c else code
  | literal quote, c =>
      if c = '\\' then escape quote else if c = quote then code else literal quote
  | escape quote, _ => literal quote

def uncommented (quotes : List Char) : Place → Text → Text
  | _, [] => []
  | place, c :: rest =>
      if place = .code ∧ c = '/' ∧ rest.head? = some '/' then []
      else c :: uncommented quotes (place.next quotes c) rest

example : uncommented ['"'] .code "s = \"//\" // s" = "s = \"//\" " := by decide

/-- What is put behind a comment belongs to it, and nothing else does. -/
theorem uncommented_concat {d : Char} (other : d ≠ '/') (quotes : List Char) (place : Place)
    (t : Text) :
    uncommented quotes place (t ++ [d]) =
      if uncommented quotes place t = t then t ++ [d] else uncommented quotes place t := by
  induction t generalizing place with
  | nil =>
    have code : ¬ (place = .code ∧ d = '/' ∧ ([] : Text).head? = some '/') := by simp
    simp only [List.nil_append, uncommented, if_neg code, if_true]
  | cons c rest ih =>
    have next : (rest ++ [d]).head? = some '/' ↔ rest.head? = some '/' := by
      cases rest <;> simp [other]
    simp only [List.cons_append, uncommented, next]
    split
    · simp
    · rw [ih]
      split
      · rename_i whole
        simp [whole]
      · rename_i commented
        simp [commented]

end Comments

section Ends

def endsStatement (r : Resolution) (d : Char) : Bool :=
  match r with
  | .passThrough => d ∈ ['\x7b', '\x7d', ';', ':']
  | _ => d == ';'

def Ended (r : Resolution) (t : Text) : Prop := t.trim.endsWith (endsStatement r) = true

instance (r : Resolution) (t : Text) : Decidable (Ended r t) :=
  inferInstanceAs (Decidable (_ = true))

def IsStatement (r : Resolution) (t : Text) : Prop :=
  match r with
  | .keyword _ => False
  | .declaration | .assignment => True
  | .passThrough => ¬ IsNote t

def padded (c : CPlusPlus) (r : Resolution) (stack : FrameStack) (text : Text) : Text :=
  Text.times (depth r stack) c.indent ++ substitute nativeNames text

/-- The colon that ends the line is the last one of a qualifier. -/
def LosesColon (c : CPlusPlus) (r : Resolution) (line : Text) : Prop :=
  r = .passThrough ∧ c.importNamespace = true ∧ c.qualifier <:+ line.trimEnd

variable {c : CPlusPlus} {r : Resolution} {t : Text}

theorem ended_append (margin : Text) (h : Ended r t) : Ended r (margin ++ t) := by
  obtain ⟨front, d, tail, rfl, rest⟩ := Text.endsWith_trim_iff.mp h
  exact Text.endsWith_trim_iff.mpr ⟨margin ++ front, d, tail, by simp, rest⟩

theorem ended_concat_semicolon (r : Resolution) (t : Text) : Ended r (t ++ ";") := by
  have ends : endsStatement r ';' = true := by cases r <;> rfl
  exact Text.endsWith_trim_iff.mpr ⟨t, ';', [], rfl, rfl, rfl, ends⟩

theorem localize_concat {d : Char}
    (kept : ¬ (c.importNamespace = true ∧ c.qualifier <:+ t ++ [d])) :
    c.localize (t ++ [d]) = c.localize t ++ [d] := by
  unfold localize
  split
  · rename_i imported
    exact Text.replaceAll_concat (fun found => kept ⟨imported, found⟩) []
  · rfl

theorem eq_colon_of_qualifier_suffix {d : Char} (found : c.qualifier <:+ t ++ [d]) : d = ':' := by
  obtain ⟨front, whole⟩ := found
  have last := congrArg List.getLast? whole
  rw [List.getLast?_append, getLast?_qualifier, List.getLast?_concat] at last
  exact (Option.some.inj last).symm

theorem localize_append_of_not_mem {tail : Text} (foreign : ':' ∉ tail) (t : Text) :
    c.localize (t ++ tail) = c.localize t ++ tail := by
  induction tail generalizing t with
  | nil => simp
  | cons d tail ih =>
    obtain ⟨other, foreign⟩ := List.ne_and_not_mem_of_not_mem_cons foreign
    have kept : ¬ (c.importNamespace = true ∧ c.qualifier <:+ t ++ [d]) := by
      intro dropped
      obtain ⟨_, found⟩ := dropped
      exact other (eq_colon_of_qualifier_suffix found).symm
    rw [List.append_cons, ih foreign, localize_concat kept, ← List.append_cons]

theorem localize_concat_semicolon (c : CPlusPlus) (t : Text) :
    c.localize (t ++ ";") = c.localize t ++ ";" := localize_append_of_not_mem (by decide) t

theorem ended_localize {text : Text} (ended : Ended r text) (pad : Text)
    (keeps : ¬ c.LosesColon r (pad ++ text)) : Ended r (c.localize (pad ++ text)) := by
  obtain ⟨front, d, tail, rfl, solid, blank, ends⟩ := Text.endsWith_trim_iff.mp ended
  have whole : pad ++ (front ++ d :: tail) = (pad ++ front ++ [d]) ++ tail := by simp
  have line : (pad ++ (front ++ d :: tail)).trimEnd = pad ++ front ++ [d] := by
    rw [← List.append_assoc]
    exact Text.trimEnd_append_solid solid blank (pad ++ front)
  have kept : ¬ (c.importNamespace = true ∧ c.qualifier <:+ pad ++ front ++ [d]) := by
    intro dropped
    obtain ⟨imported, found⟩ := dropped
    have colon := eq_colon_of_qualifier_suffix found
    have passed : r = .passThrough := by
      rw [colon] at ends
      cases r with
      | passThrough => rfl
      | _ => cases ends
    exact keeps ⟨passed, imported, line ▸ found⟩
  have foreign : ':' ∉ tail := Text.not_mem_of_isBlank blank (by decide)
  rw [whole, localize_append_of_not_mem foreign, localize_concat kept, List.append_assoc]
  exact Text.endsWith_trim_iff.mpr ⟨_, d, tail, rfl, solid, blank, ends⟩

theorem needsTerminator_of_isNote {text : Text} (note : IsNote text) :
    needsTerminator .passThrough text = false := by
  rw [IsNote, ← Text.isSome_after?_iff, ← Text.isSome_after?_iff, ← Bool.or_eq_true] at note
  show (!(_ || Text.endsWith _ _)) = false
  rw [note, Bool.true_or, Bool.not_true]

theorem needsTerminator_iff {text : Text} (block : ∀ k, r ≠ .keyword k)
    (statement : r = .passThrough → ¬ IsNote text) :
    needsTerminator r text = true ↔ ¬ Ended r text := by
  unfold Ended
  cases r with
  | keyword k => exact absurd rfl (block k)
  | passThrough =>
    have plain := statement rfl
    rw [IsNote, ← Text.isSome_after?_iff, ← Text.isSome_after?_iff, ← Bool.or_eq_true,
      Bool.not_eq_true] at plain
    show (!(_ || Text.endsWith _ (endsStatement .passThrough))) = true ↔ _
    rw [plain, Bool.false_or, Bool.not_eq_true', Bool.not_eq_true]
  | _ =>
    show (!(Text.endsWith _ _)) = true ↔ _
    rw [Bool.not_eq_true', Bool.not_eq_true]
    rfl

theorem not_losesColon {text : Text} (some : text.isBlank = false) (unended : ¬ Ended r text)
    (pad : Text) : ¬ c.LosesColon r (pad ++ text) := by
  intro loses
  obtain ⟨passed, _, found⟩ := loses
  obtain ⟨front, d, tail, rfl, solid, blank⟩ := Text.exists_solid_end some
  rw [← List.append_assoc, Text.trimEnd_append_solid solid blank] at found
  have colon := eq_colon_of_qualifier_suffix found
  have ends : endsStatement r d = true := by
    rw [passed, colon]
    rfl
  exact unended (Text.endsWith_trim_iff.mpr ⟨front, d, tail, rfl, solid, blank, ends⟩)

/-- Up to its first comment, a finished line ends a statement if it has no comment and keeps its
    end, or if its text ends a statement before the comment. -/
theorem ended_terminated_iff {text : Text} (block : ∀ k, r ≠ .keyword k)
    (statement : r = .passThrough → ¬ IsNote text) (some : text.isBlank = false)
    (quotes : List Char) (pad margin : Text) :
    Ended r (uncommented quotes .code (margin ++ c.localize (pad ++ terminated r text))) ↔
      uncommented quotes .code (margin ++ c.localize (pad ++ text)) =
          margin ++ c.localize (pad ++ text) ∧ ¬ c.LosesColon r (pad ++ text) ∨
        Ended r (uncommented quotes .code (margin ++ c.localize (pad ++ text))) := by
  by_cases ended : Ended r text
  · have complete : terminated r text = text :=
      if_neg fun needed => (needsTerminator_iff block statement).mp needed ended
    rw [complete]
    constructor
    · exact .inr
    · rintro (⟨bare, keeps⟩ | closed)
      · rw [bare]
        exact ended_append margin (ended_localize ended pad keeps)
      · exact closed
  · have added : terminated r text = text ++ ";" :=
      if_pos ((needsTerminator_iff block statement).mpr ended)
    have keeps := not_losesColon (c := c) some ended pad
    rw [added, ← List.append_assoc, localize_concat_semicolon, ← List.append_assoc]
    show Ended r (uncommented quotes .code (_ ++ [';'])) ↔ _
    rw [uncommented_concat (by decide)]
    split
    · rename_i bare
      have ends : Ended r _ := ended_concat_semicolon r (margin ++ c.localize (pad ++ text))
      exact ⟨fun _ => .inl ⟨bare, keeps⟩, fun _ => ends⟩
    · rename_i commented
      simp [commented]

end Ends

section Lines

variable {c : CPlusPlus} {l : SourceLine}

theorem ne_keyword_of_isStatement {r : Resolution} {t : Text} (h : IsStatement r t) (k : Keyword) :
    r ≠ .keyword k := by
  intro structural
  rw [structural] at h
  exact h

theorem action_of_isStatement (h : IsStatement (c.backend.resolve l.instruction) l.text) :
    c.backend.action l = .ok .plain := by
  unfold Backend.action
  split
  · rename_i k structural
    exact absurd structural (ne_keyword_of_isStatement h k)
  · rfl

theorem not_isNote_of_isStatement {w : Rendering} {text : Text}
    (h : IsStatement (c.backend.resolve l.instruction) l.text)
    (writes : c.backend.written l none = .ok w) (mem : text ∈ w.lines.getD [l.text])
    (passed : c.backend.resolve l.instruction = .passThrough) :
    ¬ IsNote (substitute nativeNames text) := by
  unfold Backend.written at writes
  rw [passed] at h writes
  cases writes
  rw [List.mem_singleton.mp mem, isNote_substitute_iff]
  exact h

end Lines

end CPlusPlus

/-- A finished statement of a program that compiles is its text, with a terminator behind it or
    without. Up to its first comment it is ended if there is no comment, or if the text itself ends
    it before the comment; but a line that is passed through must not end in the colons of a
    qualifier that is dropped. The lines of the body get one level of indentation more, which can be
    any margin. -/
theorem CPlusPlus.statement_ended_iff (c : CPlusPlus) (quotes : List Char) (lines : List Text)
    (out : Text) (compiles : c.backend.compile lines = .ok out) (past later : List SourceLine)
    (l : SourceLine) (split : SourceLine.number lines = past ++ l :: later)
    (statement : IsStatement (c.backend.resolve l.instruction) l.text) :
    ∃ ctx w, c.backend.run past {} = .ok () ctx ∧ c.backend.written l none = .ok w ∧
      ∀ line ∈ c.backend.finished past l, ∃ text ∈ w.lines.getD [l.text],
        let r := c.backend.resolve l.instruction
        let padded := c.padded r ctx.stack text
        (line = c.localize padded ∨ line = c.localize padded ++ ";") ∧
          ∀ margin : Text, Ended r (uncommented quotes .code (margin ++ line)) ↔
            uncommented quotes .code (margin ++ c.localize padded) = margin ++ c.localize padded ∧
                ¬ c.LosesColon r padded ∨
              Ended r (uncommented quotes .code (margin ++ c.localize padded)) := by
  obtain ⟨last, run, _⟩ := Backend.compile_eq_ok_iff.mp compiles
  rw [split] at run
  obtain ⟨ctx, before, rest⟩ := Backend.reach_append_eq_ok_iff.mp run
  obtain ⟨after, passes, _⟩ := Backend.reach_cons_eq_ok_iff.mp rest
  obtain ⟨a, acts, stack, closed, applies, w, writes, _⟩ := Backend.outcome_eq_ok_iff.mp passes
  have plain := action_of_isStatement statement
  rw [acts] at plain
  cases plain
  cases applies
  refine ⟨ctx, w, Backend.reach_eq_ok_iff.mp before, writes, ?_⟩
  intro line mem
  rw [Backend.finished_eq before acts rfl writes] at mem
  obtain ⟨text, kept, rfl⟩ := List.mem_map.mp mem
  obtain ⟨written, some⟩ := List.mem_filter.mp kept
  have written := (List.mem_filter.mp written).1
  refine ⟨text, written, ?_, ?_⟩
  · unfold terminated
    split
    · rw [← List.append_assoc, localize_concat_semicolon]
      exact .inr rfl
    · exact .inl rfl
  · have block := ne_keyword_of_isStatement statement
    have plain := not_isNote_of_isStatement statement writes written
    have some : (substitute nativeNames text).isBlank = false := by
      rw [isBlank_substitute]
      simpa using some
    exact ended_terminated_iff block plain some quotes _

theorem CPlusPlus.statement_ended_iff_before_comment :
    let c : CPlusPlus := {}
    c.backend.finished [] ⟨"x = 3; // note", 1⟩ = [("x = 3; // note;" : Text)] ∧
      Ended .assignment (uncommented ['"'] .code "\tx = 3; // note;") := by
  intro c
  have compiles : (c.backend.compile ["x = 3; // note"]).toOption.isSome = true := by decide +kernel
  obtain ⟨out, compiles⟩ := exists_eq_ok_of_isSome compiles
  have finished : c.backend.finished [] ⟨"x = 3; // note", 1⟩ = [("x = 3; // note;" : Text)] := by
    decide +kernel
  obtain ⟨ctx, w, run, writes, whole⟩ :=
    CPlusPlus.statement_ended_iff c ['"'] ["x = 3; // note"] out compiles [] []
      ⟨"x = 3; // note", 1⟩ rfl trivial
  cases run
  cases writes
  rw [finished] at whole
  obtain ⟨text, mem, _, ended⟩ := whole "x = 3; // note;" List.mem_cons_self
  rw [List.mem_singleton.mp mem] at ended
  exact ⟨finished, (ended "\t").mpr (.inr (by decide +kernel))⟩

/-- The terminator of an assignment is put into the comment behind it. -/
theorem CPlusPlus.terminator_in_comment :
    let c : CPlusPlus := {}
    c.backend.resolve (SourceLine.instruction ⟨"x = 3 // note", 1⟩) = .assignment ∧
      c.backend.compile ["x = 3 // note"] =
        .ok "#include <iostream>\n\nint main() \x7b\n\tx = 3 // note;\n\treturn 0;\n\x7d" ∧
      ¬ Ended .assignment (uncommented ['"'] .code "\tx = 3 // note;") := by
  intro c
  exact ⟨by decide +kernel, by decide +kernel, by decide +kernel⟩

end BlockScript
