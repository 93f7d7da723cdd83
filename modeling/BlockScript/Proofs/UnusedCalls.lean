import BlockScript.Proofs.BraceWords
import BlockScript.Proofs.DeclaredNames

/-!
What C++ lines add to the texts of the source calls no function of the notation: every punctuation
mark cuts the spelling of a call. Only in the header of a function is a parenthesis put behind a
text of the source, and there it may complete one.
-/
namespace BlockScript
open Text

namespace Text

variable {pattern s t : Text}

theorem exists_drop_dropEndWhile (c : Char) (t : Text) :
    ∃ n, t.drop (t.dropEndWhile (· == c)).length = List.replicate n c := by
  have whole : t = t.dropEndWhile (· == c) ++ (t.reverse.takeWhile (· == c)).reverse := by
    rw [dropEndWhile, ← List.reverse_append, List.takeWhile_append_dropWhile, List.reverse_reverse]
  have same : ∀ d ∈ (t.reverse.takeWhile (· == c)).reverse, d = c := by
    intro d mem
    have kept := List.mem_takeWhile_imp (List.mem_reverse.mp mem)
    exact beq_iff_eq.mp kept
  refine ⟨_, Eq.trans ?_ (List.eq_replicate_of_mem same)⟩
  conv_lhs => rw [congrArg (List.drop _) whole, List.drop_left]

theorem IsCallSpelling.infix_append_paren (call : pattern.IsCallSpelling)
    (found : pattern <:+: s ++ '(' :: t) :
    pattern <:+: s ∨ pattern <:+ s ++ ['('] ∨ pattern <:+: t := by
  rw [List.append_cons] at found
  rcases List.infix_append_iff_ne_nil.mp found with within | behind |
    ⟨first, last, some, more, whole, ends, _⟩
  · rcases List.infix_concat_iff.mp within with at_ | before
    · exact .inr (.inl at_)
    · exact .inl before
  · exact .inr (.inr behind)
  · -- the part up to the parenthesis would be a beginning of the letters of the call
    have begins : first <+: pattern.dropLast := by
      rw [whole, List.dropLast_append_of_ne_nil more]
      exact List.prefix_append first _
    obtain ⟨front, rfl, _⟩ := (List.suffix_concat_iff.mp ends).resolve_left some
    exact absurd (begins.subset (by simp)) call.2

end Text

namespace Builtin

variable {b : Builtin} {name sep pad s t : Text}

theorem mem_spellings (mem : name ∈ b.sourceNames) : (b, name) ∈ spellings := by
  have listed : b ∈ all := by cases b <;> decide
  exact List.mem_flatMap.mpr ⟨b, listed, List.mem_map.mpr ⟨name, mem, rfl⟩⟩

def Unused (b : Builtin) (t : Text) : Prop := b.usedIn t = false

instance (b : Builtin) (t : Text) : Decidable (b.Unused t) :=
  inferInstanceAs (Decidable (b.usedIn t = false))

theorem unused_iff : b.Unused t ↔ ∀ name ∈ b.sourceNames, ¬ name <:+: t := by
  unfold Unused usedIn
  rw [List.any_eq_false]
  simp only [Text.occursIn_iff]

theorem Unused.mono (unused : b.Unused t) (h : s <:+: t) : b.Unused s := by
  rw [unused_iff] at unused ⊢
  exact fun name mem found => unused name mem (found.trans h)

def Opening (pad : Text) : Prop := ∀ spelling ∈ spellings, Detached spelling.2 pad

instance (pad : Text) : Decidable (Opening pad) :=
  inferInstanceAs (Decidable (∀ spelling ∈ spellings, Detached spelling.2 pad))

/-- No call begins in the separator or reaches into it. -/
def Separator (sep : Text) : Prop :=
  Opening sep ∧ ∀ spelling ∈ spellings, sep.head?.any (· ∉ spelling.2) = true

instance (sep : Text) : Decidable (Separator sep) :=
  inferInstanceAs (Decidable (Opening sep ∧
    ∀ spelling ∈ spellings, sep.head?.any (· ∉ spelling.2) = true))

theorem Unused.prepend (unused : b.Unused t) (opening : Opening pad) : b.Unused (pad ++ t) := by
  rw [unused_iff] at unused ⊢
  intro name mem
  rw [(opening (b, name) (mem_spellings mem)).infix_append_iff]
  exact unused name mem

theorem Unused.append (first : b.Unused s) (separator : Separator sep) (second : b.Unused t) :
    b.Unused (s ++ sep ++ t) := by
  have opened := second.prepend separator.1
  rw [unused_iff] at first second opened ⊢
  intro name mem found
  have spelling := mem_spellings mem
  have foreign := separator.2 _ spelling
  cases sep with
  | nil => cases foreign
  | cons c sep =>
    have outside : c ∉ name := by simpa using foreign
    have nonempty := (isCallSpelling _ spelling).ne_nil
    rw [List.append_assoc, List.cons_append, infix_append_cons_iff outside nonempty] at found
    rcases found with before | behind
    · exact first name mem before
    · exact opened name mem (List.infix_cons behind)

theorem unused_nil (b : Builtin) : b.Unused [] := by cases b <;> decide

theorem unused_openBrace (b : Builtin) : b.Unused CPlusPlus.openBrace := by cases b <;> decide

theorem unused_closeBrace (b : Builtin) : b.Unused CPlusPlus.closeBrace := by cases b <;> decide

theorem Unused.concat (first : b.Unused s) (separator : Separator sep) : b.Unused (s ++ sep) := by
  have ended := first.append separator (unused_nil b)
  rwa [List.append_nil] at ended

theorem Unused.join (separator : Separator sep) {parts : List Text}
    (unused : ∀ part ∈ parts, b.Unused part) : b.Unused (join sep parts) := by
  induction parts with
  | nil => exact unused_nil b
  | cons part parts ih =>
    obtain ⟨first, others⟩ := List.forall_mem_cons.mp unused
    cases parts with
    | nil => rwa [join_singleton]
    | cons next parts =>
      rw [join_cons_cons]
      exact first.append separator (ih others)

theorem Unused.separated (unused : b.Unused t) : b.Unused (replaceAll " & " " << " t) := by
  have kept : ∀ spelling ∈ spellings, Keeps spelling.2 " & " " << " := by decide
  rw [unused_iff] at unused ⊢
  exact fun name mem => Keeps.not_infix (kept _ (mem_spellings mem)) (unused name mem)

theorem unused_phrase {head rest : Text} (hh : b.Unused head) (hr : b.Unused rest) :
    b.Unused (phrase head rest) := by
  unfold phrase
  split
  · exact hh
  · exact hh.append (by decide) hr

theorem Unused.brackets (first : b.Unused s) {dims : List Text} (unused : ∀ d ∈ dims, b.Unused d) :
    b.Unused (s ++ dims.flatMap bracketed) := by
  induction dims generalizing s with
  | nil => simpa using first
  | cons d dims ih =>
    obtain ⟨dim, others⟩ := List.forall_mem_cons.mp unused
    have bracket : b.Unused (s ++ bracketed d) := by
      unfold bracketed
      have inside := (first.append (by decide : Separator "[") dim).concat
        (by decide : Separator "]")
      simpa using inside
    rw [List.flatMap_cons, ← List.append_assoc]
    exact ih bracket others

end Builtin

section Operands

variable {token : Text}

def Param.texts (x : Param) : List Text := x.name :: x.type.texts

theorem Param.infix_of_mem_texts {type name text : Text} (mem : text ∈ (decode type name).texts) :
    text <:+: type ∨ text <:+: name := by
  have named : (decode type name).name = name := by
    unfold decode
    split <;> rfl
  rcases List.mem_cons.mp mem with same | mem
  · exact .inr (by rw [same, named])
  · exact .inl (Param.infix_of_mem_type mem)

theorem ParamList.infix_of_mem_texts : ∀ {tokens : List Text}, ∀ x ∈ (decode tokens).params,
    ∀ text ∈ x.texts, ∃ token ∈ tokens, text <:+: token
  | type :: name :: rest, x, mem, text, inside => by
    rcases List.mem_cons.mp mem with rfl | mem
    · rcases Param.infix_of_mem_texts inside with within | within
      · exact ⟨type, by simp, within⟩
      · exact ⟨name, by simp, within⟩
    · obtain ⟨token, given, within⟩ := infix_of_mem_texts x mem text inside
      exact ⟨token, by simp [given], within⟩
  | [_], _, mem, _, _ => by cases mem
  | [], _, mem, _, _ => by cases mem

end Operands

namespace CPlusPlus

open Builtin

structure Silent (c : CPlusPlus) (b : Builtin) : Prop where
  indent : b.Unused c.indent
  types : ∀ e ∈ c.types.entries, b.Unused e.2

variable {c : CPlusPlus} {b : Builtin} (hc : c.Silent b)
include hc

theorem Silent.resolve (keyword : Text) :
    Meets b.Unused (fun _ => True) (c.types.resolve keyword) := by
  cases found : c.types.resolve keyword with
  | error cause => trivial
  | ok spelling =>
    have listed := TypeTable.mem_entries_of_get? (TypeTable.resolve_eq_ok_iff.mp found)
    exact hc.types (keyword, spelling) listed

section Renderers

omit hc in
theorem unused_structName {name : Text} (unused : b.Unused name) :
    b.Unused (c.structName name) := by
  unfold structName
  split
  · exact unused.prepend (by decide)
  · exact unused

theorem Silent.param {x : Param} (unused : ∀ t ∈ x.texts, b.Unused t) :
    Meets b.Unused (fun _ => True) (c.param x) := by
  obtain ⟨name, type⟩ := List.forall_mem_cons.mp unused
  have referred : ∀ {s : Text}, b.Unused s →
      b.Unused (s ++ if x.byRef then ("&" : Text) else []) := by
    intro s first
    split
    · exact first.concat (by decide)
    · rwa [List.append_nil]
  unfold CPlusPlus.param
  cases ht : x.type with
  | primitive keyword =>
    refine meets_map (hc.resolve keyword) ?_
    intro spelling hs
    exact (referred hs).append (by decide) name
  | array element dims =>
    rw [ht] at type
    refine meets_map (hc.resolve element) ?_
    intro spelling hs
    have declared := hs.append (by decide : Separator " ") name
    unfold paramDims
    split
    · exact declared.concat (by decide)
    · exact declared.brackets type
  | struct label =>
    rw [ht] at type
    exact (referred (unused_structName (type label (by simp [ValueType.texts])))).append
      (by decide) name

theorem Silent.params {tokens : List Text} (unused : ∀ t ∈ tokens, b.Unused t) :
    Meets (fun rendered => ∀ text ∈ rendered, b.Unused text) (fun _ => True)
      ((ParamList.decode tokens).params.mapM c.param) := by
  refine meets_mapM fun x mem => hc.param fun t inside => ?_
  obtain ⟨token, given, within⟩ := ParamList.infix_of_mem_texts x mem t inside
  exact (unused token given).mono within

theorem Silent.returnType {token : Text} (unused : b.Unused token) :
    Meets b.Unused (fun _ => True) (c.returnType (.decode token)) := by
  unfold ReturnType.decode
  split
  · show b.Unused "void"
    cases b <;> decide
  · cases hd : ValueType.decode token with
    | primitive keyword => exact hc.resolve keyword
    | array element dims =>
      exact meets_map (hc.resolve element) fun spelling hs => hs.concat (by decide)
    | struct name =>
      have within : name <:+: token :=
        ValueType.infix_of_mem_texts (by rw [hd]; exact List.mem_singleton_self name)
      exact unused_structName (unused.mono within)

theorem Silent.functionHeader {operands params : List Text} {token f header : Text}
    (trimmed : trimTrailingEmpty operands = token :: f :: params)
    (unused : ∀ t ∈ token :: f :: params, b.Unused t) (h : c.functionHeader operands = .ok header) :
    ∀ name ∈ b.sourceNames, name <:+: header → name <:+ f ++ ['('] := by
  obtain ⟨returned, rendered, result, list, rfl⟩ := functionHeader_eq_ok trimmed h
  obtain ⟨type, unused⟩ := List.forall_mem_cons.mp unused
  obtain ⟨called, unused⟩ := List.forall_mem_cons.mp unused
  have front := hc.returnType type
  rw [result] at front
  have operands := hc.params unused
  rw [list] at operands
  have behind : b.Unused (join ", " rendered ++ (") " ++ openBrace)) :=
    (Unused.join (by decide : Separator ", ") operands).concat (by decide)
  intro name mem found
  have spelled := isCallSpelling _ (mem_spellings mem)
  have solid : ∀ spelling ∈ spellings, ' ' ∉ spelling.2 := by decide
  have cut : name <:+: returned ++ ' ' ::
      (f ++ '(' :: (join ", " rendered ++ (") " ++ openBrace))) := by
    simpa using found
  rw [infix_append_cons_iff (solid _ (mem_spellings mem)) spelled.ne_nil] at cut
  rcases cut with inside | inside
  · exact absurd inside (unused_iff.mp front name mem)
  · rcases spelled.infix_append_paren inside with before | ends | after
    · exact absurd before (unused_iff.mp called name mem)
    · exact ends
    · exact absurd after (unused_iff.mp behind name mem)

theorem Silent.arrayLine {params : List Text} (unused : ∀ t ∈ params, b.Unused t) :
    Meets (fun d => Meets b.Unused (fun _ => True) (c.arrayLine d)) (fun _ => True)
      (ArrayDecl.read params) := by
  unfold ArrayDecl.read
  split
  · rename_i type name dim dims
    obtain ⟨_, unused⟩ := List.forall_mem_cons.mp unused
    obtain ⟨hn, hd⟩ := List.forall_mem_cons.mp unused
    refine meets_map (hc.resolve type) ?_
    intro spelling hs
    exact ((hs.append (by decide) hn).brackets hd).concat (by decide)
  · trivial

omit hc in
theorem unused_forHeader {params : List Text} (unused : ∀ t ∈ params, b.Unused t) :
    Meets (fun l => b.Unused (forHeader l)) (fun _ => True) (ForLoop.read params) := by
  unfold ForLoop.read
  split
  · rename_i name start stop rest
    obtain ⟨hn, unused⟩ := List.forall_mem_cons.mp unused
    obtain ⟨ha, unused⟩ := List.forall_mem_cons.mp unused
    obtain ⟨hz, unused⟩ := List.forall_mem_cons.mp unused
    have step : b.Unused (if rest.headD [] = [] then ("1" : Text) else rest.headD []) := by
      split
      · cases b <;> decide
      · cases rest with
        | nil => exact unused_nil b
        | cons step _ => exact unused step List.mem_cons_self
    show b.Unused (forHeader _)
    unfold forHeader
    have start := (hn.prepend (by decide : Opening "for (")).append (by decide : Separator " = ") ha
    have bound := (start.append (by decide : Separator "; ") hn).append
      (by decide : Separator " <= ") hz
    have stride := (bound.append (by decide : Separator "; ") hn).append
      (by decide : Separator " += ") step
    exact stride.append (by decide) (unused_openBrace b)
  · trivial

omit hc in
theorem unused_initLines {params : List Text} (unused : ∀ t ∈ params, b.Unused t) :
    Meets (fun d => ∀ t ∈ initLines d, b.Unused t) (fun _ => True) (StructInit.read params) := by
  unfold StructInit.read
  split
  · trivial
  · trivial
  · trivial
  · rename_i type name rest _
    split
    · trivial
    · rename_i fields paired
      obtain ⟨ht, unused⟩ := List.forall_mem_cons.mp unused
      obtain ⟨hn, unused⟩ := List.forall_mem_cons.mp unused
      show ∀ t ∈ initLines _, b.Unused t
      unfold initLines
      rw [List.forall_mem_cons, List.forall_mem_map]
      refine ⟨(ht.append (by decide) hn).concat (by decide), ?_⟩
      rintro ⟨field, value⟩ mem
      have field_unused := unused field (mem_of_pairs? paired _ mem).1
      have value_unused := unused value (mem_of_pairs? paired _ mem).2
      have member := hn.append (by decide : Separator ".") field_unused
      exact (member.append (by decide : Separator " = ") value_unused).concat (by decide)

omit hc in
theorem unused_condition {params : List Text} (unused : ∀ t ∈ params, b.Unused t) :
    b.Unused (condition params) := by
  refine Unused.join (by decide) ?_
  intro t mem
  obtain ⟨token, given, rfl⟩ := List.mem_map.mp mem
  unfold logicWord
  split
  · cases b <;> decide
  · split
    · cases b <;> decide
    · split
      · cases b <;> decide
      · exact unused token given

omit hc in
theorem unused_append_stars {s : Text} (unused : b.Unused s) (n : Nat) :
    b.Unused (s ++ List.replicate n '*') := by
  induction n generalizing s with
  | zero => simpa using unused
  | succ n ih =>
    rw [List.replicate_succ, List.append_cons]
    exact ih (unused.concat (by decide : Separator "*"))

theorem Silent.declaredType (keyword : Text) :
    Meets b.Unused (fun _ => True) (c.declaredType keyword) := by
  obtain ⟨n, stars⟩ := exists_drop_dropEndWhile '*' keyword
  refine meets_map (hc.resolve _) ?_
  intro spelling hs
  rw [stars]
  exact unused_append_stars hs n

theorem Silent.declare {tokens : List Text} (unused : ∀ t ∈ tokens, b.Unused t) :
    Meets (fun lines => ∀ t ∈ lines, b.Unused t) (fun _ => True) (c.declare tokens) := by
  cases tokens with
  | nil => trivial
  | cons keyword rest =>
    obtain ⟨_, unused⟩ := List.forall_mem_cons.mp unused
    refine meets_bind (hc.declaredType keyword) ?_
    intro type ht
    cases hr : Declared.read keyword rest with
    | error cause => trivial
    | ok declared =>
      rcases Declared.read_eq_ok hr with ⟨name, value, rfl, rfl⟩ | ⟨first, others, rfl, kept⟩
      · have text := ht.append (by decide : Separator " ")
          (Unused.join (by decide : Separator " ") unused)
        exact List.forall_mem_singleton.mpr text
      · have names : ∀ t ∈ first :: others, b.Unused t :=
          fun t mem => unused t (List.mem_filter.mp (kept ▸ mem)).1
        have text := ht.append (by decide : Separator " ")
          (Unused.join (by decide : Separator ", ") names)
        exact List.forall_mem_singleton.mpr text

theorem Silent.closingLines (closed : Option Frame) : ∀ t ∈ c.closingLines closed, b.Unused t := by
  have pause : ∀ t ∈ [c.indent ++ ("break;" : Text)], b.Unused t :=
    List.forall_mem_singleton.mpr (hc.indent.concat (by decide))
  have brace : ∀ t ∈ [closeBrace], b.Unused t := List.forall_mem_singleton.mpr (unused_closeBrace b)
  unfold CPlusPlus.closingLines
  split
  · exact nofun
  · exact nofun
  · exact pause
  · exact pause
  · exact brace

omit hc in
theorem unused_opener {head subject : Text} (opening : Opening head) (unused : b.Unused subject) :
    b.Unused (head ++ subject ++ (") " : Text) ++ openBrace) :=
  (unused.prepend opening).append (by decide) (unused_openBrace b)

theorem Silent.render {k : Keyword} {i : Instruction} {text : Text} (other : k ≠ .fx)
    (unused : ∀ t ∈ i.params, b.Unused t) (plain : b.Unused text) (closed : Option Frame) :
    Meets (fun r => ∀ t ∈ r.lines.getD [text], b.Unused t) (fun _ => True)
      (c.render k i closed) := by
  have rest : b.Unused i.rest := Unused.join (by decide) unused
  have condition := unused_condition unused
  have line : ∀ {t : Text}, b.Unused t → ∀ u ∈ [t], b.Unused u := List.forall_mem_singleton.mpr
  cases k with
  | fx => exact absurd rfl other
  | forLoop => exact meets_map (unused_forHeader unused) fun l h => line h
  | whileLoop | ifBlock | elifBlock => exact line (unused_opener (by decide) condition)
  | switch => exact line (unused_opener (by decide) rest)
  | elseBlock => exact line (by cases b <;> decide)
  | case => exact line ((rest.prepend (by decide)).concat (by decide))
  | default => exact line (by cases b <;> decide)
  | close => exact hc.closingLines closed
  | arr =>
    refine meets_bind (hc.arrayLine unused) ?_
    intro d hd
    exact meets_map hd fun t ht => line ht
  | init => exact meets_map (unused_initLines unused) fun d h => h
  | struct | const =>
    -- what is written goes to the definitions
    refine meets_bind (meets_true _) fun d _ => ?_
    exact meets_map (meets_true _) fun _ _ => nofun
  | print => exact line (((rest.separated).prepend (by decide)).concat (by decide))
  | input => exact line ((rest.prepend (by decide)).concat (by decide))
  | returnValue => exact line ((unused_phrase (by cases b <;> decide) rest).concat (by decide))
  | returnCode | fxStart => exact nofun
  | delete => exact line plain
  | _ => exact line (unused_phrase (by cases b <;> decide) rest)

end Renderers

/-- What a line without a call writes has none either, but for the header of a function whose name
    ends as the call begins. -/
theorem Silent.written {l : SourceLine} {a : BlockAction} {closed : Option Frame} {r : Rendering}
    (unused : b.Unused l.text) (acts : c.backend.action l = .ok a)
    (writes : c.backend.written l closed = .ok r) :
    (∀ t ∈ r.lines.getD [l.text], b.Unused t) ∨
      ∃ token f params, l.Declares token f params ∧
        ∃ name ∈ b.sourceNames, name <:+ f ++ ['('] := by
  have tokens : ∀ t ∈ l.instruction.tokens, b.Unused t := by
    intro t mem
    rw [l.text_eq_join] at unused
    exact unused.mono (infix_join_of_mem _ mem)
  have operands : ∀ t ∈ l.instruction.params, b.Unused t :=
    fun t mem => tokens t (List.mem_cons_of_mem _ mem)
  have met : ∀ {x : Except Cause Rendering},
      Meets (fun r => ∀ t ∈ r.lines.getD [l.text], b.Unused t) (fun _ => True) x → x = .ok r →
      ∀ t ∈ r.lines.getD [l.text], b.Unused t := by
    rintro _ h rfl
    exact h
  cases hr : c.backend.resolve l.instruction with
  | keyword k =>
    have rendered : c.render k l.instruction closed = .ok r :=
      (Backend.written_of_keyword hr closed).symm.trans writes
    by_cases function : k = .fx
    · subst function
      obtain ⟨header, written, h⟩ := bind_eq_ok_iff.mp rendered
      cases h
      rw [Backend.action_of_keyword hr] at acts
      obtain ⟨token, f, params, trimmed, _, _⟩ := BlockAction.ofFunction_eq_ok_iff.mp acts
      have given : ∀ t ∈ token :: f :: params, b.Unused t := fun t mem =>
        operands t ((trimTrailingEmpty_isPrefix l.instruction.params).subset (trimmed ▸ mem))
      have ends := hc.functionHeader trimmed given written
      have word := Backend.spelling_of_keyword? (Backend.keyword?_of_resolve hr)
      by_cases clear : b.Unused header
      · exact .inl (List.forall_mem_singleton.mpr clear)
      · rw [unused_iff] at clear
        push Not at clear
        obtain ⟨name, mem, found⟩ := clear
        exact .inr ⟨token, f, params, ⟨word, trimmed⟩, name, mem, ends name mem found⟩
    · exact .inl (met (hc.render function operands unused closed) rendered)
  | declaration =>
    unfold Backend.written at writes
    rw [hr] at writes
    refine .inl (met ?_ writes)
    exact meets_map (f := Rendering.ofLines) (hc.declare tokens) fun lines h => h
  | assignment =>
    unfold Backend.written at writes
    rw [hr] at writes
    cases writes
    exact .inl (List.forall_mem_singleton.mpr (Unused.join (by decide) tokens))
  | passThrough =>
    unfold Backend.written at writes
    rw [hr] at writes
    cases writes
    exact .inl (List.forall_mem_singleton.mpr unused)

end CPlusPlus
end BlockScript
