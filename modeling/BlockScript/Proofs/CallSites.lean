import BlockScript.Proofs.Agreement
import BlockScript.Proofs.CalledNames
import BlockScript.Proofs.Hoisting

/-!
Calls of a function in the lines of a program. A call has no space and no mark in it but its own
parenthesis, so it stands in one operand of its line, and a line that writes the values of
expressions writes it as one piece.
-/
namespace BlockScript
open Text

def Text.isWordChar (c : Char) : Bool := c.isAlphanum || c == '_'

/-- The text calls `f` behind `before`: no longer word ends there, and its parenthesis is not that
    of the sentinel. -/
structure CallAt (f text before after : Text) : Prop where
  text_eq : text = before ++ (f ++ ['(']) ++ after
  apart : before.endsWith isWordChar = false
  called : ¬ ("ENDL)" : Text) <+: after

def HasCall (f text : Text) : Prop := ∃ before after, CallAt f text before after

section HasCall

variable {f s t before after : Text} {c : Char}

theorem Text.endsWith_of_append {p : Char → Bool} (h : (s ++ t).endsWith p = false) :
    t.endsWith p = false := by
  by_cases empty : t = []
  · rw [empty]
    rfl
  · rwa [endsWith_append s empty] at h

theorem Text.endsWith_append_of {p : Char → Bool} (s : Text) (some : t ≠ [])
    (h : t.endsWith p = false) : (s ++ t).endsWith p = false := by
  rwa [endsWith_append s some]

theorem Text.endsWith_append_eq_false {p : Char → Bool} (hs : s.endsWith p = false)
    (ht : t.endsWith p = false) : (s ++ t).endsWith p = false := by
  by_cases empty : t = []
  · rwa [empty, List.append_nil]
  · exact endsWith_append_of s empty ht

theorem Text.endsWith_iff {p : Char → Bool} :
    t.endsWith p = true ↔ ∃ front last, t = front ++ [last] ∧ p last = true := by
  unfold endsWith
  rw [Option.any_eq_true]
  simp only [List.getLast?_eq_some_iff]
  constructor
  · rintro ⟨last, ⟨front, whole⟩, holds⟩
    exact ⟨front, last, whole, holds⟩
  · rintro ⟨front, last, whole, holds⟩
    exact ⟨last, ⟨front, whole⟩, holds⟩

theorem Text.endsWith_replaceAll {p : Char → Bool} {pattern insert : Text} (some : insert ≠ [])
    (inserted : insert.endsWith p = false) (given : t.endsWith p = false) :
    (replaceAll pattern insert t).endsWith p = false := by
  rw [← Bool.not_eq_true, endsWith_iff]
  rintro ⟨front, last, whole, holds⟩
  have other : ∀ e : Text, e <:+ insert → e ≠ [] → ¬ e <+: [last] := by
    rintro e ⟨more, rfl⟩ some begins
    rcases List.prefix_cons_iff.mp begins with empty | ⟨rest, rfl, short⟩
    · exact some empty
    · rw [List.prefix_nil.mp short, endsWith_append more (List.cons_ne_nil _ _)] at inserted
      simp [endsWith, holds] at inserted
  have short : ¬ insert <:+: [last] := by
    intro found
    rcases List.infix_cons_iff.mp found with here | later
    · exact other insert List.suffix_rfl some here
    · exact some (List.infix_nil.mp later)
  have kept : [last] <:+ t := by
    by_cases empty : pattern = []
    · have same : replaceAll pattern insert t = t := by simp [replaceAll, empty]
      exact ⟨front, by rw [← same, whole]⟩
    · refine suffix_of_replaced short ?_ (replaced_replaceAll empty t) ⟨front, whole.symm⟩
      exact fun e mem => other e ((List.mem_tails _ _).mp mem)
  obtain ⟨before, rfl⟩ := kept
  rw [endsWith_append before (List.cons_ne_nil _ _)] at given
  simp [endsWith, holds] at given

theorem endsApart_of_endsWith (apart : before.endsWith isWordChar = false) : EndsApart before := by
  have letters : ∀ spelling ∈ Builtin.spellings, spelling.2.dropLast.all isWordChar = true := by
    decide
  intro spelling mem s tail some begins
  have last := List.getLast?_eq_some_getLast some
  have letter := List.all_eq_true.mp (letters spelling mem) _
    (begins.subset (List.mem_of_getLast? last))
  obtain ⟨front, rfl⟩ := (List.mem_tails _ _).mp tail
  rw [endsWith, List.getLast?_append_of_ne_nil front some, last] at apart
  rw [Option.any_some, letter] at apart
  cases apart

theorem HasCall.paren_mem (call : HasCall f t) : '(' ∈ t := by
  obtain ⟨before, after, call⟩ := call
  rw [call.text_eq]
  simp

theorem HasCall.ne_nil (call : HasCall f t) : t ≠ [] := List.ne_nil_of_mem call.paren_mem

theorem HasCall.prepend (pad : Text) (apart : pad.endsWith isWordChar = false)
    (call : HasCall f t) :
    HasCall f (pad ++ t) := by
  obtain ⟨before, after, call⟩ := call
  refine ⟨pad ++ before, after, ?_, endsWith_append_eq_false apart call.apart, call.called⟩
  rw [call.text_eq]
  simp only [List.append_assoc]

theorem HasCall.append_cons (foreign : c ∉ ("ENDL)" : Text)) (more : Text) (call : HasCall f t) :
    HasCall f (t ++ c :: more) := by
  obtain ⟨before, after, call⟩ := call
  refine ⟨before, after ++ c :: more, ?_, call.apart, ?_⟩
  · rw [call.text_eq, List.append_assoc]
  · rw [prefix_append_cons_iff foreign]
    exact call.called

theorem CallAt.cut (foreign : c ∉ f ++ ['(']) (call : CallAt f (s ++ c :: t) before after) :
    (∃ rest, CallAt f s before rest) ∨
      ∃ front, before = s ++ c :: front ∧ CallAt f t front after := by
  rcases List.append_eq_append_iff.mp call.text_eq with ⟨late, outer, tail⟩ | ⟨rest, left, tail⟩
  · cases late with
    | nil =>
      refine .inl ⟨[], by rw [← List.append_nil s, ← outer, List.append_nil], call.apart, ?_⟩
      decide
    | cons d late =>
      obtain ⟨rfl, rfl⟩ := List.cons.inj tail
      rcases List.append_eq_append_iff.mp outer with ⟨front, _, name⟩ | ⟨front, rfl, name⟩
      · exact absurd (name ▸ List.mem_append_right front List.mem_cons_self) foreign
      · cases front with
        | nil => exact absurd (name ▸ List.mem_cons_self) foreign
        | cons e front =>
          obtain ⟨rfl, rfl⟩ := List.cons.inj name
          refine .inr ⟨front, rfl, rfl, ?_, call.called⟩
          have apart := call.apart
          rw [List.append_cons] at apart
          exact endsWith_of_append apart
  · refine .inl ⟨rest, left, call.apart, ?_⟩
    intro found
    exact call.called (tail ▸ found.trans (List.prefix_append rest _))

theorem not_mem_call (named : f.IsName)
    (mark : isNameChar c = false ∧ c ≠ '-' ∧ c ≠ '+' ∧ c ≠ '(') :
    c ∉ f ++ ['('] := by
  have foreign := named.isWord.not_mem mark.1 ⟨mark.2.1, mark.2.2.1⟩
  simp [foreign, mark.2.2.2]

theorem hasCall_append_space_iff (named : f.IsName) :
    HasCall f (s ++ ' ' :: t) ↔ HasCall f s ∨ HasCall f t := by
  constructor
  · rintro ⟨before, after, call⟩
    rcases call.cut (not_mem_call named (by decide)) with ⟨rest, call⟩ | ⟨front, _, call⟩
    · exact .inl ⟨before, rest, call⟩
    · exact .inr ⟨front, after, call⟩
  · rintro (call | call)
    · exact call.append_cons (by decide) t
    · rw [List.append_cons]
      exact call.prepend _ (endsWith_append_of s (List.cons_ne_nil _ _) (by decide))

theorem hasCall_join_iff (named : f.IsName) (tokens : List Text) :
    HasCall f (join " " tokens) ↔ ∃ token ∈ tokens, HasCall f token := by
  induction tokens with
  | nil =>
    constructor
    · intro call
      exact absurd rfl call.ne_nil
    · rintro ⟨_, mem, _⟩
      cases mem
  | cons token tokens ih =>
    cases tokens with
    | nil => simp [join_singleton]
    | cons next tokens =>
      have split : join " " (token :: next :: tokens) =
          token ++ ' ' :: join " " (next :: tokens) := by
        rw [join_cons_cons, List.append_assoc]
        rfl
      rw [split, hasCall_append_space_iff named, ih]
      simp only [List.mem_cons, exists_eq_or_imp]

end HasCall

section Operands

variable {b : Backend} {l : SourceLine} {f before after : Text} {k : Keyword}

theorem SourceLine.text_eq_join (l : SourceLine) : l.text = join " " l.instruction.tokens :=
  eq_join_of_tokenize l.tokens_instruction.symm

theorem SourceLine.hasCall_iff (named : f.IsName) :
    HasCall f l.text ↔ ∃ token ∈ l.instruction.tokens, HasCall f token := by
  rw [l.text_eq_join, hasCall_join_iff named]

theorem CallAt.operands (named : f.IsName) (resolves : b.resolve l.instruction = .keyword k)
    (call : CallAt f l.text before after) : ∃ front, CallAt f l.instruction.rest front after := by
  have plain : ∀ k : Keyword, '(' ∉ k.spelling := by
    intro k
    cases k <;> decide
  have word := Backend.spelling_of_keyword? (Backend.keyword?_of_resolve resolves)
  have bare : '(' ∉ l.instruction.name := word ▸ plain k
  have whole := l.text_eq_join
  unfold Instruction.tokens at whole
  by_cases alone : l.instruction.params = []
  · rw [alone, join_singleton] at whole
    rw [whole] at call
    exact absurd (HasCall.paren_mem ⟨before, after, call⟩) bare
  · rw [join_cons_of_ne_nil _ _ alone, List.append_assoc] at whole
    have line : CallAt f (l.instruction.name ++ ' ' :: l.instruction.rest) before after :=
      whole ▸ call
    rcases line.cut (not_mem_call named (by decide)) with ⟨rest, call⟩ | ⟨front, _, call⟩
    · exact absurd (HasCall.paren_mem ⟨before, rest, call⟩) bare
    · exact ⟨front, call⟩

theorem hasCall_phrase (head : Text) {rest : Text} (call : HasCall f rest) :
    HasCall f (phrase head rest) := by
  unfold phrase
  rw [if_neg call.ne_nil]
  exact call.prepend _ (endsWith_append_of head (by decide) (by decide))

theorem CallAt.separated (named : f.IsName) {text : Text} (call : CallAt f text before after) :
    CallAt f (replaceAll " & " " << " text) (replaceAll " & " " << " before)
      (replaceAll " & " " << " after) where
  text_eq := by
    have solid := named.isWord.no_space
    have parted : Parted " & " before f := by
      intro p q whole _ more _ begins
      have last : q.getLast? = some ' ' := by
        rw [← List.getLast?_append_of_ne_nil p more, ← whole]
        rfl
      exact solid (begins.subset (List.mem_of_getLast? last))
    have kept : replaceAll " & " " << " f = f :=
      replaceAll_of_not_mem (by decide : ' ' ∈ (" & " : Text)) solid
    have open_ : '(' ∉ (" & " : Text) := by decide
    rw [call.text_eq]
    simp only [List.append_assoc, List.singleton_append]
    rw [← List.append_assoc, replaceAll_append_cons open_, replaceAll_append parted, kept]
    simp only [List.append_assoc]
  apart := endsWith_replaceAll (by decide) (by decide) call.apart
  called := by
    intro found
    have start : ("ENDL)" : Text) <+: after :=
      (prefix_replaceAll_iff (by decide) (by decide)).mp found
    exact call.called start

end Operands

namespace Pseudocode

variable {p : Pseudocode} {f : Text} {tokens : List Text}

def Callable (p : Pseudocode) : Prop := ∀ e ∈ p.types.entries, '(' ∉ e.1

instance (p : Pseudocode) : Decidable p.Callable :=
  inferInstanceAs (Decidable (∀ e ∈ p.types.entries, '(' ∉ e.1))

theorem eq_of_addressed? {first target : Text} (h : addressed? first = some target) :
    first = '&' :: target := by
  unfold addressed? at h
  split at h
  · split at h
    · cases h
    · rw [Option.some.inj h]
  · cases h

variable (callable : p.Callable) (named : f.IsName)
include callable named

theorem hasCall_allocated {operand : Text} (call : HasCall f operand) :
    HasCall f (p.allocated operand) := by
  have whole : operand.takeWhile (· ≠ '[') ++ operand.dropWhile (· ≠ '[') = operand :=
    List.takeWhile_append_dropWhile
  unfold allocated
  dsimp only
  by_cases inside : '(' ∈ operand.takeWhile (· ≠ '[')
  · have unlisted : p.types.get? (operand.takeWhile (· ≠ '[')) = none := by
      rw [Option.eq_none_iff_forall_ne_some]
      intro spelling listed
      exact callable (_, spelling) (TypeTable.mem_entries_of_get? listed) inside
    rw [unlisted, Option.getD_none, whole]
    exact call
  · cases rest : operand.dropWhile (· ≠ '[') with
    | nil =>
      rw [rest, List.append_nil] at whole
      exact absurd (whole ▸ call).paren_mem inside
    | cons d more =>
      have bracket : d = '[' := by
        have stops := List.head?_dropWhile_not (· ≠ '[') operand
        rw [rest] at stops
        simpa using stops
      subst bracket
      obtain ⟨before, after, call⟩ := call
      rw [← whole, rest] at call
      rcases call.cut (not_mem_call named (by decide)) with ⟨after, call⟩ | ⟨front, _, call⟩
      · exact absurd (HasCall.paren_mem ⟨before, after, call⟩) inside
      · rw [List.append_cons]
        exact HasCall.prepend _ (endsWith_append_of _ (List.cons_ne_nil _ _) (by decide))
          ⟨front, after, call⟩

theorem hasCall_assignedValue {value : List Text} (h : p.assignedValue tokens = .ok value)
    (call : ∃ token ∈ tokens, HasCall f token) : ∃ token ∈ value, HasCall f token := by
  cases tokens with
  | nil =>
    obtain ⟨_, mem, _⟩ := call
    cases mem
  | cons first rest =>
    obtain ⟨token, mem, call⟩ := call
    unfold assignedValue at h
    dsimp only at h
    by_cases allocation : first = "new"
    · rw [if_pos allocation] at h
      obtain ⟨_, _, h⟩ := bind_eq_ok_iff.mp h
      cases rest with
      | nil => cases h
      | cons operand more =>
        cases h
        rcases List.mem_cons.mp mem with rfl | mem
        · rw [allocation] at call
          exact absurd call.paren_mem (by decide)
        · rcases List.mem_cons.mp mem with rfl | mem
          · exact ⟨_, by simp, hasCall_allocated callable named call⟩
          · exact ⟨token, by simp [mem], call⟩
    · rw [if_neg allocation] at h
      cases address : addressed? first with
      | none =>
        rw [address] at h
        cases h
        exact ⟨token, mem, call⟩
      | some target =>
        rw [address] at h
        obtain ⟨_, _, h⟩ := bind_eq_ok_iff.mp h
        cases h
        rcases List.mem_cons.mp mem with rfl | mem
        · refine ⟨_, List.mem_cons_self, ?_⟩
          obtain ⟨before, after, call⟩ := call
          rw [eq_of_addressed? address] at call
          have line : CallAt f ([] ++ '&' :: target) before after := call
          rcases line.cut (not_mem_call named (by decide)) with ⟨after, call⟩ | ⟨front, _, call⟩
          · exact absurd rfl (HasCall.ne_nil ⟨before, after, call⟩)
          · exact HasCall.prepend _ (by decide) ⟨front, after, call⟩
        · exact ⟨token, List.mem_cons_of_mem _ mem, call⟩

theorem hasCall_assign {name op : Text} {value lines : List Text}
    (h : p.assign (name :: op :: value) = .ok lines) (ends : op.endsWith (· == '=') = true)
    (call : ∃ token ∈ name :: op :: value, HasCall f token) :
    ∃ text, lines = [text] ∧ HasCall f text := by
  have written : ∀ parts : List Text, (HasCall f name ∨ ∃ token ∈ parts, HasCall f token) →
      ∃ text, [assignment name parts] = [text] ∧ HasCall f text := by
    intro parts call
    have whole : assignment name parts = name ++ ' ' :: phrase "<-" (join " " parts) := by
      unfold assignment phrase
      split <;> simp
    refine ⟨_, rfl, ?_⟩
    rw [whole, hasCall_append_space_iff named]
    rcases call with call | call
    · exact .inl call
    · exact .inr (hasCall_phrase _ ((hasCall_join_iff named parts).mpr call))
  unfold assign at h
  dsimp only at h
  rw [List.headD_cons, List.tail_cons] at h
  by_cases plain : op = "="
  · rw [if_pos plain] at h
    obtain ⟨parts, read, h⟩ := bind_eq_ok_iff.mp h
    cases h
    obtain ⟨token, mem, call⟩ := call
    rcases List.mem_cons.mp mem with rfl | mem
    · exact written parts (.inl call)
    · rcases List.mem_cons.mp mem with rfl | mem
      · rw [plain] at call
        exact absurd call.paren_mem (by decide)
      · exact written parts (.inr (hasCall_assignedValue callable named read ⟨token, mem, call⟩))
  · rw [if_neg plain, compoundOperator?_of_endsWith ends] at h
    obtain ⟨front, last, rfl, same⟩ := endsWith_iff.mp ends
    obtain rfl : last = '=' := by simpa using same
    rw [List.dropLast_concat] at h
    cases h
    refine written (name :: front :: value) (.inr ?_)
    obtain ⟨token, mem, call⟩ := call
    rcases List.mem_cons.mp mem with rfl | mem
    · exact ⟨_, List.mem_cons_self, call⟩
    · rcases List.mem_cons.mp mem with rfl | mem
      · obtain ⟨before, after, call⟩ := call
        rcases call.cut (not_mem_call named (by decide)) with ⟨after, call⟩ | ⟨inner, _, call⟩
        · exact ⟨front, by simp, before, after, call⟩
        · exact absurd rfl (HasCall.ne_nil ⟨inner, after, call⟩)
      · exact ⟨token, by simp [mem], call⟩

end Pseudocode

/-- Lines that write the values of expressions: `print`, `return`, assignments, and what is neither
    structure nor declaration. -/
def Resolution.evaluates : Resolution → Bool
  | .keyword .print | .keyword .returnValue | .assignment | .passThrough => true
  | _ => false

structure Settings.Callable (s : Settings) : Prop where
  keywords : s.pseudocode.Callable
  spellings : ∀ e ∈ s.cppTypes.entries, ¬ ("ENDL)" : Text) <+: e.2
  namespaceName : s.importNamespace = true → '(' ∉ s.namespaceName

namespace Settings

variable {s : Settings} {target : Target} {l : SourceLine} {f before after : Text}
  {closed : Option Frame} {w : Rendering}

theorem hasCall_written (hs : s.Callable) (named : f.IsName)
    (evaluates : ((s.backend target).resolve l.instruction).evaluates = true)
    (call : CallAt f l.text before after) (whole : after ≠ "ENDL")
    (writes : (s.backend target).written l closed = .ok w) :
    ∃ text, w.lines.getD [l.text] = [text] ∧ HasCall f text := by
  unfold Backend.written at writes
  cases hr : (s.backend target).resolve l.instruction with
  | declaration =>
    rw [hr] at evaluates
    cases evaluates
  | passThrough =>
    rw [hr] at writes
    cases writes
    exact ⟨l.text, rfl, before, after, call⟩
  | assignment =>
    rw [hr] at writes
    have tokens := (l.hasCall_iff named).mp ⟨before, after, call⟩
    cases target with
    | cpp =>
      cases writes
      refine ⟨join " " l.instruction.tokens, rfl, ?_⟩
      exact (hasCall_join_iff named _).mpr tokens
    | pseudocode =>
      have ends := Backend.isAssignment_of_resolve hr
      unfold Backend.isAssignment at ends
      have written : (s.pseudocode.assign l.instruction.tokens).map .ofLines = .ok w := writes
      unfold Instruction.tokens at written tokens
      cases operands : l.instruction.params with
      | nil =>
        rw [operands] at ends
        cases ends
      | cons op value =>
        rw [operands] at ends written tokens
        cases assigned : s.pseudocode.assign (l.instruction.name :: op :: value) with
        | error cause =>
          rw [assigned] at written
          cases written
        | ok lines =>
          rw [assigned] at written
          cases written
          exact Pseudocode.hasCall_assign hs.keywords named assigned ends tokens
  | keyword k =>
    rw [hr] at writes evaluates
    obtain ⟨front, call⟩ := call.operands named hr
    have rest : HasCall f l.instruction.rest := ⟨front, after, call⟩
    cases k with
    | print =>
      cases target with
      | cpp =>
        cases writes
        refine ⟨_, rfl, HasCall.append_cons (by decide) [] ?_⟩
        exact HasCall.prepend _ (by decide) ⟨_, _, call.separated named⟩
      | pseudocode =>
        cases writes
        refine ⟨_, rfl, "Afficher(" ++ front, after ++ ")", ?_, ?_, ?_⟩
        · rw [call.text_eq]
          simp
        · exact endsWith_append_eq_false (by decide) call.apart
        · -- only the parenthesis that is put behind the line could complete a sentinel
          intro found
          rcases List.prefix_concat_iff.mp found with same | within
          · exact whole (List.append_inj' same.symm rfl).1
          · exact call.called within
    | returnValue =>
      cases target with
      | cpp =>
        cases writes
        exact ⟨_, rfl, (hasCall_phrase _ rest).append_cons (by decide) []⟩
      | pseudocode =>
        cases writes
        exact ⟨_, rfl, hasCall_phrase _ rest⟩
    | _ => cases evaluates

end Settings
end BlockScript
