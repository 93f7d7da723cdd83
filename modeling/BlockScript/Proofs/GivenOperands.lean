import BlockScript.Proofs.Agreement
import BlockScript.Proofs.FirstFault

/-!
The operands that a structural line cannot do without. A line with too few tokens for them is
refused, and otherwise its tokens are counted and not looked at: further spaces leave an empty
token, which is taken for the operand in whose place it stands. Only the name after `delete` is looked at.
-/
namespace BlockScript

def ConstDecl.HasValue (rest value : List Text) : Prop :=
  rest = ("=" : Text) :: value ∨ rest.head? ≠ some ("=" : Text) ∧ rest = value

theorem ConstDecl.hasValue_iff {rest value : List Text} :
    HasValue rest value ↔ valueTokens rest = value := by
  unfold HasValue
  cases rest with
  | nil => simp [valueTokens]
  | cons token more =>
    by_cases sign : token = ("=" : Text)
    · have behind : valueTokens (token :: more) = more := if_pos sign
      rw [behind]
      simp [sign]
    · have whole : valueTokens (token :: more) = token :: more := if_neg sign
      have unsigned : (token :: more).head? ≠ some ("=" : Text) := by simpa using sign
      rw [whole]
      constructor
      · rintro (behind | ⟨_, all⟩)
        · exact absurd (List.cons.inj behind).1 sign
        · exact all
      · intro all
        exact .inr ⟨unsigned, all⟩

namespace Keyword

inductive Operands : Keyword → List Text → List (List Text) → Prop where
  | forLoop (name start stop : Text) (rest : List Text) :
      Operands forLoop (name :: start :: stop :: rest) [[name], [start], [stop]]
  | arr (type name : Text) {dims : List Text} (some : dims ≠ []) :
      Operands arr (type :: name :: dims) ([name] :: dims.map ([·]))
  | init (type name : Text) {fields : List Text} (some : fields ≠ [])
      (paired : fields.length % 2 = 0) :
      Operands init (type :: name :: fields) ([type] :: [name] :: fields.map ([·]))
  | const (type name : Text) {rest value : List Text} (behind : ConstDecl.HasValue rest value)
      (some : value ≠ []) : Operands const (type :: name :: rest) [[name], value]
  | deleteArray {name : Text} (given : name ≠ []) (rest : List Text) :
      Operands delete (("arr" : Text) :: name :: rest) [[name]]
  | deleteName {name : Text} (given : name ≠ []) (single : name ≠ ("arr" : Text))
      (rest : List Text) : Operands delete (name :: rest) [[name]]
  | fx (returnToken name : Text) {rest : List Text} (some : ∃ token ∈ name :: rest, token ≠ []) :
      Operands fx (returnToken :: name :: rest) [[name]]
  | struct (name : Text) {rest : List Text} (some : ∃ token ∈ name :: rest, token ≠ []) :
      Operands struct (name :: rest) [[name]]

def needOperands : List Keyword := [forLoop, arr, init, const, delete, fx, struct]

/-- Nothing stands in the place of the operand but empty tokens. -/
def Missing (operand : List Text) : Prop := ∀ token ∈ operand, token = []

instance (operand : List Text) : Decidable (Missing operand) :=
  inferInstanceAs (Decidable (∀ token ∈ operand, token = []))

def Complete (k : Keyword) (params : List Text) : Prop :=
  ∃ operands, k.Operands params operands ∧ ∀ operand ∈ operands, ¬ Missing operand

/-- The line has as many tokens as it needs, and empty ones for some operand. -/
def Gapped (k : Keyword) (params : List Text) : Prop :=
  ∃ operands, k.Operands params operands ∧ ∃ operand ∈ operands, Missing operand

variable {k : Keyword} {params : List Text}

theorem Operands.unique {operands others : List (List Text)} (h : k.Operands params operands)
    (h' : k.Operands params others) : operands = others := by
  cases h with
  | const type name behind some =>
    cases h' with
    | const _ _ behind' some' =>
      have same := ConstDecl.hasValue_iff.mp behind
      rw [ConstDecl.hasValue_iff.mp behind'] at same
      rw [same]
  | deleteArray given rest =>
    cases h' with
    | deleteArray => rfl
    | deleteName given' single => exact absurd rfl single
  | deleteName given single rest =>
    cases h' with
    | deleteArray => exact absurd rfl single
    | deleteName => rfl
  | _ =>
    cases h'
    rfl

theorem not_complete_of_gapped (h : k.Gapped params) : ¬ k.Complete params := by
  intro h'
  obtain ⟨operands, shape, operand, mem, missing⟩ := h
  obtain ⟨others, shape', complete⟩ := h'
  rw [shape.unique shape'] at mem
  exact complete operand mem missing

theorem complete_or_gapped {operands : List (List Text)} (h : k.Operands params operands) :
    k.Complete params ∨ k.Gapped params := by
  by_cases gap : ∃ operand ∈ operands, Missing operand
  · exact .inr ⟨operands, h, gap⟩
  · refine .inl ⟨operands, h, ?_⟩
    intro operand mem missing
    exact gap ⟨operand, mem, missing⟩

end Keyword

section Readers

variable {params : List Text}

theorem exists_given_of_trimTrailingEmpty (front : List Text) {more : List Text}
    (h : trimTrailingEmpty params = front ++ more) (some : more ≠ []) :
    ∃ token ∈ more, token ≠ [] := by
  obtain ⟨middle, last, rfl⟩ := (List.eq_nil_or_concat' more).resolve_left some
  have whole := congrArg List.reverse h
  have first := List.head?_dropWhile_not (· = []) params.reverse
  simp only [trimTrailingEmpty, List.reverse_reverse, List.reverse_append] at whole
  refine ⟨last, by simp, ?_⟩
  simpa [whole] using first

theorem ForLoop.exists_operands (h : ¬ params.length < 3) :
    ∃ operands, Keyword.forLoop.Operands params operands := by
  match params, h with
  | name :: start :: stop :: rest, _ => exact ⟨_, .forLoop name start stop rest⟩
  | [], h | [_], h | [_, _], h => simp at h

theorem BlockAction.exists_operands {entryPoint : Option Text}
    (h : ofFunction entryPoint params ≠ .error (.argument .functionName)) :
    ∃ operands, Keyword.fx.Operands params operands := by
  unfold ofFunction at h
  split at h
  · rename_i returnToken name more named
    obtain ⟨dropped, whole⟩ := trimTrailingEmpty_isPrefix params
    obtain ⟨token, mem, given⟩ : ∃ token ∈ name :: more, token ≠ [] :=
      exists_given_of_trimTrailingEmpty [returnToken] named (List.cons_ne_nil name more)
    rw [named] at whole
    rw [← whole]
    exact ⟨_, .fx returnToken name ⟨token, List.mem_append_left dropped mem, given⟩⟩
  · exact absurd rfl h

theorem StructDef.exists_operands {d : StructDef} (h : read params = .ok d) :
    ∃ operands, Keyword.struct.Operands params operands := by
  unfold read at h
  split at h
  · cases h
  · rename_i name more named
    obtain ⟨dropped, whole⟩ := trimTrailingEmpty_isPrefix params
    obtain ⟨token, mem, given⟩ : ∃ token ∈ name :: more, token ≠ [] :=
      exists_given_of_trimTrailingEmpty [] named (List.cons_ne_nil name more)
    rw [named] at whole
    rw [← whole]
    exact ⟨_, .struct name ⟨token, List.mem_append_left dropped mem, given⟩⟩

theorem ArrayDecl.exists_operands {d : ArrayDecl} (h : read params = .ok d) :
    ∃ operands, Keyword.arr.Operands params operands := by
  unfold read at h
  split at h
  · rename_i type name dim dims
    exact ⟨_, .arr type name (List.cons_ne_nil dim dims)⟩
  · cases h

theorem even_length_of_pairs? {α : Type} {tokens : List α} {fields : List (α × α)}
    (h : pairs? tokens = some fields) : tokens.length % 2 = 0 := by
  induction tokens using pairs?.induct generalizing fields with
  | case1 => rfl
  | case2 a b rest ih =>
    obtain ⟨others, read, _⟩ := Option.map_eq_some_iff.mp h
    have even := ih read
    simp only [List.length_cons]
    omega
  | case3 a => cases h

theorem StructInit.exists_operands {d : StructInit} (h : read params = .ok d) :
    ∃ operands, Keyword.init.Operands params operands := by
  unfold read at h
  split at h
  · cases h
  · cases h
  · cases h
  · rename_i type name fields some
    split at h
    · cases h
    · rename_i read paired
      exact ⟨_, .init type name some (even_length_of_pairs? paired)⟩

theorem ConstDecl.exists_operands {d : ConstDecl} (h : read params = .ok d) :
    ∃ operands, Keyword.const.Operands params operands := by
  unfold read at h
  split at h
  · rename_i type name rest
    split at h
    · cases h
    · rename_i some
      exact ⟨_, .const type name (ConstDecl.hasValue_iff.mpr rfl) some⟩
  · cases h

theorem Pseudocode.exists_operands {text : Text} (h : releaseText? params = some text) :
    ∃ operands, Keyword.delete.Operands params operands := by
  cases params with
  | nil => cases h
  | cons first rest =>
    simp only [releaseText?] at h
    split at h
    · rename_i array
      obtain ⟨name, named, _⟩ := Option.map_eq_some_iff.mp h
      obtain ⟨next, given⟩ := Option.filter_eq_some_iff.mp named
      obtain ⟨more, rfl⟩ := List.head?_eq_some_iff.mp next
      rw [array]
      exact ⟨_, .deleteArray (of_decide_eq_true given) more⟩
    · rename_i single
      split at h
      · cases h
      · rename_i given
        exact ⟨_, .deleteName given single rest⟩

end Readers

/-- How a line that lacks operands is refused: for the operands, or as a release where there are no
    pointers, before its operand is read. -/
def Settings.Refuses (s : Settings) (k : Keyword) (category : Category) : Prop :=
  category = .argument ∨ k = .delete ∧ s.pointers = false ∧ category = .featureDisabled

section Lines

open Keyword

variable (s : Settings) {k : Keyword}

theorem refused_of_lack {α β : Type} {x : Except Cause α} {Q : Prop}
    (faults : FailsWith [.argument] x) (reads : ∀ a, x = .ok a → Q) (lacks : ¬ Q)
    (f : α → Except Cause β) : ∃ cause, x >>= f = .error cause ∧ s.Refuses k cause.category := by
  cases x with
  | ok a => exact absurd (reads a rfl) lacks
  | error cause => exact ⟨cause, rfl, .inl (List.mem_singleton.mp faults)⟩

theorem ArrayDecl.refused {params : List Text}
    (lacks : ¬ ∃ operands, Keyword.arr.Operands params operands) {β : Type}
    (f : ArrayDecl → Except Cause β) :
    ∃ cause, read params >>= f = .error cause ∧ s.Refuses .arr cause.category :=
  refused_of_lack s (read_failsWith params) (fun _ => exists_operands) lacks f

theorem StructInit.refused {params : List Text}
    (lacks : ¬ ∃ operands, Keyword.init.Operands params operands) {β : Type}
    (f : StructInit → Except Cause β) :
    ∃ cause, read params >>= f = .error cause ∧ s.Refuses .init cause.category :=
  refused_of_lack s (read_failsWith params) (fun _ => exists_operands) lacks f

theorem ConstDecl.refused {params : List Text}
    (lacks : ¬ ∃ operands, Keyword.const.Operands params operands) {β : Type}
    (f : ConstDecl → Except Cause β) :
    ∃ cause, read params >>= f = .error cause ∧ s.Refuses .const cause.category :=
  refused_of_lack s (read_failsWith params) (fun _ => exists_operands) lacks f

theorem StructDef.refused {params : List Text}
    (lacks : ¬ ∃ operands, Keyword.struct.Operands params operands) {β : Type}
    (f : StructDef → Except Cause β) :
    ∃ cause, read params >>= f = .error cause ∧ s.Refuses .struct cause.category :=
  refused_of_lack s (read_failsWith params) (fun _ => exists_operands) lacks f

theorem Pseudocode.release_refused {params : List Text}
    (lacks : ¬ ∃ operands, Keyword.delete.Operands params operands) :
    ∃ cause, s.pseudocode.releaseLine params = .error cause ∧ s.Refuses .delete cause.category := by
  have unread : releaseText? params = none := by
    rw [Option.eq_none_iff_forall_ne_some]
    intro text h
    exact lacks (exists_operands h)
  unfold releaseLine requirePointers
  rw [unread]
  cases pointers : s.pseudocode.pointers with
  | true => exact ⟨_, rfl, .inl rfl⟩
  | false => exact ⟨_, rfl, .inr ⟨rfl, pointers, rfl⟩⟩

def Keyword.readLate : List Keyword := [arr, init, const, delete, struct]

variable {i : Instruction} (late : k ∈ readLate)
  (lacks : ¬ ∃ operands, k.Operands i.params operands) (closed : Option Frame)
include late lacks

theorem Pseudocode.render_refused :
    ∃ cause, s.pseudocode.render k i closed = .error cause ∧ s.Refuses k cause.category := by
  cases k with
  | arr => exact ArrayDecl.refused s lacks _
  | init => exact StructInit.refused s lacks _
  | const => exact ConstDecl.refused s lacks _
  | struct => exact StructDef.refused s lacks _
  | delete =>
    obtain ⟨cause, fails, refuses⟩ := release_refused s lacks
    refine ⟨cause, ?_, refuses⟩
    simp only [render, fails]
    rfl
  | _ => simp [readLate] at late

theorem CPlusPlus.render_refused (other : k ≠ .delete) :
    ∃ cause, s.cpp.render k i closed = .error cause ∧ s.Refuses k cause.category := by
  cases k with
  | arr => exact ArrayDecl.refused s lacks _
  | init => exact StructInit.refused s lacks _
  | const => exact ConstDecl.refused s lacks _
  | struct => exact StructDef.refused s lacks _
  | delete => exact absurd rfl other
  | _ => simp [readLate] at late

end Lines

namespace Backend

open Keyword

theorem render_refused (s : Settings) (target : Target) {k : Keyword} {i : Instruction}
    (resolved : (s.backend target).resolve i = .keyword k) (late : k ∈ readLate)
    (lacks : ¬ ∃ operands, k.Operands i.params operands) (closed : Option Frame) :
    ∃ cause, (s.backend target).render k i closed = .error cause ∧ s.Refuses k cause.category := by
  cases target with
  | pseudocode => exact Pseudocode.render_refused s late lacks closed
  | cpp =>
    refine CPlusPlus.render_refused s late lacks closed ?_
    have found := keyword?_of_resolve resolved
    rw [show s.backend .cpp = s.cpp.backend from rfl, keyword?_cpp] at found
    exact of_decide_eq_true (Option.filter_eq_some_iff.mp found).2

theorem outcome_refused (s : Settings) (target : Target) {k : Keyword} {l : SourceLine}
    (resolved : (s.backend target).resolve l.instruction = .keyword k) (needs : k ∈ needOperands)
    (lacks : ¬ ∃ operands, k.Operands l.instruction.params operands) (ctx : Context) :
    ∃ cause, (s.backend target).outcome l ctx = .error cause ∧ s.Refuses k cause.category := by
  have acts := action_of_keyword resolved
  have early : ∀ fault, (s.backend target).action l = .error (.argument fault) →
      ∃ cause, (s.backend target).outcome l ctx = .error cause ∧ s.Refuses k cause.category := by
    intro fault fails
    exact ⟨_, outcome_eq_error_iff.mpr (.inl fails), .inl rfl⟩
  have late : k ∈ readLate → (s.backend target).action l = .ok .plain →
      ∃ cause, (s.backend target).outcome l ctx = .error cause ∧ s.Refuses k cause.category := by
    intro late plain
    obtain ⟨cause, fails, refuses⟩ := render_refused s target resolved late lacks none
    rw [← written_of_keyword resolved] at fails
    exact ⟨cause, outcome_eq_error_iff.mpr (.inr ⟨_, plain, .inr ⟨_, _, rfl, fails⟩⟩), refuses⟩
  cases k with
  | forLoop =>
    refine early .loopBounds (acts.trans ?_)
    rw [BlockAction.ofLine_forLoop, if_pos]
    exact Decidable.not_not.mp fun long => lacks (ForLoop.exists_operands long)
  | fx =>
    refine early .functionName (acts.trans ?_)
    exact Decidable.not_not.mp fun named => lacks (BlockAction.exists_operands named)
  | arr | init | const | delete | struct => exact late (by decide) acts
  | _ => simp [needOperands] at needs

end Backend

/-- In a program that compiles, each line that needs operands has them all, unless an empty token
    stands for one; and where a line has too few tokens for them, the program is refused there. -/
theorem Settings.operands_given (s : Settings) (target : Target) (lines : List Text) :
    (∀ out, (s.backend target).compile lines = .ok out → ∀ l ∈ SourceLine.number lines,
      ∀ k ∈ Keyword.needOperands, (s.backend target).resolve l.instruction = .keyword k →
        (k.Complete l.instruction.params ↔ ¬ k.Gapped l.instruction.params)) ∧
      ∀ past l later ctx k, SourceLine.number lines = past ++ l :: later →
        (s.backend target).run past {} = .ok () ctx →
        (s.backend target).resolve l.instruction = .keyword k → k ∈ Keyword.needOperands →
        ¬ k.Complete l.instruction.params → ¬ k.Gapped l.instruction.params →
        ∃ fault, (s.backend target).compile lines = .error fault ∧ fault.line = l.index ∧
          s.Refuses k fault.category := by
  constructor
  · intro out compiles l mem k needs resolved
    obtain ⟨last, run, _⟩ := Backend.compile_eq_ok_iff.mp compiles
    obtain ⟨past, later, split⟩ := List.append_of_mem mem
    rw [split] at run
    obtain ⟨ctx, _, rest⟩ := Backend.reach_append_eq_ok_iff.mp run
    obtain ⟨after, passes, _⟩ := Backend.reach_cons_eq_ok_iff.mp rest
    have shaped : ∃ operands, k.Operands l.instruction.params operands := by
      by_contra lacks
      obtain ⟨cause, fails, _⟩ := Backend.outcome_refused s target resolved needs lacks ctx
      rw [passes] at fails
      cases fails
    obtain ⟨operands, shape⟩ := shaped
    constructor
    · intro complete gapped
      exact Keyword.not_complete_of_gapped gapped complete
    · exact (Keyword.complete_or_gapped shape).resolve_right
  · intro past l later ctx k split before resolved needs incomplete ungapped
    have lacks : ¬ ∃ operands, k.Operands l.instruction.params operands := by
      rintro ⟨operands, shape⟩
      exact (Keyword.complete_or_gapped shape).elim incomplete ungapped
    obtain ⟨cause, fails, refuses⟩ := Backend.outcome_refused s target resolved needs lacks ctx
    have reached :=
      Backend.reach_append_cons_of_error (Backend.reach_eq_ok_iff.mpr before) fails later
    rw [← split] at reached
    exact ⟨_, Backend.compile_eq_error_iff.mpr (.inl reached), rfl, refuses⟩

theorem Settings.operands_given_init_arr :
    let b := ({} : Settings).backend .cpp
    (∃ out, b.compile ["init Point p x 1"] = .ok out) ∧
      Keyword.init.Complete ["Point", "p", "x", "1"] ∧
      ∃ fault, b.compile ["print 1", "arr int t"] = .error fault ∧ fault.line = 2 ∧
        fault.category = .argument := by
  intro b
  have compiles : (b.compile ["init Point p x 1"]).toOption.isSome = true := by decide +kernel
  obtain ⟨out, compiles⟩ := exists_eq_ok_of_isSome compiles
  have shape : Keyword.init.Operands ["Point", "p", "x", "1"] [["Point"], ["p"], ["x"], ["1"]] :=
    .init "Point" "p" (by decide) (by decide)
  have ungapped : ¬ Keyword.init.Gapped ["Point", "p", "x", "1"] := by
    intro gapped
    obtain ⟨operands, shape', operand, mem, missing⟩ := gapped
    rw [shape'.unique shape] at mem
    revert operand
    decide
  have lacks : ∀ operands, ¬ Keyword.arr.Operands ["int", "t"] operands := by
    intro operands shape
    cases shape with
    | arr _ _ some => exact some rfl
  have incomplete : ¬ Keyword.arr.Complete ["int", "t"] := by
    intro given
    obtain ⟨operands, shape, _⟩ := given
    exact lacks operands shape
  have ungapped' : ¬ Keyword.arr.Gapped ["int", "t"] := by
    intro gapped
    obtain ⟨operands, shape, _⟩ := gapped
    exact lacks operands shape
  obtain ⟨complete, _⟩ := Settings.operands_given {} .cpp ["init Point p x 1"]
  obtain ⟨_, refused⟩ := Settings.operands_given {} .cpp ["print 1", "arr int t"]
  have first : (b.run [⟨"print 1", 1⟩] {}) = .ok () _ := rfl
  obtain ⟨fault, fails, line, refuses⟩ := refused [⟨"print 1", 1⟩] ⟨"arr int t", 2⟩ [] _ .arr rfl
    first rfl (by decide) incomplete ungapped'
  refine ⟨⟨out, compiles⟩, ?_, fault, fails, line, refuses.resolve_right nofun⟩
  exact (complete out compiles ⟨"init Point p x 1", 1⟩ (by decide) .init (by decide) rfl).mpr
    ungapped

/-- A space behind the start of a loop is taken for its end. -/
theorem Settings.empty_loop_bound :
    let b := ({} : Settings).backend .cpp
    let l : SourceLine := ⟨"for i 0 ", 1⟩
    l ∈ SourceLine.number ["for i 0 ", "end"] ∧ b.resolve l.instruction = .keyword .forLoop ∧
      ¬ Keyword.forLoop.Complete l.instruction.params ∧
      ∃ out, b.compile ["for i 0 ", "end"] = .ok out ∧ ("for (i = 0; i <= ; " : Text) <:+: out := by
  intro b l
  have shape : Keyword.forLoop.Operands l.instruction.params [["i"], ["0"], [[]]] :=
    .forLoop "i" "0" [] []
  have gapped : Keyword.forLoop.Gapped l.instruction.params :=
    ⟨_, shape, [[]], by decide, by decide⟩
  have found : (b.compile ["for i 0 ", "end"]).toOption.any
      (Text.occursIn "for (i = 0; i <= ; ") = true := by
    decide +kernel
  obtain ⟨out, compiles, occurs⟩ := exists_eq_ok_of_any found
  exact ⟨by decide, rfl, Keyword.not_complete_of_gapped gapped, out, compiles,
    (Text.occursIn_iff _ _).mp occurs⟩

end BlockScript
