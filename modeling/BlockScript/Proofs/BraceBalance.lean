import BlockScript.Proofs.BraceWords
import BlockScript.Proofs.Run

/-!
The braces of a whole C++ program. An opening brace and the one that closes it are written far apart
and by different lines, but always to the same of the two outputs, since a block is in a function
when it is closed exactly if it was when it was opened. So the open blocks give the level of each
output after every line.
-/
namespace BlockScript

namespace FrameStack

/-- Open braces of the functions or of the body. The body is between the braces of the entry
    point. -/
def openBraces (hoisted : Bool) : FrameStack → Nat
  | [] => if hoisted then 0 else 1
  | f :: rest =>
      (if inFunction (f :: rest) = hoisted ∧ f.frame.braced = true then 1 else 0) +
        openBraces hoisted rest

theorem openBraces_pos (stack : FrameStack) : 0 < openBraces (inFunction stack) stack := by
  induction stack with
  | nil => decide
  | cons f rest ih =>
    unfold openBraces
    cases hf : f.frame.isFunction with
    | true =>
      have braced : f.frame.braced = true := by
        cases h : f.frame <;> simp_all [Frame.isFunction, Frame.braced]
      simp only [braced, and_self, if_true]
      omega
    | false =>
      rw [inFunction_cons, hf, Bool.false_or]
      omega

theorem openBraces_start (hoisted : Bool) (stack : FrameStack) :
    openBraces hoisted (if stack.top = some .vars then stack.tail else stack) =
      openBraces hoisted stack := by
  split
  · rename_i innermost
    cases stack with
    | nil => rfl
    | cons f rest =>
      have vars : f.frame = .vars := Option.some.inj innermost
      simp [openBraces, vars, Frame.braced]
  · rfl

end FrameStack

open FrameStack Backend

theorem level_opening (n : Nat) (f : Frame) :
    level n f.opening = some ((if f.braced = true then 1 else 0) + n) := by
  unfold Frame.opening
  split
  · rw [Nat.add_comm]
    rfl
  · rw [Nat.zero_add]
    rfl

theorem level_closing (n : Nat) (f : Frame) :
    level ((if f.braced = true then 1 else 0) + n) f.closing = some n := by
  unfold Frame.closing
  split
  · rw [Nat.add_comm]
    rfl
  · rw [Nat.zero_add]
    rfl

theorem level_reopening {n : Nat} (h : 0 < n) :
    level n (CPlusPlus.closeBrace ++ CPlusPlus.openBrace) = some n := by
  cases n with
  | zero => cases h
  | succ n => rfl

theorem level_opens (f : OpenFrame) (stack : FrameStack) (hoisted : Bool) :
    level (openBraces hoisted stack)
        (if relocates (f :: stack) none = hoisted then f.frame.opening else []) =
      some (openBraces hoisted (f :: stack)) := by
  have same : relocates (f :: stack) none = inFunction (f :: stack) := Bool.or_false _
  rw [same, openBraces]
  by_cases here : inFunction (f :: stack) = hoisted
  · simp only [here, true_and, if_true]
    exact level_opening _ f.frame
  · simp only [here, false_and, if_false, Nat.zero_add]
    rfl

theorem level_closes (f : OpenFrame) (stack : FrameStack) (hoisted : Bool) :
    level (openBraces hoisted (f :: stack))
        (if relocates stack (some f.frame) = hoisted then f.frame.closing else []) =
      some (openBraces hoisted stack) := by
  have same : relocates stack (some f.frame) = inFunction (f :: stack) := by
    rw [inFunction_cons, Bool.or_comm]
    rfl
  rw [same, openBraces]
  by_cases here : inFunction (f :: stack) = hoisted
  · simp only [here, true_and, if_true]
    exact level_closing _ f.frame
  · simp only [here, false_and, if_false, Nat.zero_add]
    rfl

/-- A line moves the level of the output that it is written to as its action moves the blocks, and
    leaves the other. -/
theorem level_writes {a : BlockAction} {line : Nat} {stack stack' : FrameStack}
    {closed : Option Frame} {word : Text} (applies : a.apply line stack = .ok (stack', closed))
    (writes : a.Writes word closed) (hoisted : Bool) :
    level (openBraces hoisted stack) (if relocates stack' closed = hoisted then word else []) =
      some (openBraces hoisted stack') := by
  cases a with
  | plain =>
    cases applies
    have same : relocates stack none = inFunction stack := Bool.or_false _
    rw [same]
    split
    · rename_i here
      rcases writes with rfl | rfl
      · rfl
      · exact level_reopening (here ▸ openBraces_pos stack)
    · rfl
  | opens f =>
    cases applies
    cases writes
    exact level_opens ⟨f, line⟩ stack hoisted
  | opensBranch f refusal =>
    simp only [BlockAction.apply] at applies
    split at applies
    · cases applies
      cases writes
      exact level_opens ⟨f, line⟩ stack hoisted
    · cases applies
  | startsBody =>
    cases applies
    cases writes
    rw [ite_self, openBraces_start]
    rfl
  | closes =>
    cases stack with
    | nil => cases applies
    | cons f rest =>
      cases applies
      cases writes
      exact level_closes f stack' hoisted
  | returns =>
    cases writes
    rw [ite_self]
    simp only [BlockAction.apply] at applies
    split at applies
    · cases applies
      rfl
    · cases applies
    · cases applies

namespace CPlusPlus

structure BalancedUpTo (ctx : Context) : Prop where
  body : level 1 (ctx.body.flatMap braces) = some (openBraces false ctx.stack)
  hoisted : level 0 (ctx.hoisted.flatMap braces) = some (openBraces true ctx.stack)
  definitions : ∀ d ∈ ctx.definitions, level 0 d = some 0
  returnCode : BraceFree ctx.returnCode

variable {c : CPlusPlus} (hc : c.Unbraced)
include hc

theorem Unbraced.emitted (l : SourceLine) (stack : FrameStack) (r : Rendering) :
    (c.backend.emitted l stack r).flatMap braces = (r.lines.getD [l.text]).flatMap braces := by
  show (c.finish _ stack _).flatMap braces = _
  rw [hc.finish]
  refine flatMap_braces_filter ?_ _
  intro text empty
  have nothing : text = [] := by simpa using empty
  rw [nothing]
  rfl

theorem Unbraced.outcome_balanced {l : SourceLine} {ctx after : Context} (free : BraceFree l.text)
    (h : c.backend.outcome l ctx = .ok after) (balanced : BalancedUpTo ctx) :
    BalancedUpTo after := by
  obtain ⟨a, acts, stack, closed, applies, r, written, rfl⟩ := outcome_eq_ok_iff.mp h
  have fits : r.Fits l.text a closed := by
    have meets := hc.written free acts closed
    rw [written] at meets
    exact meets
  have moves := level_writes applies fits.word
  rw [← hc.emitted l stack r] at moves
  refine ⟨?_, ?_, ?_, ?_⟩
  · have step := moves false
    unfold settle
    dsimp only
    cases hr : relocates stack closed with
    | true =>
      rw [hr] at step
      exact balanced.body.trans step
    | false =>
      rw [hr] at step
      rw [if_neg Bool.false_ne_true, List.flatMap_append, level_append, balanced.body]
      exact step
  · have step := moves true
    unfold settle
    dsimp only
    cases hr : relocates stack closed with
    | true =>
      rw [hr] at step
      have separator : (if closed.any Frame.isFunction then [([] : Text)] else []).flatMap braces =
          [] := by
        split <;> rfl
      rw [if_pos rfl, List.flatMap_append, List.flatMap_append, separator, List.append_nil,
        level_append, balanced.hoisted]
      exact step
    | false =>
      rw [hr] at step
      exact balanced.hoisted.trans step
  · intro d mem
    rcases List.mem_append.mp mem with mem | mem
    · exact balanced.definitions d mem
    · exact fits.definitions d mem
  · cases code : r.returnCode with
    | none => simpa [settle, code] using balanced.returnCode
    | some t => simpa [settle, code] using fits.returnCode t code

theorem Unbraced.reach_balanced {lines : List Text} {ctx : Context}
    (free : ∀ line ∈ lines, BraceFree line)
    (run : c.backend.reach (SourceLine.number lines) {} = .ok ctx) : BalancedUpTo ctx := by
  refine reach_preserves (fun l numbered ctx after h => hc.outcome_balanced ?_ h) run
    ⟨rfl, rfl, nofun, by decide⟩
  obtain ⟨line, mem, text⟩ := SourceLine.exists_number_iff.mp ⟨l, numbered, rfl⟩
  rw [← text]
  exact (free line mem).of_subset (Text.dropEndWhile_subset _ line)

omit hc in
theorem braces_linesIf (needed : Bool) {lines : List Text} (h : lines.flatMap braces = []) :
    (linesIf needed lines).flatMap braces = [] := by
  cases needed with
  | true => exact h
  | false => rfl

theorem Unbraced.preamble (source : Text) : (c.preamble source).flatMap braces = [] := by
  have name := (BraceFree.append (by decide : BraceFree ("using namespace " : Text))
    hc.namespaceName).append (by decide : BraceFree (";" : Text))
  have line : [("using namespace " : Text) ++ c.namespaceName ++ (";" : Text)].flatMap braces = [] :=
    name.flatMap_singleton
  unfold CPlusPlus.preamble headers
  rw [List.flatMap_append, List.flatMap_append, List.flatMap_append, List.flatMap_append,
    List.flatMap_cons, braces_linesIf _ rfl, braces_linesIf _ rfl, braces_linesIf _ rfl,
    braces_linesIf _ line]
  rfl

theorem Unbraced.mainLines (source : Text) {ctx : Context} (balanced : BalancedUpTo ctx)
    (ended : ctx.stack = []) :
    level 0 ((c.mainLines source ctx ++ [closeBrace]).flatMap braces) = some 0 := by
  have seed := BraceFree.append hc.indent (by decide : BraceFree ("srand(time(NULL));" : Text))
  have seed_line : [c.indent ++ ("srand(time(NULL));" : Text)].flatMap braces = [] :=
    seed.flatMap_singleton
  have indented : (ctx.body.map (c.indent ++ ·)).flatMap braces = ctx.body.flatMap braces := by
    rw [List.flatMap_map]
    simp only [braces_append, braces_of_braceFree hc.indent, List.nil_append]
  have last := ((hc.indent.append (by decide : BraceFree ("return " : Text))).append
    balanced.returnCode).append (by decide : BraceFree (";" : Text))
  have last_line : [c.indent ++ ("return " : Text) ++ ctx.returnCode ++ (";" : Text)].flatMap
      braces = [] := last.flatMap_singleton
  have header : braces (("int " : Text) ++ entryPoint ++ ("() " : Text) ++ openBrace) =
      openBrace := by decide
  have opened : level 0 openBrace = some 1 := rfl
  have body := balanced.body
  rw [ended] at body
  unfold CPlusPlus.mainLines
  rw [List.flatMap_append, List.flatMap_append, List.flatMap_append, List.flatMap_cons, header,
    braces_linesIf _ seed_line, indented, last_line, List.append_nil, List.append_nil, level_append,
    level_append, opened]
  show level 1 (ctx.body.flatMap braces) >>= (level · closeBrace) = some 0
  rw [body]
  rfl

end CPlusPlus

/-- The output of a program without braces is balanced, and so is each of its parts by itself: the
    structures and constants, the functions, and the body between the braces of the entry point. -/
theorem CPlusPlus.output_balanced (c : CPlusPlus) (lines : List Text) (out : Text) (hc : c.Unbraced)
    (free : ∀ line ∈ lines, BraceFree line) (compiles : c.backend.compile lines = .ok out) :
    BraceBalanced out ∧
      ∃ ctx, c.backend.run (SourceLine.number lines) {} = .ok () ctx ∧
        out = c.assemble (Text.join "\n" lines) ctx ∧
        BraceBalanced (Text.join "\n" ctx.definitions) ∧
        BraceBalanced (Text.join "\n" ctx.hoisted) ∧
        BraceBalanced (Text.join "\n"
          (c.mainLines (Text.join "\n" lines) ctx ++ [CPlusPlus.closeBrace])) := by
  obtain ⟨ctx, run, ended, rfl⟩ := compile_eq_ok_iff.mp compiles
  have balanced := hc.reach_balanced free run
  have main := hc.mainLines (Text.join "\n" lines) balanced ended
  have definitions := level_flatMap balanced.definitions
  have hoisted := balanced.hoisted
  rw [ended] at hoisted
  have newline : BraceFree ("\n" : Text) := by decide
  refine ⟨balanced_of_level ?_, ctx, reach_eq_ok_iff.mp run, rfl, balanced_of_level ?_,
    balanced_of_level ?_, balanced_of_level ?_⟩
  · have block : (if ctx.definitions = [] then [] else ctx.definitions ++ [[]]).flatMap braces =
        ctx.definitions.flatMap braces := by
      split
      · rename_i none
        rw [none]
      · rw [List.flatMap_append]
        exact List.append_nil _
    show level 0 (c.assemble _ ctx) = some 0
    unfold CPlusPlus.assemble
    rw [level_join newline, List.append_assoc _ _ [CPlusPlus.closeBrace], List.flatMap_append,
      List.flatMap_append, List.flatMap_append, hc.preamble, block, List.nil_append, level_append,
      level_append, definitions]
    show level 0 (ctx.hoisted.flatMap braces) >>= _ = some 0
    rw [hoisted]
    exact main
  · rw [level_join newline]
    exact definitions
  · rw [level_join newline]
    exact hoisted
  · rw [level_join newline]
    exact main

theorem CPlusPlus.output_balanced_function_in_block :
    let lines : List Text := ["if x", "fx void f", "else", "end", "end"]
    ∃ out, ({} : CPlusPlus).backend.compile lines = .ok out ∧ BraceBalanced out := by
  intro lines
  have compiles : (({} : CPlusPlus).backend.compile lines).toOption.isSome = true := by
    decide +kernel
  cases h : ({} : CPlusPlus).backend.compile lines with
  | error fault =>
    rw [h] at compiles
    cases compiles
  | ok out =>
    have settings : ({} : CPlusPlus).Unbraced := ⟨by decide, by decide, by decide⟩
    exact ⟨out, rfl, (CPlusPlus.output_balanced {} lines out settings (by decide) h).1⟩

end BlockScript
