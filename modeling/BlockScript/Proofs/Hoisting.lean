import BlockScript.Proofs.Closers
import BlockScript.Proofs.Concatenation
import Mathlib.Data.List.Basic

/-!
Where the lines of a program go. A line of a function, from the one that opens it to the one that
ends it, is kept apart from the body; each output gets its lines in their order, and the final text
has every one of them once.
-/
namespace BlockScript
open BlockGrammar

namespace BlockGrammar

/-- The last of the symbols stands in a function: in one that they leave open, or in one that it
    ends. -/
def InFunction (upto : List Symbol) : Prop :=
  ∃ before f inner, upto = before ++ .opens f :: inner ∧ f.isFunction = true ∧
    ∀ block closer later around, inner = block ++ closer :: later → Closes f closer →
      Block (f :: around) block → later = []

def EndsFunction (upto : List Symbol) : Prop :=
  ∃ before f block closer around, upto = before ++ .opens f :: (block ++ [closer]) ∧
    f.isFunction = true ∧ Closes f closer ∧ Block (f :: around) block

theorem Closes.of_isFunction {f : Frame} {s : Symbol} (closes : Closes f s)
    (function : f.isFunction = true) : s = .ends := by
  rcases closes with rfl | ⟨rfl, _⟩
  · rfl
  · cases function

end BlockGrammar

namespace Backend

variable {b : Backend} {l : SourceLine} {past : List SourceLine} {ctx : Context}
  {a : BlockAction} {stack : FrameStack} {closed : Option Frame} {r : Rendering}

theorem endsFunction_iff (run : b.reach past {} = .ok ctx) (acts : b.action l = .ok a)
    (applies : a.apply l.index ctx.stack = .ok (stack, closed)) :
    EndsFunction ((past ++ [l]).map b.symbol) ↔ closed.any Frame.isFunction = true := by
  have upto : (past ++ [l]).map b.symbol = past.map b.symbol ++ [b.symbol l] := by simp
  rw [upto]
  constructor
  · rintro ⟨before, f, block, closer, around, eq, function, closes, inside⟩
    have eq : past.map b.symbol ++ [b.symbol l] = (before ++ .opens f :: block) ++ [closer] := by
      simpa using eq
    obtain ⟨earlier, last⟩ := List.append_inj' eq rfl
    have word := run_of_reach run
    rw [earlier] at word
    obtain ⟨base, _, within⟩ := run_opens_eq_some word
    -- the frames around in the word need not be those of the run, but the innermost is the same
    have innermost := run_block_eq_some inside within rfl
    have ends : a.symbol = .ends := by
      rw [symbol_of_action acts, List.head_eq_of_cons_eq last]
      exact closes.of_isFunction function
    obtain rfl := BlockAction.symbol_eq_ends_iff.mp ends
    cases open_ : ctx.stack with
    | nil =>
      rw [open_] at innermost
      cases innermost
    | cons o rest =>
      rw [open_] at innermost applies
      cases applies
      have head : o.frame = f := List.head_eq_of_cons_eq innermost
      simpa [head] using function
  · intro function
    cases closed with
    | none => cases function
    | some f =>
      obtain ⟨rfl, o, innermost, rfl⟩ := BlockAction.closed_eq_some applies
      obtain ⟨before, opener, later, start, opened, rfl, h⟩ :=
        exists_openedBy_innermost run innermost
      have ends : b.symbol l = .ends := (symbol_of_action acts).symm
      refine ⟨before.map b.symbol, o.frame, later.map b.symbol, .ends, stack.frames, ?_, function,
        .inl rfl, h.block run innermost⟩
      simp [h.symbol, ends]

theorem OpenedBy.inFunction {o : OpenFrame} {rest : FrameStack} {before later : List SourceLine}
    {opener : SourceLine} {start opened : Context}
    (h : b.OpenedBy o rest before opener later start opened) (function : o.frame.isFunction = true)
    {next : List Symbol} (short : next.length ≤ 1) :
    InFunction ((before ++ opener :: later).map b.symbol ++ next) := by
  refine ⟨before.map b.symbol, o.frame, later.map b.symbol ++ next, ?_, function, ?_⟩
  · simp [h.symbol]
  · intro block closer more around eq closes inside
    rcases List.eq_nil_or_concat more with rfl | ⟨more, s, rfl⟩
    · rfl
    · refine absurd inside ?_
      match next, short with
      | [], _ =>
        rw [List.append_nil] at eq
        exact h.unended block closer _ around eq closes
      | [last], _ =>
        have eq : later.map b.symbol ++ [last] = (block ++ closer :: more) ++ [s] := by
          simpa using eq
        exact h.unended block closer more around (List.append_inj' eq rfl).1 closes

theorem inFunction_iff (run : b.reach past {} = .ok ctx) (acts : b.action l = .ok a)
    (applies : a.apply l.index ctx.stack = .ok (stack, closed))
    {after : Context} (last : b.outcome l ctx = .ok after) (settled : after.stack = stack) :
    InFunction ((past ++ [l]).map b.symbol) ↔ relocates stack closed = true := by
  have whole : b.reach (past ++ [l]) {} = .ok after := reach_concat_eq_ok_iff.mpr ⟨ctx, run, last⟩
  unfold relocates
  rw [Bool.or_eq_true, ← endsFunction_iff run acts applies, FrameStack.inFunction_iff]
  constructor
  · rintro ⟨before, f, inner, eq, function, reaches⟩
    have word := run_of_reach whole
    rw [eq] at word
    obtain ⟨base, _, within⟩ := run_opens_eq_some word
    rcases leavesOpen_or_closed within with open_ |
      ⟨g, around, block, closer, later, same, rfl, closes, inside⟩
    · rw [settled] at open_
      exact .inl ⟨f, open_.suffix.subset List.mem_cons_self, function⟩
    · cases same
      obtain rfl := reaches block closer later _ rfl closes inside
      exact .inr ⟨before, f, block, closer, base, eq, function, closes, inside⟩
  · rintro (⟨f, open_, function⟩ | ends)
    · obtain ⟨o, mem, rfl⟩ := List.mem_map.mp open_
      obtain ⟨top, rest, split⟩ := List.append_of_mem mem
      rw [← settled] at split
      obtain ⟨before, opener, later, start, opened, eq, h⟩ := exists_openedBy whole split
      have stands : InFunction (_ ++ []) := h.inFunction function (by decide)
      rwa [List.append_nil, ← eq] at stands
    · have function := (endsFunction_iff run acts applies).mp ends
      cases closed with
      | none => cases function
      | some f =>
        obtain ⟨rfl, o, innermost, rfl⟩ := BlockAction.closed_eq_some applies
        obtain ⟨before, opener, later, start, opened, rfl, h⟩ :=
          exists_openedBy_innermost run innermost
        rw [List.map_append, List.map_singleton]
        exact h.inFunction function (Nat.le_refl 1)

def finished (b : Backend) (past : List SourceLine) (l : SourceLine) : List Text :=
  match b.run past {} with
  | .ok _ ctx =>
    match b.renderLine l.instruction (b.resolve l.instruction) (ctx.beginLine l.text) with
    | .ok _ mid => b.finish (b.resolve l.instruction) mid.stack mid.pending
    | .error _ _ => []
  | .error _ _ => []

theorem finished_eq (run : b.reach past {} = .ok ctx) (acts : b.action l = .ok a)
    (applies : a.apply l.index ctx.stack = .ok (stack, closed))
    (writes : b.written l closed = .ok r) : b.finished past l = b.emitted l stack r := by
  have rendered : b.rendered l ctx =
      .ok ({ ctx with stack, closed, current := [l.text] }.write r) := by
    unfold rendered
    simp only [bind, Except.bind, acts, applies, mapError_ok, writes]
    rfl
  have line := verdict_renderLine b l ctx
  rw [rendered, mapError_ok, verdict_eq_ok_iff] at line
  unfold finished
  rw [reach_eq_ok_iff.mp run]
  dsimp only
  rw [line]
  rfl

def output (b : Backend) (lines : List SourceLine) (k : Nat) : List Text :=
  match lines[k]? with
  | some l => b.finished (lines.take k) l
  | none => []

def upto (b : Backend) (lines : List SourceLine) (k : Nat) : List Symbol :=
  (lines.take (k + 1)).map b.symbol

section Buffers

open scoped Classical

noncomputable def bodyPart (b : Backend) (lines : List SourceLine) (k : Nat) : List Text :=
  if InFunction (b.upto lines k) then [] else b.output lines k

noncomputable def hoistedPart (b : Backend) (lines : List SourceLine) (k : Nat) : List Text :=
  if InFunction (b.upto lines k) then
    b.output lines k ++ if EndsFunction (b.upto lines k) then [[]] else []
  else []

theorem output_concat {k : Nat} (earlier : k < past.length) :
    b.output (past ++ [l]) k = b.output past k := by
  unfold output
  rw [List.getElem?_append_left earlier, List.take_append_of_le_length (Nat.le_of_lt earlier)]

theorem upto_concat {k : Nat} (earlier : k < past.length) :
    b.upto (past ++ [l]) k = b.upto past k := by
  unfold upto
  rw [List.take_append_of_le_length earlier]

theorem bodyPart_concat {k : Nat} (earlier : k < past.length) :
    b.bodyPart (past ++ [l]) k = b.bodyPart past k := by
  unfold bodyPart
  rw [upto_concat earlier, output_concat earlier]

theorem hoistedPart_concat {k : Nat} (earlier : k < past.length) :
    b.hoistedPart (past ++ [l]) k = b.hoistedPart past k := by
  unfold hoistedPart
  rw [upto_concat earlier, output_concat earlier]

theorem output_last : b.output (past ++ [l]) past.length = b.finished past l := by
  simp [output]

theorem upto_last : b.upto (past ++ [l]) past.length = (past ++ [l]).map b.symbol := by
  simp [upto, List.take_of_length_le]

theorem flatMap_range_concat {f g : Nat → List Text} (same : ∀ k < past.length, f k = g k) :
    (List.range (past ++ [l]).length).flatMap f =
      (List.range past.length).flatMap g ++ f past.length := by
  have earlier : (List.range past.length).flatMap f = (List.range past.length).flatMap g :=
    List.flatMap_congr fun k mem => same k (List.mem_range.mp mem)
  rw [List.length_append, List.length_singleton, List.range_succ, List.flatMap_append,
    List.flatMap_singleton, earlier]

theorem buffers_eq {lines : List SourceLine} (run : b.reach lines {} = .ok ctx) :
    ctx.body = (List.range lines.length).flatMap (b.bodyPart lines) ∧
      ctx.hoisted = (List.range lines.length).flatMap (b.hoistedPart lines) := by
  induction lines using List.reverseRecOn generalizing ctx with
  | nil =>
    cases run
    exact ⟨rfl, rfl⟩
  | append_singleton past l ih =>
    obtain ⟨mid, earlier, last⟩ := reach_concat_eq_ok_iff.mp run
    obtain ⟨a, acts, stack, closed, applies, r, writes, rfl⟩ := outcome_eq_ok_iff.mp last
    obtain ⟨body, hoisted⟩ := ih earlier
    have route := inFunction_iff earlier acts applies last rfl
    have ends := endsFunction_iff earlier acts applies
    have lines := finished_eq earlier acts applies writes
    -- what an earlier line adds does not depend on the line that follows
    rw [flatMap_range_concat fun k => bodyPart_concat,
      flatMap_range_concat fun k => hoistedPart_concat, ← body, ← hoisted]
    simp only [bodyPart, hoistedPart, upto_last, output_last, lines, route, ends, settle]
    cases relocates stack closed <;> simp

end Buffers

theorem reach_grows {lines : List SourceLine} (run : b.reach lines {} = .ok ctx) (k : Nat) :
    ∃ past, b.run (lines.take k) {} = .ok () past ∧ past.body <+: ctx.body ∧
      past.hoisted <+: ctx.hoisted := by
  rw [← List.take_append_drop k lines, reach_append_eq_ok_iff] at run
  obtain ⟨past, earlier, run⟩ := run
  refine ⟨past, reach_eq_ok_iff.mp earlier, ?_⟩
  have grows : ∀ l ∈ lines.drop k, ∀ mid after, b.outcome l mid = .ok after →
      past.body <+: mid.body ∧ past.hoisted <+: mid.hoisted →
      past.body <+: after.body ∧ past.hoisted <+: after.hoisted := by
    rintro l _ mid after h ⟨body, hoisted⟩
    obtain ⟨_, _, stack, closed, _, r, _, rfl⟩ := outcome_eq_ok_iff.mp h
    unfold settle
    cases relocates stack closed with
    | true =>
      refine ⟨body, hoisted.trans ?_⟩
      rw [if_pos rfl, List.append_assoc]
      exact List.prefix_append _ _
    | false => exact ⟨body.trans (List.prefix_append _ _), hoisted⟩
  exact reach_preserves grows run ⟨List.prefix_refl _, List.prefix_refl _⟩

end Backend

namespace Text

theorem endsWith_append {p : Char → Bool} (s : Text) {t : Text} (nonempty : t ≠ []) :
    (s ++ t).endsWith p = t.endsWith p := by
  unfold endsWith
  rw [List.getLast?_append_of_ne_nil s nonempty]

theorem join_separator (front : List Text) (line : Text) :
    join "\n" (front ++ [line, []]) = join "\n" (front ++ [line]) ++ ['\n'] := by
  have whole : front ++ [line, []] = (front ++ [line]) ++ [([] : Text)] := by simp
  rw [whole, join_append (by simp) (List.cons_ne_nil [] []), join_singleton, List.append_nil]
  rfl

theorem trimEnd_join_separator {front : List Text} {line : Text} (nonempty : line ≠ [])
    (solid : line.endsWith isBlankChar = false) :
    trimEnd (join "\n" (front ++ [line, []])) = join "\n" (front ++ [line]) := by
  have last : (join "\n" (front ++ [line])).endsWith isBlankChar = false := by
    cases front with
    | nil =>
      rw [List.nil_append, join_singleton]
      exact solid
    | cons first front =>
      rw [join_append (List.cons_ne_nil first front) (List.cons_ne_nil line []), join_singleton,
        endsWith_append _ nonempty]
      exact solid
  have blank : isBlankChar '\n' = true := rfl
  rw [join_separator, trimEnd, dropEndWhile, List.reverse_append, List.reverse_singleton,
    List.singleton_append, List.dropWhile_cons_of_pos blank]
  exact dropEndWhile_of_endsWith_eq_false last

end Text

namespace Pseudocode

/-- Nothing, or entries that end with a line and a separator. -/
def Separated (entries : List Text) : Prop :=
  entries = [] ∨ ∃ (front : List Text) (line : Text), entries = front ++ [line, []] ∧ line ≠ [] ∧
    line.endsWith Text.isBlankChar = false

theorem Separated.append {first second : List Text} (hf : Separated first) (hs : Separated second) :
    Separated (first ++ second) := by
  rcases hs with rfl | ⟨front, line, rfl, nonempty, solid⟩
  · rwa [List.append_nil]
  · exact .inr ⟨first ++ front, line, by simp, nonempty, solid⟩

theorem closingLine_solid (f : Frame) :
    ("Fin " ++ blockWord f : Text) ≠ [] ∧
      Text.endsWith ("Fin " ++ blockWord f : Text) Text.isBlankChar = false := by
  cases f <;> exact ⟨by decide, by decide⟩

theorem separated_closing (front : List Text) (pad : Text) (f : Frame) :
    Separated (front ++ [pad ++ ("Fin " ++ blockWord f : Text), []]) := by
  obtain ⟨nonempty, solid⟩ := closingLine_solid f
  refine .inr ⟨front, pad ++ ("Fin " ++ blockWord f : Text), rfl, ?_, ?_⟩
  · exact List.append_ne_nil_of_right_ne_nil pad nonempty
  · rw [Text.endsWith_append pad nonempty]
    exact solid

theorem render_definitions {p : Pseudocode} {k : Keyword} {i : Instruction} {closed : Option Frame}
    {r : Rendering} (h : p.render k i closed = .ok r) : Separated r.definitions := by
  cases k with
  | struct =>
    obtain ⟨d, _, written⟩ := bind_eq_ok_iff.mp h
    obtain ⟨block, fields, defined⟩ := bind_eq_ok_iff.mp written
    obtain ⟨lines, _, whole⟩ := bind_eq_ok_iff.mp fields
    cases whole
    cases defined
    exact separated_closing (("Structure " ++ d.name) :: lines.map (p.indent ++ ·)) [] .struct
  | forLoop | fx | init | delete =>
    obtain ⟨_, _, rendered⟩ := bind_eq_ok_iff.mp h
    cases rendered
    exact .inl rfl
  | arr | const =>
    obtain ⟨_, _, read⟩ := bind_eq_ok_iff.mp h
    obtain ⟨_, _, rendered⟩ := bind_eq_ok_iff.mp read
    cases rendered
    exact .inl rfl
  | _ =>
    cases h
    exact .inl rfl

theorem written_definitions {p : Pseudocode} {l : SourceLine} {closed : Option Frame}
    {r : Rendering} (h : p.backend.written l closed = .ok r) : Separated r.definitions := by
  unfold Backend.written at h
  cases hr : p.backend.resolve l.instruction with
  | keyword k =>
    rw [hr] at h
    exact render_definitions h
  | passThrough =>
    rw [hr] at h
    cases h
    exact .inl rfl
  | _ =>
    rw [hr] at h
    obtain ⟨_, _, rendered⟩ := bind_eq_ok_iff.mp h
    cases rendered
    exact .inl rfl

theorem closingLines_of_isFunction {f : Frame} (function : f.isFunction = true) :
    closingLines (some f) = [("Fin " ++ blockWord f : Text)] := by
  cases f with
  | vars => cases function
  | _ => rfl

structure Spaced (ctx : Context) : Prop where
  definitions : Separated ctx.definitions
  hoisted : ctx.stack.inFunction = true ∨ Separated ctx.hoisted

theorem outcome_spaced {p : Pseudocode} {l : SourceLine} {ctx after : Context}
    (h : p.backend.outcome l ctx = .ok after) (spaced : Spaced ctx) : Spaced after := by
  obtain ⟨a, acts, stack, closed, applies, r, writes, rfl⟩ := Backend.outcome_eq_ok_iff.mp h
  refine ⟨spaced.definitions.append (written_definitions writes), ?_⟩
  cases within : stack.inFunction with
  | true => exact .inl within
  | false =>
    refine .inr ?_
    cases function : closed.any Frame.isFunction with
    | true =>
      cases closed with
      | none => cases function
      | some f =>
        obtain ⟨rfl, o, innermost, rfl⟩ := BlockAction.closed_eq_some applies
        have function : o.frame.isFunction = true := function
        have route : Backend.relocates (o :: stack) none = true := by
          rw [Backend.relocates, FrameStack.inFunction_cons, function]
          rfl
        have closes := Backend.resolve_of_action_closes acts
        have written := (p.paired.closer_emits innermost closes h).2.1
        rw [route, if_pos rfl, if_pos function, Function.comp_apply,
          closingLines_of_isFunction function] at written
        rw [written]
        exact separated_closing ctx.hoisted _ o.frame
    | false =>
      have outside : Backend.relocates stack closed = false := by
        rw [Backend.relocates, within, function]
        rfl
      have before : ctx.stack.inFunction ≠ true := by
        intro before
        have still := Backend.relocates_of_apply applies before
        rw [outside] at still
        cases still
      simp only [Backend.settle, outside]
      exact spaced.hoisted.resolve_left before

theorem reach_spaced {p : Pseudocode} {lines : List SourceLine} {ctx : Context}
    (run : p.backend.reach lines {} = .ok ctx) : Spaced ctx := by
  refine Backend.reach_preserves ?_ run ⟨.inl rfl, .inr (.inl rfl)⟩
  exact fun l _ mid after => outcome_spaced

theorem Spaced.separated {ctx : Context} (spaced : Spaced ctx) (ended : ctx.stack = []) :
    Separated (ctx.definitions ++ ctx.hoisted) := by
  have outside : ctx.stack.inFunction ≠ true := by
    rw [ended]
    exact Bool.false_ne_true
  exact spaced.definitions.append (spaced.hoisted.resolve_left outside)

theorem assemble_eq (p : Pseudocode) {ctx : Context} (spaced : Spaced ctx)
    (ended : ctx.stack = []) :
    ∃ tail, p.assemble ctx = Text.join "\n" (p.programLines ctx.body ++ tail) ∧
      (ctx.definitions ++ ctx.hoisted = [] ∧ tail = [] ∨
        ∃ kept, ctx.definitions ++ ctx.hoisted = kept ++ [[]] ∧ tail = [] :: kept) := by
  rcases spaced.separated ended with none | ⟨front, line, entries, nonempty, solid⟩
  · refine ⟨[], ?_, .inl ⟨none, rfl⟩⟩
    unfold assemble
    rw [none, List.append_nil]
    rfl
  · refine ⟨[] :: (front ++ [line]), ?_, .inr ⟨front ++ [line], by simp [entries], rfl⟩⟩
    have written : Text.join "\n" (front ++ [line, []]) ≠ [] := by
      rw [Text.join_separator]
      exact List.append_ne_nil_of_right_ne_nil _ (List.cons_ne_nil _ _)
    have rest : Text.join "\n" ([] :: (front ++ [line])) =
        "\n" ++ Text.join "\n" (front ++ [line]) := by
      rw [← List.singleton_append, Text.join_append (List.cons_ne_nil _ _) (by simp),
        Text.join_singleton]
      rfl
    have program : p.programLines ctx.body ≠ [] := List.cons_ne_nil _ _
    unfold assemble
    rw [entries]
    dsimp only
    rw [if_neg written, Text.trimEnd_join_separator nonempty solid,
      Text.join_append program (List.cons_ne_nil _ _), rest]
    simp only [List.append_assoc]
    rfl

end Pseudocode

/-- Every line goes to one of the two outputs, in its order: to the functions if it stands in one,
    with an empty entry after the end of each, and else to the body. Both only grow, and the final
    text has all their entries in a row but for a separator at its end. -/
theorem Settings.lines_hoisted (s : Settings) (target : Target) (lines : List Text) (ctx : Context)
    (run : (s.backend target).run (SourceLine.number lines) {} = .ok () ctx) :
    ctx.body = (List.range lines.length).flatMap
        ((s.backend target).bodyPart (SourceLine.number lines)) ∧
      ctx.hoisted = (List.range lines.length).flatMap
        ((s.backend target).hoistedPart (SourceLine.number lines)) ∧
      (∀ k, ∃ past, (s.backend target).run ((SourceLine.number lines).take k) {} = .ok () past ∧
        past.body <+: ctx.body ∧ past.hoisted <+: ctx.hoisted) ∧
      ∀ out, (s.backend target).compile lines = .ok out →
        match target with
        | .cpp =>
          out = Text.join "\n"
            ((s.cpp.preamble (Text.join "\n" lines) ++
              if ctx.definitions = [] then [] else ctx.definitions ++ [[]]) ++
              ctx.hoisted ++
              (("int " ++ CPlusPlus.entryPoint ++ "() " ++ CPlusPlus.openBrace) ::
                s.cpp.seed (Text.join "\n" lines)) ++
              ctx.body.map (s.indent ++ ·) ++
              [s.indent ++ "return " ++ ctx.returnCode ++ ";", CPlusPlus.closeBrace])
        | .pseudocode =>
          ∃ tail, out = Text.join "\n" (s.pseudocode.programLines ctx.body ++ tail) ∧
            (ctx.definitions ++ ctx.hoisted = [] ∧ tail = [] ∨
              ∃ kept, ctx.definitions ++ ctx.hoisted = kept ++ [[]] ∧ tail = [] :: kept) := by
  have run := Backend.reach_eq_ok_iff.mpr run
  have length : (SourceLine.number lines).length = lines.length := by simp [SourceLine.number]
  obtain ⟨body, hoisted⟩ := Backend.buffers_eq run
  rw [length] at body hoisted
  refine ⟨body, hoisted, Backend.reach_grows run, ?_⟩
  intro out compiles
  obtain ⟨last, reached, ended, rfl⟩ := Backend.compile_eq_ok_iff.mp compiles
  obtain rfl : last = ctx := Except.ok.inj (reached.symm.trans run)
  cases target with
  | cpp => exact s.cpp.assemble_eq (Text.join "\n" lines) last
  | pseudocode => exact s.pseudocode.assemble_eq (Pseudocode.reach_spaced run) ended

theorem Settings.lines_hoisted_function_in_loop :
    let lines : List Text := ["for i 0 3", "fx void f", "x = 1", "end", "print i", "end"]
    ∃ ctx, ({} : Settings).pseudocode.backend.run (SourceLine.number lines) {} = .ok () ctx ∧
      ctx.hoisted = (List.range 6).flatMap
        (({} : Settings).pseudocode.backend.hoistedPart (SourceLine.number lines)) := by
  intro lines
  have compiles : (({} : Settings).pseudocode.backend.compile lines).toOption.isSome = true := by
    decide +kernel
  obtain ⟨out, compiles⟩ := exists_eq_ok_of_isSome compiles
  obtain ⟨ctx, reached, _⟩ := Backend.compile_eq_ok_iff.mp compiles
  have run := Backend.reach_eq_ok_iff.mp reached
  exact ⟨ctx, run, (Settings.lines_hoisted {} .pseudocode lines ctx run).2.1⟩

end BlockScript
