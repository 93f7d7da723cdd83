import BlockScript.Proofs.Openers
import BlockScript.Proofs.Substitution

/-!
What the end of a block has in common with the line that opened it. Both stand within the same
blocks when they are indented, the opener one level above its own and the closer when that is gone,
and both go to the same output.
-/
namespace BlockScript
open BlockGrammar

def Context.Emits (before after : Context) (hoisted : Bool) (lines : List Text) : Prop :=
  after.hoisted = (if hoisted then before.hoisted ++ lines else before.hoisted) ∧
    after.body = if hoisted then before.body else before.body ++ lines

namespace Backend

def WritesLine (b : Backend) (indent : Text) (k : Keyword) (l : SourceLine)
    (before after : Context) (hoisted : Bool) (levels : Nat) (line : Text) : Prop :=
  b.resolve l.instruction = .keyword k ∧
    ∃ text, b.render k l.instruction none = .ok (.ofLine text) ∧
      b.finish (.keyword k) [] [text] = [line] ∧
      before.Emits after hoisted [Text.times levels indent ++ line]

/-- What a backend has to do for its openers and closers to stand alike: `depth` levels of `indent`
    come before what a line writes alone, `closing` is the end of a block, and the line that opens
    it is `headed`. -/
structure Paired (b : Backend) (indent : Text) (depth : Resolution → FrameStack → Nat)
    (closing : Frame → List Text) (headed : Frame → Text → Prop) : Prop where
  finish : ∀ k stack texts, b.finish (.keyword k) stack texts =
    (b.finish (.keyword k) [] texts).map (Text.times (depth (.keyword k) stack) indent ++ ·)
  opens : ∀ {k i r f}, Symbol.ofKeyword k i.params = .opens f → b.render k i none = .ok r →
    ∃ text line, r = .ofLine text ∧ text ≠ [] ∧ b.finish (.keyword k) [] [text] = [line] ∧
      headed f line
  continues : ∀ {k i r}, k = .elifBlock ∨ k = .elseBlock → b.render k i none = .ok r →
    ∃ text line, r = .ofLine text ∧ text ≠ [] ∧ b.finish (.keyword k) [] [text] = [line]
  closes : ∀ {i f r}, b.render .close i (some f) = .ok r →
    ∃ texts, r = .ofLines texts ∧ b.finish (.keyword .close) [] (texts.filter (· ≠ [])) = closing f
  closing_vars : closing .vars = []
  depth_eq : ∀ k o rest, k.isDelimiter = true → k ≠ .vars → o.frame ≠ .vars →
    depth (.keyword k) (o :: rest) = depth (.keyword .close) rest

variable {b : Backend} {l : SourceLine} {ctx after start opened : Context} {k : Keyword}

theorem settle_emits (l : SourceLine) (ctx : Context) (stack : FrameStack) (closed : Option Frame)
    (r : Rendering) :
    ctx.Emits (b.settle l ctx stack closed r) (relocates stack closed)
      (b.emitted l stack r ++ if closed.any Frame.isFunction then [[]] else []) := by
  unfold settle Context.Emits
  cases function : closed.any Frame.isFunction with
  | true =>
    have within : relocates stack closed = true := by
      rw [relocates, function, Bool.or_true]
    simp [within]
  | false => cases relocates stack closed <;> simp

theorem keyword_of_symbol_opens {f : Frame} (opens : b.symbol l = .opens f) :
    ∃ k, b.resolve l.instruction = .keyword k ∧
      Symbol.ofKeyword k l.instruction.params = .opens f := by
  unfold symbol at opens
  cases hr : b.resolve l.instruction with
  | keyword k =>
    rw [hr] at opens
    exact ⟨k, rfl, opens⟩
  | _ =>
    rw [hr] at opens
    cases opens

theorem isDelimiter_of_opens {params : List Text} {f : Frame}
    (opens : Symbol.ofKeyword k params = .opens f) :
    k.isDelimiter = true ∧ (k = .vars → f = .vars) := by
  cases k <;> simp_all [Symbol.ofKeyword, Keyword.isDelimiter]

section Paired

variable {indent : Text} {depth : Resolution → FrameStack → Nat} {closing : Frame → List Text}
  {headed : Frame → Text → Prop} (hb : b.Paired indent depth closing headed)
  {o : OpenFrame} {rest : FrameStack}
include hb

theorem Paired.writesLine {text line : Text} (hr : b.resolve l.instruction = .keyword k)
    (renders : b.render k l.instruction none = .ok (.ofLine text)) (nonempty : text ≠ [])
    (alone : b.finish (.keyword k) [] [text] = [line]) (stack : FrameStack) :
    b.WritesLine indent k l ctx (b.settle l ctx stack none (.ofLine text)) (relocates stack none)
      (depth (.keyword k) stack) line := by
  have emitted : b.emitted l stack (.ofLine text) =
      [Text.times (depth (.keyword k) stack) indent ++ line] := by
    have kept : ([text] : List Text).filter (· ≠ []) = [text] := by simp [nonempty]
    show b.finish (b.resolve l.instruction) stack (([text] : List Text).filter (· ≠ [])) = _
    rw [hr, kept, hb.finish, alone, List.map_singleton]
  have emits := b.settle_emits l ctx stack none (.ofLine text)
  rw [emitted] at emits
  exact ⟨hr, text, renders, alone, emits⟩

theorem Paired.opener_writes {before later : List SourceLine} {opener : SourceLine}
    (h : b.OpenedBy o rest before opener later start opened) :
    ∃ k line, b.WritesLine indent k opener start opened (relocates (o :: rest) none)
        (depth (.keyword k) (o :: rest)) line ∧
      headed o.frame line ∧ k.isDelimiter = true ∧ (k = .vars → o.frame = .vars) := by
  obtain ⟨k, hr, opens⟩ := keyword_of_symbol_opens h.symbol
  obtain ⟨a, acts, stack, closed, applies, r, writes, same⟩ := outcome_eq_ok_iff.mp h.opens
  have settled : stack = o :: rest := by rw [← h.stack, same]; rfl
  have unclosed : closed = none := by
    cases closed with
    | none => rfl
    | some f =>
      obtain ⟨rfl, _⟩ := BlockAction.closed_eq_some applies
      have symbol := symbol_of_action acts
      rw [h.symbol] at symbol
      cases symbol
  subst unclosed settled
  rw [written_of_keyword hr] at writes
  obtain ⟨text, line, rfl, nonempty, alone, header⟩ := hb.opens opens writes
  rw [same]
  exact ⟨k, line, hb.writesLine hr writes nonempty alone _, header, isDelimiter_of_opens opens⟩

theorem Paired.closer_emits (innermost : ctx.stack = o :: rest)
    (hr : b.resolve l.instruction = .keyword .close) (last : b.outcome l ctx = .ok after) :
    after.stack = rest ∧ ctx.Emits after (relocates (o :: rest) none)
      ((closing o.frame).map (Text.times (depth (.keyword .close) rest) indent ++ ·) ++
        if o.frame.isFunction then [[]] else []) := by
  obtain ⟨a, acts, stack, closed, applies, r, writes, rfl⟩ := outcome_eq_ok_iff.mp last
  rw [action_of_keyword hr] at acts
  cases acts
  rw [innermost] at applies
  cases applies
  rw [written_of_keyword hr] at writes
  obtain ⟨texts, rfl, alone⟩ := hb.closes writes
  have emitted : b.emitted l rest (.ofLines texts) =
      (closing o.frame).map (Text.times (depth (.keyword .close) rest) indent ++ ·) := by
    show b.finish (b.resolve l.instruction) rest (texts.filter (· ≠ [])) = _
    rw [hr, hb.finish, alone]
  have route : relocates rest (some o.frame) = relocates (o :: rest) none := by
    rw [relocates, relocates, FrameStack.inFunction_cons, Bool.or_comm]
    exact (Bool.or_false _).symm
  have emits := b.settle_emits l ctx rest (some o.frame) (.ofLines texts)
  rw [emitted, route] at emits
  exact ⟨rfl, emits⟩

theorem Paired.continuation_writes (continues : k = .elifBlock ∨ k = .elseBlock)
    (hr : b.resolve l.instruction = .keyword k) (last : b.outcome l ctx = .ok after) :
    ∃ line, b.WritesLine indent k l ctx after (relocates ctx.stack none)
      (depth (.keyword k) ctx.stack) line := by
  obtain ⟨a, acts, stack, closed, applies, r, writes, rfl⟩ := outcome_eq_ok_iff.mp last
  have plain : a = .plain := by
    rw [action_of_keyword hr] at acts
    rcases continues with rfl | rfl <;> exact (Except.ok.inj acts).symm
  subst plain
  cases applies
  rw [written_of_keyword hr] at writes
  obtain ⟨text, line, rfl, nonempty, alone⟩ := hb.continues continues writes
  exact ⟨line, hb.writesLine hr writes nonempty alone _⟩

theorem Paired.end_closes {past : List SourceLine} (run : b.reach past {} = .ok ctx)
    (innermost : ctx.stack = o :: rest) (last : b.outcome l ctx = .ok after) :
    ∃ before opener later start opened k line levels hoisted,
      past = before ++ opener :: later ∧
      b.OpenedBy o rest before opener later start opened ∧
      Block (o.frame :: rest.frames) (later.map b.symbol) ∧
      b.WritesLine indent k opener start opened hoisted levels line ∧ headed o.frame line ∧
      (b.resolve l.instruction = .keyword .close →
        after.stack = rest ∧ ctx.Emits after hoisted
          ((closing o.frame).map (Text.times levels indent ++ ·) ++
            if o.frame.isFunction then [[]] else [])) ∧
      ∀ k', k' = .elifBlock ∨ k' = .elseBlock → b.resolve l.instruction = .keyword k' →
        o.frame = .ifBlock → ∃ line', b.WritesLine indent k' l ctx after hoisted levels line' := by
  obtain ⟨before, opener, later, start, opened, rfl, h⟩ := exists_openedBy_innermost run innermost
  obtain ⟨k, line, writes, header, delimits, local_⟩ := hb.opener_writes h
  refine ⟨before, opener, later, start, opened, k, line, _, _, rfl, h, h.block run innermost,
    writes, header, ?_, ?_⟩
  · intro hr
    -- a section of variables may be indented otherwise, but its end writes nothing
    have emits := hb.closer_emits innermost hr last
    by_cases vars : o.frame = .vars
    · rw [vars, hb.closing_vars] at emits ⊢
      exact emits
    · rw [hb.depth_eq k o rest delimits (fun eq => vars (local_ eq)) vars]
      exact emits
  · intro k' continues hr within
    have vars : o.frame ≠ .vars := by
      rw [within]
      decide
    have delimits' : k'.isDelimiter = true ∧ k' ≠ .vars := by
      rcases continues with rfl | rfl <;> decide
    have level := hb.depth_eq k' o rest delimits'.1 delimits'.2 vars
    obtain ⟨line', writes'⟩ := hb.continuation_writes continues hr last
    rw [innermost, level] at writes'
    rw [hb.depth_eq k o rest delimits (fun eq => vars (local_ eq)) vars]
    exact ⟨line', writes'⟩

end Paired

end Backend

namespace Pseudocode

def openingWord : Frame → Text
  | .default => "Autrement :"
  | .vars => "Variables locales :"
  | f => blockWord f

def Headed (f : Frame) (line : Text) : Prop :=
  openingWord f ++ [' '] <+: line ∨ f.isFunction = false ∧ line = openingWord f

theorem headed_phrase {f : Frame} (block : f.isFunction = false) (rest : Text) :
    Headed f (phrase (openingWord f) rest) := by
  unfold phrase
  split
  · exact .inr ⟨block, rfl⟩
  · exact .inl (List.prefix_append (openingWord f ++ [' ']) rest)

theorem Headed.substitute {f : Frame} {line : Text} (h : Headed f line) :
    Headed f (substitute nativeNames line) := by
  have kept : BlockScript.substitute nativeNames (openingWord f) = openingWord f := by
    refine substitute_of_not_mem nativeNames ?_
    cases f <;> decide
  have foreign : ∀ m ∈ marks, ' ' ∉ m := by decide
  rcases h with ⟨more, rfl⟩ | ⟨block, rfl⟩
  · rw [List.append_assoc, List.singleton_append, substitute_append_cons nativeNames foreign, kept]
    exact .inl ⟨_, by rw [List.append_assoc]; rfl⟩
  · rw [kept]
    exact .inr ⟨block, rfl⟩

theorem Headed.ne_nil {f : Frame} {line : Text} (h : Headed f line) : line ≠ [] := by
  have word : openingWord f ≠ [] := by cases f <;> decide
  rcases h with ⟨more, rfl⟩ | ⟨_, rfl⟩
  · exact List.append_ne_nil_of_left_ne_nil (List.append_ne_nil_of_left_ne_nil word _) _
  · exact word

/-- Two letters tell the opening words apart. -/
theorem Headed.take_eq {f : Frame} {line word : Text} (h : Headed f line) (long : 2 ≤ word.length)
    (starts : word <+: line) : word.take 2 = (openingWord f).take 2 := by
  have width : 2 ≤ (openingWord f).length := by cases f <;> decide
  obtain ⟨tail, rfl⟩ : ∃ tail, line = openingWord f ++ tail := by
    rcases h with ⟨more, rfl⟩ | ⟨_, rfl⟩
    · exact ⟨_, List.append_assoc _ _ _⟩
    · exact ⟨[], (List.append_nil _).symm⟩
  obtain ⟨rest, same⟩ := starts
  have front := congrArg (List.take 2) same
  rwa [List.take_append_of_le_length long, List.take_append_of_le_length width] at front

theorem Headed.procedure_iff {f : Frame} {line : Text} (h : Headed f line) :
    ("Procédure " : Text) <+: line ↔ f = .proc := by
  constructor
  · intro starts
    have same := h.take_eq (by decide) starts
    revert same
    cases f <;> decide
  · rintro rfl
    rcases h with starts | ⟨block, _⟩
    · exact starts
    · cases block

theorem Headed.function_iff {f : Frame} {line : Text} (h : Headed f line) :
    ("Fonction " : Text) <+: line ↔ f = .fx := by
  constructor
  · intro starts
    have same := h.take_eq (by decide) starts
    revert same
    cases f <;> decide
  · rintro rfl
    rcases h with starts | ⟨block, _⟩
    · exact starts
    · cases block

theorem functionHeader_headed {p : Pseudocode} {params : List Text} {text : Text}
    (h : p.functionHeader params = .ok text) :
    Headed (if params.head? = some ("void" : Text) then .proc else .fx) text := by
  unfold functionHeader at h
  split at h
  · rename_i returnToken name rest named
    obtain ⟨dropped, whole⟩ := trimTrailingEmpty_isPrefix params
    have first : params.head? = some returnToken := by rw [← whole, named]; rfl
    obtain ⟨rendered, _, h⟩ := bind_eq_ok_iff.mp h
    rw [first]
    by_cases void : returnToken = ("void" : Text)
    · have decoded : ReturnType.decode returnToken = .void := if_pos void
      rw [decoded] at h
      cases h
      rw [if_pos (congrArg some void)]
      exact .inl (List.prefix_append (openingWord .proc ++ [' ']) _)
    · have decoded : ReturnType.decode returnToken = .value (.decode returnToken) := if_neg void
      rw [decoded] at h
      obtain ⟨type, _, h⟩ := bind_eq_ok_iff.mp h
      cases h
      rw [if_neg (fun same => void (Option.some.inj same))]
      rw [List.append_assoc, List.append_assoc]
      exact .inl (List.prefix_append (openingWord .fx ++ [' ']) _)
  · cases h

theorem render_opens {p : Pseudocode} {k : Keyword} {i : Instruction} {r : Rendering} {f : Frame}
    (opens : Symbol.ofKeyword k i.params = .opens f) (h : p.render k i none = .ok r) :
    ∃ text, r = .ofLine text ∧ Headed f text := by
  cases k with
  | forLoop =>
    obtain ⟨loop, _, rendered⟩ := bind_eq_ok_iff.mp h
    cases rendered
    cases opens
    have words : ("Pour " : Text) = openingWord .forLoop ++ [' '] := by decide
    refine ⟨forHeader loop, rfl, .inl ?_⟩
    unfold forHeader
    rw [words]
    simp only [List.append_assoc, List.prefix_append_right_inj, List.prefix_append]
  | fx =>
    obtain ⟨header, read, rendered⟩ := bind_eq_ok_iff.mp h
    cases rendered
    cases opens
    exact ⟨header, rfl, functionHeader_headed read⟩
  | whileLoop | ifBlock | switch | case | default | vars =>
    cases h
    cases opens
    exact ⟨_, rfl, headed_phrase rfl i.rest⟩
  | _ => cases opens

theorem indentDepth_nil (r : Resolution) : r.indentDepth [] = 0 := by
  unfold Resolution.indentDepth
  split <;> rfl

theorem finish_nil (p : Pseudocode) (r : Resolution) (texts : List Text) :
    p.finish r [] texts = texts.map (substitute nativeNames) := by
  unfold finish
  rw [indentDepth_nil]
  rfl

theorem paired (p : Pseudocode) :
    p.backend.Paired p.indent Resolution.indentDepth (closingLines ∘ some) Headed where
  finish k stack texts := by
    show p.finish _ _ _ = (p.finish _ _ _).map _
    rw [finish_nil, List.map_map]
    rfl
  opens opens h := by
    obtain ⟨text, rfl, headed⟩ := render_opens opens h
    exact ⟨text, _, rfl, headed.ne_nil, p.finish_nil _ [text], headed.substitute⟩
  continues continues h := by
    rcases continues with rfl | rfl
    · cases h
      refine ⟨_, _, rfl, ?_, p.finish_nil _ _⟩
      unfold phrase
      split <;> simp
    · cases h
      exact ⟨_, _, rfl, by decide, p.finish_nil _ _⟩
  closes {i f r} h := by
    cases h
    refine ⟨closingLines (some f), rfl, (p.finish_nil _ _).trans ?_⟩
    cases f <;> decide
  closing_vars := rfl
  depth_eq k o rest delimits _ _ := by
    have level : (Resolution.keyword k).isDelimiter = true := delimits
    unfold Resolution.indentDepth
    rw [if_pos level]
    rfl

end Pseudocode

namespace CPlusPlus

theorem localize_append {c : CPlusPlus} {pad : Text} (blank : pad.isBlank = true)
    (solid : ∀ d ∈ c.namespaceName, Text.isBlankChar d = false) (text : Text) :
    c.localize (pad ++ text) = pad ++ c.localize text := by
  unfold localize
  split
  · cases name : c.namespaceName with
    | nil => exact Text.replaceAll_append_left (Text.not_mem_of_isBlank blank (by decide))
    | cons d rest =>
      rw [name] at solid
      have first := solid d List.mem_cons_self
      exact Text.replaceAll_append_left (Text.not_mem_of_isBlank blank first)
  · rfl

theorem localize_of_not_mem {c : CPlusPlus} {text : Text} (foreign : ':' ∉ text) :
    c.localize text = text := by
  have has : ':' ∈ c.namespaceName ++ ("::" : Text) := List.mem_append_right _ (by decide)
  unfold localize
  split
  · exact Text.replaceAll_of_not_mem has foreign
  · rfl

theorem depth_nil (r : Resolution) : depth r [] = 0 := by
  cases r with
  | keyword k => cases k <;> rfl
  | _ => rfl

def unindented (c : CPlusPlus) (text : Text) : Text := c.localize (substitute nativeNames text)

theorem finish_eq {c : CPlusPlus} (blank : c.indent.isBlank = true)
    (solid : ∀ d ∈ c.namespaceName, Text.isBlankChar d = false) (r : Resolution)
    (stack : FrameStack) (texts : List Text) :
    c.finish r stack texts = (texts.filter (!·.isBlank)).map fun text =>
      Text.times (depth r stack) c.indent ++
        c.localize (terminated r (substitute nativeNames text)) := by
  unfold finish
  refine List.map_congr_left fun text _ => ?_
  exact localize_append (Text.times_isBlank blank _) solid _

theorem finish_keyword {c : CPlusPlus} (blank : c.indent.isBlank = true)
    (solid : ∀ d ∈ c.namespaceName, Text.isBlankChar d = false) (k : Keyword) (stack : FrameStack)
    (texts : List Text) :
    c.finish (.keyword k) stack texts = (texts.filter (!·.isBlank)).map fun text =>
      Text.times (depth (.keyword k) stack) c.indent ++ c.unindented text :=
  finish_eq blank solid (.keyword k) stack texts

theorem not_isBlank {d : Char} {text : Text} (mem : d ∈ text) (solid : Text.isBlankChar d = false) :
    text.isBlank = false := by
  rw [← Bool.not_eq_true]
  intro blank
  exact Text.not_mem_of_isBlank blank solid mem

theorem not_isBlank_openBrace (header : Text) : Text.isBlank (header ++ openBrace) = false :=
  not_isBlank (List.mem_append_right header (by decide : '\x7b' ∈ openBrace)) (by decide)

theorem render_opens {c : CPlusPlus} {k : Keyword} {i : Instruction} {r : Rendering} {f : Frame}
    (opens : Symbol.ofKeyword k i.params = .opens f) (h : c.render k i none = .ok r) :
    ∃ text, r = .ofLine text ∧ text.isBlank = false := by
  cases k with
  | forLoop =>
    obtain ⟨loop, _, rendered⟩ := bind_eq_ok_iff.mp h
    cases rendered
    exact ⟨forHeader loop, rfl, not_isBlank_openBrace _⟩
  | fx =>
    obtain ⟨header, read, rendered⟩ := bind_eq_ok_iff.mp h
    cases rendered
    refine ⟨header, rfl, ?_⟩
    unfold functionHeader at read
    split at read
    · cases read
    · obtain ⟨returned, _, read⟩ := bind_eq_ok_iff.mp read
      split at read
      · cases read
      · obtain ⟨rendered, _, read⟩ := bind_eq_ok_iff.mp read
        cases read
        exact not_isBlank_openBrace _
  | whileLoop | ifBlock | switch =>
    cases h
    exact ⟨_, rfl, not_isBlank_openBrace _⟩
  | case | default =>
    cases h
    exact ⟨_, rfl, not_isBlank (d := ':') (by simp) (by decide)⟩
  | vars =>
    cases h
    refine ⟨_, rfl, not_isBlank (d := '/') ?_ (by decide)⟩
    unfold phrase
    split <;> simp
  | _ => cases opens

theorem finish_nil_singleton {c : CPlusPlus} (blank : c.indent.isBlank = true)
    (solid : ∀ d ∈ c.namespaceName, Text.isBlankChar d = false) {text : Text}
    (written : text.isBlank = false) (k : Keyword) :
    c.finish (.keyword k) [] [text] = [c.unindented text] := by
  have kept : [text].filter (!·.isBlank) = [text] := by simp [written]
  rw [finish_keyword blank solid, kept, depth_nil]
  rfl

theorem filter_solid (texts : List Text) :
    (texts.filter (· ≠ [])).filter (!Text.isBlank ·) = texts.filter (!Text.isBlank ·) := by
  rw [List.filter_filter]
  refine List.filter_congr ?_
  rintro (_ | ⟨d, text⟩) _
  · rfl
  · simp

theorem closingLines_unindented {c : CPlusPlus} (blank : c.indent.isBlank = true) (f : Frame)
    {text : Text} (mem : text ∈ c.closingLines (some f)) :
    text.isBlank = false ∧ c.unindented text = text := by
  have solid : '(' ∉ c.indent ∧ ':' ∉ c.indent :=
    ⟨Text.not_mem_of_isBlank blank (by decide), Text.not_mem_of_isBlank blank (by decide)⟩
  have step : '(' ∉ ("break;" : Text) ∧ ':' ∉ ("break;" : Text) ∧ 'b' ∈ ("break;" : Text) := by
    decide
  have brace : '(' ∉ closeBrace ∧ ':' ∉ closeBrace ∧ closeBrace.isBlank = false := by decide
  have plain : '(' ∉ text ∧ ':' ∉ text ∧ text.isBlank = false := by
    unfold closingLines at mem
    split at mem
    · cases mem
    · cases mem
    · rw [List.mem_singleton.mp mem, List.mem_append, List.mem_append]
      exact ⟨not_or.mpr ⟨solid.1, step.1⟩, not_or.mpr ⟨solid.2, step.2.1⟩,
        not_isBlank (List.mem_append_right _ step.2.2) (by decide)⟩
    · rw [List.mem_singleton.mp mem, List.mem_append, List.mem_append]
      exact ⟨not_or.mpr ⟨solid.1, step.1⟩, not_or.mpr ⟨solid.2, step.2.1⟩,
        not_isBlank (List.mem_append_right _ step.2.2) (by decide)⟩
    · rw [List.mem_singleton.mp mem]
      exact brace
  obtain ⟨calls, qualifier, written⟩ := plain
  refine ⟨written, ?_⟩
  rw [unindented, substitute_of_not_mem nativeNames calls, localize_of_not_mem qualifier]

theorem paired {c : CPlusPlus} (blank : c.indent.isBlank = true)
    (solid : ∀ d ∈ c.namespaceName, Text.isBlankChar d = false) :
    c.backend.Paired c.indent depth (c.closingLines ∘ some) fun _ _ => True where
  finish k stack texts := by
    show c.finish _ _ _ = (c.finish _ _ _).map _
    rw [finish_keyword blank solid, finish_keyword blank solid, depth_nil, List.map_map]
    rfl
  opens opens h := by
    obtain ⟨text, rfl, written⟩ := render_opens opens h
    have nonempty : text ≠ [] := by
      rintro rfl
      cases written
    exact ⟨text, _, rfl, nonempty, finish_nil_singleton blank solid written _, trivial⟩
  continues {k i r} continues h := by
    obtain ⟨header, rfl⟩ : ∃ header, r = .ofLine (header ++ openBrace) := by
      rcases continues with rfl | rfl <;> (cases h; exact ⟨_, rfl⟩)
    have nonempty := List.append_ne_nil_of_right_ne_nil header (by decide : openBrace ≠ [])
    exact ⟨_, _, rfl, nonempty, finish_nil_singleton blank solid (not_isBlank_openBrace header) k⟩
  closes {i f r} h := by
    cases h
    have plain : ∀ text ∈ c.closingLines (some f),
        text.isBlank = false ∧ c.unindented text = text :=
      fun text => closingLines_unindented blank f
    have kept : ((c.closingLines (some f)).filter (· ≠ [])).filter
        (fun text => !Text.isBlank text) = c.closingLines (some f) := by
      rw [filter_solid, List.filter_eq_self]
      intro text mem
      simp [(plain text mem).1]
    refine ⟨c.closingLines (some f), rfl, ?_⟩
    show c.finish _ [] _ = c.closingLines (some f)
    rw [finish_keyword blank solid, depth_nil, kept]
    exact (List.map_congr_left fun text mem => (plain text mem).2).trans (List.map_id _)
  closing_vars := rfl
  depth_eq k o rest delimits notVars frame := by
    have level : (Resolution.keyword k).isDelimiter = true := delimits
    have open_ : FrameStack.holds (o :: rest) .vars = FrameStack.holds rest .vars := by
      simp [FrameStack.holds, frame]
    have other : Resolution.keyword k ≠ .keyword .vars := by
      intro same
      exact notVars (Resolution.keyword.inj same)
    have within : (Resolution.keyword k).indentDepth (o :: rest) = rest.length := by
      unfold Resolution.indentDepth
      rw [if_pos level]
      rfl
    have after : (Resolution.keyword .close).indentDepth rest = rest.length := rfl
    unfold depth
    rw [open_, within, after]
    simp [other]

end CPlusPlus

def Settings.closing (s : Settings) : Target → Frame → List Text
  | _, .vars => []
  | .pseudocode, f => ["Fin " ++ Pseudocode.blockWord f]
  | .cpp, .case | .cpp, .default => [s.indent ++ "break;"]
  | .cpp, _ => [CPlusPlus.closeBrace]

theorem Settings.closing_pseudocode (s : Settings) (f : Frame) :
    s.closing .pseudocode f = Pseudocode.closingLines (some f) := by
  cases f <;> rfl

theorem Settings.closing_cpp (s : Settings) (f : Frame) :
    s.closing .cpp f = s.cpp.closingLines (some f) := by
  cases f <;> rfl

def Settings.ClosedAsHeaded (s : Settings) (f : Frame) (line : Text) : Prop :=
  (s.closing .pseudocode f = ["Fin Procédure"] ↔ ("Procédure " : Text) <+: line) ∧
    (s.closing .pseudocode f = ["Fin Fonction"] ↔ ("Fonction " : Text) <+: line)

theorem Settings.closedAsHeaded (s : Settings) {f : Frame} {line : Text}
    (headed : Pseudocode.Headed f line) : s.ClosedAsHeaded f line := by
  unfold ClosedAsHeaded
  rw [headed.procedure_iff, headed.function_iff, closing_pseudocode]
  cases f <;> decide

/-- A line within a block and the line that opened it are indented alike and go to the same output,
    if it ends the block or is another branch of an `if`. -/
theorem Settings.end_closes_opener (s : Settings) (target : Target) (past : List SourceLine)
    (l : SourceLine) (o : OpenFrame) (rest : FrameStack) (ctx after : Context)
    (blank : s.indent.isBlank = true)
    (solid : ∀ d ∈ s.namespaceName, Text.isBlankChar d = false)
    (run : (s.backend target).run past {} = .ok () ctx) (innermost : ctx.stack = o :: rest)
    (step : (s.backend target).step l ctx = .ok () after) :
    ∃ before opener later start opened k line levels hoisted,
      past = before ++ opener :: later ∧
      (s.backend target).OpenedBy o rest before opener later start opened ∧
      Block (o.frame :: rest.frames) (later.map (s.backend target).symbol) ∧
      (s.backend target).WritesLine s.indent k opener start opened hoisted levels line ∧
      (target = .pseudocode → s.ClosedAsHeaded o.frame line) ∧
      ((s.backend target).resolve l.instruction = .keyword .close →
        after.stack = rest ∧ ctx.Emits after hoisted
          ((s.closing target o.frame).map (Text.times levels s.indent ++ ·) ++
            if o.frame.isFunction then [[]] else [])) ∧
      ∀ k', k' = .elifBlock ∨ k' = .elseBlock →
        (s.backend target).resolve l.instruction = .keyword k' → o.frame = .ifBlock →
        ∃ line', (s.backend target).WritesLine s.indent k' l ctx after hoisted levels line' := by
  have run := Backend.reach_eq_ok_iff.mpr run
  have last := Backend.step_eq_ok_iff.mp step
  cases target with
  | pseudocode =>
    obtain ⟨before, opener, later, start, opened, k, line, levels, hoisted, rfl, h, inside, writes,
      headed, closes, continues⟩ := s.pseudocode.paired.end_closes run innermost last
    refine ⟨before, opener, later, start, opened, k, line, levels, hoisted, rfl, h, inside, writes,
      fun _ => s.closedAsHeaded headed, ?_, continues⟩
    rw [s.closing_pseudocode]
    exact closes
  | cpp =>
    have paired := CPlusPlus.paired (c := s.cpp) blank solid
    obtain ⟨before, opener, later, start, opened, k, line, levels, hoisted, rfl, h, inside, writes,
      _, closes, continues⟩ := paired.end_closes run innermost last
    refine ⟨before, opener, later, start, opened, k, line, levels, hoisted, rfl, h, inside, writes,
      nofun, ?_, continues⟩
    rw [s.closing_cpp]
    exact closes

theorem Settings.end_closes_opener_case :
    let past := SourceLine.number ["switch x", "case 1"]
    let l : SourceLine := ⟨"end", 3⟩
    ∃ ctx after levels hoisted,
      ({} : Settings).cpp.backend.run past {} = .ok () ctx ∧
        ({} : Settings).cpp.backend.step l ctx = .ok () after ∧
        ctx.Emits after hoisted [Text.times levels "\t" ++ ("\t" ++ "break;" : Text)] := by
  intro past l
  have runs : (({} : Settings).cpp.backend.reach (past ++ [l]) {}).toOption.isSome = true := by
    decide +kernel
  have open_ : (({} : Settings).cpp.backend.reach past {}).toOption.map (·.stack) =
      some [⟨.case, 2⟩, ⟨.switch, 1⟩] := by
    decide +kernel
  have closes : ({} : Settings).cpp.backend.resolve l.instruction = .keyword .close := by
    decide +kernel
  obtain ⟨after, whole⟩ := exists_eq_ok_of_isSome runs
  obtain ⟨ctx, run, last⟩ := Backend.reach_concat_eq_ok_iff.mp whole
  rw [run] at open_
  have run := Backend.reach_eq_ok_iff.mp run
  have step := Backend.step_eq_ok_iff.mpr last
  have blank : ({} : Settings).indent.isBlank = true := by decide +kernel
  have solid : ∀ d ∈ ({} : Settings).namespaceName, Text.isBlankChar d = false := by
    simp [Text.isBlankChar]
  obtain ⟨_, _, _, _, _, _, _, levels, hoisted, _, _, _, _, _, emits, _⟩ :=
    Settings.end_closes_opener {} .cpp past l _ _ ctx after blank solid run
      (Option.some.inj open_) step
  exact ⟨ctx, after, levels, hoisted, run, step, (emits closes).2⟩

end BlockScript
