import BlockScript.CPlusPlus
import BlockScript.Proofs.Braces
import BlockScript.Proofs.LineFaults
import BlockScript.Proofs.Substitution

/-!
The braces that each line of a program becomes in C++. As long as the program and the settings have
none themselves, a line writes at most the brace that opens its block, the one that closes it, or
the two of a further branch.
-/
namespace BlockScript

namespace Frame

def braced : Frame → Bool
  | case | default | vars => false
  | _ => true

def opening (f : Frame) : Text := if f.braced then CPlusPlus.openBrace else []

def closing (f : Frame) : Text := if f.braced then CPlusPlus.closeBrace else []

end Frame

/-- The braces that a line with the action writes, given the block that it closed. A further branch
    of an `if` does not act on the blocks. -/
def BlockAction.Writes (word : Text) : BlockAction → Option Frame → Prop
  | opens f, _ | opensBranch f _, _ => word = f.opening
  | closes, closed => word = (closed.map Frame.closing).getD []
  | plain, _ => word = [] ∨ word = CPlusPlus.closeBrace ++ CPlusPlus.openBrace
  | startsBody, _ | returns, _ => word = []

/-- What a line writes fits its action; `text` is the line, for one that stays as it is. -/
structure Rendering.Fits (r : Rendering) (text : Text) (a : BlockAction) (closed : Option Frame) :
    Prop where
  word : a.Writes ((r.lines.getD [text]).flatMap braces) closed
  definitions : ∀ d ∈ r.definitions, level 0 d = some 0
  returnCode : ∀ t ∈ r.returnCode, BraceFree t

theorem Rendering.fits_ofLine {t text word : Text} {a : BlockAction} {closed : Option Frame}
    (h : braces t = word) (writes : a.Writes word closed) : (ofLine t).Fits text a closed where
  word := by
    rw [← h] at writes
    exact (List.flatMap_singleton braces t) ▸ writes
  definitions _ mem := by cases mem
  returnCode _ mem := by cases mem

theorem Rendering.fits_ofLines {lines : List Text} {text : Text} {closed : Option Frame}
    (h : lines.flatMap braces = []) : (ofLines lines).Fits text .plain closed where
  word := .inl h
  definitions _ mem := by cases mem
  returnCode _ mem := by cases mem

theorem Rendering.fits_define {d text : Text} {closed : Option Frame} (h : level 0 d = some 0) :
    (define [d]).Fits text .plain closed where
  word := .inl rfl
  definitions _ mem := List.mem_singleton.mp mem ▸ h
  returnCode _ mem := by cases mem

theorem Instruction.braceFree_rest {i : Instruction} (free : ∀ t ∈ i.params, BraceFree t) :
    BraceFree i.rest := BraceFree.join (by decide) free

theorem braceFree_phrase {head rest : Text} (hh : BraceFree head) (hr : BraceFree rest) :
    BraceFree (phrase head rest) := by
  unfold phrase
  split
  · exact hh
  · exact (hh.append (by decide)).append hr

section Operands

theorem ConstDecl.valueTokens_subset (tokens : List Text) : valueTokens tokens ⊆ tokens := by
  unfold valueTokens
  split
  · exact List.Subset.refl _
  · rename_i token rest
    split
    · exact List.subset_cons_self token rest
    · exact List.Subset.refl _

theorem mem_of_pairs? {α : Type} {as : List α} {ps : List (α × α)} (h : pairs? as = some ps) :
    ∀ p ∈ ps, p.1 ∈ as ∧ p.2 ∈ as := by
  induction as using pairs?.induct generalizing ps with
  | case1 =>
    cases h
    simp
  | case2 a b rest ih =>
    obtain ⟨others, paired, rfl⟩ := Option.map_eq_some_iff.mp h
    intro p mem
    rcases List.mem_cons.mp mem with rfl | mem
    · simp
    · obtain ⟨first, second⟩ := ih paired p mem
      exact ⟨by simp [first], by simp [second]⟩
  | case3 => cases h

def ValueType.Unbraced : ValueType → Prop
  | primitive _ => True
  | array _ dims => ∀ dim ∈ dims, BraceFree dim
  | struct name => BraceFree name

theorem ValueType.decode_unbraced {token : Text} (free : BraceFree token) :
    (decode token).Unbraced := by
  unfold decode
  cases hs : Text.after? "struct_" token with
  | some name => exact free.of_subset (Text.after?_subset hs)
  | none =>
    cases ha : Text.after? "arr_" token with
    | some rest =>
      intro dim mem
      have part := subset_of_mem_arrayParts (List.mem_of_mem_tail mem)
      exact (free.of_subset (Text.after?_subset ha)).of_subset part
    | none => trivial

def Param.Unbraced (x : Param) : Prop := x.type.Unbraced ∧ BraceFree x.name

theorem Param.decode_unbraced {type name : Text} (ht : BraceFree type) (hn : BraceFree name) :
    (decode type name).Unbraced := by
  unfold decode
  cases hr : Text.after? "&" type with
  | some rest => exact ⟨ValueType.decode_unbraced (ht.of_subset (Text.after?_subset hr)), hn⟩
  | none => exact ⟨ValueType.decode_unbraced ht, hn⟩

theorem ParamList.decode_unbraced : ∀ {tokens : List Text}, (∀ t ∈ tokens, BraceFree t) →
    ∀ x ∈ (decode tokens).params, x.Unbraced
  | type :: name :: rest, free, x, mem => by
    obtain ⟨ht, free⟩ := List.forall_mem_cons.mp free
    obtain ⟨hn, free⟩ := List.forall_mem_cons.mp free
    rcases List.mem_cons.mp mem with rfl | mem
    · exact Param.decode_unbraced ht hn
    · exact decode_unbraced free x mem
  | [_], _, x, mem => by cases mem
  | [], _, x, mem => by cases mem

end Operands

namespace CPlusPlus

/-- The settings put no brace of their own into a line. -/
structure Unbraced (c : CPlusPlus) : Prop where
  indent : BraceFree c.indent
  namespaceName : BraceFree c.namespaceName
  types : ∀ e ∈ c.types.entries, BraceFree e.2

variable {c : CPlusPlus} (hc : c.Unbraced)
include hc

theorem Unbraced.resolve (keyword : Text) :
    Meets BraceFree (fun _ => True) (c.types.resolve keyword) := by
  unfold TypeTable.resolve TypeTable.get?
  cases hk : c.types.entries.lookup keyword with
  | none => trivial
  | some spelling =>
    obtain ⟨before, after, whole, _⟩ := List.lookup_eq_some_iff.mp hk
    exact hc.types (keyword, spelling) (by simp [whole])

theorem Unbraced.localize (text : Text) : braces (c.localize text) = braces text := by
  unfold CPlusPlus.localize
  split
  · exact braces_replaceAll (hc.namespaceName.append (by decide)) (by decide) text
  · rfl

omit hc in
theorem braces_substitute (text : Text) : braces (substitute nativeNames text) = braces text :=
  filter_substitute (by decide) (by decide) text

theorem Unbraced.padding (n : Nat) : BraceFree (Text.times n c.indent) :=
  hc.indent.of_subset (Text.times_subset n c.indent)

omit hc in
theorem braces_terminated (r : Resolution) (text : Text) :
    braces (terminated r text) = braces text := by
  unfold terminated
  split
  · rw [braces_append]
    exact List.append_nil _
  · rfl

omit hc in
theorem braces_of_isBlank {text : Text} (h : text.isBlank = true) : braces text = [] := by
  refine braces_of_braceFree ?_
  intro ch mem
  have blank := List.all_eq_true.mp h ch mem
  cases hb : isBrace ch with
  | false => rfl
  | true =>
    simp only [isBrace, Bool.or_eq_true, beq_iff_eq] at hb
    rcases hb with rfl | rfl <;> cases blank

theorem Unbraced.finish (r : Resolution) (stack : FrameStack) (lines : List Text) :
    (c.finish r stack lines).flatMap braces = lines.flatMap braces := by
  have one : ∀ text, braces (c.localize (Text.times (depth r stack) c.indent ++
      terminated r (substitute nativeNames text))) = braces text := by
    intro text
    rw [hc.localize, braces_append, braces_of_braceFree (hc.padding _), braces_terminated,
      braces_substitute]
    rfl
  unfold CPlusPlus.finish
  rw [List.flatMap_map]
  simp only [one]
  exact flatMap_braces_filter (fun text blank => braces_of_isBlank (by simpa using blank)) lines

section Renderers

omit hc in
theorem braceFree_dims {dims : List Text} (free : ∀ dim ∈ dims, BraceFree dim) :
    BraceFree (dims.flatMap bracketed) := by
  intro ch mem
  obtain ⟨dim, mem, inside⟩ := List.mem_flatMap.mp mem
  have bracket : BraceFree (bracketed dim) := by
    unfold bracketed
    exact (BraceFree.append (by decide) (free dim mem)).append (by decide)
  exact bracket ch inside

omit hc in
theorem braceFree_structName {name : Text} (free : BraceFree name) :
    BraceFree (c.structName name) := by
  unfold CPlusPlus.structName
  split
  · exact BraceFree.append (by decide) free
  · exact free

theorem Unbraced.param {x : Param} (free : x.Unbraced) :
    Meets BraceFree (fun _ => True) (c.param x) := by
  obtain ⟨type, name⟩ := free
  have reference : BraceFree (if x.byRef then ("&" : Text) else []) := by
    split <;> decide
  have space : BraceFree (" " : Text) := by decide
  unfold CPlusPlus.param
  cases ht : x.type with
  | primitive keyword =>
    refine meets_map (hc.resolve keyword) ?_
    intro spelling hs
    exact ((hs.append reference).append space).append name
  | array element dims =>
    rw [ht] at type
    refine meets_map (hc.resolve element) ?_
    intro spelling hs
    refine ((hs.append space).append name).append ?_
    unfold paramDims
    split
    · decide
    · exact braceFree_dims type
  | struct label =>
    rw [ht] at type
    exact (((braceFree_structName type).append reference).append space).append name

theorem Unbraced.params {tokens : List Text} (free : ∀ t ∈ tokens, BraceFree t) :
    Meets (fun rendered => ∀ text ∈ rendered, BraceFree text) (fun _ => True)
      ((ParamList.decode tokens).params.mapM c.param) :=
  meets_mapM fun x mem => hc.param (ParamList.decode_unbraced free x mem)

theorem Unbraced.returnType {token : Text} (free : BraceFree token) :
    Meets BraceFree (fun _ => True) (c.returnType (ReturnType.decode token)) := by
  unfold ReturnType.decode
  split
  · exact (by decide : BraceFree ("void" : Text))
  · have type := ValueType.decode_unbraced free
    cases hd : ValueType.decode token with
    | primitive keyword => exact hc.resolve keyword
    | array element dims =>
      exact meets_map (hc.resolve element) fun spelling hs => hs.append (by decide)
    | struct name =>
      rw [hd] at type
      exact braceFree_structName type

theorem Unbraced.functionHeader {params : List Text} (free : ∀ t ∈ params, BraceFree t) :
    Meets (fun header => braces header = openBrace) (fun _ => True) (c.functionHeader params) := by
  have kept : ∀ t ∈ trimTrailingEmpty params, BraceFree t :=
    fun t mem => free t ((trimTrailingEmpty_isPrefix params).subset mem)
  unfold CPlusPlus.functionHeader
  split
  · trivial
  · rename_i returnToken rest named
    rw [named] at kept
    obtain ⟨ht, kept⟩ := List.forall_mem_cons.mp kept
    refine meets_bind (hc.returnType ht) ?_
    intro returned hr
    split
    · trivial
    · rename_i name more
      obtain ⟨hn, kept⟩ := List.forall_mem_cons.mp kept
      refine meets_map (hc.params kept) ?_
      intro rendered hp
      have list : BraceFree (Text.join ", " rendered) := BraceFree.join (by decide) hp
      simp (disch := first | assumption | decide) only [braces_append, braces_of_braceFree]
      rfl

theorem Unbraced.structText {params : List Text} (free : ∀ t ∈ params, BraceFree t) :
    Meets (fun d => Meets (fun t => braces t = openBrace ++ closeBrace) (fun _ => True)
      (c.structText d)) (fun _ => True) (StructDef.read params) := by
  have kept : ∀ t ∈ trimTrailingEmpty params, BraceFree t :=
    fun t mem => free t ((trimTrailingEmpty_isPrefix params).subset mem)
  unfold StructDef.read
  split
  · trivial
  · rename_i name rest named
    rw [named] at kept
    obtain ⟨hn, kept⟩ := List.forall_mem_cons.mp kept
    dsimp only
    split
    · trivial
    · refine meets_map (hc.params kept) ?_
      intro fields hf
      have indent := hc.indent
      have lines : (fields.map c.fieldLine).flatMap braces = [] := by
        rw [List.flatMap_map, List.flatMap_eq_nil_iff]
        intro field mem
        exact braces_of_braceFree ((indent.append (hf field mem)).append (by decide))
      rw [braces_join (by decide), List.cons_append, List.flatMap_cons, List.flatMap_append, lines]
      simp (disch := first | assumption | decide) only [braces_append, braces_of_braceFree]
      rfl

theorem Unbraced.arrayLine {params : List Text} (free : ∀ t ∈ params, BraceFree t) :
    Meets (fun d => Meets BraceFree (fun _ => True) (c.arrayLine d)) (fun _ => True)
      (ArrayDecl.read params) := by
  unfold ArrayDecl.read
  split
  · rename_i type name dim dims
    obtain ⟨_, free⟩ := List.forall_mem_cons.mp free
    obtain ⟨hn, hd⟩ := List.forall_mem_cons.mp free
    refine meets_map (hc.resolve type) ?_
    intro spelling hs
    exact (((hs.append (by decide)).append hn).append (braceFree_dims hd)).append (by decide)
  · trivial

omit hc in
theorem braces_forHeader {params : List Text} (free : ∀ t ∈ params, BraceFree t) :
    Meets (fun l => braces (forHeader l) = openBrace) (fun _ => True) (ForLoop.read params) := by
  unfold ForLoop.read
  split
  · rename_i name start stop rest
    obtain ⟨hn, free⟩ := List.forall_mem_cons.mp free
    obtain ⟨ha, free⟩ := List.forall_mem_cons.mp free
    obtain ⟨hz, free⟩ := List.forall_mem_cons.mp free
    have step : BraceFree (if rest.headD [] = [] then ("1" : Text) else rest.headD []) := by
      split
      · decide
      · cases rest with
        | nil => decide
        | cons step _ => exact free step List.mem_cons_self
    show braces (forHeader _) = openBrace
    unfold forHeader
    simp (disch := first | assumption | decide) only [braces_append, braces_of_braceFree]
    rfl
  · trivial

omit hc in
theorem braceFree_initLines {params : List Text} (free : ∀ t ∈ params, BraceFree t) :
    Meets (fun d => (initLines d).flatMap braces = []) (fun _ => True)
      (StructInit.read params) := by
  unfold StructInit.read
  split
  · trivial
  · trivial
  · trivial
  · rename_i type name rest _
    split
    · trivial
    · rename_i fields paired
      obtain ⟨ht, free⟩ := List.forall_mem_cons.mp free
      obtain ⟨hn, free⟩ := List.forall_mem_cons.mp free
      show (initLines _).flatMap braces = []
      have header : braces (type ++ (" " : Text) ++ name ++ (";" : Text)) = [] :=
        braces_of_braceFree (((ht.append (by decide)).append hn).append (by decide))
      rw [initLines, List.flatMap_cons, header, List.nil_append, List.flatMap_map,
        List.flatMap_eq_nil_iff]
      rintro ⟨field, value⟩ mem
      have field_free := free field (mem_of_pairs? paired _ mem).1
      have value_free := free value (mem_of_pairs? paired _ mem).2
      simp (disch := first | assumption | decide) only [braces_append, braces_of_braceFree]
      rfl

theorem Unbraced.constText {params : List Text} (free : ∀ t ∈ params, BraceFree t) :
    Meets (fun d => Meets BraceFree (fun _ => True) (c.constText d)) (fun _ => True)
      (ConstDecl.read params) := by
  unfold ConstDecl.read
  split
  · rename_i type name rest
    obtain ⟨_, free⟩ := List.forall_mem_cons.mp free
    obtain ⟨hn, free⟩ := List.forall_mem_cons.mp free
    split
    · trivial
    · have value : BraceFree (Text.join " " (ConstDecl.valueTokens rest)) :=
        BraceFree.join (by decide) fun t mem => free t (ConstDecl.valueTokens_subset rest mem)
      refine meets_map (hc.resolve type) ?_
      intro spelling hs
      rw [braceFree_iff]
      simp (disch := first | assumption | decide) only [braces_append, braces_of_braceFree]
      rfl
  · trivial

omit hc in
theorem braceFree_assignment {tokens : List Text} (free : ∀ t ∈ tokens, BraceFree t) :
    BraceFree (assignment tokens) := BraceFree.join (by decide) free

theorem Unbraced.declaredType {keyword : Text} (free : BraceFree keyword) :
    Meets BraceFree (fun _ => True) (c.declaredType keyword) :=
  meets_map (hc.resolve _) fun _ hs => hs.append (free.of_subset (List.drop_subset _ keyword))

theorem Unbraced.declare {tokens : List Text} (free : ∀ t ∈ tokens, BraceFree t) :
    Meets (fun lines => lines.flatMap braces = []) (fun _ => True) (c.declare tokens) := by
  cases tokens with
  | nil => trivial
  | cons keyword rest =>
    obtain ⟨hk, free⟩ := List.forall_mem_cons.mp free
    refine meets_bind (hc.declaredType hk) ?_
    intro type ht
    cases hr : Declared.read keyword rest with
    | error cause => trivial
    | ok declared =>
      rcases Declared.read_eq_ok hr with ⟨name, value, rfl, rfl⟩ | ⟨first, others, rfl, kept⟩
      · have text := (ht.append (by decide : BraceFree (" " : Text))).append
          (braceFree_assignment free)
        exact text.flatMap_singleton
      · have names : ∀ t ∈ first :: others, BraceFree t :=
          fun t mem => free t (List.mem_filter.mp (kept ▸ mem)).1
        have text := (ht.append (by decide : BraceFree (" " : Text))).append
          (BraceFree.join (by decide : BraceFree (", " : Text)) names)
        exact text.flatMap_singleton

omit hc in
theorem braceFree_condition {params : List Text} (free : ∀ t ∈ params, BraceFree t) :
    BraceFree (condition params) := by
  refine BraceFree.join (by decide) ?_
  intro t mem
  obtain ⟨token, given, rfl⟩ := List.mem_map.mp mem
  unfold logicWord
  split
  · decide
  · split
    · decide
    · split
      · decide
      · exact free token given

omit hc in
theorem braces_header {front body : Text} (hf : BraceFree front) (hb : BraceFree body) :
    braces (front ++ body ++ (") " : Text) ++ openBrace) = openBrace := by
  simp (disch := first | assumption | decide) only [braces_append, braces_of_braceFree]
  rfl

theorem Unbraced.closingLines (closed : Option Frame) :
    (c.closingLines closed).flatMap braces = (closed.map Frame.closing).getD [] := by
  have pause := hc.indent.append (by decide : BraceFree ("break;" : Text))
  cases closed with
  | none => rfl
  | some f =>
    cases f with
    | case | default => exact pause.flatMap_singleton
    | _ => rfl

theorem Unbraced.render {k : Keyword} {i : Instruction} {a : BlockAction} {entryPoint : Option Text}
    {text : Text} (free : ∀ t ∈ i.params, BraceFree t) (plain : BraceFree text)
    (acts : BlockAction.ofLine entryPoint k i.params = .ok a) (closed : Option Frame) :
    Meets (fun r => r.Fits text a closed) (fun _ => True) (c.render k i closed) := by
  have rest := Instruction.braceFree_rest free
  have condition := braceFree_condition free
  cases k with
  | forLoop =>
    obtain ⟨_, rfl⟩ := BlockAction.ofLine_forLoop_eq_ok_iff.mp acts
    exact meets_map (braces_forHeader free) fun l h => Rendering.fits_ofLine h rfl
  | fx =>
    obtain ⟨returnToken, name, more, _, _, rfl⟩ := BlockAction.ofFunction_eq_ok_iff.mp acts
    refine meets_map (hc.functionHeader free) fun header h => Rendering.fits_ofLine h ?_
    unfold BlockAction.functionFrame
    split <;> rfl
  | whileLoop | ifBlock =>
    cases acts
    exact Rendering.fits_ofLine (braces_header (by decide) condition) rfl
  | switch =>
    cases acts
    exact Rendering.fits_ofLine (braces_header (by decide) rest) rfl
  | elifBlock =>
    cases acts
    have reopened : braces (closeBrace ++ (" else if (" : Text) ++ CPlusPlus.condition i.params ++
        (") " : Text) ++ openBrace) = closeBrace ++ openBrace := by
      simp (disch := first | assumption | decide) only [braces_append, braces_of_braceFree]
      rfl
    exact Rendering.fits_ofLine reopened (.inr rfl)
  | elseBlock =>
    cases acts
    exact Rendering.fits_ofLine rfl (.inr rfl)
  | case =>
    cases acts
    have label := (BraceFree.append (by decide : BraceFree ("case " : Text)) rest).append
      (by decide : BraceFree (":" : Text))
    exact Rendering.fits_ofLine (braces_of_braceFree label) rfl
  | default =>
    cases acts
    exact Rendering.fits_ofLine rfl rfl
  | close =>
    cases acts
    exact ⟨hc.closingLines closed, nofun, nofun⟩
  | returnCode =>
    cases acts
    refine ⟨.inl rfl, nofun, fun t given => ?_⟩
    have own : (if i.rest = [] then none else some i.rest) = some t := given
    split at own
    · cases own
    · cases own
      exact rest
  | print =>
    cases acts
    have shown : BraceFree (Text.replaceAll " & " " << " i.rest) := by
      rw [braceFree_iff, braces_replaceAll (by decide) (by decide)]
      exact braces_of_braceFree rest
    have statement := (BraceFree.append (by decide : BraceFree ("std::cout << " : Text))
      shown).append (by decide : BraceFree (";" : Text))
    exact Rendering.fits_ofLine (braces_of_braceFree statement) (.inl rfl)
  | arr =>
    cases acts
    refine meets_bind (hc.arrayLine free) ?_
    intro d hd
    refine meets_map hd ?_
    intro t ht
    exact Rendering.fits_ofLine (braces_of_braceFree ht) (.inl rfl)
  | struct =>
    cases acts
    refine meets_bind (hc.structText free) ?_
    intro d hd
    refine meets_map hd ?_
    intro t ht
    refine Rendering.fits_define ?_
    rw [← level_braces, hc.localize, ht]
    rfl
  | init =>
    cases acts
    exact meets_map (braceFree_initLines free) fun d h => Rendering.fits_ofLines h
  | const =>
    cases acts
    refine meets_bind (hc.constText free) ?_
    intro d hd
    refine meets_map hd ?_
    intro t ht
    refine Rendering.fits_define ?_
    rw [← level_braces, hc.localize, braces_of_braceFree ht]
    rfl
  | delete =>
    cases acts
    exact ⟨.inl plain.flatMap_singleton, nofun, nofun⟩
  | vars =>
    cases acts
    exact Rendering.fits_ofLine (braces_of_braceFree (braceFree_phrase (by decide) rest)) rfl
  | fxStart =>
    cases acts
    exact ⟨rfl, nofun, nofun⟩
  | returnValue =>
    cases acts
    have statement := (braceFree_phrase (by decide : BraceFree ("return" : Text)) rest).append
      (by decide : BraceFree (";" : Text))
    exact Rendering.fits_ofLine (braces_of_braceFree statement) rfl
  | input =>
    cases acts
    have statement := (BraceFree.append (by decide : BraceFree ("std::cin >> " : Text)) rest).append
      (by decide : BraceFree (";" : Text))
    exact Rendering.fits_ofLine (braces_of_braceFree statement) (.inl rfl)
  | _ =>
    cases acts
    exact Rendering.fits_ofLine (braces_of_braceFree (braceFree_phrase (by decide) rest)) (.inl rfl)

end Renderers

theorem Unbraced.written {l : SourceLine} {a : BlockAction} (free : BraceFree l.text)
    (acts : c.backend.action l = .ok a) (closed : Option Frame) :
    Meets (fun r => r.Fits l.text a closed) (fun _ => True) (c.backend.written l closed) := by
  have tokens : ∀ t ∈ l.instruction.tokens, BraceFree t :=
    fun t mem => free.of_subset (SourceLine.subset_of_mem_tokens mem)
  unfold Backend.action at acts
  unfold Backend.written
  cases hr : c.backend.resolve l.instruction with
  | keyword k =>
    rw [hr] at acts
    exact hc.render (fun t mem => tokens t (List.mem_cons_of_mem _ mem)) free acts closed
  | declaration =>
    rw [hr] at acts
    cases acts
    exact meets_map (hc.declare tokens) fun lines h => Rendering.fits_ofLines h
  | assignment =>
    rw [hr] at acts
    cases acts
    exact Rendering.fits_ofLines (braceFree_assignment tokens).flatMap_singleton
  | passThrough =>
    rw [hr] at acts
    cases acts
    exact ⟨.inl free.flatMap_singleton, nofun, nofun⟩

end CPlusPlus
end BlockScript
