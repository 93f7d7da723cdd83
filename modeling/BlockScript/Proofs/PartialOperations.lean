import Mathlib.Data.List.DropRight
import BlockScript.Proofs.LineFaults

/-!
Rendering by position. Operands are taken out of a line by their index, and texts are cut at a number
of bytes; each such operation has no result outside the list, beyond the end of the text or within a
character. Behind the checks that come before it, rendering by position meets none of these and comes
to what rendering by the shape of the line does.
-/
namespace BlockScript

/-- Cuts a text behind a number of bytes. There is no cut within a character or beyond the end. -/
def Text.cutAt? : Nat → Text → Option (Text × Text)
  | 0, t => some ([], t)
  | _ + 1, [] => none
  | n + 1, c :: rest =>
      if c.utf8Size ≤ n + 1 then
        (cutAt? (n + 1 - c.utf8Size) rest).map fun (front, back) => (c :: front, back)
      else none

theorem Text.cutAt?_append (front back : Text) :
    cutAt? (utf8Length front) (front ++ back) = some (front, back) := by
  induction front with
  | nil => simp [cutAt?, utf8Length]
  | cons c front ih =>
    have positive := c.utf8Size_pos
    obtain ⟨n, size⟩ : ∃ n, c.utf8Size + utf8Length front = n + 1 :=
      ⟨c.utf8Size + utf8Length front - 1, by omega⟩
    have fits : c.utf8Size ≤ n + 1 := by omega
    have remaining : n + 1 - c.utf8Size = utf8Length front := by omega
    rw [utf8Length, size, List.cons_append, cutAt?, if_pos fits, remaining, ih]
    rfl

/-- A computation with partial operations: `none` where one of them has no result. -/
abbrev Guarded := ExceptT Cause Option

namespace Guarded

variable {α β : Type}

def total (x : Except Cause α) : Guarded α := some x

def ofOption (x : Option α) : Guarded α := x.map .ok

def entry (as : List α) (n : Nat) : Guarded α := ofOption as[n]?

def setEntry (as : List α) (n : Nat) (a : α) : Guarded (List α) :=
  ofOption (if n < as.length then some (as.set n a) else none)

def entriesFrom (as : List α) (n : Nat) : Guarded (List α) :=
  ofOption (if n ≤ as.length then some (as.drop n) else none)

def entriesTo (as : List α) (n : Nat) : Guarded (List α) :=
  ofOption (if n ≤ as.length then some (as.take n) else none)

def cut (t : Text) (n : Nat) : Guarded (Text × Text) := ofOption (t.cutAt? n)

theorem total_ok (a : α) : total (.ok a : Except Cause α) = pure a := rfl

theorem total_bind (x : Except Cause α) (f : α → Except Cause β) :
    total (x >>= f) = total x >>= fun a => total (f a) := by
  cases x <;> rfl

theorem total_map (x : Except Cause α) (f : α → β) : total (f <$> x) = f <$> total x := by
  cases x <;> rfl

theorem ofOption_some (a : α) : ofOption (some a) = pure a := rfl

theorem entriesTo_of_le {as : List α} {n : Nat} (h : n ≤ as.length) :
    entriesTo as n = pure (as.take n) := by
  rw [entriesTo, if_pos h, ofOption_some]

theorem cut_append (front back : Text) :
    cut (front ++ back) (Text.utf8Length front) = pure (front, back) := by
  rw [cut, Text.cutAt?_append, ofOption_some]

end Guarded

open Guarded

section Operands

def trimmedLength (tokens : List Text) : Nat :=
  tokens.length - tokens.reverse.findIdx (· ≠ [])

def indexedTrim (tokens : List Text) : Guarded (List Text) :=
  entriesTo tokens (trimmedLength tokens)

theorem indexedTrim_eq (tokens : List Text) :
    indexedTrim tokens = pure (trimTrailingEmpty tokens) := by
  have same : tokens.take (trimmedLength tokens) = trimTrailingEmpty tokens := by
    rw [trimTrailingEmpty, List.dropWhile_eq_drop_findIdx_not, List.drop_reverse,
      List.reverse_reverse, trimmedLength]
    simp
  rw [indexedTrim, entriesTo_of_le (by unfold trimmedLength; omega), same]

def Instruction.indexed (tokens : List Text) (line : Nat) : Guarded Instruction :=
  if tokens = [] then return ⟨[], [], line⟩
  else return ⟨← entry tokens 0, ← entriesFrom tokens 1, line⟩

theorem Instruction.indexed_eq (tokens : List Text) (line : Nat) :
    indexed tokens line = pure (ofTokens tokens line) := by
  cases tokens with
  | nil => rfl
  | cons name params => rfl

def ForLoop.indexed (params : List Text) : Guarded ForLoop := do
  let step := (params[3]?.filter (· ≠ [])).getD "1"
  return ⟨← entry params 0, ← entry params 1, ← entry params 2, step⟩

theorem ForLoop.indexed_eq {params : List Text} (bounds : ¬ params.length < 3) :
    indexed params = total (read params) := by
  match params, bounds with
  | [], bounds | [_], bounds | [_, _], bounds => simp at bounds
  | [name, start, stop], _ => rfl
  | name :: start :: stop :: step :: rest, _ =>
    have filled : (Option.filter (· ≠ []) (some step)).getD "1" =
        if step = [] then ("1" : Text) else step := by
      by_cases empty : step = [] <;> simp [Option.filter, empty]
    simp only [indexed, List.getElem?_cons_succ, List.getElem?_cons_zero, filled]
    rfl

def inTwos {α : Type} : List α → List (List α)
  | a :: b :: rest => [a, b] :: inTwos rest
  | [a] => [[a]]
  | [] => []

def indexedPairs {α : Type} (as : List α) : Guarded (List (α × α)) :=
  (inTwos as).mapM fun pair => do return (← entry pair 0, ← entry pair 1)

theorem pairs?_of_odd {α : Type} {as : List α} (odd : as.length % 2 = 1) : pairs? as = none := by
  fun_induction pairs? as with
  | case1 => simp at odd
  | case2 a b rest ih =>
    rw [List.length_cons, List.length_cons] at odd
    rw [ih (by omega)]
    rfl
  | case3 a => rfl

theorem indexedPairs_of_even {α : Type} {as : List α} (even : ¬ as.length % 2 = 1) :
    ∃ fields, pairs? as = some fields ∧ indexedPairs as = pure fields := by
  fun_induction pairs? as with
  | case1 => exact ⟨[], rfl, rfl⟩
  | case2 a b rest ih =>
    rw [List.length_cons, List.length_cons] at even
    obtain ⟨fields, read, indexed⟩ := ih (by omega)
    refine ⟨(a, b) :: fields, by rw [read]; rfl, ?_⟩
    unfold indexedPairs at indexed ⊢
    rw [inTwos, List.mapM_cons, indexed]
    rfl
  | case3 a => simp at even

def StructInit.indexed : List Text → Guarded StructInit
  | type :: name :: rest =>
      if rest = [] then total (.error (.argument .initField))
      else if rest.length % 2 = 1 then total (.error (.argument .initPair))
      else do return ⟨type, name, ← indexedPairs rest⟩
  | _ => total (.error (.argument .initVariable))

theorem StructInit.indexed_eq (params : List Text) : indexed params = total (read params) := by
  match params with
  | [] | [_] => rfl
  | [type, name] => rfl
  | type :: name :: field :: rest =>
    simp only [indexed, read, reduceCtorEq, if_false]
    split
    · rename_i odd
      rw [pairs?_of_odd odd]
    · rename_i even
      obtain ⟨fields, read, indexed⟩ := indexedPairs_of_even even
      rw [read, indexed]
      rfl

def StructDef.indexed (params : List Text) : Guarded StructDef := do
  match ← indexedTrim params with
  | [] => total (.error (.argument .structName))
  | name :: rest =>
      let list := ParamList.decode rest
      match list.unnamed with
      | some type => total (.error (.argument (.fieldName type)))
      | none => return ⟨name, list.params⟩

theorem StructDef.indexed_eq (params : List Text) : indexed params = total (read params) := by
  unfold indexed read
  rw [indexedTrim_eq, pure_bind]
  cases trimTrailingEmpty params with
  | nil => rfl
  | cons name rest =>
    dsimp only
    cases (ParamList.decode rest).unnamed <;> rfl

def isInitialised (tokens : List Text) : Guarded Bool :=
  if tokens.length > 2 then (fun op => decide (op = ("=" : Text))) <$> entry tokens 2
  else return false

def Declared.indexed (keyword : Text) (tokens : List Text) : Guarded Declared := do
  if ← isInitialised tokens then
    return .initialised (← entry tokens 1) ((← entriesFrom tokens 1).drop 2)
  else total (names? keyword (← entriesFrom tokens 1))

theorem Declared.indexed_eq (keyword : Text) (rest : List Text) :
    indexed keyword (keyword :: rest) = total (read keyword rest) := by
  match rest with
  | [] | [_] => rfl
  | name :: op :: value =>
    have third : isInitialised (keyword :: name :: op :: value) = pure (decide (op = "=")) := by
      simp only [isInitialised, List.length_cons]
      rw [if_pos (by omega)]
      rfl
    simp only [indexed, third, pure_bind, read]
    by_cases lone : op = "="
    · simp only [lone, decide_true, if_true]
      rfl
    · simp only [lone, decide_false, Bool.false_eq_true, if_false]
      rfl

/-- All of an operator but the sign `=`, which has to end it: the cut is one byte before the end. -/
def indexedOperator (op : Text) : Guarded Text :=
  if op.endsWith (· == '=') then Prod.fst <$> cut op (op.utf8Length - 1) else ofOption none

theorem indexedOperator_eq {op : Text} (sign : op.endsWith (· == '=') = true) :
    indexedOperator op = pure op.dropLast := by
  obtain ⟨operator, rfl⟩ : ∃ operator, op = operator ++ ['='] := by
    rcases List.eq_nil_or_concat' op with rfl | ⟨operator, last, rfl⟩
    · cases sign
    · have last_eq : last = '=' := by simpa [Text.endsWith] using sign
      exact ⟨operator, by rw [last_eq]⟩
  have before : Text.utf8Length (operator ++ ['=']) - 1 = Text.utf8Length operator := by
    rw [Text.utf8Length_append]
    exact Nat.add_sub_cancel _ 1
  rw [indexedOperator, if_pos sign, before, cut_append, List.dropLast_concat]
  rfl

end Operands

namespace Pseudocode

variable (p : Pseudocode)

def indexedHeader (params : List Text) : Guarded Text := do
  let params ← indexedTrim params
  let returnToken ← entry params 0
  let name ← entry params 1
  let rest ← entriesFrom params 2
  let rendered ← total ((ParamList.decode rest).params.mapM p.param)
  let signature := name ++ " (" ++ Text.join ", " rendered ++ ")"
  match ReturnType.decode returnToken with
  | .void => return "Procédure " ++ signature
  | .value type => return "Fonction " ++ signature ++ " : " ++ (← total (p.typeName type))

theorem indexedHeader_eq {params more : List Text} {returnToken name : Text}
    (named : trimTrailingEmpty params = returnToken :: name :: more) :
    p.indexedHeader params = total (p.functionHeader params) := by
  have first : entry (returnToken :: name :: more) 0 = pure returnToken := rfl
  have second : entry (returnToken :: name :: more) 1 = pure name := rfl
  have others : entriesFrom (returnToken :: name :: more) 2 = pure more := rfl
  simp only [indexedHeader, functionHeader, indexedTrim_eq, named, pure_bind, first, second, others,
    total_bind]
  congr 1
  funext rendered
  cases ReturnType.decode returnToken with
  | void => rfl
  | value type =>
    simp only [total_bind]
    rfl

def indexedAllocation (operand : Text) : Guarded (Text × Text) :=
  if '[' ∈ operand then cut operand (Text.utf8Length (operand.takeWhile (· ≠ '[')))
  else return (operand, [])

theorem indexedAllocation_eq (operand : Text) :
    indexedAllocation operand =
      pure (operand.takeWhile (· ≠ '['), operand.dropWhile (· ≠ '[')) := by
  unfold indexedAllocation
  split
  · have whole := cut_append (operand.takeWhile (· ≠ '[')) (operand.dropWhile (· ≠ '['))
    rwa [List.takeWhile_append_dropWhile] at whole
  · rename_i absent
    have all : ∀ c ∈ operand, decide (c ≠ '[') = true := by
      intro c mem
      exact decide_eq_true fun same => absent (same ▸ mem)
    rw [List.takeWhile_eq_self_iff.mpr all, List.dropWhile_eq_nil_iff.mpr all]

def indexedValue (value : List Text) : Guarded (List Text) :=
  match value.head? with
  | none => return value
  | some first =>
      if first = "new" then do
        total (p.requirePointers .allocation)
        match value[1]? with
        | none => total (.error (.argument .newType))
        | some operand =>
            let (keyword, dims) ← indexedAllocation operand
            let value ←
              match p.types.get? keyword with
              | some type => setEntry value 1 (type ++ dims)
              | none => pure value
            setEntry value 0 "Réserver"
      else
        match addressed? first with
        | none => return value
        | some target => do
            total (p.requirePointers .addressOf)
            setEntry value 0 ("Adresse mémoire de " ++ target)

theorem indexedValue_eq (value : List Text) :
    p.indexedValue value = total (p.assignedValue value) := by
  match value with
  | [] => rfl
  | first :: rest =>
    simp only [indexedValue, assignedValue, List.head?_cons]
    split
    · rw [total_bind]
      congr 1
      funext _
      match rest with
      | [] => rfl
      | operand :: more =>
        simp only [List.getElem?_cons_succ, List.getElem?_cons_zero, indexedAllocation_eq,
          pure_bind, allocated]
        cases spelled : p.types.get? (operand.takeWhile (· ≠ '[')) with
        | some type => rfl
        | none =>
          rw [Option.getD_none, List.takeWhile_append_dropWhile]
          rfl
    · cases addressed? first with
      | none => rfl
      | some target =>
        simp only [total_bind]
        rfl

def indexedAssign (tokens : List Text) : Guarded (List Text) := do
  let name ← entry tokens 0
  let op := tokens[1]?.getD ("=" : Text)
  let value := tokens.drop 2
  if op = "=" then return [assignment name (← p.indexedValue value)]
  else return [assignment name (name :: (← indexedOperator op) :: value)]

theorem indexedAssign_eq {name : Text} {rest : List Text}
    (operator : ∀ op, rest.head? = some op → op.endsWith (· == '=') = true) :
    p.indexedAssign (name :: rest) = total (p.assign (name :: rest)) := by
  have first : entry (name :: rest) 0 = pure name := rfl
  have op : (name :: rest)[1]?.getD ("=" : Text) = rest.headD "=" := by cases rest <;> rfl
  have value : (name :: rest).drop 2 = rest.tail := by cases rest <;> rfl
  simp only [indexedAssign, assign, first, op, value, pure_bind]
  split
  · rw [indexedValue_eq, total_bind]
    rfl
  · rename_i compound
    cases rest with
    | nil => exact absurd rfl compound
    | cons sign more =>
      have ends := operator sign rfl
      simp only [List.headD_cons, compoundOperator?_of_endsWith ends, indexedOperator_eq ends]
      rfl

def indexedDeclare (tokens : List Text) : Guarded (List Text) := do
  let keyword ← entry tokens 0
  let type ← total (p.declaredType keyword)
  match ← Declared.indexed keyword tokens with
  | .initialised name _ =>
      return (name ++ " : " ++ type) :: (← p.indexedAssign (← entriesFrom tokens 1))
  | .names first others =>
      return [Text.join ", " (first :: others) ++ " : " ++ type ++ plural keyword others]

theorem indexedDeclare_eq (keyword : Text) (rest : List Text) :
    p.indexedDeclare (keyword :: rest) = total (p.declare (keyword :: rest)) := by
  have first : entry (keyword :: rest) 0 = pure keyword := rfl
  have others : entriesFrom (keyword :: rest) 1 = pure rest := rfl
  simp only [indexedDeclare, declare, first, others, pure_bind, total_bind, Declared.indexed_eq]
  congr 1
  funext type
  cases read : Declared.read keyword rest with
  | error cause => rfl
  | ok declared =>
    simp only [total_ok, pure_bind]
    rcases Declared.read_eq_ok read with ⟨name, value, rfl, rfl⟩ | ⟨_, _, rfl, _⟩
    · have signed : ∀ op : Text, (("=" : Text) :: value).head? = some op →
          op.endsWith (· == '=') = true := by
        rintro op ⟨⟩
        rfl
      simp only [p.indexedAssign_eq signed, total_bind]
      rfl
    · rfl

def indexedRender (k : Keyword) (i : Instruction) (closed : Option Frame) : Guarded Rendering :=
  match k with
  | .forLoop => return .ofLine (forHeader (← ForLoop.indexed i.params))
  | .fx => return .ofLine (← p.indexedHeader i.params)
  | .struct => return .define (← total (p.structBlock (← StructDef.indexed i.params)))
  | .init => return .ofLines (initLines (← StructInit.indexed i.params))
  | _ => total (p.render k i closed)

theorem indexedRender_eq {entryPoint : Option Text} {k : Keyword} {i : Instruction}
    {a : BlockAction} (acts : BlockAction.ofLine entryPoint k i.params = .ok a)
    (closed : Option Frame) : p.indexedRender k i closed = total (p.render k i closed) := by
  cases k with
  | forLoop =>
    have bounds := (BlockAction.ofLine_forLoop_eq_ok_iff.mp acts).1
    simp only [indexedRender, render, ForLoop.indexed_eq bounds, total_bind]
    rfl
  | fx =>
    obtain ⟨returnToken, name, more, named, _⟩ := BlockAction.ofFunction_eq_ok_iff.mp acts
    simp only [indexedRender, render, p.indexedHeader_eq named, total_bind]
    rfl
  | struct =>
    simp only [indexedRender, render, StructDef.indexed_eq, total_bind]
    rfl
  | init =>
    simp only [indexedRender, render, StructInit.indexed_eq, total_bind]
    rfl
  | _ => rfl

end Pseudocode

namespace CPlusPlus

variable (c : CPlusPlus)

def indexedHeader (params : List Text) : Guarded Text := do
  let params ← indexedTrim params
  let returned ← total (c.returnType (ReturnType.decode (← entry params 0)))
  let rest ← entriesFrom params 2
  let rendered ← total ((ParamList.decode rest).params.mapM c.param)
  return returned ++ " " ++ (← entry params 1) ++ "(" ++ Text.join ", " rendered ++ ") " ++ openBrace

theorem indexedHeader_eq {params more : List Text} {returnToken name : Text}
    (named : trimTrailingEmpty params = returnToken :: name :: more) :
    c.indexedHeader params = total (c.functionHeader params) := by
  have first : entry (returnToken :: name :: more) 0 = pure returnToken := rfl
  have second : entry (returnToken :: name :: more) 1 = pure name := rfl
  have others : entriesFrom (returnToken :: name :: more) 2 = pure more := rfl
  simp only [indexedHeader, functionHeader, indexedTrim_eq, named, pure_bind, first, second, others,
    total_bind]
  rfl

def indexedType (keyword : Text) : Guarded Text := do
  let base := keyword.dropEndWhile (· == '*')
  let (_, stars) ← cut keyword base.utf8Length
  return (← total (c.types.resolve base)) ++ stars

theorem indexedType_eq (keyword : Text) : c.indexedType keyword = total (c.declaredType keyword) := by
  obtain ⟨stars, whole⟩ : keyword.dropEndWhile (· == '*') <+: keyword := by
    rw [Text.dropEndWhile, ← List.reverse_suffix, List.reverse_reverse]
    exact List.dropWhile_suffix _
  have cutting := cut_append (keyword.dropEndWhile (· == '*')) stars
  rw [whole] at cutting
  have rest := congrArg (List.drop (keyword.dropEndWhile (· == '*')).length) whole
  rw [List.drop_left] at rest
  simp only [indexedType, declaredType, cutting, ← rest, pure_bind, total_bind]
  rfl

def indexedDeclare (tokens : List Text) : Guarded (List Text) := do
  let keyword ← entry tokens 0
  let type ← c.indexedType keyword
  match ← Declared.indexed keyword tokens with
  | .initialised _ _ => return [type ++ " " ++ assignment (← entriesFrom tokens 1)]
  | .names first others => return [type ++ " " ++ Text.join ", " (first :: others)]

theorem indexedDeclare_eq (keyword : Text) (rest : List Text) :
    c.indexedDeclare (keyword :: rest) = total (c.declare (keyword :: rest)) := by
  have first : entry (keyword :: rest) 0 = pure keyword := rfl
  have others : entriesFrom (keyword :: rest) 1 = pure rest := rfl
  simp only [indexedDeclare, declare, first, others, pure_bind, total_bind, Declared.indexed_eq,
    indexedType_eq]
  congr 1
  funext type
  cases read : Declared.read keyword rest with
  | error cause => rfl
  | ok declared =>
    rcases Declared.read_eq_ok read with ⟨name, value, rfl, rfl⟩ | ⟨_, _, rfl, _⟩ <;> rfl

def indexedRender (k : Keyword) (i : Instruction) (closed : Option Frame) : Guarded Rendering :=
  match k with
  | .forLoop => return .ofLine (forHeader (← ForLoop.indexed i.params))
  | .fx => return .ofLine (← c.indexedHeader i.params)
  | .struct => return .define [c.localize (← total (c.structText (← StructDef.indexed i.params)))]
  | .init => return .ofLines (initLines (← StructInit.indexed i.params))
  | _ => total (c.render k i closed)

theorem indexedRender_eq {entryPoint : Option Text} {k : Keyword} {i : Instruction}
    {a : BlockAction} (acts : BlockAction.ofLine entryPoint k i.params = .ok a)
    (closed : Option Frame) : c.indexedRender k i closed = total (c.render k i closed) := by
  cases k with
  | forLoop =>
    have bounds := (BlockAction.ofLine_forLoop_eq_ok_iff.mp acts).1
    simp only [indexedRender, render, ForLoop.indexed_eq bounds, total_bind]
    rfl
  | fx =>
    obtain ⟨returnToken, name, more, named, _⟩ := BlockAction.ofFunction_eq_ok_iff.mp acts
    simp only [indexedRender, render, c.indexedHeader_eq named, total_bind]
    rfl
  | struct =>
    simp only [indexedRender, render, StructDef.indexed_eq, total_bind]
    rfl
  | init =>
    simp only [indexedRender, render, StructInit.indexed_eq, total_bind]
    rfl
  | _ => rfl

end CPlusPlus

end BlockScript
