import BlockScript.Text.Basic

/-!
Type tokens of `fx` and `struct` lines. `arr_<element>_<dimension>...` is an array, where `_` and
`,` both separate and empty pieces are ignored; `struct_<Name>` is a structure; anything else is
looked up in a type table. A leading `&` passes a parameter by reference.
-/
namespace BlockScript

inductive ValueType where
  | primitive (keyword : Text)
  | array (element : Text) (dims : List Text)
  | struct (name : Text)
  deriving DecidableEq, Repr

namespace ValueType

def isSeparator (c : Char) : Bool := c == '_' || c == ','

def arrayParts (t : Text) : List Text := (t.splitOnP isSeparator).filter (· ≠ [])

def decode (token : Text) : ValueType :=
  match Text.after? "struct_" token with
  | some name => struct name
  | none =>
    match Text.after? "arr_" token with
    | some rest => array ((arrayParts rest).headD []) (arrayParts rest).tail
    | none => primitive token

end ValueType

inductive ReturnType where
  | void
  | value (type : ValueType)
  deriving DecidableEq, Repr

def ReturnType.decode (token : Text) : ReturnType :=
  if token = "void" then void else value (.decode token)

structure Param where
  type : ValueType
  name : Text
  byRef : Bool
  deriving DecidableEq, Repr

def Param.decode (type name : Text) : Param :=
  match Text.after? "&" type with
  | some rest => ⟨.decode rest, name, true⟩
  | none => ⟨.decode type, name, false⟩

/-- Parameters in order, and the type token that a list of odd length leaves without a name. -/
structure ParamList where
  params : List Param
  unnamed : Option Text
  deriving DecidableEq, Repr

def ParamList.decode : List Text → ParamList
  | type :: name :: rest =>
      let list := decode rest
      ⟨.decode type name :: list.params, list.unnamed⟩
  | [type] => ⟨[], some type⟩
  | [] => ⟨[], none⟩

def trimTrailingEmpty (tokens : List Text) : List Text :=
  (tokens.reverse.dropWhile (· = [])).reverse

end BlockScript
