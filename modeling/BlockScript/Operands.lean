import BlockScript.Fault
import BlockScript.ValueType

/-!
Operands of the structural lines, read once for all targets. Each reader takes the tokens after
the keyword; what it refuses is an argument fault.
-/
namespace BlockScript

/-- `for <name> <start> <stop> [<step>]`. -/
structure ForLoop where
  name : Text
  start : Text
  stop : Text
  step : Text
  deriving DecidableEq, Repr

def ForLoop.read : List Text → Except Cause ForLoop
  | name :: start :: stop :: rest =>
      let step := rest.headD []
      .ok ⟨name, start, stop, if step = [] then "1" else step⟩
  | _ => .error .missingOperand

/-- `struct <Name> [<type> <field>]...`. -/
structure StructDef where
  name : Text
  fields : List Param
  deriving DecidableEq, Repr

def StructDef.read (params : List Text) : Except Cause StructDef :=
  match trimTrailingEmpty params with
  | [] => .error (.argument .structName)
  | name :: rest =>
    let list := ParamList.decode rest
    match list.unnamed with
    | some type => .error (.argument (.fieldName type))
    | none => .ok ⟨name, list.params⟩

/-- `arr <type> <name> <dimension>...`. -/
structure ArrayDecl where
  type : Text
  name : Text
  dims : List Text
  deriving DecidableEq, Repr

def ArrayDecl.read : List Text → Except Cause ArrayDecl
  | type :: name :: dim :: dims => .ok ⟨type, name, dim :: dims⟩
  | _ => .error (.argument .arrayDimension)

/-- `init <Type> <variable> <field> <value> [<field> <value>]...`. -/
structure StructInit where
  type : Text
  name : Text
  fields : List (Text × Text)
  deriving DecidableEq, Repr

def pairs? {α : Type} : List α → Option (List (α × α))
  | [] => some []
  | a :: b :: rest => (pairs? rest).map ((a, b) :: ·)
  | [_] => none

def StructInit.read : List Text → Except Cause StructInit
  | [] | [_] => .error (.argument .initVariable)
  | [_, _] => .error (.argument .initField)
  | type :: name :: rest =>
    match pairs? rest with
    | none => .error (.argument .initPair)
    | some fields => .ok ⟨type, name, fields⟩

/-- `const <type> <name> [=] <value>...`. -/
structure ConstDecl where
  type : Text
  name : Text
  value : Text
  deriving DecidableEq, Repr

def ConstDecl.valueTokens : List Text → List Text
  | [] => []
  | token :: rest => if token = "=" then rest else token :: rest

def ConstDecl.read : List Text → Except Cause ConstDecl
  | type :: name :: rest =>
    match valueTokens rest with
    | [] => .error (.argument .constValue)
    | value => .ok ⟨type, name, Text.join " " value⟩
  | _ => .error (.argument .constValue)

inductive Declared where
  | initialised (name : Text) (value : List Text)
  | names (first : Text) (others : List Text)
  deriving DecidableEq, Repr

def Declared.names? (keyword : Text) (tokens : List Text) : Except Cause Declared :=
  match tokens.filter (· ≠ []) with
  | [] => .error (.argument (.variableName keyword))
  | first :: others => .ok (.names first others)

/-- The value follows a second token `=`. Without one, empty tokens are no names. -/
def Declared.read (keyword : Text) : List Text → Except Cause Declared
  | name :: op :: value =>
      if op = "=" then .ok (.initialised name value) else names? keyword (name :: op :: value)
  | tokens => names? keyword tokens

end BlockScript
