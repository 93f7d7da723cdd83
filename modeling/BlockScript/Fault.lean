import BlockScript.FrameStack

/-!
What makes a program fail to compile. A cause says what is wrong and a fault where; the wording is
in one function for each kind of cause.
-/
namespace BlockScript

inductive StructuralFault where
  | caseOutsideSwitch | defaultOutsideSwitch | returnOutsideFunction | returnInProcedure
  | stackUnderflow
  | unclosedBlock (frame : Frame)
  deriving DecidableEq, Repr

def StructuralFault.message : StructuralFault → Text
  | caseOutsideSwitch => "'case' statement outside of a 'switch'"
  | defaultOutsideSwitch => "'default' statement outside of a 'switch'"
  | returnOutsideFunction => "'return' statement outside of a function"
  | returnInProcedure => "'return' statement in a procedure"
  | stackUnderflow => "'end' statement with no open block"
  | unclosedBlock frame => "'" ++ frame.name ++ "' block is never closed"

inductive ArgumentFault where
  | loopBounds | functionName | structName
  | fieldName (type : Text)
  | arrayDimension | initVariable | initField | initPair | constValue | deletedName | newType
  | variableName (keyword : Text)
  | described (message : Text)
  deriving DecidableEq, Repr

def ArgumentFault.message : ArgumentFault → Text
  | loopBounds => "'for' needs a variable, a start and an end"
  | functionName => "'fx' needs a return type and a name"
  | structName => "'struct' needs a name"
  | fieldName type => "structure field of type '" ++ type ++ "' has no name"
  | arrayDimension => "'arr' statement does not have all its parameters set"
  | initVariable => "'init' needs a structure type and a variable name"
  | initField => "'init' needs at least one field and its value"
  | initPair => "'init' fields and values must come in pairs"
  | constValue => "'const' needs a type, a name and a value"
  | deletedName => "missing parameter 'var_name'"
  | newType => "cannot allocate nothing"
  | variableName keyword => "'" ++ keyword ++ "' declaration without a variable name"
  | described message => message

inductive PointerFeature where
  | pointerType | allocation | addressOf | release
  deriving DecidableEq, Repr

def PointerFeature.name : PointerFeature → Text
  | pointerType => "pointer type"
  | allocation => "'new'"
  | addressOf => "address-of '&'"
  | release => "'delete'"

inductive DisabledFeature where
  | pointers (feature : PointerFeature)
  | described (message : Text)
  deriving DecidableEq, Repr

def DisabledFeature.message : DisabledFeature → Text
  | pointers feature => feature.name ++ " requires pointers and allocation to be enabled"
  | described message => message

/-- `missingOperand` is the cause for an operand that was to be checked before rendering. -/
inductive Cause where
  | structural (fault : StructuralFault)
  | argument (fault : ArgumentFault)
  | unknownType (name : Text)
  | reservedName (name : Text)
  | featureDisabled (feature : DisabledFeature)
  | missingOperand
  deriving DecidableEq, Repr

namespace Cause

def detail : Cause → Text
  | structural fault => fault.message
  | argument fault => fault.message
  | unknownType name => "'" ++ name ++ "' is not a recognized variable type"
  | reservedName name => "'" ++ name ++ "' is reserved for the program entry point"
  | featureDisabled feature => feature.message
  | missingOperand => "missing operand"

end Cause

inductive Category where
  | structural | argument | type | reservedName | featureDisabled | operand | configuration | io
  deriving DecidableEq, Repr

def Category.title : Category → Text
  | structural => "Structural error"
  | argument => "Argument error"
  | type => "Type error"
  | reservedName => "Reserved name"
  | featureDisabled => "Feature disabled"
  | operand => "Operand error"
  | configuration => "Configuration error"
  | io => "IO error"

def Cause.category : Cause → Category
  | structural _ => .structural
  | argument _ => .argument
  | unknownType _ => .type
  | reservedName _ => .reservedName
  | featureDisabled _ => .featureDisabled
  | missingOperand => .operand

structure Fault where
  cause : Cause
  line : Nat
  deriving DecidableEq, Repr

namespace Fault

def category (f : Fault) : Category := f.cause.category
def detail (f : Fault) : Text := f.cause.detail
def message (f : Fault) : Text := "Error on line " ++ Text.ofNat f.line ++ ": " ++ f.detail

end Fault
end BlockScript
