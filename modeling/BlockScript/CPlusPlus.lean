import BlockScript.Backend
import BlockScript.Builtin
import BlockScript.Operands
import BlockScript.Text.Blank

/-!
C++ source. Headers, constants and structures come first, then the functions, and the body of the
program is the body of `main`. A section of local variables is a comment and opens no scope, and
`delete` needs no rendering because it is C++ already.
-/
namespace BlockScript

structure CPlusPlus where
  types : TypeTable := .cpp
  indent : Text := "\t"
  structKeyword : Bool := true
  /-- The namespace is imported and its qualifier dropped everywhere. -/
  importNamespace : Bool := false
  namespaceName : Text := "std"

namespace CPlusPlus

def entryPoint : Text := "main"

def keywords : List Keyword := Keyword.all.filter (· ≠ .delete)

def nativeNames : NativeNames where
  endOfLine := "\\n"
  call
    | .power => "pow("
    | .squareRoot => "sqrt("
    | .random => "rand("
    | .length => "strlen("

def openBrace : Text := "\x7b"
def closeBrace : Text := "\x7d"

def localize (c : CPlusPlus) (text : Text) : Text :=
  if c.importNamespace then Text.replaceAll (c.namespaceName ++ "::") [] text else text

def logicWord (token : Text) : Text :=
  if token = "ET" then "&&"
  else if token = "OU" then "||"
  else if token = "NON" then "!"
  else token

def condition (params : List Text) : Text := Text.join " " (params.map logicWord)

def structName (c : CPlusPlus) (name : Text) : Text :=
  if c.structKeyword then "struct " ++ name else name

def paramDims (dims : List Text) : Text := if dims = [] then "[]" else dims.flatMap bracketed

def param (c : CPlusPlus) (x : Param) : Except Cause Text :=
  let reference : Text := if x.byRef then "&" else []
  match x.type with
  | .primitive keyword => return (← c.types.resolve keyword) ++ reference ++ " " ++ x.name
  | .array element dims => return (← c.types.resolve element) ++ " " ++ x.name ++ paramDims dims
  | .struct name => .ok (c.structName name ++ reference ++ " " ++ x.name)

/-- An array is returned as a pointer to its first element. -/
def returnType (c : CPlusPlus) : ReturnType → Except Cause Text
  | .void => .ok "void"
  | .value (.primitive keyword) => c.types.resolve keyword
  | .value (.array element _) => return (← c.types.resolve element) ++ "*"
  | .value (.struct name) => .ok (c.structName name)

def functionHeader (c : CPlusPlus) (params : List Text) : Except Cause Text :=
  match trimTrailingEmpty params with
  | [] => .error .missingOperand
  | returnToken :: rest => do
      let returned ← c.returnType (ReturnType.decode returnToken)
      match rest with
      | [] => .error .missingOperand
      | name :: more =>
        let rendered ← (ParamList.decode more).params.mapM c.param
        return returned ++ " " ++ name ++ "(" ++ Text.join ", " rendered ++ ") " ++ openBrace

def fieldLine (c : CPlusPlus) (field : Text) : Text := c.indent ++ field ++ ";"

def structText (c : CPlusPlus) (d : StructDef) : Except Cause Text := do
  let fields ← d.fields.mapM c.param
  let header := "struct " ++ d.name ++ " " ++ openBrace
  return Text.join "\n" (header :: fields.map c.fieldLine ++ [closeBrace ++ ";"])

def arrayLine (c : CPlusPlus) (d : ArrayDecl) : Except Cause Text := do
  return (← c.types.resolve d.type) ++ " " ++ d.name ++ d.dims.flatMap bracketed ++ ";"

def forHeader (l : ForLoop) : Text :=
  "for (" ++ l.name ++ " = " ++ l.start ++ "; " ++ l.name ++ " <= " ++ l.stop ++ "; " ++
    l.name ++ " += " ++ l.step ++ ") " ++ openBrace

def initLines (d : StructInit) : List Text :=
  (d.type ++ " " ++ d.name ++ ";") ::
    d.fields.map fun (field, value) => d.name ++ "." ++ field ++ " = " ++ value ++ ";"

def constText (c : CPlusPlus) (d : ConstDecl) : Except Cause Text := do
  return "const " ++ (← c.types.resolve d.type) ++ " " ++ d.name ++ " = " ++ d.value ++ ";"

def assignment (tokens : List Text) : Text := Text.join " " tokens

def declaredType (c : CPlusPlus) (keyword : Text) : Except Cause Text := do
  let base := keyword.dropEndWhile (· == '*')
  return (← c.types.resolve base) ++ keyword.drop base.length

def declare (c : CPlusPlus) : List Text → Except Cause (List Text)
  | [] => .error .missingOperand
  | keyword :: rest => do
      let type ← c.declaredType keyword
      match ← Declared.read keyword rest with
      | .initialised name value => return [type ++ " " ++ assignment (name :: "=" :: value)]
      | .names first others => return [type ++ " " ++ Text.join ", " (first :: others)]

def closingLines (c : CPlusPlus) : Option Frame → List Text
  | none | some .vars => []
  | some .case | some .default => [c.indent ++ "break;"]
  | some _ => [closeBrace]

def render (c : CPlusPlus) (k : Keyword) (i : Instruction) (closed : Option Frame) :
    Except Cause Rendering :=
  match k with
  | .forLoop => return .ofLine (forHeader (← ForLoop.read i.params))
  | .whileLoop => .ok (.ofLine ("while (" ++ condition i.params ++ ") " ++ openBrace))
  | .ifBlock => .ok (.ofLine ("if (" ++ condition i.params ++ ") " ++ openBrace))
  | .elifBlock =>
      .ok (.ofLine (closeBrace ++ " else if (" ++ condition i.params ++ ") " ++ openBrace))
  | .elseBlock => .ok (.ofLine (closeBrace ++ " else " ++ openBrace))
  | .switch => .ok (.ofLine ("switch (" ++ i.rest ++ ") " ++ openBrace))
  | .case => .ok (.ofLine ("case " ++ i.rest ++ ":"))
  | .default => .ok (.ofLine "default:")
  | .close => .ok (.ofLines (c.closingLines closed))
  | .fx => return .ofLine (← c.functionHeader i.params)
  | .vars => .ok (.ofLine (phrase "// Variables locales :" i.rest))
  | .fxStart => .ok .nothing
  | .returnValue => .ok (.ofLine (phrase "return" i.rest ++ ";"))
  | .returnCode =>
      .ok { lines := some [], returnCode := if i.rest = [] then none else some i.rest }
  | .print => .ok (.ofLine ("std::cout << " ++ Text.replaceAll " & " " << " i.rest ++ ";"))
  | .input => .ok (.ofLine ("std::cin >> " ++ i.rest ++ ";"))
  | .precond => .ok (.ofLine (phrase "// Préconditions :" i.rest))
  | .data => .ok (.ofLine (phrase "// Données :" i.rest))
  | .datar => .ok (.ofLine (phrase "// Donnée/Résultat :" i.rest))
  | .result => .ok (.ofLine (phrase "// Résultat :" i.rest))
  | .desc => .ok (.ofLine (phrase "// Description :" i.rest))
  | .arr => return .ofLine (← c.arrayLine (← ArrayDecl.read i.params))
  | .struct => return .define [c.localize (← c.structText (← StructDef.read i.params))]
  | .init => return .ofLines (initLines (← StructInit.read i.params))
  | .const => return .define [c.localize (← c.constText (← ConstDecl.read i.params))]
  | .delete => .ok .unchanged

/-- Whether `;` is missing. Declarations and assignments are statements; any other line is one
    unless it is a comment or a directive or already ends a statement, a label or a block. -/
def needsTerminator (r : Resolution) (text : Text) : Bool :=
  let trimmed := text.trim
  match r with
  | .keyword _ => false
  | .declaration | .assignment => !trimmed.endsWith (· == ';')
  | .passThrough =>
      !((Text.after? "//" trimmed).isSome || (Text.after? "#" trimmed).isSome ||
        trimmed.endsWith (· ∈ ['\x7b', '\x7d', ';', ':']))

/-- Open sections of local variables, however many, take one level away. -/
def depth (r : Resolution) (stack : FrameStack) : Nat :=
  if stack.holds .vars && r ≠ .keyword .vars then r.indentDepth stack - 1
  else r.indentDepth stack

def terminated (r : Resolution) (text : Text) : Text :=
  if needsTerminator r text then text ++ ";" else text

def finish (c : CPlusPlus) (r : Resolution) (stack : FrameStack) (lines : List Text) :
    List Text :=
  (lines.filter (!·.isBlank)).map fun text =>
    c.localize (Text.times (depth r stack) c.indent ++ terminated r (substitute nativeNames text))

def linesIf (needed : Bool) (lines : List Text) : List Text := if needed then lines else []

def headers (source : Text) : List Text :=
  ("#include <iostream>" : Text) ::
    linesIf (Builtin.usedIn .power source || Builtin.usedIn .squareRoot source)
      ["#include <math.h>"] ++
    linesIf (Builtin.usedIn .random source) ["#include <stdlib.h>", "#include <time.h>"] ++
    linesIf (Builtin.usedIn .length source) ["#include <string.h>"]

def preamble (c : CPlusPlus) (source : Text) : List Text :=
  headers source ++ linesIf c.importNamespace ["using namespace " ++ c.namespaceName ++ ";"] ++ [[]]

def mainLines (c : CPlusPlus) (source : Text) (ctx : Context) : List Text :=
  ("int " ++ entryPoint ++ "() " ++ openBrace) ::
    linesIf (Builtin.usedIn .random source) [c.indent ++ "srand(time(NULL));"] ++
    ctx.body.map (c.indent ++ ·) ++ [c.indent ++ "return " ++ ctx.returnCode ++ ";"]

def assemble (c : CPlusPlus) (source : Text) (ctx : Context) : Text :=
  let definitions := if ctx.definitions = [] then [] else ctx.definitions ++ [[]]
  Text.join "\n"
    (c.preamble source ++ definitions ++ ctx.hoisted ++ c.mainLines source ctx ++ [closeBrace])

def backend (c : CPlusPlus) : Backend where
  language := "C++"
  extension := "cpp"
  keywords := keywords
  types := c.types
  entryPoint := some entryPoint
  render := c.render
  declare := c.declare
  assign tokens := .ok [assignment tokens]
  finish := c.finish
  assemble := c.assemble

end CPlusPlus
end BlockScript
