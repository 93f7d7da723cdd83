import BlockScript.Backend
import BlockScript.Builtin
import BlockScript.Operands
import BlockScript.Text.Blank
import BlockScript.Text.Lowercase

/-!
French structured pseudocode. The body stands between `Début` and `Fin`; structures, functions and
procedures follow it after a blank line. There are no compound assignments and no references:
`x += 1` is written out and `&` before a type is dropped. Pointers have to be allowed.
-/
namespace BlockScript

structure Pseudocode where
  types : TypeTable := .french
  indent : Text := "\t"
  pointers : Bool := false

namespace Pseudocode

def blockWord : Frame → Text
  | .forLoop => "Pour"
  | .whileLoop => "Tant Que"
  | .ifBlock => "Si"
  | .switch => "Selon"
  | .case => "Cas"
  | .default => "Autrement"
  | .fx => "Fonction"
  | .proc => "Procédure"
  | .struct => "Structure"
  | .vars => "Variables locales"

def nativeNames : NativeNames where
  endOfLine := "(FIN DE LIGNE)"
  call
    | .power => "puissance("
    | .squareRoot => "racine("
    | .random => "aleatoire("
    | .length => "longueur("

def requirePointers (p : Pseudocode) (feature : PointerFeature) : Except Cause Unit :=
  if p.pointers then .ok () else .error (.featureDisabled (.pointers feature))

def typeName (p : Pseudocode) : ValueType → Except Cause Text
  | .primitive keyword => p.types.resolve keyword
  | .array element dims => do
      let spelling ← p.types.resolve element
      return "Tableau" ++ dims.flatMap bracketed ++ " de " ++ spelling ++ "s"
  | .struct name => .ok ("Structure " ++ name)

def param (p : Pseudocode) (x : Param) : Except Cause Text := do
  return x.name ++ " : " ++ (← p.typeName x.type)

def functionHeader (p : Pseudocode) (params : List Text) : Except Cause Text :=
  match trimTrailingEmpty params with
  | returnToken :: name :: rest => do
      let rendered ← (ParamList.decode rest).params.mapM p.param
      let signature := name ++ " (" ++ Text.join ", " rendered ++ ")"
      match ReturnType.decode returnToken with
      | .void => return "Procédure " ++ signature
      | .value type => return "Fonction " ++ signature ++ " : " ++ (← p.typeName type)
  | _ => .error .missingOperand

/-- The last line is the blank one that follows a definition. -/
def structBlock (p : Pseudocode) (d : StructDef) : Except Cause (List Text) := do
  let fields ← d.fields.mapM p.param
  return ("Structure " ++ d.name) :: fields.map (p.indent ++ ·) ++
    ["Fin " ++ blockWord .struct, []]

def spaced (dim : Text) : Text := "[ " ++ dim ++ " ]"

def arrayLine (p : Pseudocode) (d : ArrayDecl) : Except Cause Text := do
  let spelling ← p.types.resolve d.type
  return d.name ++ " : tableau" ++ d.dims.flatMap spaced ++ " de type " ++ Text.toLowercase spelling

def forHeader (l : ForLoop) : Text :=
  "Pour " ++ l.name ++ " allant de " ++ l.start ++ " à " ++ l.stop ++ " avec un pas de " ++ l.step

def initLines (d : StructInit) : List Text :=
  (d.name ++ " : Structure " ++ d.type) ::
    d.fields.map fun (field, value) => d.name ++ "." ++ field ++ " <- " ++ value

def constLine (p : Pseudocode) (d : ConstDecl) : Except Cause Text := do
  return "Constante " ++ d.name ++ " : " ++ (← p.types.resolve d.type) ++ " <- " ++ d.value

def releaseText? : List Text → Option Text
  | [] => none
  | first :: rest =>
      if first = "arr" then (rest.head?.filter (· ≠ [])).map ("Libérer tableau " ++ ·)
      else if first = [] then none
      else some ("Libérer " ++ first)

def releaseLine (p : Pseudocode) (params : List Text) : Except Cause Text := do
  p.requirePointers .release
  match releaseText? params with
  | some text => .ok text
  | none => .error (.argument .deletedName)

def allocated (p : Pseudocode) (operand : Text) : Text :=
  let keyword := operand.takeWhile (· ≠ '[')
  (p.types.get? keyword).getD keyword ++ operand.dropWhile (· ≠ '[')

def addressed? : Text → Option Text
  | '&' :: c :: rest => if c = '&' then none else some (c :: rest)
  | _ => none

def assignedValue (p : Pseudocode) : List Text → Except Cause (List Text)
  | [] => .ok []
  | first :: rest =>
      if first = "new" then do
        p.requirePointers .allocation
        match rest with
        | [] => .error (.argument .newType)
        | operand :: more => return "Réserver" :: p.allocated operand :: more
      else
        match addressed? first with
        | none => .ok (first :: rest)
        | some target => do
            p.requirePointers .addressOf
            return ("Adresse mémoire de " ++ target) :: rest

def assignment (name : Text) (value : List Text) : Text :=
  phrase (name ++ " <-") (Text.join " " value)

/-- The operator of a compound assignment: all but the final one-byte `=`. -/
def compoundOperator? (op : Text) : Option Text :=
  if op.endsWith (·.utf8Size == 1) then some op.dropLast else none

def assign (p : Pseudocode) : List Text → Except Cause (List Text)
  | [] => .error .missingOperand
  | name :: rest =>
      let op := rest.headD "="
      if op = "=" then do return [assignment name (← p.assignedValue rest.tail)]
      else
        match compoundOperator? op with
        | some operator => .ok [assignment name (name :: operator :: rest.tail)]
        | none => .error .missingOperand

def declaredType (p : Pseudocode) (keyword : Text) : Except Cause Text := do
  if keyword.endsWith (· == '*') then
    p.requirePointers .pointerType
    return "Pointeur sur " ++ (← p.types.resolve (keyword.dropEndWhile (· == '*')))
  else p.types.resolve keyword

/-- Several names take the plural, but for texts. -/
def plural (keyword : Text) (others : List Text) : Text :=
  if others = [] || keyword.dropEndWhile (· == '*') == ("string" : Text) then [] else "s"

def declare (p : Pseudocode) : List Text → Except Cause (List Text)
  | [] => .error .missingOperand
  | keyword :: rest => do
      let type ← p.declaredType keyword
      match ← Declared.read keyword rest with
      | .initialised name value =>
          return (name ++ " : " ++ type) :: (← p.assign (name :: "=" :: value))
      | .names first others =>
          return [Text.join ", " (first :: others) ++ " : " ++ type ++ plural keyword others]

def closingLines : Option Frame → List Text
  | none | some .vars => []
  | some frame => ["Fin " ++ blockWord frame]

def render (p : Pseudocode) (k : Keyword) (i : Instruction) (closed : Option Frame) :
    Except Cause Rendering :=
  match k with
  | .forLoop => return .ofLine (forHeader (← ForLoop.read i.params))
  | .whileLoop => .ok (.ofLine (phrase "Tant Que" i.rest))
  | .ifBlock => .ok (.ofLine (phrase "Si" i.rest))
  | .elifBlock => .ok (.ofLine (phrase "Sinon Si" i.rest))
  | .elseBlock => .ok (.ofLine "Sinon")
  | .switch => .ok (.ofLine (phrase "Selon" i.rest))
  | .case => .ok (.ofLine (phrase "Cas" i.rest))
  | .default => .ok (.ofLine (phrase "Autrement :" i.rest))
  | .close => .ok (.ofLines (closingLines closed))
  | .fx => return .ofLine (← p.functionHeader i.params)
  | .vars => .ok (.ofLine (phrase "Variables locales :" i.rest))
  | .fxStart => .ok (.ofLine (phrase "Début :" i.rest))
  | .returnValue => .ok (.ofLine (phrase "Retourner" i.rest))
  | .returnCode => .ok .nothing
  | .print => .ok (.ofLine ("Afficher(" ++ i.rest ++ ")"))
  | .input => .ok (.ofLine ("Saisir(" ++ i.rest ++ ")"))
  | .precond => .ok (.ofLine (phrase "Préconditions :" i.rest))
  | .data => .ok (.ofLine (phrase "Données :" i.rest))
  | .datar => .ok (.ofLine (phrase "Donnée/Résultat :" i.rest))
  | .result => .ok (.ofLine (phrase "Résultat :" i.rest))
  | .desc => .ok (.ofLine (phrase "Description :" i.rest))
  | .arr => return .ofLine (← p.arrayLine (← ArrayDecl.read i.params))
  | .struct => return .define (← p.structBlock (← StructDef.read i.params))
  | .init => return .ofLines (initLines (← StructInit.read i.params))
  | .const => return .ofLine (← p.constLine (← ConstDecl.read i.params))
  | .delete => return .ofLine (← p.releaseLine i.params)

def finish (p : Pseudocode) (r : Resolution) (stack : FrameStack) (lines : List Text) :
    List Text :=
  lines.map fun text => Text.times (r.indentDepth stack) p.indent ++ substitute nativeNames text

def programLines (p : Pseudocode) (body : List Text) : List Text :=
  ("Début" : Text) :: body.map (p.indent ++ ·) ++ [("Fin" : Text)]

/-- Definitions come after the program, structures before functions. -/
def assemble (p : Pseudocode) (ctx : Context) : Text :=
  let program := Text.join "\n" (p.programLines ctx.body)
  let definitions := Text.join "\n" (ctx.definitions ++ ctx.hoisted)
  if definitions = [] then program else program ++ "\n\n" ++ Text.trimEnd definitions

def backend (p : Pseudocode) : Backend where
  language := "Algorithmic"
  extension := "algo"
  keywords := Keyword.all
  types := p.types
  entryPoint := none
  render := p.render
  declare := p.declare
  assign := p.assign
  finish := p.finish
  assemble _ ctx := p.assemble ctx

end Pseudocode
end BlockScript
