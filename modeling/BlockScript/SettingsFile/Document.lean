import BlockScript.SettingsFile.Instant
import BlockScript.SettingsFile.Item

/-!
A settings document (TOML 1.0): entries `key = value`, headers `[name]` and repeated headers
`[[name]]`, one to a line. Statements are read first and then put together into one table; a text
that cannot be read and statements that contradict each other are both no document.
-/
namespace BlockScript.SettingsFile

open Scan

/-- Nesting of arrays and braces, and the parts of a key, stay below 80. -/
def nestingLimit : Nat := 79

def isBareKeyChar (c : Char) : Bool := c.isAlphanum || c == '_' || c == '-'

def keyPart : Scan Key := do
  blanks
  let (text, span) ← spanned (basicText <|> literalText <|> takeSome isBareKeyChar)
  blanks
  return ⟨text, span⟩

def keyPath : Scan (List Key × Key) := do
  let parts ← separatedBy (expect '.') keyPart
  match parts.getLast? with
  | some key => if parts.length ≤ nestingLimit then return (parts.dropLast, key) else failure
  | none => failure

def scalar : Scan Scalar :=
  Scalar.text <$> quotation <|> Scalar.instant <$> instant <|> Scalar.float <$> float <|>
    Scalar.float <$> specialFloat <|> Scalar.integer <$> integer <|> Scalar.boolean <$> boolean

def array (value : Scan Item) : Scan Item := do
  let elements : Scan (List Item) := do
    expect '['
    let first ← opt (do spacing; value)
    let elements ← match first with
      | none => pure []
      | some first => do
          let rest ← many (do spacing; expect ','; spacing; value)
          discard (opt (do spacing; expect ','))
          pure (first :: rest)
    spacing
    expect ']'
    return elements
  let (elements, span) ← spanned elements
  return .array elements span

def entry (value : Scan Item) : Scan ((List Key × Key) × Item) := do
  let path ← keyPath
  expect '='
  blanks
  let item ← value
  return (path, item)

def inlineTable (value : Scan Item) : Scan Item := do
  let entries : Scan (List ((List Key × Key) × Item)) := do
    expect '\x7b'
    let entries ← opt (separatedBy (expect ',') (do let e ← entry value; blanks; return e))
    blanks
    expect '\x7d'
    return entries.getD []
  let (entries, span) ← spanned entries
  let filled : Option (Table Item) :=
    entries.foldlM (fun t ((path, key), item) => t.addEntry path key item)
      { kind := .inline, span := some span }
  return .table (← filled)

def value : Nat → Scan Item
  | 0 => scalarItem
  | depth + 1 => array (value depth) <|> inlineTable (value depth) <|> scalarItem
where
  scalarItem : Scan Item := do
    let (s, span) ← spanned scalar
    return .scalar s span

inductive Statement where
  | entry (path : List Key) (key : Key) (item : Item)
  | header (repeated : Bool) (path : List Key) (key : Key) (span : Span)

def headerStatement : Scan Statement := do
  let repeatedHeader : Scan (Bool × (List Key × Key)) := do
    expectText "[["
    let path ← keyPath
    expectText "]]"
    return (true, path)
  let singleHeader : Scan (Bool × (List Key × Key)) := do
    expect '['
    let path ← keyPath
    expect ']'
    return (false, path)
  let ((repeated, path, key), span) ← spanned (repeatedHeader <|> singleHeader)
  lineEnd
  return .header repeated path key span

def entryStatement : Scan Statement := do
  let ((path, key), item) ← entry (value nestingLimit)
  lineEnd
  return .entry path key item

def statements : Scan (List Statement) := do
  discard (accept "\ufeff")
  spacing
  let found ← many (do
    let s ← headerStatement <|> entryStatement
    spacing
    return s)
  if ← atEnd then return found else failure

/-- A document while it is put together: the table at hand is kept apart until it is complete. -/
structure Draft where
  root : Table Item := { kind := .header }
  place : Option (Bool × List Key × Key) := none
  current : Table Item := { kind := .header }

namespace Draft

def complete (d : Draft) : Option (Table Item) :=
  match d.place with
  | none => some d.current
  | some (repeated, path, key) =>
      let store (parent : Table Item) : Option (Unit × Table Item) :=
        if repeated then
          match parent.find? key.text with
          | some (.tables elements) =>
              some ((), parent.replace key.text (.tables (elements ++ [d.current])))
          | _ => none
        else some ((), parent.append key (.table d.current))
      (Table.visit false store path d.root).map (·.2)

/-- A table that was only implied so far keeps its entries and moves to the end. -/
def takeImplied (key : Key) (parent : Table Item) :
    Option (List (Key × Item) × Table Item) :=
  match parent.find? key.text with
  | none => some ([], parent)
  | some (.table t) => if t.kind = .implied then some (t.entries, parent.erase key.text) else none
  | some _ => none

def openTables (key : Key) (parent : Table Item) : Option (List (Key × Item) × Table Item) :=
  match parent.find? key.text with
  | none => some ([], parent.append key (.tables []))
  | some (.tables _) => some ([], parent)
  | some _ => none

/-- The span of a table reaches from its header to the last entry under it. -/
def add (d : Draft) : Statement → Option Draft
  | .entry path key item => do
      let current ← d.current.addEntry path key item
      return { d with current := { current with span := Span.cover d.current.span item.span? } }
  | .header repeated path key span => do
      let root ← d.complete
      let (entries, root) ←
        Table.visit false (if repeated then openTables key else takeImplied key) path root
      return { root, place := some (repeated, path, key)
               current := { kind := .header, span := some span, entries } }

end Draft

def document? (source : Text) : Option (Table Item) := do
  let (found, _) ← statements ⟨source, 0⟩
  let draft ← found.foldlM Draft.add {}
  draft.complete

end BlockScript.SettingsFile
