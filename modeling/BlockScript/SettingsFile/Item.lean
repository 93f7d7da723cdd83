import BlockScript.SettingsFile.Number

/-!
What a settings document holds: tables of keys and items in the order they were written, with the
bytes that each key and value covers. How a table came to be decides who may add to it.
-/
namespace BlockScript.SettingsFile

structure Key where
  text : Text
  span : Span

inductive Scalar where
  | text (value : Text)
  | integer (value : Int)
  | float (value : Number)
  | boolean (value : Bool)
  | instant (display : Text)

/-- `header`: written as `[name]`, and the document itself. `implied`: only named on the way to
    another header. `dotted`: made by a dotted key. `inline`: written in braces, and complete. -/
inductive TableKind where
  | header | implied | dotted | inline
  deriving DecidableEq

structure Table (α : Type) where
  kind : TableKind
  span : Option Span := none
  entries : List (Key × α) := []

inductive Item where
  | scalar (value : Scalar) (span : Span)
  | array (elements : List Item) (span : Span)
  | table (table : Table Item)
  | tables (elements : List (Table Item))

namespace Table

variable {α : Type}

def find? (t : Table α) (key : Text) : Option α :=
  (t.entries.find? (·.1.text == key)).map (·.2)

def append (t : Table α) (key : Key) (item : α) : Table α :=
  { t with entries := t.entries ++ [(key, item)] }

def replace (t : Table α) (key : Text) (item : α) : Table α :=
  { t with entries := t.entries.map fun e => if e.1.text = key then (e.1, item) else e }

def erase (t : Table α) (key : Text) : Table α :=
  { t with entries := t.entries.filter (·.1.text ≠ key) }

/-- Acts on the table at the end of a path and makes the tables that are missing on the way. A
    dotted path may not enter a table that has a header, and none enters braces. Of tables under
    one repeated header the last is entered. -/
def visit {β : Type} (dotted : Bool) (act : Table Item → Option (β × Table Item)) :
    List Key → Table Item → Option (β × Table Item)
  | [], t => act t
  | key :: path, t =>
      match t.find? key.text with
      | none => do
          let (result, child) ←
            visit dotted act path { kind := if dotted then .dotted else .implied }
          return (result, t.append key (.table child))
      | some (.table child) =>
          if child.kind = .inline || (dotted && child.kind = .header) then none
          else do
            let (result, child) ← visit dotted act path child
            return (result, t.replace key.text (.table child))
      | some (.tables elements) => do
          let (result, last) ← visit dotted act path (← elements.getLast?)
          return (result, t.replace key.text (.tables (elements.dropLast ++ [last])))
      | some _ => none

def addNew (key : Key) (item : Item) (t : Table Item) : Option (Unit × Table Item) :=
  if (t.find? key.text).isSome then none else some ((), t.append key item)

/-- One `path.key = item`. A path ends in a table made by dotted keys; without a path the table at
    hand is none of these. -/
def addEntry (path : List Key) (key : Key) (item : Item) (t : Table Item) : Option (Table Item) :=
  let add (target : Table Item) :=
    if (target.kind == .dotted) = path.isEmpty then none else addNew key item target
  (visit true add path t).map (·.2)

end Table

def Span.cover (first last : Option Span) : Option Span := do
  return ⟨(← first).start, (← last).stop⟩

def Item.span? : Item → Option Span
  | .scalar _ span => some span
  | .array _ span => some span
  | .table t => t.span
  | .tables elements => Span.cover (elements.head?.bind (·.span)) (elements.getLast?.bind (·.span))

end BlockScript.SettingsFile
