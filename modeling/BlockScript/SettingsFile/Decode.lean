import BlockScript.Settings
import BlockScript.SettingsFile.Document
import BlockScript.SettingsFile.Misfit

/-!
Settings described by a document. Every field may be absent, and type tables add to the default
ones. Fields are taken in the order of the document; the first misfit is the answer.
-/
namespace BlockScript.SettingsFile

abbrev Decode := Except Misfit

def Item.place (item : Item) (key : Key) : Span := item.span?.getD key.span

def wrongType {α : Type} (expected : Expected) (item : Item) (place : Span) : Decode α :=
  .error ⟨.wrongType item.describe expected, place⟩

def textField (key : Key) : Item → Decode Text
  | .scalar (.text value) _ => .ok value
  | item => wrongType .text item (item.place key)

def booleanField (key : Key) : Item → Decode Bool
  | .scalar (.boolean value) _ => .ok value
  | item => wrongType .boolean item (item.place key)

/-- The field under which an instant stands where a table is expected. -/
def instantField : Text := "$__toml_private_datetime"

def spellings (item : Item) (place : Span) : Decode (List (Text × Text)) :=
  match item with
  | .table t => t.entries.mapM fun (key, item) => return (key.text, ← textField key item)
  | .scalar (.instant display) _ => .ok [(instantField, display)]
  | item => wrongType .spellings item place

structure Overrides where
  pseudocode : List (Text × Text) := []
  cpp : List (Text × Text) := []

namespace Overrides

def known : List Text := ["algorithmic", "cpp"]

def field (o : Overrides) (key : Key) (item : Item) : Decode Overrides := do
  let place := item.place key
  if key.text = "algorithmic" then return { o with pseudocode := ← spellings item place }
  else if key.text = "cpp" then return { o with cpp := ← spellings item place }
  else .error ⟨.unknownField key.text known, key.span⟩

/-- Both tables by position; what follows the second is ignored. -/
def ofElements (place : Span) : List Item → Decode Overrides
  | [] => .ok {}
  | [first] => return { pseudocode := ← spellings first (first.span?.getD place) }
  | first :: second :: _ => do
      let pseudocode ← spellings first (first.span?.getD place)
      return { pseudocode, cpp := ← spellings second (second.span?.getD place) }

def ofItem (item : Item) (place : Span) : Decode Overrides :=
  match item with
  | .table t => t.entries.foldlM (fun o (key, item) => o.field key item) {}
  | .array elements _ => ofElements place elements
  | .tables elements => ofElements place (elements.map .table)
  | .scalar (.instant _) _ => .error ⟨.unknownField instantField known, place⟩
  | item => wrongType .overrides item place

end Overrides

def knownFields : List Text :=
  ["indent", "pointers", "struct_keyword", "using_namespace_std", "namespace", "types"]

def applyField (s : Settings) (key : Key) (item : Item) : Decode Settings := do
  if key.text = "indent" then return { s with indent := ← textField key item }
  else if key.text = "pointers" then return { s with pointers := ← booleanField key item }
  else if key.text = "struct_keyword" then
    return { s with structKeyword := ← booleanField key item }
  else if key.text = "using_namespace_std" then
    return { s with importNamespace := ← booleanField key item }
  else if key.text = "namespace" then return { s with namespaceName := ← textField key item }
  else if key.text = "types" then
    let overrides ← Overrides.ofItem item (item.place key)
    return { s with
      pseudocodeTypes := s.pseudocodeTypes.extend overrides.pseudocode
      cppTypes := s.cppTypes.extend overrides.cpp }
  else .error ⟨.unknownField key.text knownFields, key.span⟩

def settingsOf (document : Table Item) : Decode Settings :=
  document.entries.foldlM (fun s (key, item) => applyField s key item) {}

end BlockScript.SettingsFile
