import BlockScript.Decimal.Shortest
import BlockScript.SettingsFile.Excerpt
import BlockScript.SettingsFile.Item
import BlockScript.Text.Quoted

/-!
What is wrong with a document that can be read but does not describe settings.
-/
namespace BlockScript.SettingsFile

def Number.display : Number → Text
  | finite negative magnitude =>
      let shown := magnitude.shortest.positional
      (if negative then "-" else "") ++ if '.' ∈ shown then shown else shown ++ ".0"
  | infinite negative => if negative then "-inf" else "inf"
  | nan => "NaN"

def ticked (t : Text) : Text := "`" ++ t ++ "`"

def integerText (n : Int) : Text :=
  if n < 0 then '-' :: Text.ofNat n.natAbs else Text.ofNat n.natAbs

/-- An instant counts as a table of one field. -/
def Item.describe : Item → Text
  | .scalar (.text value) _ => "string " ++ Text.quoted value
  | .scalar (.integer value) _ => "integer " ++ ticked (integerText value)
  | .scalar (.float value) _ => "floating point " ++ ticked value.display
  | .scalar (.boolean value) _ => "boolean " ++ ticked (if value then "true" else "false")
  | .scalar (.instant _) _ | .table _ => "map"
  | .array _ _ | .tables _ => "sequence"

inductive Expected where
  | text | boolean | spellings | overrides
  deriving DecidableEq, Repr

def Expected.describe : Expected → Text
  | text => "a string"
  | boolean => "a boolean"
  | spellings => "a map"
  | overrides => "struct TypeOverrides"

inductive Problem where
  | unknownField (name : Text) (known : List Text)
  | wrongType (found : Text) (expected : Expected)
  deriving DecidableEq, Repr

def alternatives : List Text → Text
  | [a, b] => ticked a ++ " or " ++ ticked b
  | [a] => ticked a
  | names => "one of " ++ Text.join ", " (names.map ticked)

def Problem.message : Problem → Text
  | unknownField name known =>
      "unknown field " ++ ticked name ++ ", expected " ++ alternatives known
  | wrongType found expected =>
      "invalid type: " ++ found ++ ", expected " ++ expected.describe

structure Misfit where
  problem : Problem
  span : Span
  deriving DecidableEq, Repr

end BlockScript.SettingsFile
