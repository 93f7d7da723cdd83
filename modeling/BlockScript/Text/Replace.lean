import BlockScript.Text.Basic

/-!
Replacement of every occurrence of a pattern. The scan goes from left to right and continues
behind each occurrence, so occurrences do not overlap and inserted text is not scanned again.
-/
namespace BlockScript.Text

/-- Passes over the next `skip` characters, which an occurrence already covered. -/
def replaceFrom (pattern insert : Text) : Nat → Text → Text
  | _, [] => []
  | skip + 1, _ :: rest => replaceFrom pattern insert skip rest
  | 0, c :: rest =>
      if pattern.isPrefixOf (c :: rest) then
        insert ++ replaceFrom pattern insert (pattern.length - 1) rest
      else c :: replaceFrom pattern insert 0 rest

def replaceAll (pattern insert t : Text) : Text :=
  if pattern = [] then t else replaceFrom pattern insert 0 t

end BlockScript.Text
