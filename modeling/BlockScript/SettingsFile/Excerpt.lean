import BlockScript.Text.Lines

/-!
The line of a document that a message shows, with a row of marks under the part at fault. Lines end
at a line feed only; columns count characters, but the number of marks is the size of the part in
bytes, as far as the line reaches.
-/
namespace BlockScript.SettingsFile

structure Excerpt where
  line : Nat
  column : Nat
  content : Text
  marks : Nat
  deriving DecidableEq, Repr

namespace Excerpt

def before (offset : Nat) : Text → Text
  | [] => []
  | c :: rest => if c.utf8Size ≤ offset then c :: before (offset - c.utf8Size) rest else []

def ofSpan (source : Text) (span : Span) : Excerpt :=
  let passed := before span.start source
  let line := passed.count '\n'
  let column := (passed.reverse.takeWhile (· ≠ '\n')).length
  let content := (source.splitOn '\n').getD line []
  let stop := min span.stop (span.start + Text.utf8Length content - column)
  { line := line + 1, column := column + 1, content, marks := max 1 (stop - span.start) }

/-- The margin is as wide as the line number and one blank. -/
def render (e : Excerpt) : Text :=
  let number := Text.ofNat e.line
  let margin := Text.times (number.length + 1) " "
  margin ++ "|\n" ++ number ++ " | " ++ e.content ++ "\n" ++
    margin ++ "|" ++ Text.times e.column " " ++ Text.times e.marks "^" ++ "\n"

end Excerpt
end BlockScript.SettingsFile
