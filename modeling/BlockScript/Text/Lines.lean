import BlockScript.Text.Basic

/-!
A text cut into lines. `lines` is the reading order of a program; `lineSpan` finds a line again as
a range of bytes, for reports. Both cut on the line feed alone and take one carriage return before
it away.
-/
namespace BlockScript

structure Span where
  start : Nat
  stop : Nat
  deriving DecidableEq, Repr

namespace Text

def dropReturn (t : Text) : Text := if t.endsWith (· == '\r') then t.dropLast else t

/-- A final line feed starts no further line, and what follows the last one keeps its carriage
    return. -/
def lines (source : Text) : List Text :=
  let pieces := source.splitOn '\n'
  let rest := pieces.getLastD []
  pieces.dropLast.map dropReturn ++ if rest = [] then [] else [rest]

def lineSpanFrom (start : Nat) : List Text → Nat → Option Span
  | [], _ => none
  | piece :: _, 0 => some ⟨start, start + utf8Length (dropReturn piece)⟩
  | piece :: rest, n + 1 => lineSpanFrom (start + utf8Length piece + 1) rest n

/-- Bytes of the line numbered from 1, without its line end. -/
def lineSpan (source : Text) : Nat → Option Span
  | 0 => none
  | n + 1 => lineSpanFrom 0 (source.splitOn '\n') n

end Text
end BlockScript
