import BlockScript.Failure
import BlockScript.Text.Blank
import BlockScript.Text.Columns

/-!
A failure shown to the reader, with the source line it is about and a label under it, in colours.
The label covers the line by positions in characters; the span of the line is given in bytes, so
characters of several bytes before the line move the label.
-/
namespace BlockScript

namespace Report

inductive Colour where
  | red | frame | margin | plain
  deriving DecidableEq, Repr

def Colour.code : Colour → Text
  | red => "31"
  | frame => "38;5;246"
  | margin => "38;5;240"
  | plain => "38;5;249"

def paint (colour : Colour) (t : Text) : Text := "\x1b[" ++ colour.code ++ "m" ++ t ++ "\x1b[0m"

def paintTimes (n : Nat) (colour : Colour) (t : Text) : Text := Text.times n (paint colour t)

def spaces (n : Nat) : Text := List.replicate n ' '

def isLineEnd (c : Char) : Bool :=
  c ∈ ['\n', '\r', '\x0b', '\x0c', '\u0085', '\u2028', '\u2029']

def displayLines : Text → List Text
  | [] => []
  | c :: rest =>
      if isLineEnd c && !(c == '\r' && rest.head? == some '\n') then [c] :: displayLines rest
      else
        match displayLines rest with
        | [] => [[c]]
        | line :: lines => (c :: line) :: lines

/-- Offset, number from 1 and text of the displayed line that a character lies in. The position
    behind the last character belongs to the last line. -/
structure Located where
  offset : Nat
  number : Nat
  text : Text

def locate (position offset number : Nat) : List Text → Located
  | [] => ⟨offset, number, []⟩
  | [line] => ⟨offset, number, line⟩
  | line :: rest =>
      if position < offset + line.length then ⟨offset, number, line⟩
      else locate position (offset + line.length) (number + 1) rest

structure Label where
  /-- In characters from the start of the source. -/
  span : Span
  detail : Text
  located : Located

namespace Label

variable (l : Label)

def covers (column : Nat) : Bool :=
  l.span.start ≤ l.located.offset + column && l.located.offset + column < l.span.stop

def digits : Nat := (Text.ofNat l.located.number).length

def shown : Text := Text.trimEnd l.located.text

def width (column : Nat) (c : Char) : Nat :=
  if c = '\t' then 4 - column % 4 else if Text.isBlankChar c then 1 else Text.columns c

def widthAt (column : Nat) : Nat := (l.shown[column]?.map (width column)).getD 1

def anchor : Nat := (l.span.start + l.span.stop) / 2 - l.located.offset

def reach : Nat := l.span.stop - l.located.offset + 2

def heading : Text :=
  spaces (l.digits + 2) ++ paint .frame "╭" ++ paint .frame "─" ++ paint .frame "[" ++
    " <unknown>:" ++ Text.ofNat l.located.number ++ ":" ++
    Text.ofNat (l.span.start - l.located.offset + 1) ++ " " ++ paint .frame "]" ++ "\n" ++
  spaces (l.digits + 2) ++ paint .frame "│" ++ "\n"

def margin : Text := " " ++ paint .margin (spaces (l.digits + 1) ++ "│") ++ " "

def sourceCell (column : Nat) (c : Char) : Text :=
  let colour := if l.covers column then Colour.red else .plain
  if Text.isBlankChar c then paintTimes (width column c) colour " " else paint colour [c]

def sourceRow : Text :=
  " " ++ paint .frame (Text.ofNat l.located.number ++ " │") ++ " " ++
    l.shown.zipIdx.flatMap (fun (c, column) => l.sourceCell column c) ++ "\n"

/-- A sign with its continuation over the columns of a cell; a cell may have none. -/
def stretch (width : Nat) (sign tail : Text) : Text :=
  if width = 0 then [] else sign ++ Text.times (width - 1) tail

def ruleCell (column : Nat) : Text :=
  let width := l.widthAt column
  if column = l.anchor then
    if l.covers column then stretch width (paint .red "┬") (paint .red "─")
    else stretch width (paint .red "│") (paint .red " ")
  else if l.covers column then paintTimes width .red "─"
  else spaces width

def hookCell (column : Nat) : Text :=
  let width := l.widthAt column
  if column = l.anchor then stretch width (paint .red "╰") (paint .red "─")
  else if l.anchor < column then paintTimes width .red "─"
  else spaces width

def ruleRow : Text := l.margin ++ (List.range l.reach).flatMap l.ruleCell ++ "\n"

def messageRow : Text :=
  l.margin ++ (List.range l.reach).flatMap l.hookCell ++ " " ++ l.detail ++ "\n"

def footer : Text := paint .frame (Text.times (l.digits + 2) "─" ++ "╯") ++ "\n"

/-- A label that ends behind the text of its line has no rows of its own. -/
def render : Text :=
  let stop := l.located.offset + l.located.text.length
  l.heading ++
    (if stop < l.span.stop then l.margin ++ "\n"
     else l.sourceRow ++ l.ruleRow ++ l.messageRow) ++
    l.footer

end Label

def labelSpan (source : Text) (line : Nat) : Span := (Text.lineSpan source line).getD ⟨0, 0⟩

def label? (source : Text) (line : Nat) (detail : Text) : Option Label :=
  let span := labelSpan source line
  if source.length < span.start || (span.start < span.stop && source.length < span.stop - 1) then
    none
  else some ⟨span, detail, locate span.start 0 1 (displayLines source)⟩

def title (category : Category) (filename : Text) (line : Nat) : Text :=
  paint .red "Error:" ++ " " ++ category.title ++ " in " ++ filename ++
    " (line " ++ Text.ofNat line ++ ")\n"

end Report

def Failure.report (failure : Failure) (source filename : Text) : Text :=
  match failure.line with
  | none => failure.message
  | some line =>
      Report.title failure.category filename line ++
        ((Report.label? source line failure.detail).map Report.Label.render).getD []

end BlockScript
