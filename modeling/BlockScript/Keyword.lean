import BlockScript.Text.Basic

/-!
The structural keywords of the notation and their spellings.
-/
namespace BlockScript

inductive Keyword where
  | arr | struct | init | const | delete
  | forLoop | whileLoop | ifBlock | elifBlock | elseBlock | switch | case | default | close
  | fx | vars | fxStart | returnValue | returnCode
  | print | input
  | precond | data | datar | result | desc
  deriving DecidableEq, Repr

namespace Keyword

def all : List Keyword :=
  [arr, struct, init, const, delete, forLoop, whileLoop, ifBlock, elifBlock, elseBlock, switch,
   case, default, close, fx, vars, fxStart, returnValue, returnCode, print, input, precond, data,
   datar, result, desc]

def spelling : Keyword → Text
  | arr => "arr"
  | struct => "struct"
  | init => "init"
  | const => "const"
  | delete => "delete"
  | forLoop => "for"
  | whileLoop => "while"
  | ifBlock => "if"
  | elifBlock => "elif"
  | elseBlock => "else"
  | switch => "switch"
  | case => "case"
  | default => "default"
  | close => "end"
  | fx => "fx"
  | vars => "vars"
  | fxStart => "fx_start"
  | returnValue => "return"
  | returnCode => "CODE_RETOUR"
  | print => "print"
  | input => "input"
  | precond => "precond"
  | data => "data"
  | datar => "datar"
  | result => "result"
  | desc => "desc"

def ofText? (word : Text) : Option Keyword := all.find? fun k => k.spelling == word

/-- The line stands one level above the block it opens or continues. `close` is not listed: its
    block is already gone when the line is indented. -/
def isDelimiter : Keyword → Bool
  | forLoop | whileLoop | ifBlock | elifBlock | elseBlock | switch | case | default
  | fx | vars | fxStart => true
  | _ => false

theorem mem_all (k : Keyword) : k ∈ all := by cases k <;> decide

theorem ofText?_spelling (k : Keyword) : ofText? k.spelling = some k := by cases k <;> decide

theorem spelling_of_ofText? {word : Text} {k : Keyword} (h : ofText? word = some k) :
    k.spelling = word := by
  simpa using List.find?_some h

theorem ofText?_eq_some_iff {word : Text} {k : Keyword} :
    ofText? word = some k ↔ word = k.spelling :=
  ⟨fun h => (spelling_of_ofText? h).symm, fun h => h ▸ ofText?_spelling k⟩

end Keyword
end BlockScript
