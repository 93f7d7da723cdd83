import BlockScript.CommandLine.Run

/-!
The command line on real files.
-/
namespace BlockScript

/-- Error numbers of the system, some of which arrive negated. -/
def fileError : IO.Error → FileError
  | .noFileOrDirectory .. => .notFound
  | .inappropriateType file code details =>
      if code = 20 || -code = 20 then .notDirectory
      else if code = 21 || -code = 21 then .isDirectory
      else .described (toString (IO.Error.inappropriateType file code details))
  | .invalidArgument file code details =>
      if code = 36 then .nameTooLong
      else .described (toString (IO.Error.invalidArgument file code details))
  | error => .described (toString error)

def attempt {α : Type} (action : IO α) : IO (Except FileError α) := do
  match ← action.toBaseIO with
  | .ok a => return .ok a
  | .error error => return .error (fileError error)

def Disk.real : Disk IO where
  read path := do
    match ← attempt (IO.FS.readBinFile (String.ofList path)) with
    | .error error => return .error error
    | .ok data =>
        match String.fromUTF8? data with
        | some text => return .ok text.toList
        | none => return .error .notText
  write path text := attempt (IO.FS.writeFile (String.ofList path) (String.ofList text))

end BlockScript

def main (args : List String) : IO UInt32 := do
  let outcome ← BlockScript.CommandLine.run BlockScript.Disk.real (args.map String.toList)
  IO.print (String.ofList outcome.stdout)
  IO.eprint (String.ofList outcome.stderr)
  return outcome.code.toUInt32
