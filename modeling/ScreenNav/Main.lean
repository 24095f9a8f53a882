import ScreenNav.Command

/-!
# The program

Reads the file that the command line names, and does what the library says with it: shows text,
writes a file, and ends with an exit code.
-/

namespace ScreenNav

/-- What the file system says about a file that could not be read. -/
def FileError.ofIO : IO.Error → FileError
  | .inappropriateType none .. => .isDirectory
  | .inappropriateType (some _) .. => .notDirectory
  | .invalidArgument .. => .nameTooLong
  | _ => .notFound

/-- The content of a file, or why it cannot be read. -/
def readContent (path : String) : IO (Except FileError ByteArray) := do
  if (Path.ofText path).hasNull then return .error .nullCharacter
  try
    return .ok (← IO.FS.readBinFile path)
  catch e => return .error (FileError.ofIO e)

/-- Writes a file after making the directories that lead to it; says whether that worked. -/
def writeContent (path : Path) (source : String) : IO Bool := do
  try
    IO.FS.createDirAll path.parent.text
    IO.FS.writeFile path.text source
    return true
  catch _ => return false

/-- Runs a request on the files of the system. -/
def Request.perform (request : Request) : IO Outcome := do
  let content ← match request.input? with
    | some path => readContent path
    | none => pure (.error .notFound)
  let response := request.respond content
  match response.result with
  | .error e => return .failure response.log e
  | .ok (.shown text) => return .success text response.log
  | .ok (.file directory generated) =>
    let done ← writeContent generated.path generated.source
    return .written directory generated.path response.log done

/-- Shows how a command has ended. -/
def Outcome.present (o : Outcome) : IO UInt32 := do
  IO.print o.output
  for record in o.log do
    IO.eprintln (record.level.name ++ " " ++ record.message)
  IO.eprint o.errors
  match o.abort with
  | some (.file e) => IO.eprintln e.message
  | some _ => IO.eprintln "the file is not a declaration file"
  | none => pure ()
  return o.exitCode.toUInt32

/-- Runs the program with the given arguments. -/
def runProgram (arguments : List String) : IO UInt32 := do
  let line := CommandLine.read arguments
  let outcome ← match line.request with
    | .error e => pure (Outcome.misuse line.command e)
    | .ok request => request.perform
  (outcome.trimLog line.verbose).present

end ScreenNav

/-- Runs the program. -/
def main (arguments : List String) : IO UInt32 := ScreenNav.runProgram arguments
