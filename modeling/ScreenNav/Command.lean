import ScreenNav.Command.Arguments
import ScreenNav.Command.Console
import ScreenNav.Declaration.Parse
import ScreenNav.Document
import ScreenNav.Navigator.Source
import ScreenNav.Text.ControlSequence
import ScreenNav.Text.Newline
import ScreenNav.Workspace

/-!
# Commands

What the subcommands do with the files of a workspace.

**Generating** reads a file, builds the navigator of its screens, and writes it below a directory.
The package and the strictness given on the command line go before those in the file. Everything is
checked before anything is written, so a command that fails leaves all files as they were.

**Reporting** and **parsing** only show what a file declares.

**Failures.** A command that fails for a reason in the declarations, or because it cannot write,
says so in one line. A file that cannot be read, or that is not a declaration file at all, ends the
command with the error itself.
-/

namespace ScreenNav

/-- An error that ends a command without a message of its own. -/
inductive Abort where
  /-- The file cannot be read, or has no place that it could be written to. -/
  | file (error : FileError)
  /-- The file is not encoded as text. -/
  | undecodable
  | unparsable (error : ParseError)
  | badTypeName (error : TypeNameError)
deriving DecidableEq, Repr

/-- Why a command does not do what it was asked to. -/
inductive CommandError where
  /-- The command says why. -/
  | reported (message : String)
  | aborted (abort : Abort)
deriving DecidableEq, Repr

/-! ## Reading -/

/-- The text of a file. -/
def decodeText (content : ByteArray) : Except Abort String :=
  match String.fromUTF8? content with
  | some text => .ok (String.ofList (Text.unifyNewlines text.toList))
  | none => .error .undecodable

/-- An error in the declarations is reported; text that has none ends the command. -/
def ParseError.toCommandError : ParseError → CommandError
  | .invalid e => .reported e.message
  | e => .aborted (.unparsable e)

/-- The declarations in a file. -/
def readDeclarations (content : Except FileError ByteArray) : Except CommandError Declarations := do
  let bytes ← content.mapError fun e => .aborted (.file e)
  let text ← (decodeText bytes).mapError .aborted
  (parse text).mapError ParseError.toCommandError

/-- The screens that declarations make up. -/
def Declarations.screens (d : Declarations) : Except CommandError (List Screen) := do
  let fields ← (scan d.classes).mapError fun e => .reported e.message
  (Screen.gather ⟨d.types⟩ fields).mapError fun e => .aborted (.badTypeName e)

/-! ## Generating -/

/-- Settings with those of a command line in place of those of a file. -/
structure Overrides where
  package : Option String
  strict : Option Bool
deriving DecidableEq, Repr

/-- The package to generate into. -/
def Overrides.packageFor (o : Overrides) (settings : Settings) : Except CommandError String :=
  match o.package with
  | none => .ok settings.package
  | some package =>
    if PackageName.isValid package then .ok package
    else .error (.reported ("--package must be a package name, not " ++ Text.quoted package))

/-- An error of generation is reported, unless a type name has no meaning. -/
def GenerationError.toCommandError : GenerationError → CommandError
  | .badTypeName e => .aborted (.badTypeName e)
  | e => .reported e.message

/-- The source of a navigator and where it belongs. -/
structure Generated where
  path : Path
  source : String

/-- Everything that generation needs. -/
structure Preparation where
  package : String
  strict : Bool
  screens : List Screen

/-- Prepares generation from declarations. -/
def Declarations.prepare (d : Declarations) (o : Overrides) : Except CommandError Preparation := do
  let screens ← d.screens
  let settings := Settings.ofOptions d.options
  let package ← o.packageFor settings
  return ⟨package, o.strict.getD settings.strict, screens⟩

/-! ## Responses -/

/-- What a command comes to before anything is written. -/
inductive Product where
  /-- Text to show. -/
  | shown (text : String)
  /-- A file to write below the directory that was named. -/
  | file (directory : String) (generated : Generated)

/-- What a request comes to, and what was reported on the way. -/
structure Response where
  log : List LogRecord
  result : Except CommandError Product

/-- What was generated for a directory, if there can be such a file. -/
def Generated.product (directory : String) (generated : Generated) : Except CommandError Product :=
  if generated.path.hasNull then .error (.aborted (.file .nullCharacter))
  else .ok (.file directory generated)

/-- Generates from what was prepared. -/
def Preparation.generate (p : Preparation) (directory : String) : Response :=
  let build := Navigator.build p.package p.strict p.screens
  ⟨build.log, do
    let navigator ← build.result.mapError GenerationError.toCommandError
    Generated.product directory ⟨outputPath directory p.package, navigator.source⟩⟩

/-- Generates from declarations, for a directory. -/
def Declarations.generate (d : Declarations) (o : Overrides) (directory : String) : Response :=
  match d.prepare o with
  | .error e => ⟨[], .error e⟩
  | .ok p => p.generate directory

/-- The report on declarations. -/
def Declarations.report (d : Declarations) (json : Bool) : Except CommandError String := do
  let screens ← d.screens
  let package := (Settings.ofOptions d.options).package
  return if json then (reportDocument package screens).text
    else String.join ((reportLines package screens).map (· ++ "\n"))

/-- The report on the content of a file. -/
def showReport (content : Except FileError ByteArray) (json : Bool) :
    Except CommandError String := do
  let d ← readDeclarations content
  d.report json

/-- The declarations in the content of a file, as a document. -/
def showDeclarations (content : Except FileError ByteArray) : Except CommandError String := do
  let d ← readDeclarations content
  return d.document.text

/-- The file that a request is about. -/
def Request.input? : Request → Option String
  | .gen input .. | .info input _ | .parse input => some input
  | .help _ => none

/-- What a request comes to, given the content of its file. -/
def Request.respond (content : Except FileError ByteArray) : Request → Response
  | .gen _ output package strict =>
    match readDeclarations content with
    | .error e => ⟨[], .error e⟩
    | .ok d => d.generate ⟨package, strict⟩ output
  | .info _ json => ⟨[], (showReport content json).map .shown⟩
  | .parse _ => ⟨[], (showDeclarations content).map .shown⟩
  | .help command => ⟨[], .ok (.shown (usageReminder command))⟩

/-! ## Outcomes -/

/-- How a command ends. -/
structure Outcome where
  exitCode : Nat
  /-- What the command shows. -/
  output : String
  /-- What the command complains of. -/
  errors : String
  log : List LogRecord
  abort : Option Abort

namespace Outcome

/-- The log as far as it is wanted: all of it, or warnings and errors only. -/
def wanted (verbose : Bool) (log : List LogRecord) : List LogRecord :=
  log.filter fun r => verbose || r.level ≠ .debug

/-- The end of a command that has done what it was asked to. -/
def success (output : String) (log : List LogRecord) : Outcome := ⟨0, output, "", log, none⟩

/-- The end of a command that has failed. -/
def failure (log : List LogRecord) : CommandError → Outcome
  | .reported message => ⟨1, "", Console.errorLine message, log, none⟩
  | .aborted abort => ⟨1, "", "", log, some abort⟩

/-- Text as it appears where control sequences have no effect. -/
def plain (text : String) : String :=
  String.ofList (Text.joinNewlines (Text.withoutSequences text.toList))

/-- The end of a command with something wrong in its arguments. -/
def misuse (command : Option Subcommand) (error : UsageError) : Outcome :=
  ⟨2, "", plain (error.report command), [], none⟩

/-- The end of a command that had a file to write. -/
def written (directory : String) (path : Path) (log : List LogRecord) : Bool → Outcome
  | true => success "" (log ++ [.wrote path.text])
  | false =>
    failure (log ++ [.couldNotWrite path.text]) <| .reported <|
      "could not write " ++ Navigator.className ++ ".java below " ++ directory

/-- The outcome with the wanted part of its log. -/
def trimLog (verbose : Bool) (o : Outcome) : Outcome := { o with log := wanted verbose o.log }

end Outcome

/-- Runs a request on the files of a workspace. -/
def Request.run (w : Workspace) (request : Request) : Outcome × Workspace :=
  let content := w.read (request.input?.getD "")
  let response := request.respond content
  match response.result with
  | .error e => (.failure response.log e, w)
  | .ok (.shown text) => (.success text response.log, w)
  | .ok (.file directory generated) =>
    let (after, done) := w.write generated.path generated.source.toUTF8
    (.written directory generated.path response.log done, after)

/-- Runs the program with the given arguments on the files of a workspace. -/
def runCommand (w : Workspace) (arguments : List String) : Outcome × Workspace :=
  let line := CommandLine.read arguments
  match line.request with
  | .error e => (.misuse line.command e, w)
  | .ok request =>
    let (outcome, after) := request.run w
    (outcome.trimLog line.verbose, after)

end ScreenNav
