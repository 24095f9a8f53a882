import ScreenNav.Text.Quoted
import ScreenNav.Text.Similarity
import ScreenNav.Text.Split

/-!
# Command line arguments

What the arguments of a command line say, and what is wrong with those that say nothing.

**Options.** A long option stands behind two dashes. Its value follows as the next argument or
behind an equals sign. Short options have one letter and one dash; several may share a dash, and the
value of one that needs it is the rest of the argument or else the next argument. Two dashes alone
end the options.

**Other arguments.** A subcommand takes options before and behind its other arguments. The program
itself stops at the first argument that is no option, which names the subcommand.

**Errors** are found from left to right. Most are shown below a reminder of how the command is used.
-/

namespace ScreenNav

/-- The subcommands. -/
inductive Subcommand where
  | gen
  | info
  | parse
deriving DecidableEq, Repr

namespace Subcommand

/-- All subcommands. -/
def all : List Subcommand := [.gen, .info, .parse]

/-- The name of a subcommand. -/
def name : Subcommand → String
  | .gen => "gen"
  | .info => "info"
  | .parse => "parse"

/-- The subcommand with the given name. -/
def ofName? (name : String) : Option Subcommand := all.find? (·.name = name)

end Subcommand

/-- What an option is for. -/
inductive OptionKey where
  | help
  | verbose
  | input
  | output
  | package
  | strict
  | noStrict
  | json
deriving DecidableEq, Repr

/-- The option has a value. -/
def OptionKey.takesValue : OptionKey → Bool
  | .input | .output | .package => true
  | _ => false

/-- The options of a command, by their spelling. -/
abbrev OptionTable := List (String × OptionKey)

/-- The options of the program itself. -/
def programOptions : OptionTable :=
  [("--verbose", .verbose), ("-v", .verbose), ("--help", .help)]

/-- The options of a subcommand. -/
def Subcommand.options : Subcommand → OptionTable
  | .gen => [("--input", .input), ("-i", .input), ("--output", .output), ("-o", .output),
      ("--package", .package), ("-p", .package), ("--strict", .strict), ("--no-strict", .noStrict),
      ("--help", .help)]
  | .info => [("--input", .input), ("-i", .input), ("--json", .json), ("--help", .help)]
  | .parse => [("--input", .input), ("-i", .input), ("--help", .help)]

/-! ## Errors -/

/-- What is wrong with a command line. -/
inductive UsageError where
  | unknownOption (spelling : String) (suggestions : List String)
  | missingValue (spelling : String)
  | unexpectedValue (spelling : String)
  /-- An option that has to be given, by its spellings. -/
  | missingOption (spellings : List String)
  | extraArguments (arguments : List String)
  | unknownCommand (name : String) (suggestions : List String)
  | missingCommand
deriving DecidableEq, Repr

namespace UsageError

/-- A guess at what was meant, behind the complaint. -/
def guess : List String → String
  | [] => ""
  | [suggestion] => " Did you mean " ++ Text.quoted suggestion ++ "?"
  | suggestions =>
    let sorted := suggestions.mergeSort fun a b => decide (a ≤ b)
    " (Did you mean one of: " ++ ", ".intercalate (sorted.map Text.quoted) ++ "?)"

/-- The wording of an error. -/
def message : UsageError → String
  | .unknownOption spelling suggestions =>
    "No such option " ++ Text.quoted spelling ++ "." ++ guess suggestions
  | .missingValue spelling => "Option " ++ Text.quoted spelling ++ " requires an argument."
  | .unexpectedValue spelling => "Option " ++ Text.quoted spelling ++ " does not take a value."
  | .missingOption spellings =>
    "Missing option " ++ " / ".intercalate (spellings.map Text.quoted) ++ "."
  | .extraArguments arguments =>
    "Got unexpected extra argument" ++ (if arguments.length = 1 then "" else "s")
      ++ " (" ++ " ".intercalate arguments ++ ")"
  | .unknownCommand name suggestions =>
    "No such command " ++ Text.quoted name ++ "." ++ guess suggestions
  | .missingCommand => "Missing command."

/-- The error is shown below a reminder of how the command is used. -/
def remindsOfUsage : UsageError → Bool
  | .missingValue _ | .unexpectedValue _ => false
  | _ => true

end UsageError

/-- The usage of a command and where to find more. -/
def usageReminder (command : Option Subcommand) : String :=
  let (path, rest) := match command with
    | none => ("navgen", " [OPTIONS] COMMAND [ARGS]...")
    | some c => ("navgen " ++ c.name, " [OPTIONS]")
  "Usage: " ++ path ++ rest ++ "\nTry '" ++ path ++ " --help' for help.\n"

/-- The text that an error in the arguments of a command is reported with. -/
def UsageError.report (command : Option Subcommand) (e : UsageError) : String :=
  (if e.remindsOfUsage then usageReminder command ++ "\n" else "") ++ "Error: " ++ e.message ++ "\n"

/-! ## Options and other arguments -/

/-- The options given on a command line with their values, and the other arguments. -/
structure Arguments where
  options : List (OptionKey × String)
  others : List String
deriving DecidableEq, Repr

/-- Options that one argument gives. The last may still want its value. -/
structure Given where
  options : List (OptionKey × String)
  wanting : Option (OptionKey × String)

/-- The options that short letters behind one dash give. -/
def shortOptions (table : OptionTable) : List Char → Except UsageError Given
  | [] => .ok ⟨[], none⟩
  | letter :: rest =>
    let spelling := String.ofList ['-', letter]
    match table.lookup spelling with
    | none => .error (.unknownOption spelling [])
    | some key =>
      if ¬ key.takesValue then
        (shortOptions table rest).map fun given =>
          { given with options := (key, "") :: given.options }
      else if rest = [] then .ok ⟨[], some (key, spelling)⟩
      else .ok ⟨[(key, String.ofList rest)], none⟩

/-- The long spellings in a table. -/
def OptionTable.long (table : OptionTable) : OptionTable :=
  table.filter fun entry => "--".toList.isPrefixOf entry.1.toList

/-- The options that an argument with a dash gives. -/
def givenOptions (table : OptionTable) (argument : String) : Except UsageError Given :=
  let (spelling, attached) := match Text.cut? '=' argument.toList with
    | some (before, behind) => (String.ofList before, some (String.ofList behind))
    | none => (argument, none)
  match table.long.lookup spelling, attached with
  | some key, some value =>
    if key.takesValue then .ok ⟨[(key, value)], none⟩ else .error (.unexpectedValue spelling)
  | some key, none =>
    if key.takesValue then .ok ⟨[], some (key, spelling)⟩ else .ok ⟨[(key, "")], none⟩
  | none, _ =>
    if "--".toList.isPrefixOf argument.toList then
      .error (.unknownOption spelling (Text.closeMatches spelling (table.long.map (·.1))))
    else shortOptions table (argument.toList.drop 1)

/-- An argument that gives options: a dash with something behind it. -/
def givesOptions (argument : String) : Bool :=
  argument.toList.head? = some '-' && 1 < argument.length

/-- Sorts out options and other arguments. If `mixed` is false, options end at the first other
argument. -/
def Arguments.scan (table : OptionTable) (mixed : Bool) : List String → Except UsageError Arguments
  | [] => .ok ⟨[], []⟩
  | argument :: rest =>
    if argument = "--" then .ok ⟨[], rest⟩
    else if givesOptions argument then
      match givenOptions table argument with
      | .error e => .error e
      | .ok ⟨options, none⟩ =>
        (scan table mixed rest).map fun a => { a with options := options ++ a.options }
      | .ok ⟨options, some (key, spelling)⟩ =>
        match rest with
        | [] => .error (.missingValue spelling)
        | value :: rest =>
          (scan table mixed rest).map fun a =>
            { a with options := options ++ (key, value) :: a.options }
    else if mixed then
      (scan table mixed rest).map fun a => { a with others := argument :: a.others }
    else .ok ⟨[], argument :: rest⟩

namespace Arguments

/-- The option is given. -/
def has (a : Arguments) (key : OptionKey) : Bool := a.options.any (·.1 = key)

/-- The value of an option; the last one given counts. -/
def value? (a : Arguments) (key : OptionKey) : Option String := a.options.reverse.lookup key

/-- The value of an option that has to be given. -/
def required (a : Arguments) (key : OptionKey) (spellings : List String) :
    Except UsageError String :=
  match a.value? key with
  | some value => .ok value
  | none => .error (.missingOption spellings)

/-- There are only options. -/
def checkNoOthers (a : Arguments) : Except UsageError Unit :=
  if a.others = [] then .ok () else .error (.extraArguments a.others)

/-- Whether generation is to be strict, if anything is said about it; the last word counts. -/
def strict? (a : Arguments) : Option Bool :=
  (a.options.reverse.find? fun o => o.1 = .strict ∨ o.1 = .noStrict).map fun o => o.1 = .strict

end Arguments

/-! ## Requests -/

/-- What a command line asks for. -/
inductive Request where
  /-- Generates a navigator. -/
  | gen (input output : String) (package : Option String) (strict : Option Bool)
  /-- Reports on the screens of a file. -/
  | info (input : String) (json : Bool)
  /-- Shows the declarations of a file. -/
  | parse (input : String)
  /-- Shows how a command is used. -/
  | help (command : Option Subcommand)
deriving DecidableEq, Repr

/-- The request that the arguments of a subcommand make. -/
def Subcommand.request (c : Subcommand) (arguments : List String) : Except UsageError Request := do
  let a ← Arguments.scan c.options true arguments
  if a.has .help then return .help (some c)
  let input ← a.required .input ["--input", "-i"]
  match c with
  | .gen =>
    let output ← a.required .output ["--output", "-o"]
    a.checkNoOthers
    return .gen input output (a.value? .package) a.strict?
  | .info =>
    a.checkNoOthers
    return .info input (a.has .json)
  | .parse =>
    a.checkNoOthers
    return .parse input

/-- A command line: how much to report, and the request or what is wrong with it. -/
structure CommandLine where
  verbose : Bool
  /-- The subcommand that an error belongs to. -/
  command : Option Subcommand
  request : Except UsageError Request

namespace CommandLine

/-- A command line that names no subcommand. -/
def refused (error : UsageError) : CommandLine := ⟨false, none, .error error⟩

/-- What is wrong with the name of a subcommand that there is none of. If it has a dash it may be
meant as an option of the program, and is first judged as one. -/
def unknownCommand (name : String) (arguments : List String) : UsageError :=
  let judged := if givesOptions name then Arguments.scan programOptions false arguments else
    .ok ⟨[], []⟩
  match judged with
  | .error e => e
  | .ok _ => .unknownCommand name (Text.closeMatches name (Subcommand.all.map Subcommand.name))

/-- Reads the arguments of the program. -/
def read (arguments : List String) : CommandLine :=
  if arguments = [] then ⟨false, none, .ok (.help none)⟩
  else
    match Arguments.scan programOptions false arguments with
    | .error e => refused e
    | .ok program =>
      if program.has .help then ⟨false, none, .ok (.help none)⟩
      else
        match program.others with
        | [] => refused .missingCommand
        | name :: rest =>
          match Subcommand.ofName? name with
          | none => refused (unknownCommand name program.others)
          | some c => ⟨program.has .verbose, some c, c.request rest⟩

end CommandLine

end ScreenNav
