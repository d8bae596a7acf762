import ModuleSpec.Combine
import ModuleSpec.Console

/-!
# Command line

Three things can be asked for: the version, the document that combines the
modules of several files, and the schema of one file.  Flags stand before the
name of a command, and the one for the version makes the rest not count.  Options
can stand anywhere after the name of a command, until two dashes end them; of the
values that an option is given the last one counts.  With the option that asks for
help a command does nothing else, whatever its words are.

The grammar of the source language, the syntax of patterns and the console are what a
run is set in.

A command is a list of steps that print, write or end the run.  The first step
that fails ends it, and what was printed before stays printed.
-/

namespace ModuleSpec

/-- What is asked for when modules are to be combined. -/
structure CombineRequest where
  output : Path
  roots : List Path
  platform : Option String
  exclude : Option String
  deriving DecidableEq, Repr

/-- What is asked for on the command line. -/
inductive Request
  | version
  /-- How the program is used; no part of this library answers it. -/
  | help
  | combine (r : CombineRequest)
  | inspect (file : Path)
  deriving DecidableEq, Repr

/-! ## Arguments -/

/-- The arguments of a command: words, options with their values, and whether help is wanted. -/
structure Arguments where
  words : List String
  options : List (String × String)
  help : Bool

namespace Arguments

def addWord (a : Arguments) (word : String) : Arguments :=
  { a with words := word :: a.words }

def addOption (a : Arguments) (name value : String) : Arguments :=
  { a with options := (name, value) :: a.options }

def addHelp (a : Arguments) : Arguments :=
  { a with help := true }

/-- The last value that an option was given. -/
def value? (a : Arguments) (name : String) : Option String :=
  (a.options.reverse.find? fun entry => entry.1 == name).map Prod.snd

/-- The name and the value of an option that is written with an equals sign. -/
def splitOption? (argument : String) : Option (String × String) :=
  let cs := argument.toList
  let name := cs.takeWhile (· != '=')
  if name.length = cs.length then
    none
  else
    some (String.ofList name, String.ofList (cs.drop (name.length + 1)))

/-- Whether an argument is written like an option. -/
def isOption (argument : String) : Bool :=
  match argument.toList with
  | '-' :: _ :: _ => true
  | _ => false

/-- Reads arguments; the names of the options that take a value are given. -/
def read? (names : List String) : List String → Option Arguments
  | [] => some ⟨[], [], false⟩
  | "--" :: rest => some ⟨rest, [], false⟩
  | argument :: rest =>
      if !isOption argument then
        (read? names rest).map fun a => a.addWord argument
      else if argument = "--help" then
        (read? names rest).map addHelp
      else if names.contains argument then
        match rest with
        | [] => none
        | value :: rest => (read? names rest).map fun a => a.addOption argument value
      else
        match splitOption? argument with
        | none => none
        | some (name, value) =>
            if names.contains name then
              (read? names rest).map fun a => a.addOption name value
            else
              none

end Arguments

/-- A flag that can stand before the name of a command. -/
inductive Flag
  | verbose
  | version
  | help
  deriving DecidableEq, Repr

namespace Flag

/-- The flag of an argument; the short one can be repeated within an argument. -/
def ofArgument? (argument : String) : Option Flag :=
  if argument = "--verbose" then
    some .verbose
  else if argument = "--version" then
    some .version
  else if ["--help", "--show-completion", "--install-completion"].contains argument then
    some .help
  else
    match argument.toList with
    | '-' :: 'v' :: cs => if cs.all (· == 'v') then some .version else none
    | _ => none

/-- The flags before the first word and what follows them; none when one is unknown. -/
def front? : List String → Option (List Flag × List String)
  | [] => some ([], [])
  | "--" :: rest => some ([], rest)
  | argument :: rest =>
      if Arguments.isOption argument then
        match ofArgument? argument, front? rest with
        | some flag, some (flags, rest) => some (flag :: flags, rest)
        | _, _ => none
      else
        some ([], argument :: rest)

end Flag

namespace Request

/-- What is asked for after the name of the first command. -/
def readCombine? (arguments : List String) : Option Request :=
  match Arguments.read? ["--platform", "--exclude"] arguments with
  | none => none
  | some a =>
      if a.help then
        some .help
      else
        match a.words with
        | output :: root :: roots =>
            some (.combine ⟨.ofString output, (root :: roots).map Path.ofString,
              a.value? "--platform", a.value? "--exclude"⟩)
        | _ => none

/-- What is asked for after the name of the second command. -/
def readInspect? (arguments : List String) : Option Request :=
  match Arguments.read? [] arguments with
  | none => none
  | some a =>
      if a.help then
        some .help
      else
        match a.words with
        | [file] => some (.inspect (.ofString file))
        | _ => none

/-- What is asked for by the arguments of a command. -/
def readCommand? : List String → Option Request
  | "combine" :: rest => readCombine? rest
  | "inspect" :: rest => readInspect? rest
  | _ => none

/-- The flag that asks for something by itself; the flag that asks for a log does not. -/
def ofFlag? : Flag → Option Request
  | .verbose => none
  | .version => some .version
  | .help => some .help

/--
What is asked for; none when the arguments are wrongly used.  Of the flags before
the first word the first one that asks for something counts, and then the words
do not.
-/
def read? (arguments : List String) : Option Request :=
  (Flag.front? arguments).bind fun (flags, rest) =>
    (flags.findSome? ofFlag?) <|> readCommand? rest

end Request

/-! ## Steps -/

/-- What a run is set in. -/
structure Setting where
  grammar : Grammar
  patterns : PatternSyntax
  console : Console

/-- An end that no message explains. -/
inductive Crash
  | collect (e : CollectError)
  | build (e : BuildFailure)
  | write (e : WriteError)
  | print (e : ConsoleError)

/-- One step of a command. -/
inductive Step
  /-- Prints a line of markup. -/
  | print (line : String)
  /-- Prints a line without tags. -/
  | plain (line : String)
  /-- Writes a file. -/
  | write (path : Path) (content : String)
  /-- Ends the run with a code. -/
  | exit (code : Nat)
  /-- Ends the run without a message. -/
  | crash (c : Crash)

/-- What a run leaves: its code, what it printed, and the files. -/
structure Run where
  exitCode : Nat
  output : String
  crash : Option Crash
  tree : FileTree

namespace Run

/-- The code of a run that ends without a message. -/
def crashCode : Nat := 1

/-- The code of a run with arguments that are wrongly used. -/
def usageCode : Nat := 2

/-- The run that prints a line before all others. -/
def after (line : String) (r : Run) : Run :=
  { r with output := line ++ "\n" ++ r.output }

def crashed (tree : FileTree) (c : Crash) : Run :=
  ⟨crashCode, "", some c, tree⟩

/-- The run of a list of steps. -/
def ofSteps (console : Console) (tree : FileTree) : List Step → Run
  | [] => ⟨0, "", none, tree⟩
  | .print line :: steps =>
      match console.render line with
      | .ok shown => (ofSteps console tree steps).after shown
      | .error e => crashed tree (.print e)
  | .plain line :: steps =>
      (ofSteps console tree steps).after (console.renderPlain line)
  | .write path content :: steps =>
      match tree.write path content.toUTF8 with
      | .ok tree => ofSteps console tree steps
      | .error e => crashed tree (.write e)
  | .exit code :: _ => ⟨code, "", none, tree⟩
  | .crash c :: _ => crashed tree c

end Run

namespace CommandLine

/-! ## Messages -/

section Messages

variable (console : Console)

/-- The path of a file in a message. -/
def shownPath (path : Path) : String :=
  console.escape path.toString

/-- The line that reports a fault of a file. -/
def faultLine (label path : String) (f : Fault) : String :=
  let place := if f.line = 0 then "" else s!":{f.line}"
  s!"{label}: {console.escape path}{place} ({f.kind.name}) {console.escape f.message}"

/-- The line that reports why a file has no schema. -/
def failureLine (path : String) (e : BuildFailure) : String :=
  match e.fault? with
  | some f => faultLine console "Error" path f
  | none => s!"Error: {console.escape path} {console.escape e.message}"

end Messages

/-- The line that names the program and its version. -/
def versionLine : String := "Native Schema v0.1.0"

/-- Ends the run with a message. -/
def fail (message : String) : List Step :=
  [.print s!"Error: {message}", .exit 1]

/-! ## Commands -/

section Reports

variable (console : Console)

/-- The steps that report limits that make no sense. -/
def rejectLimits : LimitsError → List Step
  | .unknownPlatform name => fail s!"{Platform.unknown name}."
  | .badExclude message => fail s!"Invalid --exclude pattern: {console.escape message}"

/-- The steps that report what was recorded while the modules were built. -/
def warn (path : String) (faults : List Fault) : List Step :=
  faults.map fun f => .print (faultLine console "Warning" path f)

/-- The steps that report the files without a schema, if there are any. -/
def rejectFailed (failed : List FileResult) : List Step :=
  failed.flatMap (fun r => r.failure?.toList.map fun e => .print (failureLine console r.path e))
    ++ [.print (s!"Failed: {failed.length} file(s) could not be translated. "
          ++ "Nothing was written."), .exit 1]

/-- The steps that write the document and report it. -/
def deliver (output : Path) (combined : Combined) : List Step :=
  let warnings := combined.faults.length
  [
    .write output combined.document,
    .print "Schema written.",
    .print s!"  Output:         {shownPath console output}",
    .print s!"  Modules:        {combined.modules.length}"
  ] ++ if warnings = 0 then [] else [.print s!"  Warnings:       {warnings}"]

/-- The steps after the modules have been combined. -/
def finishCombine (output : Path) (combined : Combined) : List Step :=
  combined.results.flatMap (fun r => warn console r.path r.faults)
    ++ if combined.failed.isEmpty then
        deliver console output combined
      else
        rejectFailed console combined.failed

end Reports

section Commands

variable (setting : Setting)

/-- The steps that combine modules. -/
def combineSteps
    (tree : FileTree)
    (r : CombineRequest) :
    List Step :=
  match Limits.read setting.patterns r.platform r.exclude with
  | .error e => rejectLimits setting.console e
  | .ok limits =>
      match r.roots.find? fun root => !tree.reaches root with
      | some root => fail s!"{shownPath setting.console root} does not exist."
      | none =>
          .plain "" ::
            match combine setting.grammar tree r.roots limits with
            | .error e => [.crash (.collect e)]
            | .ok combined => finishCombine setting.console r.output combined

/-- The steps that print the schema of a text. -/
def inspectText
    (path : Path)
    (d : Dialect)
    (content : String) :
    List Step :=
  match buildText setting.grammar path.moduleName d.name content with
  | .error e =>
      match e.fault? with
      | some f => [.print (faultLine setting.console "Error" path.toString f), .exit 1]
      | none => [.crash (.build e)]
  | .ok built =>
      .plain built.schema.toJson.render :: warn setting.console path.toString built.faults

/-- The steps that print the schema of a file. -/
def inspectSteps
    (tree : FileTree)
    (path : Path) :
    List Step :=
  match tree.fileAt? path with
  | none => fail s!"{shownPath setting.console path} is not a file."
  | some f =>
      match path.dialect? with
      | none => fail s!"{shownPath setting.console path} is not a TypeScript source file."
      | some d =>
          match Text.decode? f.content with
          | none => fail s!"{shownPath setting.console path} is not valid UTF-8."
          | some content => inspectText setting path d content

/-- The steps that a request asks for. -/
def steps
    (tree : FileTree) :
    Request → List Step
  | .version => [.print versionLine]
  | .help => []
  | .combine r => combineSteps setting tree r
  | .inspect path => inspectSteps setting tree path

/-- The run that the arguments of the program ask for. -/
def run
    (tree : FileTree)
    (arguments : List String) :
    Run :=
  match Request.read? arguments with
  | none => ⟨Run.usageCode, "", none, tree⟩
  | some request => Run.ofSteps setting.console tree (steps setting tree request)

end Commands

end CommandLine

end ModuleSpec
