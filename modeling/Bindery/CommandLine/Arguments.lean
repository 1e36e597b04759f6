import Bindery.CommandLine.Grammar
import Bindery.Config.Basic
import Bindery.Merge.Supplied

/-!
# The program's arguments

There are two commands, one that generates sources and one that merges a configuration, each
with options of its own. What is left over by a command is refused by the program.
-/

namespace Bindery.CommandLine

/-- What the generating command is told. -/
structure GenerateArguments where
  interfaces : List Path
  outDir : Path.Wanted
  configs : List Path.Wanted
  cdylib : Option Text
  formats : Bool
  timeout : Value
  workers : Int
  multiplatform : Bool

/-- What the merging command is told. -/
structure MergeArguments where
  output : Path.Wanted
  config : Option Path.Wanted
  externalConfigs : List Path.Wanted
  supplied : Supplied

inductive Command where
  | generate (arguments : GenerateArguments)
  | merge (arguments : MergeArguments)

/-- A command with what holds for all commands. -/
structure Invocation where
  verbose : Bool
  logFile : Option Path.Wanted
  command : Command

/-- The paths that an invocation names. -/
def Invocation.paths (i : Invocation) : List Path :=
  let wanted := i.logFile.toList ++
    match i.command with
    | .generate args => args.outDir :: args.interfaces.map .ok ++ args.configs
    | .merge args => args.output :: args.config.toList ++ args.externalConfigs
  wanted.filterMap Except.toOption

def helpOption : Opt := { names := ["-h", "--help"], takes := .help }

def verboseOption : Opt := { names := ["-v", "--verbose"], takes := .nothing }

/-- The name of the generating command. -/
def generateName : Text := "generate"

/-- The name of the merging command. -/
def mergeName : Text := "merge-config"

/-- The name of the program. -/
def programName : Text := "kmpbindgen"

/-- A command with the program's name in front. -/
def fullName (command : Text) : Text := programName ++ " " ++ command

def programGrammar : Grammar where
  program := programName
  options := [helpOption, verboseOption, { names := ["--log-file"], takes := .text }]
  words := .command "command" [generateName, mergeName]

def generateGrammar : Grammar where
  program := fullName generateName
  options := [helpOption, verboseOption,
    { names := ["--multiplatform"], takes := .nothing },
    { names := ["-o", "--out-dir"], takes := .text, isRequired := true },
    { names := ["-c", "--config"], takes := .text },
    { names := ["--cdylib"], takes := .text },
    { names := ["--no-format"], takes := .nothing },
    { names := ["--format-timeout"], takes := .number },
    { names := ["-j", "--jobs"], takes := .whole }]
  words := .some "interfaces"

def mergeGrammar : Grammar where
  program := fullName mergeName
  options := [helpOption, verboseOption,
    { names := ["-o", "--output"], takes := .text, isRequired := true },
    { names := ["-c", "--config"], takes := .text },
    { names := ["--crate-name"], takes := .text },
    { names := ["--package-root"], takes := .text },
    { names := ["--package-name"], takes := .text },
    { names := ["--cdylib-name"], takes := .text },
    { names := ["--kotlin-version"], takes := .text },
    { names := ["--multiplatform"], takes := .nothing },
    { names := ["--target"], takes := .oneOf (Target.all.map fun t => Text.ofString t.name) },
    { names := ["--external-config"], takes := .text }]

/-- The last path given under a key. -/
def Found.path? (f : Found) (key : Text) : Option Path.Wanted := (f.last? key).map Given.path

/-- The path given under a key that is required. -/
def Found.path (f : Found) (key : Text) : Path.Wanted := ((f.last? key).getD .nothing).path

/-- All paths given under a key. -/
def Found.paths (f : Found) (key : Text) : List Path.Wanted := (f.all key).map Given.path

/-- The last value given under a key. -/
def Found.value? (f : Found) (key : Text) : Option Value := (f.last? key).map Given.value

def generateArguments (f : Found) : GenerateArguments where
  interfaces := (f.words.getD []).map Path.ofText
  outDir := f.path "--out-dir"
  configs := f.paths "--config"
  cdylib := (f.last? "--cdylib").bind Given.text?
  formats := !f.has "--no-format"
  timeout := (f.value? "--format-timeout").getD .null
  workers := ((f.last? "--jobs").bind Given.int?).getD 0
  multiplatform := f.has "--multiplatform"

def mergeArguments (f : Found) : MergeArguments where
  output := f.path "--output"
  config := f.path? "--config"
  externalConfigs := f.paths "--external-config"
  supplied :=
    { crateName := f.value? "--crate-name"
      packageRoot := f.value? "--package-root"
      packageName := f.value? "--package-name"
      cdylibName := f.value? "--cdylib-name"
      multiplatform := f.value? "--multiplatform"
      targets :=
        if f.has "--target" then some (.list none ((f.all "--target").map Given.value)) else none
      targetVersion := f.value? "--kotlin-version" }

/-- The command of a name with its grammar. -/
def commandOf? (name : Text) : Option (Grammar × (Found → Command)) :=
  if name = generateName then some (generateGrammar, fun f => .generate (generateArguments f))
  else if name = mergeName then some (mergeGrammar, fun f => .merge (mergeArguments f))
  else none

/-- The invocation that arguments describe. -/
def Invocation.parse (args : List Text) : Except Stop Invocation := do
  let found ← programGrammar.parse args
  let (name, rest) := match found.words with
    | some (name :: rest) => (name, rest)
    | _ => (([] : Text), [])
  match commandOf? name with
  | none =>
    throw (programGrammar.refuse (.noChoice "command" name [generateName, mergeName]))
  | some (grammar, command) =>
    let inner ← grammar.parse rest
    match found.extras ++ inner.extras with
    | [] =>
      return { verbose := found.has "--verbose" || inner.has "--verbose"
               logFile := found.path? "--log-file"
               command := command inner }
    | extras => throw (programGrammar.refuse (.unrecognized extras))

end Bindery.CommandLine
