import ReplyScript.CommandLine.Grammar

/-! # Commands and their options

What can be asked of the program on its command line. A first word that is no command is the file of
a reply to run.
-/

namespace ReplyScript.CommandLine

/-- Perform the script of a reply. -/
structure RunOptions where
  file : String
  root : String
  check : Bool
  commands : Bool
  confirm : Bool
  quiet : Bool
  deriving Repr, DecidableEq, BEq, Inhabited

/-- Talk to a model. -/
structure ChatOptions where
  config : Option String
  root : String
  model : Option String
  manual : Bool
  yes : Bool
  deriving Repr, DecidableEq, BEq, Inhabited

/-- List models. -/
structure ModelsOptions where
  config : Option String
  filter : String
  all : Bool
  deriving Repr, DecidableEq, BEq, Inhabited

/-- Run trials. -/
structure TestOptions where
  path : String
  categories : List String
  listCategories : Bool
  deriving Repr, DecidableEq, BEq, Inhabited

/-- What the program is to do. -/
inductive Task where
  | run (options : RunOptions)
  | chat (options : ChatOptions)
  | models (options : ModelsOptions)
  | test (options : TestOptions) (noColor : Bool)
  | help (lines : List String)
  | version
  | misuse (problem : String)
  deriving Repr, DecidableEq, BEq, Inhabited

/-- The switch that keeps colours out of the output. -/
def noColorOption : OptionSpec := { long := "no-color", about := "Disable colored error output" }

/-- The switch that asks for the usage text. -/
def helpOption : OptionSpec :=
  { long := "help", short := some 'h', kind := .help, about := "Print help" }

def sharedOptions : List OptionSpec := [noColorOption, helpOption]

/-- The option that names the configuration file. -/
def configOption : OptionSpec :=
  { long := "config", kind := .path,
    about := "Config file (defaults to ./pilot.toml when present)" }

def programGrammar : Grammar where
  name := ""
  about := "Model-driven command script runner"
  options := [noColorOption, helpOption,
    { long := "version", short := some 'V', kind := .version, about := "Print version" }]

/-- Performs the script of a saved reply. -/
def runGrammar : Grammar where
  name := "run"
  about := "Execute the commands in a saved model reply"
  argument := some ("FILE", "File holding the model reply")
  options := [
    { long := "root", kind := .path,
      about := "Workspace root the commands act on [default: .]" },
    { long := "check", about := "Parse only, don't execute (exit 0 if valid)" },
    { long := "commands", about := "Print the parsed commands and exit" },
    { long := "confirm", about := "Ask before running terminal commands" },
    { long := "quiet", short := some 'q',
      about := "Don't echo responses while the commands run" }] ++ sharedOptions

def chatGrammar : Grammar where
  name := "chat"
  about := "Talk to a model that edits the workspace"
  options := [configOption,
    { long := "root", kind := .path, about := "Workspace root the model works in [default: .]" },
    { long := "model", kind := .text, about := "Override the configured model" },
    { long := "manual",
      about := "Only talk: pending command output waits for your next message" },
    { long := "yes", short := some 'y', about := "Run terminal commands without asking" }]
    ++ sharedOptions

def modelsGrammar : Grammar where
  name := "models"
  about := "List the models the configured endpoint serves"
  options := [configOption,
    { long := "filter", kind := .text,
      about := "Only list models whose id contains this text [default: gpt-]" },
    { long := "all", about := "List every model, ignoring --filter" }] ++ sharedOptions

def testGrammar : Grammar where
  name := "test"
  about := "Run .test.md script tests"
  argument := some ("PATH", "Path to a .test.md file or directory containing them")
  options := [
    { long := "category", short := some 'c', kind := .texts,
      about := "Run only tests in these categories (subfolder names). Repeatable." },
    { long := "list-categories", about := "List available categories and exit" }] ++ sharedOptions

def helpGrammar : Grammar where
  name := "help"
  about := "Print this message or the help of the given subcommand(s)"
  options := []

def commands : List Grammar := [runGrammar, chatGrammar, modelsGrammar, testGrammar, helpGrammar]

def programHelp : List String :=
  [programGrammar.about, "", "Usage: pilot [OPTIONS] <COMMAND>", "", "Commands:"]
    ++ columns (commands.map fun g => (g.name, g.about))
    ++ ["", "Options:"] ++ columns (programGrammar.options.map fun o => (o.form, o.about))

def Stop.task (help : List String) : Stop → Task
  | .help => .help help
  | .version => .version
  | .misuse problem => .misuse problem

/-- The task of a command, if its own argument is given where it takes one. -/
def Given.task (g : Given) (noColor : Bool) (command : String) : Task :=
  let has (name : String) : Bool := name ∈ g.flags
  let root := (g.value? "root").getD "."
  match command, g.argument with
  | "run", some file =>
      .run ⟨file, root, has "check", has "commands", has "confirm", has "quiet"⟩
  | "chat", _ => .chat ⟨g.value? "config", root, g.value? "model", has "manual", has "yes"⟩
  | "models", _ => .models ⟨g.value? "config", (g.value? "filter").getD "gpt-", has "all"⟩
  | "test", some path =>
      .test ⟨path, g.valuesOf "category", has "list-categories"⟩ (noColor || has "no-color")
  | _, _ => .misuse "the following required arguments were not provided"

def helpTask : List String → Task
  | [] => .help programHelp
  | [topic] =>
      match commands.find? (·.name = topic) with
      | some g => .help g.help
      | none => .misuse ("unrecognized subcommand '" ++ topic ++ "'")
  | _ => .misuse "unrecognized subcommand"

def commandTask (noColor : Bool) (g : Grammar) (args : List String) : Task :=
  if g.name = "help" then helpTask args
  else match g.read {} args with
    | .ok given => given.task noColor g.name
    | .error stop => stop.task g.help

/-- The task of a command line: options of the program, then a command with its arguments. -/
def Task.ofArguments (args : List String) : Task :=
  let isLeading (text : String) : Bool := text.toList.head? == some '-' && text != "--"
  match programGrammar.read {} (args.takeWhile isLeading) with
  | .error stop => stop.task programHelp
  | .ok given =>
      let noColor := given.flags.contains "no-color"
      match args.dropWhile isLeading with
      | [] => .misuse "a subcommand is required"
      | "--" :: _ => .misuse "unexpected argument '--' found"
      | word :: rest =>
          match commands.find? (·.name = word) with
          | some g => commandTask noColor g rest
          | none => commandTask noColor runGrammar (word :: rest)

end ReplyScript.CommandLine
