import Polyquery.Files.Path
import Polyquery.Language

/-!
# Arguments

The command line names a command, its queries, and options.  An option has two dashes and a value, which
follows it as an argument of its own or behind an equals sign.  The two options that tell which files to
use may also stand before the command; behind it they count more.  Arguments after two bare dashes are
queries, whatever they look like.
-/

namespace Polyquery
namespace CommandLine

inductive Setting where
  | catalog
  | config
  | language
  | source
  | target
  deriving Repr, DecidableEq

namespace Setting

def name : Setting → Text
  | .catalog => "catalog".toList
  | .config => "config".toList
  | .language => "lang".toList
  | .source => "from".toList
  | .target => "to".toList

def general : List Setting := [.catalog, .config]

end Setting

inductive Command where
  | check
  | parse
  | translate
  | detect
  deriving Repr, DecidableEq

namespace Command

def all : List Command := [.check, .parse, .translate, .detect]

def name : Command → Text
  | .check => "check".toList
  | .parse => "parse".toList
  | .translate => "translate".toList
  | .detect => "detect".toList

def ofName? (name : Text) : Option Command :=
  all.find? fun command => decide (command.name = name)

def settings : Command → List Setting
  | .parse => .language :: Setting.general
  | .translate => .source :: .target :: Setting.general
  | _ => Setting.general

def takesMany : Command → Bool
  | .translate => true
  | _ => false

end Command

inductive Task where
  | check (query : Text)
  | parse (query : Text) (language : Option Language)
  /-- Without a source language it is detected for each query. -/
  | translate (queries : List Text) (source : Option Language) (target : Language)
  | detect (query : Text)
  deriving Repr, DecidableEq

structure Invocation where
  catalog : Option Path
  config : Option Path
  task : Task
  deriving Repr, DecidableEq

inductive Request where
  | help
  | version
  | run (invocation : Invocation)
  deriving Repr, DecidableEq

inductive UsageError where
  | missingCommand
  | unknownCommand (name : Text)
  | unknownOption (argument : Text)
  | unneededValue (argument : Text)
  | repeatedOption (setting : Setting)
  | missingValue (setting : Setting)
  | invalidValue (setting : Setting) (value : Text)
  | unexpectedArgument (argument : Text)
  | missingQuery
  | missingOption (setting : Setting)
  deriving Repr, DecidableEq

namespace UsageError

private def written (setting : Setting) : Text :=
  Text.quoted ("--".toList ++ setting.name)

def message : UsageError → Text
  | .missingCommand => "a command is needed".toList
  | .unknownCommand name => "there is no command ".toList ++ name.quoted
  | .unknownOption argument => "there is no option ".toList ++ argument.quoted
  | .unneededValue argument => "no value is needed for ".toList ++ argument.quoted
  | .repeatedOption setting => written setting ++ " is given more than once".toList
  | .missingValue setting => "a value is needed for ".toList ++ written setting
  | .invalidValue setting value =>
    value.quoted ++ " is no value for ".toList ++ written setting
  | .unexpectedArgument argument => "unexpected argument ".toList ++ argument.quoted
  | .missingQuery => "a query is needed".toList
  | .missingOption setting => written setting ++ " is needed".toList

end UsageError

/-- An argument by its form. -/
inductive Word where
  | value (text : Text)
  | long (name : Text) (attached : Option Text)
  | short (letter : Char)
  | dashes
  deriving Repr, DecidableEq

/-- A single dash and what has no dash in front are values. -/
def Word.ofText : Text → Word
  | ['-', '-'] => .dashes
  | '-' :: '-' :: option =>
    let name := option.takeWhile (· ≠ '=')
    match option.drop name.length with
    | [] => .long name none
    | _ :: attached => .long name (some attached)
  | '-' :: letter :: _ => .short letter
  | text => .value text

/-- What was given so far on one side of the command. -/
structure Given where
  catalog : Option Path
  config : Option Path
  language : Option Language
  source : Option Language
  target : Option Language
  queries : List Text
  deriving Repr, DecidableEq

namespace Given

def nothing : Given :=
  { catalog := none, config := none, language := none, source := none, target := none,
    queries := [] }

def once {α : Type} (setting : Setting) (old : Option α) (new : Except UsageError α) :
    Except UsageError (Option α) :=
  match old with
  | some _ => .error (.repeatedOption setting)
  | none => new.map some

def path (setting : Setting) (value : Text) : Except UsageError Path :=
  if value = [] then .error (.missingValue setting) else .ok { text := value }

def code (setting : Setting) (value : Text) : Except UsageError Language :=
  match Language.ofCode? value with
  | some language => .ok language
  | none => .error (.invalidValue setting value)

def put (given : Given) (setting : Setting) (value : Text) : Except UsageError Given := do
  match setting with
  | .catalog => return { given with catalog := ← once setting given.catalog (path setting value) }
  | .config => return { given with config := ← once setting given.config (path setting value) }
  | .language =>
    return { given with language := ← once setting given.language (code setting value) }
  | .source => return { given with source := ← once setting given.source (code setting value) }
  | .target => return { given with target := ← once setting given.target (code setting value) }

def addQuery (command : Command) (given : Given) (query : Text) : Except UsageError Given :=
  if given.queries = [] ∨ command.takesMany then
    .ok { given with queries := given.queries ++ [query] }
  else .error (.unexpectedArgument query)

def task (command : Command) (given : Given) : Except UsageError Task :=
  match command, given.queries with
  | _, [] => .error .missingQuery
  | .check, query :: _ => .ok (.check query)
  | .parse, query :: _ => .ok (.parse query given.language)
  | .detect, query :: _ => .ok (.detect query)
  | .translate, queries =>
    match given.target with
    | some target => .ok (.translate queries given.source target)
    | none => .error (.missingOption .target)

end Given

def findSetting? (settings : List Setting) (name : Text) : Option Setting :=
  settings.find? fun setting => decide (setting.name = name)

def finish (command : Command) (before given : Given) : Except UsageError Request := do
  return .run {
    catalog := given.catalog.or before.catalog
    config := given.config.or before.config
    task := ← given.task command }

/-- Reads the arguments behind a command, given what stood before it, what was given since, and the option
whose value is due. -/
def readCommand (command : Command) (before : Given) :
    Option Setting → Given → List Text → Except UsageError Request
  | some setting, _, [] => .error (.missingValue setting)
  | some setting, given, argument :: rest =>
    match Word.ofText argument with
    | .value value => do readCommand command before none (← given.put setting value) rest
    | _ => .error (.missingValue setting)
  | none, given, [] => finish command before given
  | none, given, argument :: rest =>
    match Word.ofText argument with
    | .value query => do readCommand command before none (← given.addQuery command query) rest
    | .dashes => do finish command before (← rest.foldlM (Given.addQuery command) given)
    | .short letter => if letter = 'h' then .ok .help else .error (.unknownOption argument)
    | .long name attached =>
      match findSetting? command.settings name, attached with
      | some setting, none => readCommand command before (some setting) given rest
      | some setting, some value => do
        readCommand command before none (← given.put setting value) rest
      | none, none =>
        if name = "help".toList then .ok .help else .error (.unknownOption argument)
      | none, some _ =>
        .error (if name = "help".toList then .unneededValue argument else .unknownOption argument)

/-- Reads the arguments up to the command, given what stood before them and the option whose value is
due. -/
def readRequest : Option Setting → Given → List Text → Except UsageError Request
  | some setting, _, [] => .error (.missingValue setting)
  | some setting, given, argument :: rest =>
    match Word.ofText argument with
    | .value value => do readRequest none (← given.put setting value) rest
    | _ => .error (.missingValue setting)
  | none, _, [] => .error .missingCommand
  | none, given, argument :: rest =>
    match Word.ofText argument with
    | .value name =>
      match Command.ofName? name with
      | some command => readCommand command given none .nothing rest
      | none =>
        if name = "help".toList ∧ rest.all fun topic => (Command.ofName? topic).isSome then
          .ok .help
        else .error (.unknownCommand name)
    | .dashes =>
      match rest with
      | [] => .error .missingCommand
      | argument :: _ => .error (.unexpectedArgument argument)
    | .short letter =>
      if letter = 'V' then .ok .version
      else if letter = 'h' then .ok .help
      else .error (.unknownOption argument)
    | .long name attached =>
      let flag? : Option Request :=
        if name = "version".toList then some .version
        else if name = "help".toList then some .help
        else none
      match findSetting? Setting.general name, flag?, attached with
      | some setting, _, none => readRequest (some setting) given rest
      | some setting, _, some value => do readRequest none (← given.put setting value) rest
      | none, some flag, none => .ok flag
      | none, some _, some _ => .error (.unneededValue argument)
      | none, none, _ => .error (.unknownOption argument)

def Request.ofArguments (arguments : List Text) : Except UsageError Request :=
  readRequest none .nothing arguments

end CommandLine
end Polyquery
