import Codemod.Number
import Codemod.Output.Style
import Codemod.Path

/-!
The options of the command line, what may follow which command, and what can be wrong with a
command line.
-/
namespace Codemod.CommandLine

inductive Opt where
  | config
  | root
  | format
  | jobs
  | color
  | verbose
  | force
  | help
  | version
  deriving DecidableEq, Repr

namespace Opt

def long : Opt → String
  | .config => "config"
  | .root => "root"
  | .format => "format"
  | .jobs => "jobs"
  | .color => "color"
  | .verbose => "verbose"
  | .force => "force"
  | .help => "help"
  | .version => "version"

def short? : Opt → Option Char
  | .config => some 'c'
  | .format => some 'f'
  | .jobs => some 'j'
  | .verbose => some 'v'
  | .help => some 'h'
  | .version => some 'V'
  | .root | .color | .force => none

def valueName? : Opt → Option String
  | .config => some "CONFIG"
  | .root => some "ROOT"
  | .format => some "FORMAT"
  | .jobs => some "JOBS"
  | .color => some "COLOR"
  | .verbose | .force | .help | .version => none

def takesValue (o : Opt) : Bool := o.valueName?.isSome

def label (o : Opt) : String :=
  match o.valueName? with
  | some name => s!"--{o.long} <{name}>"
  | none => "--" ++ o.long

end Opt

inductive Verb where
  | apply
  | check
  | init
  | list
  deriving DecidableEq, Repr

namespace Verb

def name : Verb → String
  | .apply => "apply"
  | .check => "check"
  | .init => "init"
  | .list => "list"

def all : List Verb := [.apply, .check, .init, .list]

def ofName? (text : String) : Option Verb := all.find? (·.name == text)

def options : Verb → List Opt
  | .apply | .check => [.config, .root, .format, .jobs, .color, .verbose, .help]
  | .init => [.config, .force, .color, .verbose, .help]
  | .list => [.config, .format, .color, .verbose, .help]

end Verb

def leadingOptions : List Opt := [.color, .verbose, .help, .version]

def commandNames : List String := Verb.all.map Verb.name ++ ["help"]

/-- Why a command line asks for nothing that can be done. The first three are no mistakes. -/
inductive UsageError where
  | help
  | version
  | nothing
  | missingCommand
  | unknownCommand (name : String)
  | unknownArgument (text : String)
  | missingValue (option : Opt)
  | badValue (option : Opt) (value : String)
  | badNumber (option : Opt) (value : String) (reason : NumberError)
  | repeated (option : Opt)
  | unwantedValue (option : Opt) (value : String)
  deriving DecidableEq, Repr

def UsageError.message : UsageError → String
  | .help | .version | .nothing => ""
  | .missingCommand => "error: 'rewire' requires a subcommand but one was not provided"
  | .unknownCommand name => s!"error: unrecognized subcommand '{name}'"
  | .unknownArgument text => s!"error: unexpected argument '{text}' found"
  | .missingValue o => s!"error: a value is required for '{o.label}' but none was supplied"
  | .badValue o value => s!"error: invalid value '{value}' for '{o.label}'"
  | .badNumber o value reason =>
    s!"error: invalid value '{value}' for '{o.label}': {reason.message}"
  | .repeated o => s!"error: the argument '{o.label}' cannot be used multiple times"
  | .unwantedValue o value =>
    s!"error: unexpected value '{value}' for '{o.label}' found; no more were expected"

end Codemod.CommandLine
