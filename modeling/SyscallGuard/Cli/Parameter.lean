import SyscallGuard.Format
import SyscallGuard.Log.Line

set_option autoImplicit false

/-! # Parameters

What the command line takes: a root, options with a value, flags, and the two requests for
information. -/

namespace SyscallGuard.Cli

/-- The name of the command. -/
def commandName : String := "wasmguard"

/-- The version of the command. -/
def commandVersion : String := "0.1.0"

/-- What the command is given. -/
inductive Parameter where
  | root | gofmt | noFormat | dryRun | logFilter | logFormat
deriving DecidableEq

namespace Parameter

/-- Every parameter. -/
def all : List Parameter := [root, gofmt, noFormat, dryRun, logFilter, logFormat]

/-- The name behind two dashes; the root has none. -/
def long? : Parameter → Option String
  | root => none
  | gofmt => some "gofmt"
  | noFormat => some "no-format"
  | dryRun => some "dry-run"
  | logFilter => some "log-filter"
  | logFormat => some "log-format"

/-- What stands for the value in a usage. -/
def valueName? : Parameter → Option String
  | root => some "ROOT"
  | gofmt => some "PATH"
  | logFilter => some "EXPR"
  | logFormat => some "FORMAT"
  | noFormat | dryRun => none

/-- Whether the parameter takes a value. -/
def takesValue (p : Parameter) : Bool := p.valueName?.isSome

/-- The parameter in a usage. -/
def shown (p : Parameter) : String :=
  match p.long?, p.valueName? with
  | some long, some value => "--" ++ long ++ " <" ++ value ++ ">"
  | some long, none => "--" ++ long
  | none, some value => "<" ++ value ++ ">"
  | none, none => ""

/-- The parameter with a long name. -/
def ofLong? (name : String) : Option Parameter := all.find? fun p => p.long? == some name

end Parameter

/-- The requests for information. -/
inductive Inquiry where
  | help | version
deriving DecidableEq

namespace Inquiry

/-- The long name of a request. -/
def long : Inquiry → String
  | help => "help"
  | version => "version"

/-- The short name of a request. -/
def short : Inquiry → Char
  | help => 'h'
  | version => 'V'

/-- The request with a long name. -/
def ofLong? (name : String) : Option Inquiry := [help, version].find? fun i => i.long == name

/-- The request with a short name. -/
def ofShort? (c : Char) : Option Inquiry := [help, version].find? fun i => i.short == c

end Inquiry

/-- Every long name. -/
def longNames : List String :=
  Parameter.all.filterMap Parameter.long? ++ [Inquiry.help.long, Inquiry.version.long]

/-- The option with a long name in a usage. -/
def shownLong (long : String) : String :=
  ((Parameter.ofLong? long).map Parameter.shown).getD ("--" ++ long)

/-! ## Texts -/

/-- The usage of the command in general. -/
def generalUsage : String := commandName ++ " [OPTIONS] " ++ Parameter.root.shown

/-- The usage with some options and all that is required. -/
def usageWith (options : List String) : String :=
  commandName ++ String.join ((options ++ [Parameter.root.shown]).map fun o => " " ++ o)

/-- The help text. -/
def helpText : String :=
  "Inserts `panic` guards above syscall primitives in Go sources\n\nUsage: " ++ generalUsage
    ++ "\n\nArguments:\n  <ROOT>  Directory to rewrite recursively\n\nOptions:\n"
    ++ "      --gofmt <PATH>         Formatter used to canonicalise rewritten files [default: "
    ++ Canonicalizer.defaultProgram ++ "]\n"
    ++ "      --no-format            Write rewritten files without running the formatter\n"
    ++ "      --dry-run              Report files that need guards without writing them\n"
    ++ "      --log-filter <EXPR>    Log filter directive (e.g. `debug` or "
    ++ "`wasmguard_syntax=trace`) [default: " ++ Filter.default ++ "]\n"
    ++ "      --log-format <FORMAT>  Log output format [default: " ++ LogFormat.default.name ++ "]\n"
    ++ "  -h, --help                 Print help\n  -V, --version              Print version\n"

/-- The version text. -/
def versionText : String := commandName ++ " " ++ commandVersion ++ "\n"

/-- The text that answers a request. -/
def Inquiry.answer : Inquiry → String
  | help => helpText
  | version => versionText

end SyscallGuard.Cli
