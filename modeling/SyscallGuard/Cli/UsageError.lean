import SyscallGuard.Cli.Parameter
import SyscallGuard.Text.Terminal

set_option autoImplicit false

/-! # Usage errors

What can be wrong with a command line, and the message for it. Some messages end with a usage that
takes up what was given, others with the general one or with none. -/

namespace SyscallGuard.Cli

/-- What is proposed for an argument that is not known. -/
inductive Tip where
  | none
  /-- Pass it as a value, behind two dashes. -/
  | asValue
  /-- An option with a similar name. -/
  | similar (long : String)
deriving DecidableEq

/-- What is wrong with a command line. -/
inductive UsageError where
  /-- There is no root; some options were given. -/
  | missingRoot (given : List Parameter)
  /-- A parameter has no value. -/
  | valueRequired (parameter : Parameter)
  /-- There is no log format of that name. -/
  | invalidFormat (value : Bytes)
  /-- A value that has to be text is not. -/
  | notText
  /-- A parameter was given twice. -/
  | repeated (parameter : Parameter)
  /-- A flag or a request was given a value. -/
  | unexpectedValue (value : Bytes) (option usage : String)
  /-- An argument is not known, or one too many. -/
  | unexpected (argument : Bytes) (tip : Tip) (usage : String)
deriving DecidableEq

namespace UsageError

/-- A piece of the command line as a message shows it. -/
def quote (piece : Bytes) : String := Terminal.strip (Utf8.display piece)

/-- What is wrong, in a line. -/
def headline : UsageError → String
  | missingRoot _ =>
    "the following required arguments were not provided:\n  " ++ Parameter.root.shown
  | valueRequired p => "a value is required for '" ++ p.shown ++ "' but none was supplied"
  | invalidFormat value =>
    "invalid value '" ++ quote value ++ "' for '" ++ Parameter.logFormat.shown ++ "': "
      ++ LogFormat.unknown
  | notText => "invalid UTF-8 was detected in one or more arguments"
  | repeated p => "the argument '" ++ p.shown ++ "' cannot be used multiple times"
  | unexpectedValue value option _ =>
    "unexpected value '" ++ quote value ++ "' for '" ++ option
      ++ "' found; no more were expected"
  | unexpected argument _ _ => "unexpected argument '" ++ quote argument ++ "' found"

/-- The line with a proposal. -/
def tipLine? : UsageError → Option String
  | unexpected argument .asValue _ =>
    let shown := quote argument
    some ("  tip: to pass '" ++ shown ++ "' as a value, use '-- " ++ shown ++ "'")
  | unexpected _ (.similar long) _ => some ("  tip: a similar argument exists: '--" ++ long ++ "'")
  | _ => none

/-- The usage to show. -/
def usage? : UsageError → Option String
  | missingRoot given => some (usageWith (given.map Parameter.shown))
  | valueRequired _ | invalidFormat _ => none
  | repeated _ | notText => some generalUsage
  | unexpectedValue _ _ usage | unexpected _ _ usage => some usage

/-- The whole message. -/
def text (e : UsageError) : String :=
  let paragraphs := ["error: " ++ e.headline] ++ e.tipLine?.toList
    ++ (e.usage?.map fun u => "Usage: " ++ u).toList ++ ["For more information, try '--help'."]
  "\n\n".intercalate paragraphs ++ "\n"

end UsageError

end SyscallGuard.Cli
