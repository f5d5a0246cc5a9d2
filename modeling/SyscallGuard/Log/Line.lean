import SyscallGuard.Log.Filter

set_option autoImplicit false

/-! # Log lines

How an event is written: as a line of text with the level in a column, or as a JSON object. -/

namespace SyscallGuard

/-- The forms of a log. -/
inductive LogFormat where
  | compact | json
deriving DecidableEq

namespace LogFormat

/-- The form that is used if none is given. -/
def default : LogFormat := compact

/-- The name of a form. -/
def name : LogFormat → String
  | compact => "compact"
  | json => "json"

/-- The form with a name, in capital or small letters. -/
def ofName? (text : List Char) : Option LogFormat :=
  [compact, json].find? fun f => f.name.toList == text.map Directive.lower

/-- Why there is no form of some name. -/
def unknown : String := "Matching variant not found"

end LogFormat

/-! ## JSON texts -/

namespace JsonText

/-- A hexadecimal digit. -/
def digit (n : Nat) : Char := Nat.digitChar (n % 16)

/-- A character inside a JSON string. -/
def escapeChar (c : Char) : List Char :=
  if c = '"' then ['\\', '"']
  else if c = '\\' then ['\\', '\\']
  else if c = '\n' then ['\\', 'n']
  else if c = '\r' then ['\\', 'r']
  else if c = '\t' then ['\\', 't']
  else if c = '\x08' then ['\\', 'b']
  else if c = '\x0c' then ['\\', 'f']
  else if c.toNat < 32 then ['\\', 'u', '0', '0', digit (c.toNat / 16), digit c.toNat]
  else [c]

/-- A JSON string. -/
def string (text : String) : String :=
  "\"" ++ String.ofList (text.toList.flatMap escapeChar) ++ "\""

end JsonText

/-! ## Lines -/

namespace Event

/-- A value in a line of text. -/
def textValue : Value → String
  | .number n => toString n
  | .quoted text => "\"" ++ text ++ "\""
  | .bare text => text

/-- A value in a JSON object. -/
def jsonValue : Value → String
  | .number n => toString n
  | .quoted text | .bare text => JsonText.string text

/-- A level at the right of its column. -/
def column (level : Level) : String :=
  String.ofList (List.replicate (5 - level.name.length) ' ') ++ level.name

/-- The event as a line of text. -/
def compactLine (time : String) (e : Event) : String :=
  time ++ " " ++ column e.level ++ " " ++ e.message
    ++ String.join (e.fields.map fun f => " " ++ f.1 ++ "=" ++ textValue f.2)

/-- The event as a JSON object. -/
def jsonLine (time : String) (e : Event) : String :=
  "\x7b\"timestamp\":" ++ JsonText.string time ++ ",\"level\":" ++ JsonText.string e.level.name
    ++ ",\"message\":" ++ JsonText.string e.message
    ++ String.join (e.fields.map fun f => "," ++ JsonText.string f.1 ++ ":" ++ jsonValue f.2) ++ "\x7d"

/-- The event in a given form, as of a given time. -/
def line (format : LogFormat) (time : String) (e : Event) : String :=
  match format with
  | .compact => compactLine time e
  | .json => jsonLine time e

end Event

/-- The log of some events, as of a given time. -/
def logText (filter : Filter) (format : LogFormat) (time : String) (events : List Event) : String :=
  String.join ((events.filter filter.shows).map fun e => e.line format time ++ "\n")

end SyscallGuard
