import SyscallGuard.Text.Utf8

set_option autoImplicit false

/-! # Text for a terminal

A text can hold sequences that a terminal takes as commands: an escape character and what belongs to
it. `Terminal.strip` leaves them out, and with them every control character that is no white space.
It follows the states of a terminal's parser; the sequences end where that parser goes back to the
ground state, where a character stands that is shown in any state, or with the text. -/

namespace SyscallGuard.Terminal

/-- Where in a sequence a terminal is. -/
inductive State where
  /-- In plain text. -/
  | ground
  | escape | escapeIntermediate
  | controlEntry | controlParameter | controlIntermediate | controlIgnored
  | deviceEntry | deviceParameter | deviceIntermediate | deviceIgnored | deviceString
  | commandString
  | privateString
deriving DecidableEq

namespace State

/-- Whether a byte lies in a range. -/
def within (low high b : UInt8) : Bool := low ≤ b && b ≤ high

/-- The state behind a byte. Three bytes have the same meaning in every state: two cancel a
    sequence, and the escape character starts one. -/
def next (s : State) (b : UInt8) : State :=
  if b = 0x18 ∨ b = 0x1A then ground
  else if b = 0x1B then escape
  else match s with
    | ground => ground
    | escape =>
      if within 0x20 0x2F b then escapeIntermediate
      else if b = 0x50 then deviceEntry
      else if b = 0x5B then controlEntry
      else if b = 0x5D then commandString
      else if b = 0x58 ∨ b = 0x5E ∨ b = 0x5F then privateString
      else if within 0x30 0x7E b then ground
      else escape
    | escapeIntermediate => if within 0x30 0x7E b then ground else escapeIntermediate
    | controlEntry =>
      if within 0x20 0x2F b then controlIntermediate
      else if within 0x30 0x3F b then controlParameter
      else if within 0x40 0x7E b then ground
      else controlEntry
    | controlParameter =>
      if within 0x20 0x2F b then controlIntermediate
      else if within 0x3C 0x3F b then controlIgnored
      else if within 0x40 0x7E b then ground
      else controlParameter
    | controlIntermediate =>
      if within 0x30 0x3F b then controlIgnored
      else if within 0x40 0x7E b then ground
      else controlIntermediate
    | controlIgnored => if within 0x40 0x7E b then ground else controlIgnored
    | deviceEntry =>
      if within 0x20 0x2F b then deviceIntermediate
      else if within 0x30 0x3F b then deviceParameter
      else if within 0x40 0x7E b then deviceString
      else deviceEntry
    | deviceParameter =>
      if within 0x20 0x2F b then deviceIntermediate
      else if within 0x3C 0x3F b then deviceIgnored
      else if within 0x40 0x7E b then deviceString
      else deviceParameter
    | deviceIntermediate =>
      if within 0x30 0x3F b then deviceIgnored
      else if within 0x40 0x7E b then deviceString
      else deviceIntermediate
    | deviceIgnored => deviceIgnored
    | deviceString => deviceString
    | commandString => if b = 0x07 then ground else commandString
    | privateString => privateString

/-- Whether a control character is carried out in a state instead of being part of a sequence. -/
def obeys : State → Bool
  | ground | escape | escapeIntermediate | controlEntry | controlParameter | controlIntermediate
  | controlIgnored => true
  | deviceEntry | deviceParameter | deviceIntermediate | deviceIgnored | deviceString
  | commandString | privateString => false

end State

/-- Space, tab, line feed, form feed or carriage return. -/
def isPlainSpace (b : UInt8) : Bool := b == 32 || b == 9 || b == 10 || b == 12 || b == 13

/-- Whether a byte is shown in a state: a letter or sign in plain text, white space that the
    terminal obeys, and whatever continues a character. -/
def shows (s : State) (b : UInt8) : Bool :=
  State.within 0x80 0xBF b
    || (s == .ground && (State.within 0x20 0x7E b || State.within 0xC2 0xF4 b))
    || (s.obeys && b < 0x20 && isPlainSpace b)

/-- The bytes that are shown. A byte that is shown ends the sequence it stands in. -/
def stripFrom (s : State) : Bytes → Bytes
  | [] => []
  | b :: rest => if shows s b then b :: stripFrom .ground rest else stripFrom (s.next b) rest

/-- A text without the sequences that a terminal would take as commands. -/
def strip (text : String) : String := Utf8.display (stripFrom .ground (Bytes.ofString text))

end SyscallGuard.Terminal
