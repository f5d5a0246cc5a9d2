import SyscallGuard.Text.Bytes

set_option autoImplicit false

/-! # Commands of the shell

What scripts are made of. A word is kept as its parts, since parameters, commands and calculations in
it are only put in when the word is used. A command inside a word is kept as its text, which is read
when it is run. -/

namespace SyscallGuard.Shell

/-- What is done with the value of a parameter. The flag says whether an empty value counts as
    none. -/
inductive Operator where
  | value
  | length
  | default (empty : Bool)
  | assign (empty : Bool)
  | alternative (empty : Bool)
  | require (empty : Bool)
  /-- Without the shortest or longest piece at an end that fits a pattern. -/
  | trim (fromEnd longest : Bool)
  /-- Not an operator at all. -/
  | bad

/-- A part of a word. -/
inductive Part where
  | text (bytes : Bytes) (quoted : Bool)
  | parameter (name : Bytes) (operator : Operator) (word : List Part) (quoted : Bool)
  | command (source : Bytes) (line : Nat) (quoted : Bool)
  | arithmetic (expression : List Part) (quoted : Bool)

/-- A word. -/
abbrev Word := List Part

/-- The text of a word that is not quoted and has nothing to put in. -/
def Word.plain? : Word → Option Bytes
  | [.text b false] => some b
  | _ => none

/-- What a descriptor is redirected to. -/
inductive Redirection where
  | input | output | append | both | duplicate
  /-- The text that stands in the script. -/
  | here

/-- A redirection of a descriptor. -/
structure Redirect where
  descriptor : Nat
  kind : Redirection
  target : Word

/-- A command. -/
inductive Command where
  | simple (line : Nat) (assignments : List (Bytes × Word)) (words : List Word)
      (redirects : List Redirect)
  | pipeline (parts : List Command)
  | negation (c : Command)
  | conjunction (first second : Command)
  | disjunction (first second : Command)
  | sequence (first second : Command)
  | background (c : Command)
  | subshell (c : Command)
  | conditional (test yes : Command) (no : Option Command)
  /-- Goes on as long as the test succeeds, or as long as it fails. -/
  | loop (whileFails : Bool) (test body : Command)
  /-- The words are the arguments of the script if there are none. -/
  | each (name : Bytes) (words : Option (List Word)) (body : Command)
  | select (line : Nat) (word : Word) (branches : List (List Word × Option Command))
  | redirected (line : Nat) (c : Command) (redirects : List Redirect)

end SyscallGuard.Shell
