import SyscallGuard.Grammar.Token
import SyscallGuard.Scan.Letters
import SyscallGuard.Scan.Pattern

set_option autoImplicit false

/-! # Shapes of tokens

The pattern of every token. Signs and keywords are spelled in one way; names, numbers, characters,
the pieces of strings and comments have patterns of their own. -/

namespace SyscallGuard

open Pattern

/-! ## Numbers -/

namespace Shape

def binaryDigit : Pattern := oneOf "01"
def octalDigit : Pattern := one (.range '0' '7')
def decimalDigit : Pattern := one (.range '0' '9')
def hexDigit : Pattern := one ⟨[(48, 57), (65, 70), (97, 102)], false⟩

/-- Digits, with a single underscore allowed between neighbours. -/
def digits (d : Pattern) : Pattern := seq d (many (seq (optional (oneOf "_")) d))

def binaryNumber : Pattern := all [oneOf "0", oneOf "Bb", optional (oneOf "_"), digits binaryDigit]

def decimalNumber : Pattern :=
  either (oneOf "0")
    (seq (one (.range '1' '9')) (optional (seq (optional (oneOf "_")) (digits decimalDigit))))

def octalNumber : Pattern :=
  all [oneOf "0", optional (oneOf "Oo"), optional (oneOf "_"), digits octalDigit]

def hexNumber : Pattern := all [oneOf "0", oneOf "Xx", optional (oneOf "_"), digits hexDigit]

def integer : Pattern := any [binaryNumber, decimalNumber, octalNumber, hexNumber]

/-- An exponent: its letter, a sign or none, decimal digits. -/
def exponent (letter : String) : Pattern :=
  all [oneOf letter, optional (oneOf "+-"), digits decimalDigit]

def decimalFloat : Pattern :=
  any [
    all [digits decimalDigit, oneOf ".", optional (digits decimalDigit), optional (exponent "Ee")],
    seq (digits decimalDigit) (exponent "Ee"),
    all [oneOf ".", digits decimalDigit, optional (exponent "Ee")]]

def hexMantissa : Pattern :=
  any [
    all [optional (oneOf "_"), digits hexDigit, oneOf ".", optional (digits hexDigit)],
    seq (optional (oneOf "_")) (digits hexDigit),
    seq (oneOf ".") (digits hexDigit)]

def float : Pattern :=
  either decimalFloat (all [oneOf "0", oneOf "Xx", hexMantissa, exponent "Pp"])

def imaginary : Pattern := seq (any [digits decimalDigit, integer, float]) (oneOf "i")

/-! ## Characters, strings and comments -/

def rune : Pattern :=
  all [
    oneOf "'",
    either (noneOf "'\\")
      (seq (oneOf "\\")
        (any [
          seq (oneOf "x") (times 2 hexDigit),
          times 3 octalDigit,
          seq (oneOf "u") (times 4 hexDigit),
          seq (oneOf "U") (times 8 hexDigit),
          oneOf "\"'\\abfnrtv"])),
    oneOf "'"]

def escape : Pattern :=
  seq (oneOf "\\")
    (any [
      noneOf "Uux",
      all [decimalDigit, decimalDigit, optional decimalDigit],
      all [oneOf "x", hexDigit, some hexDigit],
      seq (oneOf "u") (times 4 hexDigit),
      seq (oneOf "U") (times 8 hexDigit)])

def lineComment : Pattern := seq (text "//") (many (noneOf "\n"))

def blockComment : Pattern :=
  all [
    text "/*",
    many (noneOf "*"),
    some (oneOf "*"),
    many (all [noneOf "*/", many (noneOf "*"), some (oneOf "*")]),
    oneOf "/"]

/-! ## Names -/

def name : Pattern :=
  seq (one ⟨Letters.first, false⟩) (many (either (one ⟨Letters.first, false⟩) (one ⟨Letters.later, false⟩)))

end Shape

/-! ## All tokens -/

namespace Token

/-- The pattern of a token. -/
def shape : Token → Pattern
  | eof => never
  | identifier => Shape.name
  | newline => some (oneOf "\n")
  | rawText => many (noneOf "`")
  | stringText => some (noneOf "\n\"\\")
  | escape => Shape.escape
  | intLiteral => Shape.integer
  | floatLiteral => Shape.float
  | imaginaryLiteral => Shape.imaginary
  | runeLiteral => Shape.rune
  | comment => either Shape.lineComment Shape.blockComment
  | t => text t.spelling

/-- The pieces of an interpreted string follow each other without white space between them. -/
def isGlued : Token → Bool
  | stringText | closeQuote | escape => true
  | _ => false

/-- The text inside a string wins over anything else that could be read in its place. -/
def isText : Token → Bool
  | rawText | stringText => true
  | _ => false

end Token

end SyscallGuard
