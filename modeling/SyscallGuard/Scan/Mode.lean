import SyscallGuard.Scan.Shape

set_option autoImplicit false

/-! # Scanner modes

Which tokens are looked for depends on where the parser stands. The tokens of a mode never mask
each other's readings that the grammar allows, so states with similar needs share a mode. Two
things hang on the mode: whether a line end is a token or just white space, and what the end of
the source counts as. It is a token of its own in most modes; after the last expression of a
statement it is the terminator that a null character would be; where neither can follow, it is
nothing. -/

namespace SyscallGuard

/-- What the scanner looks for. -/
structure Mode where
  tokens : List Token
  atEnd : Option Token

namespace Mode

open Token

/-! ## Families of tokens -/

def binaryOperators : List Token :=
  [star, bar, plus, minus, caret, ampersand, slash, percent, shl, shr, andNot, equal, notEqual,
    less, lessEqual, greater, greaterEqual, logicalAnd, logicalOr]

def assignOperators : List Token :=
  [mulAssign, quoAssign, remAssign, shlAssign, shrAssign, andAssign, andNotAssign, addAssign,
    subAssign, orAssign, xorAssign]

def unaryOperators : List Token := [star, tilde, arrow, plus, minus, bang, caret, ampersand]

def numbers : List Token := [intLiteral, floatLiteral, imaginaryLiteral, runeLiteral]

def quotes : List Token := [backquote, openQuote]

def terminators : List Token := [newline, semicolon, nul]

/-! ## The modes -/

/-- While faulty input is skipped: every token but line ends and the text of strings. -/
def skipping : Mode where
  tokens :=
    [closeQuote, escape, identifier, semicolon, nul, dot, lparen, rparen, comma, assign, lbrack,
      rbrack, ellipsis, tilde, lbrace, rbrace, arrow, define, increment, decrement, colon, bang,
      comment] ++ assignOperators ++ binaryOperators ++ quotes ++ numbers
  atEnd := some eof

/-- Where an operand or a type may begin. -/
def operand : Mode where
  tokens :=
    [identifier, semicolon, lparen, rparen, comma, lbrack, rbrack, ellipsis, lbrace, rbrace, colon,
      comment] ++ unaryOperators ++ quotes ++ numbers
  atEnd := some eof

/-- Where a statement or an entry of a block may begin or end. -/
def statement : Mode where
  tokens :=
    [identifier, lparen, rparen, comma, assign, lbrack, lbrace, rbrace, bar, comment]
      ++ terminators ++ unaryOperators ++ quotes ++ numbers
  atEnd := some eof

/-- After an operand or a type inside brackets. -/
def bracketed : Mode where
  tokens :=
    [identifier, dot, lparen, rparen, comma, assign, lbrack, rbrack, ellipsis, tilde, lbrace, arrow,
      define, colon, comment] ++ binaryOperators ++ quotes
  atEnd := none

/-- After an expression that may be a statement of its own. -/
def afterStatement : Mode where
  tokens :=
    [identifier, dot, lparen, rparen, comma, assign, lbrack, tilde, lbrace, rbrace, arrow, define,
      increment, decrement, colon, comment]
      ++ terminators ++ assignOperators ++ binaryOperators ++ quotes
  atEnd := some eof

/-- After an expression at the head of a compound statement. -/
def afterHeader : Mode where
  tokens :=
    [semicolon, dot, lparen, comma, assign, lbrack, lbrace, arrow, define, increment, decrement,
      comment] ++ assignOperators ++ binaryOperators
  atEnd := none

/-- After the first of several expressions at the head of a compound statement. -/
def afterListHead : Mode where
  tokens :=
    [dot, lparen, comma, assign, lbrack, lbrace, define, comment]
      ++ assignOperators ++ binaryOperators
  atEnd := none

/-- After an operand inside an expression. -/
def afterOperand : Mode where
  tokens :=
    [semicolon, dot, lparen, rparen, comma, assign, lbrack, rbrack, ellipsis, lbrace, rbrace, define,
      colon, comment] ++ binaryOperators
  atEnd := none

/-- After the last expression of a statement. The end of the source ends the statement. -/
def afterValue : Mode where
  tokens :=
    [identifier, dot, lparen, comma, lbrack, lbrace, rbrace, comment] ++ terminators ++ binaryOperators
  atEnd := some nul

/-- Inside an interpreted string. -/
def string : Mode where
  tokens := [stringText, closeQuote, escape, comment]
  atEnd := none

/-- Inside a raw string. -/
def rawString : Mode where
  tokens := [rawText, comment]
  atEnd := none

/-- The modes, in the order by which the rows of the automaton refer to them. -/
def all : List Mode :=
  [skipping, operand, statement, bracketed, afterStatement, afterHeader, afterListHead,
    afterOperand, afterValue, string, rawString]

end Mode

/-! ## Rules -/

/-- A token to look for with its pattern. -/
structure Rule where
  token : Token
  shape : Pattern

/-- A mode made ready for scanning. -/
structure RuleSet where
  rules : List Rule
  atEnd : Option Token

/-- The rules of a mode. -/
def Mode.ruleSet (m : Mode) : RuleSet := ⟨m.tokens.map fun t => ⟨t, t.shape⟩, m.atEnd⟩

/-- The rules of every mode. -/
def RuleSet.table : Array RuleSet := .mk (Mode.all.map Mode.ruleSet)

/-- The rules of the mode with this number. -/
def RuleSet.ofMode (n : Nat) : RuleSet := RuleSet.table.getD n ⟨[], none⟩

end SyscallGuard
