import SyscallGuard.Text.Bytes

set_option autoImplicit false

/-! # Tokens

The words of the language. The order of the constructors is the order in which a missing token is
looked for when a source is faulty, and `Token.code` is the place in that order. -/

namespace SyscallGuard

/-- A token: the end of the source, a word, a sign, a piece of a literal or a comment. -/
inductive Token where
  | eof | identifier | newline | semicolon | nul | kwPackage | kwImport | dot | blank | lparen
  | rparen | kwConst | comma | assign | kwVar | kwFunc | lbrack | rbrack | ellipsis | kwType
  | star | kwStruct | tilde | lbrace | rbrace | kwInterface | bar | kwMap | kwChan | arrow
  | define | increment | decrement | mulAssign | quoAssign | remAssign | shlAssign | shrAssign
  | andAssign | andNotAssign | addAssign | subAssign | orAssign | xorAssign | colon
  | kwFallthrough | kwBreak | kwContinue | kwGoto | kwReturn | kwGo | kwDefer | kwIf | kwElse
  | kwFor | kwRange | kwSwitch | kwCase | kwDefault | kwSelect | kwNew | kwMake | plus | minus
  | bang | caret | ampersand | slash | percent | shl | shr | andNot | equal | notEqual | less
  | lessEqual | greater | greaterEqual | logicalAnd | logicalOr | backquote | rawText | openQuote
  | stringText | closeQuote | escape | intLiteral | floatLiteral | imaginaryLiteral | runeLiteral
  | kwNil | kwTrue | kwFalse | kwIota | comment
deriving DecidableEq

namespace Token

/-- The place of a token in the order of tokens. -/
def code (t : Token) : Nat := t.ctorIdx

/-- Every token, in order. -/
def all : List Token := [
  .eof, .identifier, .newline, .semicolon, .nul, .kwPackage, .kwImport, .dot, .blank, .lparen,
  .rparen, .kwConst, .comma, .assign, .kwVar, .kwFunc, .lbrack, .rbrack, .ellipsis, .kwType, .star,
  .kwStruct, .tilde, .lbrace, .rbrace, .kwInterface, .bar, .kwMap, .kwChan, .arrow, .define,
  .increment, .decrement, .mulAssign, .quoAssign, .remAssign, .shlAssign, .shrAssign, .andAssign,
  .andNotAssign, .addAssign, .subAssign, .orAssign, .xorAssign, .colon, .kwFallthrough, .kwBreak,
  .kwContinue, .kwGoto, .kwReturn, .kwGo, .kwDefer, .kwIf, .kwElse, .kwFor, .kwRange, .kwSwitch,
  .kwCase, .kwDefault, .kwSelect, .kwNew, .kwMake, .plus, .minus, .bang, .caret, .ampersand,
  .slash, .percent, .shl, .shr, .andNot, .equal, .notEqual, .less, .lessEqual, .greater,
  .greaterEqual, .logicalAnd, .logicalOr, .backquote, .rawText, .openQuote, .stringText,
  .closeQuote, .escape, .intLiteral, .floatLiteral, .imaginaryLiteral, .runeLiteral, .kwNil,
  .kwTrue, .kwFalse, .kwIota, .comment]

/-- A set of tokens: bit `n` stands for the token with code `n`. -/
abbrev Set := Nat

/-- Whether a token is in a set. -/
def mem (t : Token) (s : Set) : Bool := s.testBit t.code

/-- The set of the listed tokens. -/
def setOf (ts : List Token) : Set := ts.foldl (fun s t => s ||| 1 <<< t.code) 0

/-! ## Words -/

/-- The words that are keywords where a keyword is allowed, and names elsewhere. -/
def keywords : List Token := [
  .kwPackage, .kwImport, .blank, .kwConst, .kwVar, .kwFunc, .kwType, .kwStruct, .kwInterface,
  .kwMap, .kwChan, .kwFallthrough, .kwBreak, .kwContinue, .kwGoto, .kwReturn, .kwGo, .kwDefer,
  .kwIf, .kwElse, .kwFor, .kwRange, .kwSwitch, .kwCase, .kwDefault, .kwSelect, .kwNew, .kwMake,
  .kwNil, .kwTrue, .kwFalse, .kwIota]

/-- How a token is called in messages. The two built-in functions with a type argument are names
    like any other. -/
def name : Token → String
  | eof => "end"
  | identifier => "identifier"
  | newline => "newline"
  | semicolon => ";"
  | nul => "\x00"
  | kwPackage => "package"
  | kwImport => "import"
  | dot => "."
  | blank => "blank_identifier"
  | lparen => "("
  | rparen => ")"
  | kwConst => "const"
  | comma => ","
  | assign => "="
  | kwVar => "var"
  | kwFunc => "func"
  | lbrack => "["
  | rbrack => "]"
  | ellipsis => "..."
  | kwType => "type"
  | star => "*"
  | kwStruct => "struct"
  | tilde => "~"
  | lbrace => "\x7b"
  | rbrace => "\x7d"
  | kwInterface => "interface"
  | bar => "|"
  | kwMap => "map"
  | kwChan => "chan"
  | arrow => "<-"
  | define => ":="
  | increment => "++"
  | decrement => "--"
  | mulAssign => "*="
  | quoAssign => "/="
  | remAssign => "%="
  | shlAssign => "<<="
  | shrAssign => ">>="
  | andAssign => "&="
  | andNotAssign => "&^="
  | addAssign => "+="
  | subAssign => "-="
  | orAssign => "|="
  | xorAssign => "^="
  | colon => ":"
  | kwFallthrough => "fallthrough"
  | kwBreak => "break"
  | kwContinue => "continue"
  | kwGoto => "goto"
  | kwReturn => "return"
  | kwGo => "go"
  | kwDefer => "defer"
  | kwIf => "if"
  | kwElse => "else"
  | kwFor => "for"
  | kwRange => "range"
  | kwSwitch => "switch"
  | kwCase => "case"
  | kwDefault => "default"
  | kwSelect => "select"
  | kwNew => "identifier"
  | kwMake => "identifier"
  | plus => "+"
  | minus => "-"
  | bang => "!"
  | caret => "^"
  | ampersand => "&"
  | slash => "/"
  | percent => "%"
  | shl => "<<"
  | shr => ">>"
  | andNot => "&^"
  | equal => "=="
  | notEqual => "!="
  | less => "<"
  | lessEqual => "<="
  | greater => ">"
  | greaterEqual => ">="
  | logicalAnd => "&&"
  | logicalOr => "||"
  | backquote => "`"
  | rawText => "raw_string_literal_content"
  | openQuote => "\""
  | stringText => "interpreted_string_literal_content"
  | closeQuote => "\""
  | escape => "escape_sequence"
  | intLiteral => "int_literal"
  | floatLiteral => "float_literal"
  | imaginaryLiteral => "imaginary_literal"
  | runeLiteral => "rune_literal"
  | kwNil => "nil"
  | kwTrue => "true"
  | kwFalse => "false"
  | kwIota => "iota"
  | comment => "comment"

/-- The bytes of a token that is always written the same way. -/
def spelling : Token → String
  | blank => "_"
  | kwNew => "new"
  | kwMake => "make"
  | t => t.name

/-- The keywords with their spellings. -/
def keywordSpellings : List (Bytes × Token) :=
  keywords.map fun t => (Bytes.ofString t.spelling, t)

/-- The keyword with this spelling. -/
def keyword? (word : Bytes) : Option Token := keywordSpellings.lookup word

/-! ## Roles in the tree -/

/-- Line ends and the end of the source leave no node in the tree. -/
def isVisible : Token → Bool
  | eof | newline => false
  | _ => true

/-- Tokens that are more than their spelling: names, literals and their pieces, comments. -/
def isNamed : Token → Bool
  | identifier | blank | kwNew | kwMake | rawText | stringText | escape | intLiteral | floatLiteral
  | imaginaryLiteral | runeLiteral | kwNil | kwTrue | kwFalse | kwIota | comment => true
  | _ => false

end Token

end SyscallGuard
