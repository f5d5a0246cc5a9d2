import SyscallGuard.Grammar.Token

set_option autoImplicit false

/-! # Rivals of a token

A token that was read where only some tokens are looked for may not be what would have been read
where others are looked for too: a longer sign begins with it, a name is spelled like it, or a token
starts in the white space in front of it. These are its rivals. A token can be taken over by a
parser in another state only if none of its rivals is looked for there. -/

namespace SyscallGuard.Token

/-- The tokens that begin like a token and are longer. -/
def extensions : Token → List Token
  | dot => [ellipsis, floatLiteral, imaginaryLiteral]
  | assign => [equal]
  | star => [mulAssign]
  | bar => [orAssign, logicalOr]
  | colon => [define]
  | kwGo => [kwGoto]
  | plus => [increment, addAssign]
  | minus => [decrement, subAssign]
  | bang => [notEqual]
  | caret => [xorAssign]
  | ampersand => [andAssign, andNotAssign, andNot, logicalAnd]
  | slash => [quoAssign, comment]
  | percent => [remAssign]
  | shl => [shlAssign]
  | shr => [shrAssign]
  | andNot => [andNotAssign]
  | less => [arrow, shlAssign, shl, lessEqual]
  | greater => [shrAssign, shr, greaterEqual]
  | intLiteral => [floatLiteral, imaginaryLiteral]
  | floatLiteral => [imaginaryLiteral]
  | _ => []

/-- The tokens that can be spelled like a token. The words for constants always win over names. -/
def homographs : Token → List Token
  | identifier => keywords
  | openQuote => [closeQuote]
  | kwNil | kwTrue | kwFalse | kwIota => []
  | t => if t ∈ keywords then [identifier] else []

/-- The tokens that can start in the white space in front of a token, or take in any text. The
    pieces of a string have no white space in front. -/
def intruders : Token → List Token
  | newline => [rawText, stringText]
  | rawText => [newline, stringText]
  | stringText | closeQuote | escape => [rawText]
  | _ => [newline, rawText, stringText]

/-- The tokens that might be read in place of a token. The end of the source is unmistakable. -/
def rivals : Token → List Token
  | eof => []
  | t => t.extensions ++ t.homographs ++ t.intruders

end SyscallGuard.Token
