set_option autoImplicit false

/-! # Phrases

The phrases of the language: what a reduction of the parsing automaton builds from tokens and
smaller phrases. Some phrases only group others. They have no node of their own in the finished
tree, and their children take their place: the general forms (`expression`, `statement`,
`simpleType`, ...) and the *runs*, which hold the repeated part of a list. -/

namespace SyscallGuard

/-- A phrase of the grammar. -/
inductive Phrase where
  | sourceFile | packageClause | importDeclaration | importSpec | dot | importSpecList
  | declaration | constDeclaration | constSpec | varDeclaration | varSpec | varSpecList
  | functionDeclaration | methodDeclaration | typeParameterList | typeParameterDeclaration
  | parameterList | parameterDeclaration | variadicParameterDeclaration | typeAlias
  | typeDeclaration | typeSpec | expressionList | parenthesizedType | simpleType | genericType
  | typeArguments | pointerType | arrayType | implicitLengthArrayType | sliceType | structType
  | negatedType | fieldDeclarationList | fieldDeclaration | interfaceType | methodElem | typeElem
  | mapType | channelType | functionType | block | statementList | statement | emptyStatement
  | simpleStatement | expressionStatement | sendStatement | receiveStatement | incStatement
  | decStatement | assignmentStatement | shortVarDeclaration | labeledStatement
  | emptyLabeledStatement | fallthroughStatement | breakStatement | continueStatement
  | gotoStatement | returnStatement | goStatement | deferStatement | ifStatement | forStatement
  | forClause | rangeClause | expressionSwitchStatement | expressionCase | defaultCase
  | typeSwitchStatement | typeSwitchHeader | typeCase | selectStatement | communicationCase
  | expression | parenthesizedExpression | callExpression | variadicArgument | specialArgumentList
  | argumentList | selectorExpression | indexExpression | sliceExpression
  | typeAssertionExpression | typeConversionExpression | typeInstantiationExpression
  | compositeLiteral | literalValue | literalElement | keyedElement | funcLiteral
  | unaryExpression | binaryExpression | qualifiedType | rawStringLiteral
  | interpretedStringLiteral | sourceFileRun | importSpecListRun | constDeclarationRun
  | constSpecRun | varSpecRun | varSpecListRun | typeParameterListRun | parameterListRun
  | typeDeclarationRun | expressionListRun | typeArgumentsRun | fieldDeclarationListRun
  | fieldDeclarationRun | interfaceTypeRun | typeElemRun | statementListRun
  | expressionSwitchStatementRun | typeSwitchStatementRun | typeCaseRun | selectStatementRun
  | argumentListRun | literalValueRun | interpretedStringLiteralRun
deriving DecidableEq

namespace Phrase

/-- The place of a phrase in the order of phrases. -/
def code (p : Phrase) : Nat := p.ctorIdx

/-- Whether a phrase has a node of its own in the finished tree. -/
def isVisible : Phrase → Bool
  | declaration | simpleType | statementList | statement | simpleStatement | typeSwitchHeader
  | expression | sourceFileRun | importSpecListRun | constDeclarationRun | constSpecRun
  | varSpecRun | varSpecListRun | typeParameterListRun | parameterListRun | typeDeclarationRun
  | expressionListRun | typeArgumentsRun | fieldDeclarationListRun | fieldDeclarationRun
  | interfaceTypeRun | typeElemRun | statementListRun | expressionSwitchStatementRun
  | typeSwitchStatementRun | typeCaseRun | selectStatementRun | argumentListRun | literalValueRun
  | interpretedStringLiteralRun => false
  | _ => true

/-- The phrase a node is shown as: a label without a statement is still a labelled statement, and
    the arguments of the functions that take a type are arguments. -/
def shownAs : Phrase → Phrase
  | emptyLabeledStatement => labeledStatement
  | specialArgumentList => argumentList
  | p => p

end Phrase

end SyscallGuard
