import SyscallGuard.Grammar.Phrase

set_option autoImplicit false

/-! # Reductions

A reduction takes the last `arity` subtrees and makes a phrase of them. The grammar is ambiguous
on purpose, for instance between a call and a conversion; `weight` is what a reduction adds to the
weight of its tree, and of two readings of the same bytes the heavier one is kept.

A child can have a *role*: it is a field of its parent, or it is a name shown under a more precise
kind. -/

namespace SyscallGuard

/-- What a child is to its parent. -/
inductive Role where
  /-- Nothing more than a child. -/
  | plain
  /-- The callee of a call. -/
  | function
  /-- The right-hand side of an assignment, a declaration or an operator. -/
  | right
  /-- A name of a type. -/
  | typeIdentifier
  /-- A name of a field or method. -/
  | fieldIdentifier
  /-- A name of a package. -/
  | packageIdentifier
  /-- A name of a label. -/
  | labelName
  /-- A type that constrains a type parameter. -/
  | typeConstraint
deriving DecidableEq

/-- How a phrase is put together. Children beyond the listed roles are plain. -/
structure Reduction where
  phrase : Phrase
  arity : Nat
  weight : Int
  roles : List Role
deriving DecidableEq

namespace Reduction

/-- Every reduction of the automaton, in the order by which its rows refer to them. -/
def all : List Reduction := [
  ⟨.sourceFile, 0, 0, []⟩,
  ⟨.sourceFile, 1, 0, []⟩,
  ⟨.sourceFile, 2, 0, []⟩,
  ⟨.packageClause, 2, 0, [.plain, .packageIdentifier]⟩,
  ⟨.importDeclaration, 2, 0, []⟩,
  ⟨.importSpec, 1, 0, []⟩,
  ⟨.importSpec, 2, 0, []⟩,
  ⟨.importSpec, 2, 0, [.packageIdentifier]⟩,
  ⟨.dot, 1, 0, []⟩,
  ⟨.importSpecList, 2, 0, []⟩,
  ⟨.importSpecList, 3, 0, []⟩,
  ⟨.importSpecList, 4, 0, []⟩,
  ⟨.importSpecList, 5, 0, []⟩,
  ⟨.constDeclaration, 2, 0, []⟩,
  ⟨.constDeclaration, 3, 0, []⟩,
  ⟨.constDeclaration, 4, 0, []⟩,
  ⟨.constSpec, 1, 0, []⟩,
  ⟨.constSpec, 2, 0, []⟩,
  ⟨.constSpec, 3, 0, []⟩,
  ⟨.constSpec, 4, 0, []⟩,
  ⟨.constSpec, 5, 0, []⟩,
  ⟨.varDeclaration, 2, 0, []⟩,
  ⟨.varSpec, 2, 0, []⟩,
  ⟨.varSpec, 3, 0, []⟩,
  ⟨.varSpec, 4, 0, []⟩,
  ⟨.varSpec, 5, 0, []⟩,
  ⟨.varSpecList, 2, 0, []⟩,
  ⟨.varSpecList, 3, 0, []⟩,
  ⟨.functionDeclaration, 3, 0, []⟩,
  ⟨.functionDeclaration, 4, 0, []⟩,
  ⟨.functionDeclaration, 5, 0, []⟩,
  ⟨.functionDeclaration, 6, 0, []⟩,
  ⟨.methodDeclaration, 4, 0, [.plain, .plain, .fieldIdentifier]⟩,
  ⟨.methodDeclaration, 5, 0, [.plain, .plain, .fieldIdentifier]⟩,
  ⟨.methodDeclaration, 6, 0, [.plain, .plain, .fieldIdentifier]⟩,
  ⟨.typeParameterList, 3, 0, []⟩,
  ⟨.typeParameterList, 4, 0, []⟩,
  ⟨.typeParameterList, 5, 0, []⟩,
  ⟨.typeParameterDeclaration, 2, 0, [.plain, .typeConstraint]⟩,
  ⟨.typeParameterDeclaration, 3, 0, [.plain, .plain, .typeConstraint]⟩,
  ⟨.parameterList, 2, 0, []⟩,
  ⟨.parameterList, 3, 0, []⟩,
  ⟨.parameterList, 4, 0, []⟩,
  ⟨.parameterList, 5, 0, []⟩,
  ⟨.parameterDeclaration, 1, 0, []⟩,
  ⟨.parameterDeclaration, 2, 0, []⟩,
  ⟨.parameterDeclaration, 3, 0, []⟩,
  ⟨.variadicParameterDeclaration, 2, 0, []⟩,
  ⟨.variadicParameterDeclaration, 3, 0, []⟩,
  ⟨.typeAlias, 3, 0, [.typeIdentifier]⟩,
  ⟨.typeDeclaration, 2, 0, []⟩,
  ⟨.typeDeclaration, 3, 0, []⟩,
  ⟨.typeDeclaration, 4, 0, []⟩,
  ⟨.typeSpec, 2, 0, [.typeIdentifier]⟩,
  ⟨.typeSpec, 3, 0, [.typeIdentifier]⟩,
  ⟨.expressionList, 1, 0, []⟩,
  ⟨.expressionList, 2, 0, []⟩,
  ⟨.parenthesizedType, 3, 0, []⟩,
  ⟨.simpleType, 1, -1, [.typeIdentifier]⟩,
  ⟨.simpleType, 1, 0, []⟩,
  ⟨.genericType, 2, 1, []⟩,
  ⟨.genericType, 2, 1, [.typeIdentifier]⟩,
  ⟨.typeArguments, 3, 2, []⟩,
  ⟨.typeArguments, 4, 2, []⟩,
  ⟨.typeArguments, 5, 2, []⟩,
  ⟨.pointerType, 2, 0, []⟩,
  ⟨.arrayType, 4, 0, []⟩,
  ⟨.implicitLengthArrayType, 4, 0, []⟩,
  ⟨.sliceType, 3, 0, []⟩,
  ⟨.structType, 2, 0, []⟩,
  ⟨.negatedType, 2, 0, []⟩,
  ⟨.fieldDeclarationList, 2, 0, []⟩,
  ⟨.fieldDeclarationList, 3, 0, []⟩,
  ⟨.fieldDeclarationList, 4, 0, []⟩,
  ⟨.fieldDeclarationList, 5, 0, []⟩,
  ⟨.fieldDeclaration, 1, 0, []⟩,
  ⟨.fieldDeclaration, 1, 0, [.typeIdentifier]⟩,
  ⟨.fieldDeclaration, 2, 0, []⟩,
  ⟨.fieldDeclaration, 2, 0, [.fieldIdentifier]⟩,
  ⟨.fieldDeclaration, 2, 0, [.plain, .typeIdentifier]⟩,
  ⟨.fieldDeclaration, 2, 0, [.typeIdentifier]⟩,
  ⟨.fieldDeclaration, 3, 0, []⟩,
  ⟨.fieldDeclaration, 3, 0, [.fieldIdentifier]⟩,
  ⟨.fieldDeclaration, 3, 0, [.plain, .typeIdentifier]⟩,
  ⟨.fieldDeclaration, 4, 0, [.fieldIdentifier]⟩,
  ⟨.interfaceType, 3, 0, []⟩,
  ⟨.interfaceType, 4, 0, []⟩,
  ⟨.interfaceType, 5, 0, []⟩,
  ⟨.interfaceType, 6, 0, []⟩,
  ⟨.methodElem, 2, 0, [.fieldIdentifier]⟩,
  ⟨.methodElem, 3, 0, [.fieldIdentifier]⟩,
  ⟨.typeElem, 1, 0, []⟩,
  ⟨.typeElem, 2, 0, []⟩,
  ⟨.mapType, 5, 0, []⟩,
  ⟨.channelType, 2, 0, []⟩,
  ⟨.channelType, 3, 0, []⟩,
  ⟨.functionType, 2, 0, []⟩,
  ⟨.functionType, 3, 0, []⟩,
  ⟨.block, 2, 0, []⟩,
  ⟨.block, 3, 0, []⟩,
  ⟨.statementList, 1, 0, []⟩,
  ⟨.statementList, 2, 0, []⟩,
  ⟨.statementList, 3, 0, []⟩,
  ⟨.statementList, 4, 0, []⟩,
  ⟨.statement, 1, 0, []⟩,
  ⟨.emptyStatement, 1, 0, []⟩,
  ⟨.simpleStatement, 1, 0, []⟩,
  ⟨.expressionStatement, 1, 0, []⟩,
  ⟨.sendStatement, 3, 0, []⟩,
  ⟨.receiveStatement, 1, 0, [.right]⟩,
  ⟨.receiveStatement, 3, 0, [.plain, .plain, .right]⟩,
  ⟨.incStatement, 2, 0, []⟩,
  ⟨.decStatement, 2, 0, []⟩,
  ⟨.assignmentStatement, 3, 0, [.plain, .plain, .right]⟩,
  ⟨.shortVarDeclaration, 3, 0, [.plain, .plain, .right]⟩,
  ⟨.labeledStatement, 3, 0, [.labelName]⟩,
  ⟨.emptyLabeledStatement, 2, 0, [.labelName]⟩,
  ⟨.fallthroughStatement, 1, 0, []⟩,
  ⟨.breakStatement, 1, 0, []⟩,
  ⟨.breakStatement, 2, 0, [.plain, .labelName]⟩,
  ⟨.continueStatement, 1, 0, []⟩,
  ⟨.continueStatement, 2, 0, [.plain, .labelName]⟩,
  ⟨.gotoStatement, 2, 0, [.plain, .labelName]⟩,
  ⟨.returnStatement, 1, 0, []⟩,
  ⟨.returnStatement, 2, 0, []⟩,
  ⟨.goStatement, 2, 0, []⟩,
  ⟨.deferStatement, 2, 0, []⟩,
  ⟨.ifStatement, 3, 0, []⟩,
  ⟨.ifStatement, 5, 0, []⟩,
  ⟨.ifStatement, 7, 0, []⟩,
  ⟨.forStatement, 2, 0, []⟩,
  ⟨.forStatement, 3, 0, []⟩,
  ⟨.forClause, 2, 0, []⟩,
  ⟨.forClause, 3, 0, []⟩,
  ⟨.forClause, 4, 0, []⟩,
  ⟨.forClause, 5, 0, []⟩,
  ⟨.rangeClause, 2, 0, [.plain, .right]⟩,
  ⟨.rangeClause, 4, 0, [.plain, .plain, .plain, .right]⟩,
  ⟨.expressionSwitchStatement, 3, 0, []⟩,
  ⟨.expressionSwitchStatement, 4, 0, []⟩,
  ⟨.expressionSwitchStatement, 5, 0, []⟩,
  ⟨.expressionSwitchStatement, 6, 0, []⟩,
  ⟨.expressionSwitchStatement, 7, 0, []⟩,
  ⟨.expressionCase, 3, 0, []⟩,
  ⟨.expressionCase, 4, 0, []⟩,
  ⟨.defaultCase, 2, 0, []⟩,
  ⟨.defaultCase, 3, 0, []⟩,
  ⟨.typeSwitchStatement, 4, 0, []⟩,
  ⟨.typeSwitchStatement, 5, 0, []⟩,
  ⟨.typeSwitchHeader, 5, 0, []⟩,
  ⟨.typeSwitchHeader, 7, 0, []⟩,
  ⟨.typeSwitchHeader, 9, 0, []⟩,
  ⟨.typeCase, 3, 0, []⟩,
  ⟨.typeCase, 4, 0, []⟩,
  ⟨.typeCase, 5, 0, []⟩,
  ⟨.selectStatement, 3, 0, []⟩,
  ⟨.selectStatement, 4, 0, []⟩,
  ⟨.communicationCase, 3, 0, []⟩,
  ⟨.communicationCase, 4, 0, []⟩,
  ⟨.expression, 1, 0, []⟩,
  ⟨.parenthesizedExpression, 3, 0, []⟩,
  ⟨.callExpression, 2, 0, [.function]⟩,
  ⟨.callExpression, 3, 0, [.function]⟩,
  ⟨.variadicArgument, 2, 0, []⟩,
  ⟨.specialArgumentList, 2, 0, []⟩,
  ⟨.specialArgumentList, 3, 0, []⟩,
  ⟨.specialArgumentList, 4, 0, []⟩,
  ⟨.specialArgumentList, 5, 0, []⟩,
  ⟨.argumentList, 2, 0, []⟩,
  ⟨.argumentList, 3, 0, []⟩,
  ⟨.argumentList, 4, 0, []⟩,
  ⟨.argumentList, 5, 0, []⟩,
  ⟨.selectorExpression, 3, 0, [.plain, .plain, .fieldIdentifier]⟩,
  ⟨.indexExpression, 4, 0, []⟩,
  ⟨.sliceExpression, 4, 0, []⟩,
  ⟨.sliceExpression, 5, 0, []⟩,
  ⟨.sliceExpression, 6, 0, []⟩,
  ⟨.sliceExpression, 7, 0, []⟩,
  ⟨.sliceExpression, 8, 0, []⟩,
  ⟨.typeAssertionExpression, 5, 0, []⟩,
  ⟨.typeConversionExpression, 4, -1, []⟩,
  ⟨.typeConversionExpression, 5, -1, []⟩,
  ⟨.typeInstantiationExpression, 4, -1, []⟩,
  ⟨.typeInstantiationExpression, 5, -1, []⟩,
  ⟨.typeInstantiationExpression, 6, -1, []⟩,
  ⟨.compositeLiteral, 2, 0, []⟩,
  ⟨.compositeLiteral, 2, 0, [.typeIdentifier]⟩,
  ⟨.literalValue, 2, 0, []⟩,
  ⟨.literalValue, 3, 0, []⟩,
  ⟨.literalValue, 4, 0, []⟩,
  ⟨.literalValue, 5, 0, []⟩,
  ⟨.literalElement, 1, 0, []⟩,
  ⟨.keyedElement, 3, 0, []⟩,
  ⟨.funcLiteral, 3, 0, []⟩,
  ⟨.funcLiteral, 4, 0, []⟩,
  ⟨.unaryExpression, 2, 0, []⟩,
  ⟨.binaryExpression, 3, 0, [.plain, .plain, .right]⟩,
  ⟨.qualifiedType, 3, 0, [.packageIdentifier, .plain, .typeIdentifier]⟩,
  ⟨.rawStringLiteral, 3, 0, []⟩,
  ⟨.interpretedStringLiteral, 2, 0, []⟩,
  ⟨.interpretedStringLiteral, 3, 0, []⟩,
  ⟨.sourceFileRun, 2, 0, []⟩,
  ⟨.importSpecListRun, 2, 0, []⟩,
  ⟨.constDeclarationRun, 2, 0, []⟩,
  ⟨.constSpecRun, 2, 0, []⟩,
  ⟨.varSpecRun, 2, 0, []⟩,
  ⟨.varSpecListRun, 2, 0, []⟩,
  ⟨.typeParameterListRun, 2, 0, []⟩,
  ⟨.parameterListRun, 2, 0, []⟩,
  ⟨.typeDeclarationRun, 2, 0, []⟩,
  ⟨.expressionListRun, 2, 0, []⟩,
  ⟨.typeArgumentsRun, 2, 0, []⟩,
  ⟨.fieldDeclarationListRun, 2, 0, []⟩,
  ⟨.fieldDeclarationRun, 2, 0, []⟩,
  ⟨.fieldDeclarationRun, 2, 0, [.plain, .fieldIdentifier]⟩,
  ⟨.interfaceTypeRun, 2, 0, []⟩,
  ⟨.typeElemRun, 2, 0, []⟩,
  ⟨.statementListRun, 2, 0, []⟩,
  ⟨.expressionSwitchStatementRun, 2, 0, []⟩,
  ⟨.typeSwitchStatementRun, 2, 0, []⟩,
  ⟨.typeCaseRun, 2, 0, []⟩,
  ⟨.selectStatementRun, 2, 0, []⟩,
  ⟨.argumentListRun, 2, 0, []⟩,
  ⟨.literalValueRun, 2, 0, []⟩,
  ⟨.interpretedStringLiteralRun, 2, 0, []⟩]

/-- The reductions in an array, for quick access by number. -/
def table : Array Reduction := .mk all

end Reduction

end SyscallGuard
