import PackageIndex.Source

/-!
# Phrases of PHP

The kinds of phrases a PHP program consists of, and which of them are looked for in it.
-/
namespace PackageIndex.Php

/-- The parts of a program that are looked for. -/
inductive Mark where
  | space
  | type (kind : TypeKind)
  | method
  | name
  | body
  /-- A part whose methods are not those of the type around it. -/
  | group
  deriving DecidableEq, Repr

inductive Phrase where
  | program
  -- statements
  | statement
  | block
  | colonBlock
  | choice
  | selection
  | selectionCase
  | whileLoop
  | doLoop
  | forLoop
  | forList
  | foreachLoop
  | foreachValue
  | attempt
  | handlerClause
  | declaration
  | staticVariables
  | constants
  | constantElement
  -- namespaces and names
  | space
  | spaceName
  | spaceBody
  | namespaceName
  | qualifiedName
  | className
  | useDeclaration
  | useClause
  -- declarations
  | attributes
  | modifier
  | visibility
  | function
  | classDeclaration
  | interfaceDeclaration
  | traitDeclaration
  | enumDeclaration
  | declaredName
  | bases
  | interfaces
  | typeBody
  | enumBody
  | members
  | constantMember
  | property
  | method
  | methodName
  | hooks
  | hook
  | traitUse
  | traitRule
  | enumCase
  -- parameters and types
  | parameters
  | parameter
  | simpleType
  | type
  | returnType
  | arguments
  | argument
  -- expressions
  | expression
  | operand
  | unary
  | castHead
  | relation
  | matching
  | matchArm
  | assignment
  | yielding
  | primary
  | literal
  | array
  | arrayElement
  | byReference
  | listPattern
  | arrayPattern
  | listPatternElement
  | arrayPatternElement
  | anonymousFunction
  | arrowFunction
  | creation
  | completeCreation
  | classReference
  | newVariable
  | anonymousClass
  | update
  | parenthesized
  -- variables
  | variableName
  | simpleVariable
  | variablePlace
  | callableVariable
  | dereferencable
  | subscript
  | memberAccess
  | memberCall
  | memberName
  | scopedProperty
  | scopedCall
  | classConstant
  | call
  -- strings
  | string
  | template
  | shellCommand
  | labelledString
  | plainLabelledString
  | quotedPart
  | shellPart
  | labelledPart
  | interpolation
  deriving DecidableEq, Repr

namespace Phrase

def number : Phrase → Nat := Phrase.ctorIdx

def mark? : Phrase → Option Mark
  | space => some .space
  | classDeclaration => some (.type .classType)
  | interfaceDeclaration => some (.type .interfaceType)
  | traitDeclaration => some (.type .traitType)
  | method => some .method
  | spaceName | declaredName | methodName => some .name
  | spaceBody | typeBody => some .body
  | anonymousClass | enumBody => some .group
  | _ => none

end Phrase

end PackageIndex.Php
