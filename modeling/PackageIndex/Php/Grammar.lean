import PackageIndex.Php.Rule

/-!
# The grammar of PHP

The statements, declarations and expressions of PHP. How operators bind makes no difference to
what is a program, so an expression is a chain of operands, and what a prefix operator governs is
one operand. Bounds on what an operand may be do matter: only a variable can be assigned to, a
cast and `instanceof` take no assignment, `clone` takes a primary expression.
-/
namespace PackageIndex.Php

namespace Grammar

open Rule

/-! ## Terminals -/

def words (texts : List String) : Rule := oneOf (texts.map .word)
def word (text : String) : Rule := words [text]
def lowerWords (texts : List String) : Rule := oneOf (texts.map .lowerWord)
def signs (texts : List String) : Rule := oneOf (texts.map .sign)
def sign (text : String) : Rule := signs [text]
def joined (text : String) : Rule := oneOf [.joined text]
def terminal (terminal : Terminal) : Rule := oneOf [terminal]
def name : Rule := terminal .name

/-- Classes that are named by where they are named. -/
def relativeClass : List Terminal := [.lowerWord "self", .lowerWord "parent", .word "static"]
def anyName : Rule := oneOf (.name :: relativeClass)

def semicolon : Rule := oneOf [.codeEnd, .sign ";"]
def comma : Rule := sign ","
def ampersand : Rule := sign "&"

/-! ## Compound rules -/

def expression : Rule := Phrase.expression
def operand : Rule := Phrase.operand
def statement : Rule := Phrase.statement
def block : Rule := Phrase.block
def condition : Rule := Phrase.parenthesized
def statements : Rule := many statement

def list (rule : Rule) : Rule := separated comma rule
/-- A list that may be empty; a comma may stand at its end, or alone. -/
def listed (rule : Rule) : Rule := maybe (list rule) ++ maybe comma
def parens (rule : Rule) : Rule := sign "(" ++ rule ++ sign ")"
def brackets (rule : Rule) : Rule := sign "[" ++ rule ++ sign "]"
def braces (rule : Rule) : Rule := sign "\x7b" ++ rule ++ sign "\x7d"
def assigned : Rule := sign "=" ++ expression
def attributed (rule : Rule) : Rule := maybe Phrase.attributes ++ rule
def modified (rule : Rule) : Rule := attributed (many Phrase.modifier ++ rule)

/-- A body in braces or of one statement, or one that a word ends. -/
def loopBody (ending : String) : Rule :=
  statement ||| Phrase.colonBlock ++ word ending ++ semicolon

/-! ## Statements -/

def statementRules : List (Phrase × Rule) := [
  (.program, statements),
  (.statement, firstOf (sign ";") [
    block,
    name ++ sign ":",
    expression ++ semicolon,
    .phrase .choice,
    .phrase .selection,
    .phrase .whileLoop,
    .phrase .doLoop,
    .phrase .forLoop,
    .phrase .foreachLoop,
    word "goto" ++ name ++ semicolon,
    words ["continue", "break", "return"] ++ maybe expression ++ semicolon,
    .phrase .attempt,
    .phrase .declaration,
    word "echo" ++ list expression ++ semicolon,
    word "exit" ++ maybe (parens (maybe expression)) ++ semicolon,
    lowerWords ["unset"] ++ parens (list Phrase.variablePlace ++ maybe comma) ++ semicolon,
    .phrase .constants,
    .phrase .function,
    .phrase .classDeclaration,
    .phrase .interfaceDeclaration,
    .phrase .traitDeclaration,
    .phrase .enumDeclaration,
    .phrase .space,
    .phrase .useDeclaration,
    word "global" ++ list Phrase.simpleVariable ++ semicolon,
    .phrase .staticVariables]),
  (.block, braces statements),
  (.colonBlock, sign ":" ++ statements),
  (.choice, word "if" ++ condition ++
    (statement ++ many (word "elseif" ++ condition ++ statement)
        ++ maybe (word "else" ++ statement)
      ||| Phrase.colonBlock ++ many (word "elseif" ++ condition ++ Phrase.colonBlock)
        ++ maybe (word "else" ++ Phrase.colonBlock) ++ word "endif" ++ semicolon)),
  (.selection, word "switch" ++ condition ++
    (braces (many Phrase.selectionCase)
      ||| sign ":" ++ many Phrase.selectionCase ++ word "endswitch" ++ semicolon)),
  (.selectionCase, (word "case" ++ expression ||| word "default") ++ signs [":", ";"]
    ++ statements),
  (.whileLoop, word "while" ++ condition ++ loopBody "endwhile"),
  (.doLoop, word "do" ++ statement ++ word "while" ++ condition ++ semicolon),
  (.forLoop, word "for"
    ++ parens (maybe Phrase.forList ++ sign ";" ++ maybe Phrase.forList ++ sign ";"
      ++ maybe Phrase.forList)
    ++ (semicolon ||| loopBody "endfor")),
  (.forList, list expression),
  (.foreachLoop, word "foreach"
    ++ parens (expression ++ word "as"
      ++ (Phrase.foreachValue ||| expression ++ sign "=>" ++ Phrase.foreachValue))
    ++ (semicolon ||| loopBody "endforeach")),
  (.foreachValue, Phrase.byReference ||| expression ||| Phrase.listPattern
    ||| Phrase.arrayPattern),
  (.attempt, word "try" ++ block ++ atLeastOne Phrase.handlerClause),
  (.handlerClause, word "finally" ++ block
    ||| word "catch" ++ parens (separated (sign "|") (name ||| Phrase.qualifiedName)
      ++ maybe Phrase.variableName) ++ block),
  (.declaration, word "declare"
    ++ parens (lowerWords ["ticks", "encoding", "strict_types"] ++ sign "=" ++ Phrase.literal)
    ++ (semicolon ||| loopBody "enddeclare")),
  (.staticVariables,
    word "static" ++ list (Phrase.variableName ++ maybe assigned) ++ semicolon),
  (.constants,
    word "const" ++ maybe Phrase.type ++ list Phrase.constantElement ++ semicolon),
  (.constantElement, anyName ++ assigned)]

/-! ## Namespaces and names -/

def further : Rule := sign "\\" ++ name
def useKind : Rule := words ["function", "const"]

def nameRules : List (Phrase × Rule) := [
  (.space, word "namespace" ++
    (Phrase.spaceName ++ semicolon ||| maybe Phrase.spaceName ++ Phrase.spaceBody)),
  (.spaceName, Phrase.namespaceName),
  (.spaceBody, block),
  (.namespaceName, maybe (sign "\\") ++ name ++ many further),
  (.qualifiedName, atLeastOne further ||| name ++ atLeastOne further
    ||| lowerWords ["namespace"] ++ (atLeastOne further ||| name ++ atLeastOne further)),
  (.className, anyName ||| Phrase.qualifiedName),
  (.useDeclaration, word "use" ++
    (list Phrase.useClause
      ||| maybe useKind ++ Phrase.namespaceName ++ sign "\\" ++ braces (list Phrase.useClause))
    ++ semicolon),
  (.useClause, maybe useKind ++ Phrase.className ++ maybe (word "as" ++ name))]

/-! ## Declarations -/

def membersOf (members : List Phrase) : Rule :=
  braces (many (firstOf Phrase.constantMember (members.map .phrase)))

def declarationRules : List (Phrase × Rule) := [
  (.attributes, atLeastOne (sign "#[" ++ list (Phrase.className ++ maybe Phrase.arguments)
    ++ maybe comma ++ sign "]")),
  (.modifier, Phrase.visibility ||| words ["var", "static", "final", "abstract", "readonly"]),
  (.visibility, words ["public", "protected", "private"]
    ++ maybe (joined "(" ++ name ++ joined ")")),
  (.function, attributed (word "function" ++ maybe ampersand ++ anyName ++ Phrase.parameters
    ++ maybe Phrase.returnType ++ block)),
  (.classDeclaration, modified (word "class" ++ Phrase.declaredName ++ maybe Phrase.bases
    ++ maybe Phrase.interfaces ++ Phrase.typeBody)),
  (.interfaceDeclaration, attributed (word "interface" ++ Phrase.declaredName
    ++ maybe Phrase.bases ++ Phrase.typeBody)),
  (.traitDeclaration, attributed (word "trait" ++ Phrase.declaredName ++ Phrase.typeBody)),
  (.enumDeclaration, attributed (word "enum" ++ name
    ++ maybe (sign ":" ++ lowerWords ["string", "int"]) ++ maybe Phrase.interfaces
    ++ Phrase.enumBody)),
  (.declaredName, name),
  (.bases, word "extends" ++ list Phrase.className),
  (.interfaces, word "implements" ++ list Phrase.className),
  (.typeBody, Phrase.members),
  (.enumBody, membersOf [.method, .traitUse, .enumCase]),
  (.members, membersOf [.method, .traitUse, .property]),
  (.constantMember, modified Phrase.constants),
  (.property, attributed (atLeastOne Phrase.modifier ++ maybe Phrase.type
    ++ list (Phrase.variableName ++ maybe assigned) ++ (semicolon ||| Phrase.hooks))),
  (.method, modified (word "function" ++ maybe ampersand ++ Phrase.methodName
    ++ Phrase.parameters ++ maybe Phrase.returnType ++ (block ||| semicolon))),
  (.methodName, anyName),
  (.hooks, braces (many Phrase.hook)),
  (.hook, attributed (maybe (word "final") ++ maybe ampersand ++ name
    ++ maybe Phrase.parameters ++ (sign "=>" ++ expression ++ semicolon ||| block ||| semicolon))),
  (.traitUse, word "use" ++ list Phrase.className
    ++ (semicolon ||| braces (many (Phrase.traitRule ++ semicolon)))),
  (.traitRule, (Phrase.classConstant ||| name) ++
    (word "insteadof" ++ name
      ||| word "as" ++ (maybe Phrase.visibility ++ name ||| Phrase.visibility))),
  (.enumCase, attributed (word "case" ++ name ++ maybe assigned ++ semicolon))]

/-! ## Parameters and types -/

def argumentWords : List Terminal :=
  [.lowerWord "parent", .lowerWord "self"] ++
    ["array", "fn", "function", "match", "namespace", "null", "static", "throw", "true",
      "false"].map .word

def primitiveTypes : List Terminal :=
  .word "callable" ::
    ["array", "iterable", "bool", "float", "int", "string", "void", "mixed", "static", "false",
      "null", "true"].map .lowerWord

def namedType : Rule := name ||| Phrase.qualifiedName ||| oneOf primitiveTypes

def parameterRules : List (Phrase × Rule) := [
  (.parameters, parens (listed Phrase.parameter)),
  (.parameter,
    attributed (maybe Phrase.type ++ maybe ampersand ++
        (Phrase.variableName ++ maybe assigned ||| sign "..." ++ Phrase.variableName))
      ||| attributed (Phrase.visibility ++ maybe (word "readonly") ++ maybe Phrase.type
        ++ (Phrase.byReference ||| Phrase.variableName) ++ maybe assigned
        ++ maybe Phrase.hooks)),
  (.simpleType, maybe (sign "?") ++ namedType),
  (.type,
    separated (sign "|")
        (Phrase.simpleType ||| parens (separated ampersand Phrase.simpleType))
      ||| Phrase.simpleType ++ atLeastOne (ampersand ++ Phrase.simpleType)),
  (.returnType, sign ":" ++ (Phrase.type ||| lowerWords ["never"])),
  (.arguments, parens (listed Phrase.argument) ||| parens (sign "...")),
  (.argument, maybe (oneOf (.name :: argumentWords) ++ sign ":") ++ maybe ampersand
    ++ (oneOf relativeClass ||| sign "..." ++ expression ||| expression))]

/-! ## Expressions -/

def binaryOperators : List Terminal :=
  ["and", "or", "xor"].map .word ++
    ["??", "||", "&&", "|", "^", "&", "==", "!=", "<>", "===", "!==", "<", ">", "<=", ">=",
      "<=>", "<<", ">>", "+", "-", ".", "*", "/", "%", "**"].map .sign

def assignmentOperators : List String :=
  ["**=", "*=", "/=", "%=", "+=", "-=", ".=", "<<=", ">>=", "&=", "^=", "|=", "??="]

def castTypes : List String :=
  ["array", "binary", "bool", "boolean", "double", "int", "integer", "float", "object", "string",
   "real", "unset"]

def inclusions : List String := ["include", "include_once", "require", "require_once"]

def arrow : Rule := signs ["->", "?->"]
def steps : Rule := signs ["++", "--"]
def index : Rule := brackets (maybe expression)
def functionHead (keyword : String) : Rule :=
  attributed (maybe (word "static") ++ word keyword ++ maybe ampersand ++ Phrase.parameters)

/-- What an element of a pattern or an array may stand for. -/
def pattern (nested : Phrase) : Rule :=
  Phrase.variablePlace ||| Phrase.byReference ||| nested
def patternElement (nested : Phrase) : Rule :=
  pattern nested ||| expression ++ sign "=>" ++ pattern nested
def patternElements (element : Phrase) : Rule :=
  maybe element ++ many (comma ++ maybe element)

def expressionRules : List (Phrase × Rule) := [
  (.expression, operand
    ||| expression ++ (oneOf binaryOperators ||| sign "?" ++ maybe expression ++ sign ":")
      ++ operand),
  (.operand, firstOf Phrase.unary [
    .phrase .relation,
    .phrase .matching,
    .phrase .assignment,
    .phrase .yielding,
    sign "@" ++ operand,
    words inclusions ++ operand]),
  (.unary, firstOf Phrase.primary [
    word "clone" ++ Phrase.primary,
    signs ["+", "-", "!", "~"] ++ operand,
    Phrase.castHead
      ++ (Phrase.unary ||| (words inclusions ||| sign "@") ++ operand)]),
  (.castHead, parens (words castTypes)),
  (.relation, Phrase.unary ++ word "instanceof" ++ Phrase.classReference),
  (.matching, word "match" ++ condition ++ braces (listed Phrase.matchArm)),
  (.matchArm, (list expression ++ maybe comma ||| word "default") ++ sign "=>" ++ expression),
  (.assignment,
    Phrase.variablePlace ++ (sign "=" ++ maybe ampersand ||| signs assignmentOperators) ++ operand
      ||| (Phrase.listPattern ||| Phrase.arrayPattern) ++ sign "=" ++ maybe ampersand
        ++ operand),
  (.yielding, word "yield" ++ maybe (firstOf (word "from" ++ operand) [
    operand,
    expression ++ sign "=>" ++ (Phrase.byReference ||| operand),
    Phrase.byReference,
    sign "..." ++ operand])),
  (.primary, firstOf Phrase.variablePlace [
    .phrase .literal,
    .phrase .classConstant,
    .phrase .qualifiedName,
    name,
    .phrase .array,
    words ["print", "throw"] ++ operand,
    .phrase .anonymousFunction,
    .phrase .arrowFunction,
    .phrase .creation,
    .phrase .update,
    .phrase .shellCommand,
    .phrase .parenthesized]),
  (.literal, oneOf [.integer, .float, .word "true", .word "false", .word "null"]
    ||| Phrase.string),
  (.array, word "array" ++ parens (listed Phrase.arrayElement)
    ||| brackets (listed Phrase.arrayElement)),
  (.arrayElement, Phrase.byReference ||| sign "..." ++ expression
    ||| expression ++ maybe (sign "=>" ++ (Phrase.byReference ||| expression))),
  (.byReference, ampersand ++ Phrase.variablePlace),
  (.listPattern, word "list" ++ parens (patternElements .listPatternElement)),
  (.arrayPattern, brackets (patternElements .arrayPatternElement)),
  (.listPatternElement, patternElement .listPattern),
  (.arrayPatternElement, patternElement .arrayPattern),
  (.anonymousFunction, functionHead "function"
    ++ maybe (word "use" ++ parens (list (Phrase.byReference ||| Phrase.variableName)
      ++ maybe comma))
    ++ maybe Phrase.returnType ++ block),
  (.arrowFunction, functionHead "fn" ++ maybe Phrase.returnType ++ sign "=>" ++ operand),
  (.creation, Phrase.completeCreation ||| word "new" ++ Phrase.classReference),
  (.completeCreation, word "new" ++
    (Phrase.classReference ++ Phrase.arguments ||| Phrase.anonymousClass)),
  (.classReference, Phrase.className ||| Phrase.newVariable ||| Phrase.parenthesized),
  (.newVariable, Phrase.simpleVariable
    ||| Phrase.newVariable ++ (index ||| arrow ++ Phrase.memberName)
    ||| (Phrase.className ||| Phrase.newVariable) ++ sign "::" ++ Phrase.simpleVariable),
  (.anonymousClass, modified (word "class" ++ maybe Phrase.arguments ++ maybe Phrase.bases
    ++ maybe Phrase.interfaces ++ Phrase.members)),
  (.update, Phrase.variablePlace ++ steps ||| steps ++ Phrase.variablePlace),
  (.parenthesized, parens expression)]

/-! ## Variables -/

/-- What a member may be asked of, names and constants apart. -/
def indexed : Rule :=
  Phrase.variablePlace ||| Phrase.parenthesized ||| Phrase.array ||| Phrase.string

def variableRules : List (Phrase × Rule) := [
  (.variableName, sign "$" ++ name),
  (.simpleVariable, Phrase.variableName ||| sign "$" ++ Phrase.simpleVariable
    ||| sign "$" ++ braces expression),
  (.variablePlace, firstOf Phrase.callableVariable [
    Phrase.castHead ++ Phrase.variablePlace,
    .phrase .memberAccess,
    .phrase .scopedProperty]),
  (.callableVariable, firstOf Phrase.simpleVariable [
    .phrase .subscript,
    .phrase .memberCall,
    .phrase .scopedCall,
    .phrase .call]),
  (.dereferencable, indexed ||| Phrase.classConstant ||| Phrase.className
    ||| Phrase.completeCreation),
  (.subscript, Phrase.dereferencable ++ index ||| indexed ++ braces expression),
  (.memberAccess, Phrase.dereferencable ++ arrow ++ Phrase.memberName),
  (.memberCall, Phrase.dereferencable ++ arrow ++ Phrase.memberName ++ Phrase.arguments),
  (.memberName, anyName ||| Phrase.simpleVariable ||| braces expression),
  (.scopedProperty, Phrase.dereferencable ++ sign "::" ++ Phrase.simpleVariable),
  (.scopedCall, Phrase.dereferencable ++ sign "::" ++ Phrase.memberName ++ Phrase.arguments),
  (.classConstant, Phrase.dereferencable ++ sign "::" ++ (anyName ||| braces expression)),
  (.call, (Phrase.callableVariable ||| Phrase.className ||| Phrase.parenthesized
    ||| Phrase.array ||| Phrase.string ||| Phrase.completeCreation) ++ Phrase.arguments)]

/-! ## Strings -/

def part (style : Style) : Rule := firstOf (oneOf [.escape, .sign "\\u", .text style false]) [
  Phrase.variableName ++ terminal (.text style true),
  .phrase .interpolation,
  braces expression]

/-- The lines of a string that a label ends. -/
def lines (line : Rule) : Rule :=
  terminal .labelEnd
    ||| terminal .newline ++ atLeastOne line ++ terminal .newline ++ terminal .labelEnd

def stringRules : List (Phrase × Rule) := [
  (.string, terminal .plainString ||| Phrase.template ||| Phrase.labelledString
    ||| Phrase.plainLabelledString),
  (.template, signs ["\"", "b\"", "B\""] ++ many Phrase.quotedPart ++ sign "\""),
  (.shellCommand, sign "\x60" ++ many Phrase.shellPart ++ sign "\x60"),
  (.labelledString, sign "<<<"
    ++ (terminal .label ||| sign "\"" ++ terminal .label ++ joined "\"")
    ++ lines (maybe (terminal .newline) ++ Phrase.labelledPart)),
  (.plainLabelledString, sign "<<<" ++ sign "'" ++ terminal .label ++ joined "'"
    ++ lines (terminal .plainLine)),
  (.quotedPart, part .quoted),
  (.shellPart, part .shell),
  (.labelledPart, part .labelled),
  (.interpolation, Phrase.simpleVariable
    ||| sign "$" ++ name ++
      (arrow ++ name
        ||| brackets (maybe (sign "-") ++ terminal .integer ||| name ||| Phrase.variableName)))]

/-- The network of all rules. -/
def network : Network :=
  .ofRules (statementRules ++ nameRules ++ declarationRules ++ parameterRules ++ expressionRules
    ++ variableRules ++ stringRules)

end Grammar

end PackageIndex.Php
