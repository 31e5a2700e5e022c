import Enclose.Diagnostic
import Enclose.Text.Quoted
import Enclose.Unicode.Width

/-!
What can be wrong with a program text, and where.
-/

namespace Enclose.Script

inductive Cause where
  -- characters and literals
  | unexpectedCharacter (c : Char)
  | unterminatedComment
  | unterminatedString
  | unterminatedTemplate
  | unterminatedRegex
  | legacyComment
  | conflictMarker
  | invalidEscape
  | badEscape (wanted : String)
  | invalidUnicodeEscape
  | expectedUnicodeEscape
  | invalidWordCharacter
  | escapeInReservedWord (word : String)
  | legacyOctal
  | legacyDecimal
  | numericSeparator
  | expectedDigit (kind : String)
  | unfinishedExponent
  | wordAfterNumber
  | repeatedRegexFlag (flag : Char)
  | unknownRegexFlag
  -- what was expected
  | endOfText
  | expected (wanted got : String)
  | unexpected (got wanted : String)
  | expectedIdent
  | expectedExpression
  | expectedSemicolon
  | expectedSemicolonAfterExpr
  -- names
  | strictIdent (name : String)
  | awaitIdent
  | evalOrArguments
  | argumentsInField
  | reservedShorthand
  | optionalProperty
  | reservedImport
  | importNameIsString (name : String)
  | exportNeedsFrom (name : String)
  | exportNameIsString
  | privateConstructor
  | spaceAfterHash
  -- patterns and targets
  | notPattern
  | notExpression
  | notAssignable
  | notVariableOrProperty
  | invalidTarget
  | defaultInLiteral
  | restNotLast
  | commaAfterRest
  | restWithInitializer
  | restParamNotLast
  | restInSetter
  | restNeedsIdent
  | patternNeedsInit
  | constNeedsInit
  | spreadInParens
  | emptyParens
  -- operators and calls
  | mixedNullish
  | powerOfUnary
  | awaitStar
  | newAfterOptional
  | templateInOptional
  | superAccess
  | superCall
  | optionalSuperCall
  | invalidImport
  | lineBreakBeforeArrow
  | arrowNotAllowed
  | newTargetOutside
  | importMetaInScript
  -- functions
  | strictDirective
  | yieldInParams
  | awaitInParams
  | awaitInFunction
  | awaitInScript
  | getterParams
  | setterParams
  -- statements
  | returnOutside
  | breakOutside
  | breakToUnknown
  | continueOutside
  | continueToUnknown
  | duplicateLabel (label : String)
  | labelledFunction
  | labelledGenerator
  | declarationNotAllowed
  | withInStrict
  | deleteIdent
  | lineBreakInThrow
  | tooManyInForHead
  | initInForHead
  | forOfAsync
  | forAwaitNotOf
  | trailingComma
  | multipleDefaults
  | usingNotEnabled
  | usingNeedsIdent
  | usingNeedsInit
  -- classes
  | duplicateConstructor
  | constructorAccessor
  | constructorGenerator
  | constructorAsync
  | constructorStatic
  | fieldNamedConstructor
  | extendsTwice
  -- modules
  | notInModule
  | importCommaAtEnd
  deriving Repr, DecidableEq, Inhabited

def Cause.message : Cause → String
  | unexpectedCharacter c => "Unexpected character " ++ Text.quotedChar c
  | unterminatedComment => "Unterminated block comment"
  | unterminatedString => "Unterminated string constant"
  | unterminatedTemplate => "Unterminated template"
  | unterminatedRegex => "Unterminated regexp literal"
  | legacyComment => "Legacy comments cannot be used in module code"
  | conflictMarker => "Merge conflict marker encountered."
  | invalidEscape => "Invalid string escape"
  | badEscape wanted => "Bad character escape sequence, expected " ++ wanted
  | invalidUnicodeEscape => "Invalid unicode escape"
  | expectedUnicodeEscape => "Expected unicode escape"
  | invalidWordCharacter => "Invalid character in identifier"
  | escapeInReservedWord word => "Unexpected escape sequence in reserved word: " ++ word
  | legacyOctal => "Legacy octal escape is not permitted in strict mode"
  | legacyDecimal => "Legacy decimal escape is not permitted in strict mode"
  | numericSeparator => "A numeric separator is only allowed between two digits"
  | expectedDigit kind => "Expected " ++ kind ++ " digit"
  | unfinishedExponent => "Expected +, - or decimal digit after e"
  | wordAfterNumber => "Identifier cannot follow number"
  | repeatedRegexFlag flag =>
    "Duplicated regular expression flag '" ++ String.singleton flag ++ "'."
  | unknownRegexFlag => "Unknown regular expression flags."
  | endOfText => "Unexpected eof"
  | expected wanted got => "Expected " ++ wanted ++ ", got '" ++ got ++ "'"
  | unexpected got wanted => "Unexpected token `" ++ got ++ "`. Expected " ++ wanted
  | expectedIdent => "Expected ident"
  | expectedExpression => "Expression expected"
  | expectedSemicolon => "Expected a semicolon"
  | expectedSemicolonAfterExpr => "Expected ';', '\x7d' or <eof>"
  | strictIdent name => "`" ++ name ++ "` cannot be used as an identifier in strict mode"
  | awaitIdent => "`await` cannot be used as an identifier in an async context"
  | evalOrArguments =>
    "'eval' and 'arguments' cannot be used as a binding identifier in strict mode"
  | argumentsInField => "'arguments' is only allowed in functions and class methods"
  | reservedShorthand => "Cannot use a reserved word as a shorthand property"
  | optionalProperty => "An object member cannot be declared optional"
  | reservedImport => "cannot import as reserved word"
  | importNameIsString name =>
    "A string literal cannot be used as an imported binding.\n- Did you mean `import \x7b \"" ++
      name ++ "\" as foo \x7d`?"
  | exportNeedsFrom name => "`" ++ name ++ "` cannot be used without `from` clause"
  | exportNameIsString =>
    "A string literal cannot be used as an exported binding without `from`."
  | privateConstructor => "Classes can't have a private field named '#constructor'."
  | spaceAfterHash => "Unexpected space between # and identifier"
  | notPattern => "Not a pattern"
  | notExpression => "Not an expression"
  | notAssignable => "Cannot assign to this"
  | notVariableOrProperty =>
    "The left-hand side of an assignment expression must be a variable or a property access."
  | invalidTarget => "Invalid assignment target"
  | defaultInLiteral => "assignment property is invalid syntax"
  | restNotLast => "Rest element must be final element"
  | commaAfterRest => "Trailing comma isn't permitted after a rest element"
  | restWithInitializer => "A rest parameter cannot have an initializer"
  | restParamNotLast => "A rest parameter must be last in a parameter list"
  | restInSetter => "Rest pattern is not allowed in setter"
  | restNeedsIdent => "`...` must be followed by an identifier in declaration contexts"
  | patternNeedsInit => "Destructuring bindings require initializers"
  | constNeedsInit => "'const' declarations must be initialized"
  | spreadInParens => "Parenthesized expression cannot contain spread operator"
  | emptyParens => "Parenthesized expression cannot be empty"
  | mixedNullish =>
    "Nullish coalescing operator(??) requires parens when mixing with logical operators"
  | powerOfUnary => "'**' cannot be applied to unary/await expression."
  | awaitStar =>
    "await* has been removed from the async functions proposal. Use Promise.all() instead."
  | newAfterOptional => "Constructor in/after an Optional Chaining is not allowed."
  | templateInOptional => "Tagged template literal is not allowed in optional chain."
  | superAccess => "Invalid access to super"
  | superCall => "Invalid super call"
  | optionalSuperCall => "Super call cannot be optional"
  | invalidImport => "Invalid access to import"
  | lineBreakBeforeArrow => "Unexpected line break between arrow head and arrow"
  | arrowNotAllowed => "An arrow function is not allowed here"
  | newTargetOutside =>
    "'new.target' is only allowed in the body of a function declaration, " ++
      "function expression, or class."
  | importMetaInScript => "'import.meta' cannot be used outside of module code."
  | strictDirective =>
    "Illegal 'use strict' directive in function with non-simple parameter list."
  | yieldInParams => "'yield' cannot be used as a parameter within generator"
  | awaitInParams => "`await` expressions cannot be used in a parameter initializer."
  | awaitInFunction => "await isn't allowed in non-async function"
  | awaitInScript => "top level await is only allowed in module"
  | getterParams => "A `get` accessor cannot have parameters"
  | setterParams => "A `set` accessor must have exactly one parameter"
  | returnOutside => "Return statement is not allowed here"
  | breakOutside =>
    "A 'break' statement can only be used within an enclosing iteration or switch statement"
  | breakToUnknown => "A 'break' statement can only jump to a label of an enclosing statement"
  | continueOutside =>
    "A 'continue' statement can only jump to a label of an enclosing iteration statement"
  | continueToUnknown => "Jump target cannot cross function boundary"
  | duplicateLabel label => "Label " ++ label ++ " is already declared"
  | labelledFunction => "Function cannot be labelled in strict mode"
  | labelledGenerator => "Generator or async function cannot be labelled"
  | declarationNotAllowed => "Declaration is not allowed"
  | withInStrict => "With statement are not allowed in strict mode"
  | deleteIdent => "'delete' cannot be called on an identifier in strict mode"
  | lineBreakInThrow => "LineBreak cannot follow 'throw'"
  | tooManyInForHead => "Expected one variable binding"
  | initInForHead => "Unexpected initializer in for in/of loop"
  | forOfAsync => "The left-hand side of a `for...of` statement may not be `async`"
  | forAwaitNotOf => "for await syntax is valid only for for-of statement"
  | trailingComma => "Trailing comma is not allowed"
  | multipleDefaults => "A switch block cannot have multiple defaults"
  | usingNotEnabled =>
    "Using declaration is not enabled. Set jsc.parser.explicitResourceManagement to true"
  | usingNeedsIdent => "Using declaration only allows identifiers"
  | usingNeedsInit => "Using declaration requires initializer"
  | duplicateConstructor => "A class can only have one constructor"
  | constructorAccessor => "Class constructor can't be an accessor"
  | constructorGenerator => "A constructor cannot be generator"
  | constructorAsync => "A constructor cannot be async"
  | constructorStatic => "'static' modifier cannot appear on a constructor declaration"
  | fieldNamedConstructor => "Classes may not have a non-static field named 'constructor'"
  | extendsTwice => "'extends' clause already seen."
  | notInModule => "'import', and 'export' cannot be used outside of module code"
  | importCommaAtEnd => "Trailing comma is disallowed inside import(...) arguments"

/-- A complaint, at the place of a character counted from the start of the text. -/
structure Problem where
  place : Nat
  cause : Cause
  deriving Repr, DecidableEq, Inhabited

def Problem.shift (start : Nat) (p : Problem) : Problem := ⟨start + p.place, p.cause⟩

/-- The line and the column of a place, in a text that starts at a given line and column. A line
ends with a line feed, a carriage return or both together; the column counts terminal columns. -/
def locate (line column : Nat) : List Char → Nat → Nat × Nat
  | _, 0 => (line, column)
  | [], _ => (line, column)
  | '\r' :: '\n' :: _, 1 => (line, column)
  | '\r' :: '\n' :: rest, place + 2 => locate (line + 1) 1 rest place
  | c :: rest, place + 1 =>
    if c = '\n' ∨ c = '\r' then locate (line + 1) 1 rest place
    else locate line (column + Unicode.columns c) rest place

def Problem.diagnostic (source : List Char) (p : Problem) : Diagnostic :=
  let (line, column) := locate 1 1 source p.place
  { line, column, message := p.cause.message }

end Enclose.Script
