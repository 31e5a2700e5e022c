import Enclose.Script.Parser.Operand

/-!
Expressions: members and calls, operators, and assignments.
-/

namespace Enclose.Script.Parser

inductive Callee where
  | super
  | import (phase : Option String)
  | expr (e : Expr)

def isChain : Expr → Bool
  | .optionalMember _ _ _ | .optionalCall _ _ _ => true
  | _ => false

/-- The arguments of a call. Those of an import may not end with a comma. -/
def arguments (g : Grammar) (isImport : Bool) : Parse (List Element) := do
  let start ← place
  expect .openParen
  iterate (fun (args : List Element) => do
    if (← atEnd) || (← at? .closeParen) then
      expect .closeParen
      return .inr args.reverse
    else if args.isEmpty then return .inl [← element g]
    else
      expect .comma
      if ← at? .closeParen then
        if isImport then failAt start .importCommaAtEnd
        return .inl args
      else return .inl ((← element g) :: args)) []

def memberOf (callee : Callee) (short noCall : Bool) (key : PropertyKey) : Parse Expr := do
  match callee with
  | .expr e =>
    if short || isChain e then return .optionalMember short e key else return .member e key
  | .import _ => fail .invalidImport
  | .super =>
    if !(← inContext (·.superAllowed)) then fail .superAccess
    else if short then fail (if noCall then .superCall else .superAccess)
    else if key matches .privateName _ then fail .superCall
    else return .member .super key

def callOf (callee : Callee) (short : Bool) (args : List Element) : Parse Expr := do
  match callee with
  | .expr e => if short || isChain e then return .optionalCall short e args else return .call e args
  | .super => if short then fail .optionalSuperCall else return .call .super args
  | .import phase => if short then fail .optionalSuperCall else return .importCall phase args

def atShortLink : Parse Bool := do
  if ← at? .question then return (← aheadToken?) == some .dot else return false

def memberName : Parse PropertyKey := do
  if ← at? .hash then return .privateName (← privateIdentifier) else return .ident (← plainName)

def tagged (g : Grammar) (start : Nat) (tag : Expr) : Parse Expr := do
  let (quasis, values) ← template g true
  if isChain tag then complain start .templateInOptional
  return .taggedTemplate tag quasis values

def subscript (g : Grammar) (start : Nat) (noCall : Bool) (callee : Callee) :
    Parse (Callee ⊕ Expr) := do
  demandToken
  let short ← atShortLink
  if short then advance
  let afterDot ← if short then aheadToken? else token?
  if afterDot == some .openBracket then
    if short then advance
    advance
    let key ← withIn true (expression g)
    expect .closeBracket
    return .inl (.expr (← memberOf callee short noCall (.computed key)))
  else if afterDot == some .openParen && (short || !noCall) then
    if short then advance
    let args ← arguments g (callee matches .import _)
    return .inl (.expr (← callOf callee short args))
  else if ← eat .dot then
    let key ← memberName
    return .inl (.expr (← memberOf callee short noCall key))
  else
    match callee with
    | .expr e =>
      if ← at? .backquote then return .inl (.expr (← tagged g start e)) else return .inr e
    | .super => fail (if noCall then .superCall else .superAccess)
    | .import _ => fail .invalidImport

def subscripts (g : Grammar) (start : Nat) (noCall : Bool) (callee : Callee) : Parse Expr :=
  iterate (subscript g start noCall) callee

def importOperand (g : Grammar) (start : Nat) (noCall : Bool) : Parse Expr := do
  if ← eat .dot then
    match ← plainName with
    | "meta" =>
      unless ← inContext (·.isModule) do complain start .importMetaInScript
      subscripts g start noCall (.expr .importMeta)
    | "defer" => subscripts g start noCall (.import (some "defer"))
    | "source" => subscripts g start noCall (.import (some "source"))
    | _ => unexpected "meta"
  else subscripts g start noCall (.import none)

def isArrow : Expr → Bool
  | .arrow _ _ _ | .arrowBlock _ _ _ => true
  | _ => false

def isNewOfChain : Expr → Bool
  | .member object _ => isChain object
  | e => isChain e

def newOperand (g : Grammar) (start : Nat) : Parse Expr := do
  if ← eat .dot then
    if ← eatWord "target" then
      unless ← inContext fun c => c.inProperFunction || c.inParams || c.inClass do
        complain start .newTargetOutside
      subscripts g start true (.expr .newTarget)
    else unexpected "target"
  else
    let calleePlace ← place
    let callee ← g.member
    if isArrow callee then return callee
    if isNewOfChain callee then failAt calleePlace .newAfterOptional
    if ← at? .openParen then
      let args ← arguments g false
      subscripts g start true (.expr (.new callee args))
    else return .newBare callee

def leftSide (g : Grammar) : Parse Expr := do
  let start ← place
  if ← eatWord "super" then subscripts g start false .super
  else if ← eatWord "import" then importOperand g start false
  else
    let callee ← g.member
    if isArrow callee then return callee
    if callee matches .newBare _ then return callee
    if ← at? .openParen then
      let args ← arguments g false
      subscripts g start false (.expr (← callOf (.expr callee) false args))
    else return callee

def memberExpr (g : Grammar) : Parse Expr := do
  let start ← place
  if ← eatWord "new" then newOperand g start
  else if ← eatWord "super" then subscripts g start true .super
  else if ← eatWord "import" then importOperand g start true
  else
    let e ← operand g (leftSide g)
    if isArrow e then return e
    subscripts g start true (.expr e)

def atAwaitEnd : Parse Bool := do
  match ← token? with
  | some .closeParen | some .closeBracket | some .comma => return true
  | _ => atStatementEnd

def awaitOperand (g : Grammar) (start : Nat) : Parse Expr := do
  if ← at? (.binary .multiply) then fail .awaitStar
  let c := (← getState).context
  if !c.inAsync && (← atAwaitEnd) then
    if c.isModule then complain start .awaitIdent
    return .ident "await"
  else
    if c.topLevel && !c.inAsync && !c.isModule then complain (← complaintPlace) .awaitInScript
    if c.inFunction && !c.inAsync then complain (← complaintPlace) .awaitInFunction
    if c.inParams && !c.inFunction then complain start .awaitInParams
    return .await (← g.unary)

def unaryOp? : Option Token → Option UnaryOp
  | some (.binary .add) => some .plus
  | some (.binary .subtract) => some .minus
  | some .bang => some .not
  | some .tilde => some .complement
  | some (.word "typeof") => some .typeOf
  | some (.word "void") => some .void
  | some (.word "delete") => some .delete
  | _ => none

def afterUnaryOp (g : Grammar) (op : UnaryOp) : Parse Expr := do
  let operandPlace ← place
  let operand ← orComplain g.unary (fun p => return p) .invalid
  if op == .delete && (operand matches .ident _) then complainStrict operandPlace .deleteIdent
  return .unary op operand

def unaryExpr (g : Grammar) : Parse Expr := do
  let start ← place
  let next ← token?
  match next with
  | some (.update op) =>
    advance
    let operandPlace ← place
    let operand ← g.unary
    checkTarget operandPlace operand
    return .update op true operand
  | some (.word "await") =>
    advance
    awaitOperand g start
  | _ =>
    if let some op := unaryOp? next then
      advance
      afterUnaryOp g op
    else
      let e ← leftSide g
      if isArrow e then return e
      if ← afterNewline then return e
      match ← token? with
      | some (.update op) =>
        checkTarget start e
        advance
        return .update op false e
      | _ => return e

def binaryOp? : Parse (Option BinaryOp) := do
  match ← token? with
  | some (.binary op) => return some op
  | some (.word "instanceof") => return some .instanceOf
  | some (.word "in") => if ← inContext (·.includeIn) then return some .isIn else return none
  | _ => return none

def isLogical : Expr → Bool
  | .binary op _ _ => op.isLogical
  | _ => false

def isLogicalOfNullish : Expr → Bool
  | .binary op (.binary .nullish _ _) _ => op.isLogical
  | _ => false

/-- One more operator of more than a given precedence and its right operand, or what stands on the
left if there is none. `??` may not be mixed with `&&` and `||`. -/
def operatorStep (g : Grammar) (minPrecedence leftPlace : Nat) (left : Expr) :
    Parse (Expr ⊕ Expr) := do
  if isLogicalOfNullish left then complain leftPlace .mixedNullish
  demandToken
  match ← binaryOp? with
  | none => return .inr left
  | some op =>
    if op.precedence ≤ minPrecedence then return .inr left
    advance
    if op == .power && (left matches .unary _ _ | .await _) then fail .powerOfUnary
    let rightPlace ← place
    let first ← g.unary
    let right ←
      g.operators (if op == .power then op.precedence - 1 else op.precedence) first rightPlace
    if op == .nullish then
      if isLogical left then complain leftPlace .mixedNullish
      if isLogical right then complain rightPlace .mixedNullish
    return .inl (.binary op left right)

def operatorsExpr (g : Grammar) (minPrecedence : Nat) (left : Expr) (leftPlace : Nat) :
    Parse Expr :=
  iterate (operatorStep g minPrecedence leftPlace) left

/-- The complaint about an operand that cannot be read, if an operator follows and the expression
goes on. At the end of the text, that is the complaint. -/
def missingOperand (p : Problem) : Parse Problem := do
  demandToken
  if ← atEnd then raise ⟨← previousStop, .endOfText⟩
  match ← binaryOp? with
  | some _ => return ⟨← complaintPlace, .expectedExpression⟩
  | none => raise p

def conditionalExpr (g : Grammar) : Parse Expr := do
  let start ← place
  let left ← orComplain g.unary missingOperand .invalid
  if isArrow left then return left
  let test ← g.operators 0 left start
  if ← eat .question then
    let consequent ← withIn true g.assignment
    expect .colon
    return .conditional test consequent (← g.assignment)
  else return test

def barredWords : List String :=
  [ "break", "case", "catch", "continue", "debugger", "default", "do", "else", "finally", "for",
    "if", "return", "switch", "throw", "try", "var", "const", "while", "with", "extends", "export",
    "in", "instanceof" ]

def startsOperand : Token → Bool
  | .word name => !barredWords.contains name
  | .number _ | .bigint _ | .string _ | .regex _ _ => true
  | .openParen | .openBracket | .openBrace | .backquote | .bang | .tilde | .hash | .atSign => true
  | .update _ => true
  | .binary op => op == .add || op == .subtract || op == .multiply || op == .divide
  | .assign op => op == .divide
  | _ => false

def yieldExpr (g : Grammar) : Parse Expr := do
  advance
  if ← inContext fun c => c.inParams && !c.inFunction then
    failAt (← previousPlace) .yieldInParams
  if ← atStatementEnd then return .yield false none
  else if (← token?).all startsOperand then
    let delegate ← eat (.binary .multiply)
    return .yield delegate (some (← g.assignment))
  else return .yield false none

def simpleTarget (start : Nat) (e : Expr) : Parse Pattern := do
  unless isSimpleTarget (← inContext (·.strict)) e do complain start .notAssignable
  return plainTarget e

def mayBeTarget : Expr → Bool
  | .array _ | .object _ | .invalid => true
  | e => isTargetForm e

def afterLeftSide (g : Grammar) (start : Nat) (left : Expr) : Parse Expr := do
  match ← token? with
  | some (.assign op) =>
    let target ← if op == .assign then coverTarget start left else simpleTarget start left
    let fits :=
      if op == .assign then mayBeTarget left else isTargetForm left || (left matches .invalid)
    unless fits do complain start .invalidTarget
    advance
    return .assign op target (← g.assignment)
  | _ => return left

def startsArrow : Token → Bool
  | .word name => name == "yield" || !keywords.contains name
  | .openParen => true
  | _ => false

def mayBeAssigned : Expr → Bool
  | .conditional _ _ _ | .binary _ _ _ | .unary _ _ | .update _ _ _ => false
  | e => !isArrow e

def assignmentExpr (g : Grammar) : Parse Expr := do
  if (← inContext (·.inGenerator)) && (← atWord "yield") then yieldExpr g
  else
    let first ← demand
    let start ← place
    edit fun s => { s with arrowStart := if startsArrow first then some start else none }
    let left ← conditionalExpr g
    if mayBeAssigned left then afterLeftSide g start left else return left

end Enclose.Script.Parser
