import Enclose.Script.Parser.Class
import Enclose.Script.Parser.Cover
import Enclose.Script.Parser.Object

/-!
Operands: names, literals, functions, classes, and what stands between parentheses, which may be the
head of an arrow function.
-/

namespace Enclose.Script.Parser

def element (g : Grammar) : Parse Element := do
  let start ← place
  if ← eat .ellipsis then
    let valuePlace ← place
    return .spread start valuePlace (← withIn true g.assignment)
  else return .item start (← withIn true g.assignment)

structure ArrayState where
  elements : List Element := []
  trailingComma : Option Nat := none

def arrayLiteral (g : Grammar) : Parse Expr := do
  let start ← place
  advance
  iterate (fun (s : ArrayState) => do
    if ← eat .closeBracket then
      if let some comma := s.trailingComma then
        noteTrailingComma start comma
      return .inr (.array s.elements.reverse)
    else if ← eat .comma then return .inl ⟨.hole :: s.elements, s.trailingComma⟩
    else
      let e ← element g
      if ← at? .closeBracket then return .inl ⟨e :: s.elements, none⟩
      else
        expect .comma
        let trailingComma ← if ← at? .closeBracket then pure (some (← previousPlace)) else pure none
        return .inl ⟨e :: s.elements, trailingComma⟩) {}

structure TemplateState where
  quasis : List Quasi := []
  values : List Expr := []

/-- A piece of template text, which counts as a token. Only a tagged template may have pieces that
stand for nothing. -/
def templatePiece (tagged : Bool) : Parse (Quasi × Bool) := do
  let piece ← readTemplate
  match piece.cooked with
  | .ok cooked => return (⟨piece.raw, some cooked⟩, piece.isLast)
  | .error p => if tagged then return (⟨piece.raw, none⟩, piece.isLast) else raise p

def template (g : Grammar) (tagged : Bool) : Parse (List Quasi × List Expr) := do
  openTemplate
  iterate (fun (s : TemplateState) => do
    let (quasi, isLast) ← templatePiece tagged
    let quasis := quasi :: s.quasis
    if isLast then
      expect .backquote
      return .inr (quasis.reverse, s.values.reverse)
    else
      openInterpolation
      let value ← withIn true (expression g)
      expect .closeBrace
      return .inl ⟨quasis, value :: s.values⟩) {}

def regexFlags : List Char := ['d', 'g', 'i', 'm', 's', 'u', 'v', 'y']

def firstRepeated : List Char → Option Char
  | [] => none
  | c :: rest => if rest.contains c then some c else firstRepeated rest

def checkRegexFlags (start : Nat) (flags : List Char) : Parse Unit := do
  unless flags.all regexFlags.contains do complain start .unknownRegexFlag
  if let some flag := firstRepeated (flags.filter regexFlags.contains) then
    complain start (.repeatedRegexFlag flag)

def regexLiteral : Parse Expr := do
  let start ← place
  rereadSlash
  match ← token? with
  | some (.regex pattern flags) =>
    advance
    checkRegexFlags start flags.toList
    return .regex pattern flags
  | _ => fail .expectedExpression

structure ParenState where
  items : List Element := []
  trailingComma : Option Nat := none

def startsWithName (items : List Element) : Bool :=
  match items.getLast? with
  | some (.item _ (.ident _)) => true
  | _ => false

/-- Read the next of the items between parentheses, or the end of them. An arrow may follow a name on
another line. -/
def parenStep (g : Grammar) (s : ParenState) :
    Parse (ParenState ⊕ (List Element × Option Nat)) := do
  if ← eat .closeParen then return .inr (s.items.reverse, s.trailingComma)
  else
    let start ← place
    edit fun t => { t with arrowStart := some start }
    let item ← element g
    let mut items := item :: s.items
    if ← eat .arrow then
      if startsWithName items then
        let params ← coverParams items.reverse none
        items := .item start (← arrowBody g false params) :: items
    if ← at? .closeParen then return .inl ⟨items, s.trailingComma⟩
    else
      expect .comma
      let trailingComma ← if ← at? .closeParen then pure (some (← previousPlace)) else pure none
      return .inl ⟨items, trailingComma⟩

def parenItems (g : Grammar) : Parse (List Element × Option Nat) := do
  expect .openParen
  withIn true <| iterate (parenStep g) {}

def checkDefaults (items : List Element) : Parse Unit := do
  for item in items do
    match item with
    | .item _ (.object properties) | .spread _ _ (.object properties) =>
      for p in properties do
        if let .defaulted start _ _ := p then complain start .defaultInLiteral
    | _ => pure ()

def parenValues : List Element → Parse (List Expr)
  | [] => return []
  | .spread _ valuePlace _ :: _ => failAt valuePlace .spreadInParens
  | .item _ value :: others => do return value :: (← parenValues others)
  | .hole :: others => parenValues others

/-- An arrow function after the items of its head. Operators after a body of statements are
complained about and read. -/
def arrowAfterItems (g : Grammar) (start : Nat) (isAsync : Bool) (items : List Element)
    (trailingComma : Option Nat) : Parse Expr := do
  expect .arrow
  let params ← coverParams items trailingComma
  let arrow ← arrowBody g isAsync params
  if arrow matches .arrowBlock _ _ _ then
    demandToken
    if let some (.binary _) := ← token? then
      complain (← complaintPlace) .expectedSemicolon
      let e ← g.operators 0 arrow start
      unless ← atStatementEnd do complain (← complaintPlace) .expectedSemicolon
      return e
  return arrow

def parenOrArrow (g : Grammar) (start : Nat) (mayBeArrow isAsync : Bool) : Parse Expr := do
  let (items, trailingComma) ← parenItems g
  if ← at? .arrow then
    if ← afterNewline then failAt start .lineBreakBeforeArrow
    unless mayBeArrow do failAt start .arrowNotAllowed
    arrowAfterItems g start isAsync items trailingComma
  else
    checkDefaults items
    if isAsync then return .call (.ident "async") items
    match items with
    | [] => failAt start .emptyParens
    | _ =>
      match ← parenValues items with
      | [value] => return .paren value
      | values => return .paren (.sequence values)

def atOfWord : Parse Bool := do
  if ← atWord "of" then return (← aheadToken?) != some .arrow else return false

/-- What follows the word `async` on its line: the parameter of an arrow function, if it is a name.
In the head of a `for` statement, `of` is no parameter. -/
def asyncArrow? (g : Grammar) : Parse (Option Expr) := do
  let c := (← getState).context
  if !(← atIdent) then return none
  else if c.forHead && (← atOfWord) then
    unless c.forAwaitHead do complain (← previousPlace) .forOfAsync
    return some (.ident "async")
  else
    let param ← boundIdentifier
    expect .arrow
    return some (← arrowBody g true [.ident param])

def identOperand (g : Grammar) (mayBeArrow : Bool) : Parse Expr := do
  let c := (← getState).context
  let start ← place
  let name ← identifier (!c.inGenerator) (!c.inAsync)
  if !mayBeArrow then return .ident name
  if ← afterNewline then return .ident name
  if name == "async" then
    if let some e ← asyncArrow? g then return e
  if ← eat .arrow then
    if c.strict && (name == "eval" || name == "arguments") then
      complainStrict start .evalOrArguments
    arrowBody g false [.ident name]
  else return .ident name

def atAsyncParen : Parse Bool := do
  if ← atWord "async" then return (← aheadToken?) == some .openParen && !(← newlineAhead)
  else return false

def classOperand (g : Grammar) (heritage : Parse Expr) : Parse Expr :=
  return .class (← classFromWord g heritage false)

def operand (g : Grammar) (heritage : Parse Expr) : Parse Expr := do
  demandToken
  let start ← place
  let mayBeArrow := (← getState).arrowStart == some start
  let literal (e : Expr) : Parse Expr := do
    advance
    return e
  match ← token? with
  | some (.word "this") => literal .this
  | some (.word "null") => literal .null
  | some (.word "true") => literal (.bool true)
  | some (.word "false") => literal (.bool false)
  | some (.number raw) => literal (.number raw)
  | some (.bigint raw) => literal (.bigint raw)
  | some (.string lit) => literal (.string lit)
  | some (.regex pattern flags) =>
    advance
    checkRegexFlags start flags.toList
    return .regex pattern flags
  | some .openBracket => arrayLiteral g
  | some .openBrace => objectLiteral g
  | some .openParen => parenOrArrow g start mayBeArrow false
  | some .backquote =>
    let (quasis, values) ← template g false
    return .template quasis values
  | some (.binary .divide) | some (.assign .divide) => regexLiteral
  | some (.word "function") => return .function (← functionFromWord g false true false)
  | some (.word "class") => classOperand g heritage
  | some .hash => return .privateName (← (do advance; plainName))
  | some (.word name) =>
    if ← atAsyncFunction then return .function (← functionFromWord g true true false)
    if mayBeArrow then
      if ← atAsyncParen then
        advance
        return ← parenOrArrow g start mayBeArrow true
    if name == "let" || (← atIdent) then identOperand g mayBeArrow else fail .expectedExpression
  | _ => fail .expectedExpression

end Enclose.Script.Parser
