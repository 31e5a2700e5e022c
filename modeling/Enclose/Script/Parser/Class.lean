import Enclose.Script.Parser.Function

/-!
Classes and their members.
-/

namespace Enclose.Script.Parser

def isConstructorKey : PropertyKey → Bool
  | .ident name => name == "constructor"
  | .string lit => lit.value == "constructor"
  | _ => false

def memberKey (g : Grammar) : Parse PropertyKey := do
  let start ← place
  if ← at? .hash then
    let name ← privateIdentifier
    if name == "constructor" then complain start .privateConstructor
    return .privateName name
  else propertyKey g

def classMethod (g : Grammar) (isAsync isGenerator : Bool) (check : ParamsCheck) : Parse Function :=
  withContext (fun c => { c with inStaticBlock := false }) (method g isAsync isGenerator check)

/-- Whether the current token shows that the name before it is a field: one with a value, or one
that ends here. After a mere word, only a semicolon ends it for sure. -/
def atFieldEnd (afterLine : Bool) : Parse Bool := do
  match ← token? with
  | some (.assign .assign) | some .closeBrace | some .semicolon => return true
  | _ => if afterLine then atStatementEnd else return false

def field (g : Grammar) (isStatic : Bool) (keyPlace : Nat) (key : PropertyKey) :
    Parse ClassMember := do
  if isConstructorKey key then failAt keyPlace .fieldNamedConstructor
  withContext (fun c => { c with includeIn := true, inField := true }) do
    let value ← if ← eat (.assign .assign) then pure (some (← g.assignment)) else pure none
    unless ← eatStatementEnd do complain (← complaintPlace) .expectedSemicolon
    return .field isStatic key value

def constructorMember (g : Grammar) (staticPlace : Option Nat) : Parse ClassMember := do
  expect .openParen
  let params := (← formalParams g false).map Prod.snd
  expect .closeParen
  let body ← inBody false false false (functionBlock g true params)
  if let some start := staticPlace then complain start .constructorStatic
  return .constructor params body

def namedMember (g : Grammar) (staticPlace : Option Nat) : Parse ClassMember := do
  let isStatic := staticPlace.isSome
  if ← eat (.binary .multiply) then
    let keyPlace ← place
    let key ← memberKey g
    if isConstructorKey key then complain keyPlace .constructorGenerator
    return .method isStatic key (← classMethod g false true anyParams)
  let keyPlace ← place
  let key ← memberKey g
  if ← at? .openParen then
    if isConstructorKey key then return (← constructorMember g staticPlace)
    else return .method isStatic key (← classMethod g false false anyParams)
  let generatorOnNextLine := (← afterNewline) && (← at? (.binary .multiply))
  let accessor ←
    match key with
    | .ident "get" | .ident "set" => pure (!(← atFieldEnd false) && !generatorOnNextLine)
    | _ => pure false
  if accessor then
    let accessed ← memberKey g
    if isConstructorKey accessed then complain keyPlace .constructorAccessor
    if key matches .ident "get" then
      return .getter isStatic accessed (← classMethod g false false (getterParams keyPlace))
    else return .setter isStatic accessed (← classMethod g false false (setterParams keyPlace))
  if ← atFieldEnd true then field g isStatic keyPlace key
  else if (key matches .ident "async") && !(← afterNewline) then
    let isGenerator ← eat (.binary .multiply)
    let methodPlace ← place
    let name ← memberKey g
    if isConstructorKey name then failAt methodPlace .constructorAsync
    return .method isStatic name (← classMethod g true isGenerator anyParams)
  else unexpected "* for generator, private key, identifier or async"

def classMember (g : Grammar) : Parse ClassMember := do
  let start ← place
  if ← eatWord "static" then
    if ← at? .openParen then
      return .method false (.ident "static") (← classMethod g false false anyParams)
    else if ← atFieldEnd false then field g false start (.ident "static")
    else if ← at? .openBrace then
      withContext (fun c => { c with inStaticBlock := true, inField := true }) do
        return .staticBlock (← plainBlock g)
    else namedMember g (some start)
  else namedMember g none

structure ClassState where
  members : List ClassMember := []
  hasConstructor : Bool := false

def classMembers (g : Grammar) : Parse (List ClassMember) :=
  iterate (fun (s : ClassState) => do
    if (← atEnd) || (← at? .closeBrace) then return .inr s.members.reverse
    else if ← eat .semicolon then return .inl { s with members := .empty :: s.members }
    else
      let start ← place
      let member ← withContext (fun c => { c with superAllowed := true }) (classMember g)
      let isConstructor := member matches .constructor _ _
      if isConstructor && s.hasConstructor then complain start .duplicateConstructor
      return .inl ⟨member :: s.members, s.hasConstructor || isConstructor⟩) {}

def classFromWord (g : Grammar) (heritage : Parse Expr) (nameRequired : Bool) : Parse Class :=
  withContext (fun c => { c with strict := true, inClass := true }) do
    advance
    let name ← if nameRequired || (← atIdent) then pure (some (← boundIdentifier)) else pure none
    let parent ← if ← eatWord "extends" then pure (some (← heritage)) else pure none
    if ← eatWord "extends" then
      complain (← previousPlace) .extendsTwice
      let _ ← heritage
    expect .openBrace
    let members ← classMembers g
    if ← atEnd then complain (← complaintPlace) (.expected "'\x7d'" "<eof>")
    else expect .closeBrace
    return .mk name parent members

end Enclose.Script.Parser
