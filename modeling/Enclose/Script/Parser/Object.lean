import Enclose.Script.Parser.Function

/-!
Object literals.
-/

namespace Enclose.Script.Parser

def modifiedProperty (g : Grammar) (start : Nat) (word : String) : Parse Property := do
  match word with
  | "get" =>
    let keyPlace ← place
    let key ← propertyKey g
    return .getter start key (← method g false false (getterParams keyPlace))
  | "set" =>
    let keyPlace ← place
    let key ← propertyKey g
    return .setter start key (← method g false false (setterParams keyPlace))
  | "async" =>
    let isGenerator ← eat (.binary .multiply)
    let key ← propertyKey g
    return .method start key (← method g true isGenerator anyParams)
  | _ => unexpected "... , *,  (, [, :, , ?, = or an identifier"

/-- A property of an object literal. A name with a default is read as well, since the literal may
be a pattern. -/
def property (g : Grammar) : Parse Property := do
  let start ← place
  if ← eat .ellipsis then
    let valuePlace ← place
    return .spread start valuePlace (← withIn true g.assignment)
  if ← eat (.binary .multiply) then
    let key ← propertyKey g
    return .method start key (← method g false true anyParams)
  let key ← propertyKey g
  if ← eat .colon then
    let valuePlace ← place
    return .keyed start key valuePlace (← withIn true g.assignment)
  if ← at? .openParen then return .method start key (← method g false false anyParams)
  match key with
  | .ident word =>
    if ← eat .question then complain (← previousPlace) .optionalProperty
    match ← token? with
    | some (.assign .assign) | some .comma | some .closeBrace =>
      if (← getState).context.reserves word then complain start .reservedShorthand
      if ← eat (.assign .assign) then
        return .defaulted start word (← withIn true g.assignment)
      else return .shorthand start word
    | _ => modifiedProperty g start word
  | _ => unexpected "identifier"

structure ObjectState where
  properties : List Property := []
  trailingComma : Option Nat := none

def objectLiteral (g : Grammar) : Parse Expr := do
  let start ← place
  advance
  iterate (fun (s : ObjectState) => do
    if ← eat .closeBrace then
      if let some comma := s.trailingComma then
        noteTrailingComma start comma
      return .inr (.object s.properties.reverse)
    else
      let p ← property g
      if ← at? .closeBrace then return .inl ⟨p :: s.properties, none⟩
      else
        expect .comma
        let trailingComma ← if ← at? .closeBrace then pure (some (← previousPlace)) else pure none
        return .inl ⟨p :: s.properties, trailingComma⟩) {}

end Enclose.Script.Parser
