import Enclose.Script.Parser.Grammar

/-!
Patterns of declarations and parameters.
-/

namespace Enclose.Script.Parser

def bindingElement (g : Grammar) : Parse Pattern := do
  let inner ← g.binding
  if ← eat (.assign .assign) then return .defaulted inner (← withIn true g.assignment)
  else return inner

structure ArrayPatternState where
  elements : List Pattern := []
  rest : Option Nat := none

def arrayPattern (g : Grammar) : Parse Pattern := do
  advance
  iterate (fun (s : ArrayPatternState) => do
    if (← atEnd) || (← at? .closeBracket) then
      expect .closeBracket
      return .inr (.array s.elements.reverse)
    else if ← eat .comma then return .inl { s with elements := .hole :: s.elements }
    else
      if let some rest := s.rest then complain rest .restNotLast
      let start ← place
      let isRest ← eat .ellipsis
      let element ← if isRest then pure (Pattern.rest (← g.binding)) else bindingElement g
      unless ← at? .closeBracket do
        expect .comma
        if isRest && (← at? .closeBracket) then complain (← previousPlace) .commaAfterRest
      return .inl
        { elements := element :: s.elements, rest := if isRest then some start else s.rest }) {}

def propertyPattern (g : Grammar) : Parse Pattern := do
  if ← eat .ellipsis then return .rest (← g.binding)
  let start ← place
  let key ← propertyKey g
  if ← eat .colon then return .keyed key (← bindingElement g)
  match key with
  | .ident name =>
    if ← eat (.assign .assign) then
      return .shorthand name (some (← withIn true g.assignment))
    else
      if (← getState).context.reserves name then complain start .reservedShorthand
      return .shorthand name none
  | _ => unexpected "an identifier"

def checkObjectRest (trailingComma : Option Nat) : List (Nat × Pattern) → Parse Unit
  | [] => return ()
  | [(start, .rest inner)] =>
    match inner with
    | .ident _ =>
      match trailingComma with
      | some comma => complain comma .commaAfterRest
      | none => return ()
    | _ => failAt start .restNeedsIdent
  | [_] => return ()
  | (start, .rest _) :: others => do
    complain start .restNotLast
    checkObjectRest trailingComma others
  | _ :: others => checkObjectRest trailingComma others

structure ObjectPatternState where
  properties : List (Nat × Pattern) := []
  trailingComma : Option Nat := none

def objectPattern (g : Grammar) : Parse Pattern := do
  advance
  iterate (fun (s : ObjectPatternState) => do
    if ← eat .closeBrace then
      let properties := s.properties.reverse
      checkObjectRest s.trailingComma properties
      return .inr (.object (properties.map Prod.snd))
    else
      let start ← place
      let property ← propertyPattern g
      let mut trailingComma := s.trailingComma
      unless ← at? .closeBrace do
        expect .comma
        if ← at? .closeBrace then trailingComma := some (← previousPlace)
      return .inl ⟨(start, property) :: s.properties, trailingComma⟩) {}

def bindingTarget (g : Grammar) : Parse Pattern := do
  match ← demand with
  | .word _ => return .ident (← boundIdentifier)
  | .openBracket => arrayPattern g
  | .openBrace => objectPattern g
  | _ => unexpected "yield, an identifier, [ or \x7b"

end Enclose.Script.Parser
