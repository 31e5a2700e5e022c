import Enclose.Proofs.Script.Modules

/-!
# Trees as sequences of tokens

The trees of generated code have a wording: the sequence of their tokens, with the places where a
line may break. It is defined for the forms of expressions and statements of which such code is
made.
-/

namespace Enclose.Script
open Enclose.Script.Parser

/-- A token before which a line may break. -/
def loose (t : Token) : Piece := ⟨t, true⟩

/-- A token that stands on the line of the token before it. -/
def tied (t : Token) : Piece := ⟨t, false⟩

def PropertyKey.wording : PropertyKey → List Piece
  | .ident name => [loose (.word name)]
  | .string lit => [loose (.string lit)]
  | _ => []

mutual

def Expr.wording : Expr → List Piece
  | .ident name => [loose (.word name)]
  | .this => [loose (.word "this")]
  | .null => [loose (.word "null")]
  | .bool value => [loose (.word (if value then "true" else "false"))]
  | .string lit => [loose (.string lit)]
  | .object properties => loose .openBrace :: (propertiesWording properties ++ [loose .closeBrace])
  | .paren inner => loose .openParen :: (inner.wording ++ [loose .closeParen])
  | .member object key => object.wording ++ key.memberWording
  | .call callee args =>
    callee.wording ++ loose .openParen :: (elementsWording args ++ [loose .closeParen])
  | .unary _ operand => loose .bang :: operand.wording
  | .binary op left right => left.wording ++ loose (.binary op) :: right.wording
  | .conditional test consequent alternate =>
    test.wording ++ loose .question :: (consequent.wording ++ loose .colon :: alternate.wording)
  | .assign op target value => target.wording ++ loose (.assign op) :: value.wording
  | .arrow _ params value =>
    loose .openParen :: (patternsWording params ++ loose .closeParen :: tied .arrow :: value.wording)
  | .arrowBlock _ params body =>
    loose .openParen :: (patternsWording params ++ loose .closeParen :: tied .arrow ::
      loose .openBrace :: (stmtsWording body ++ [loose .closeBrace]))
  | _ => []

def PropertyKey.memberWording : PropertyKey → List Piece
  | .ident name => [loose .dot, loose (.word name)]
  | .computed key => loose .openBracket :: (key.wording ++ [loose .closeBracket])
  | _ => []

def Element.wording : Element → List Piece
  | .item _ value => value.wording
  | _ => []

def elementsWording : List Element → List Piece
  | [] => []
  | e :: others =>
    e.wording ++ if others.isEmpty then [] else loose .comma :: elementsWording others

def Property.wording : Property → List Piece
  | .keyed _ key _ value => key.wording ++ loose .colon :: value.wording
  | _ => []

def propertiesWording : List Property → List Piece
  | [] => []
  | p :: others =>
    p.wording ++ if others.isEmpty then [] else loose .comma :: propertiesWording others

def Pattern.wording : Pattern → List Piece
  | .ident name => [loose (.word name)]
  | .object properties => loose .openBrace :: (patternsWording properties ++ [loose .closeBrace])
  | .keyed key value => key.wording ++ loose .colon :: value.wording
  | .shorthand name _ => [loose (.word name)]
  | .defaulted inner value => inner.wording ++ loose (.assign .assign) :: value.wording
  | .expr target => target.wording
  | _ => []

def patternsWording : List Pattern → List Piece
  | [] => []
  | p :: others =>
    p.wording ++ if others.isEmpty then [] else loose .comma :: patternsWording others

def Stmt.wording : Stmt → List Piece
  | .expr value => value.wording ++ [loose .semicolon]
  | .var kind declarators =>
    loose (.word kind.text) :: (patternsWording declarators ++ [loose .semicolon])
  | .ifElse test consequent _ =>
    loose (.word "if") :: loose .openParen ::
      (test.wording ++ loose .closeParen :: consequent.wording)
  | .forIn head object body =>
    loose (.word "for") :: loose .openParen ::
      (head.wording ++ loose (.word "in") ::
        (object.wording ++ loose .closeParen :: body.wording))
  | .return value => loose (.word "return") :: (returnedWording value ++ [loose .semicolon])
  | _ => []

def returnedWording : Option Expr → List Piece
  | some (.ident name) => [tied (.word name)]
  | _ => []

def ForHead.wording : ForHead → List Piece
  | .var kind declarators => loose (.word kind.text) :: patternsWording declarators
  | _ => []

def stmtsWording : List Stmt → List Piece
  | [] => []
  | s :: others => s.wording ++ stmtsWording others

end

/-- How much an expression holds together when it stands next to an operator. -/
def Expr.strength : Expr → Nat
  | .this | .ident _ | .null | .bool _ | .string _ | .object _ | .paren _ | .member _ _ => 15
  | .call _ _ => 14
  | .unary _ _ => 13
  | .binary op _ _ => op.precedence + 1
  | .conditional _ _ _ => 1
  | _ => 0

instance (name : String) : Decidable (IsName name) := inferInstanceAs (Decidable (_ ∉ _))

instance (name : String) : Decidable (IsUnreserved name) := inferInstanceAs (Decidable (_ ∉ _))

instance (name : String) : Decidable (MayBind name) :=
  decidable_of_iff (IsName name ∧ name ≠ "eval" ∧ name ≠ "arguments")
    ⟨fun ⟨named, free⟩ => ⟨named, free⟩, fun ⟨named, free⟩ => ⟨named, free⟩⟩

def BinaryOp.isRegular (op : BinaryOp) : Bool := !op.isWord && op != .power && op != .nullish

/-- The name `async` before a parenthesis may start a function. -/
def Expr.mayBeCalled : Expr → Bool
  | .ident name => name != "async"
  | _ => true

def leadsStatement : List Piece → Bool
  | ⟨.openParen, _⟩ :: _ => true
  | ⟨.word name, _⟩ :: next :: _ => decide (IsName name) && !(next.token matches .word _)
  | _ => false

def PropertyKey.isNamed : PropertyKey → Bool
  | .ident _ | .string _ => true
  | _ => false

namespace Pattern

def isName : Pattern → Bool
  | .ident _ => true
  | _ => false

def isBinding : Pattern → Bool
  | .ident _ | .object _ => true
  | _ => false

def isProperty : Pattern → Bool
  | .shorthand _ none => true
  | .keyed key (.ident _) => key.isNamed
  | _ => false

def isDeclarator : Pattern → Bool
  | .defaulted target _ => target.isBinding
  | _ => false

def isMember : Pattern → Bool
  | .expr (.member _ _) => true
  | _ => false

end Pattern

def Stmt.isBody : Stmt → Bool
  | .expr _ | .ifElse _ _ _ | .forIn _ _ _ => true
  | _ => false

mutual

def Expr.isWorded : Expr → Bool
  | .ident name => decide (IsName name)
  | .this | .null | .bool _ | .string _ => true
  | .object properties => areWordedProperties properties
  | .paren inner => inner.isWorded && !isObject inner
  | .member object key => object.isWorded && decide (15 ≤ object.strength) && key.isWorded
  | .call callee args =>
    callee.isWorded && decide (15 ≤ callee.strength) && callee.mayBeCalled && areWordedElements args
  | .unary op operand => op == .not && operand.isWorded && decide (13 ≤ operand.strength)
  | .binary op left right =>
    op.isRegular && left.isWorded && right.isWorded && decide (op.precedence < left.strength) &&
      decide (op.precedence + 1 < right.strength)
  | .conditional test consequent alternate =>
    test.isWorded && consequent.isWorded && alternate.isWorded && decide (2 ≤ test.strength)
  | .assign op target value => op == .assign && target.isMember && target.isWorded && value.isWorded
  | .arrow isAsync params value =>
    !isAsync && params.all Pattern.isName && areWordedPatterns params && value.isWorded &&
      value.wording.head?.all fun p => p.token != .openBrace
  | .arrowBlock isAsync params body =>
    !isAsync && params.all Pattern.isName && areWordedPatterns params && areWordedStmts body
  | _ => false

def PropertyKey.isWorded : PropertyKey → Bool
  | .ident _ => true
  | .computed key => key.isWorded
  | _ => false

def Element.isWorded : Element → Bool
  | .item place value => place == 0 && value.isWorded
  | _ => false

def areWordedElements : List Element → Bool
  | [] => true
  | e :: others => e.isWorded && areWordedElements others

def Property.isWorded : Property → Bool
  | .keyed place key valuePlace value =>
    place == 0 && valuePlace == 0 && key.isNamed && value.isWorded
  | _ => false

def areWordedProperties : List Property → Bool
  | [] => true
  | p :: others => p.isWorded && areWordedProperties others

def Pattern.isWorded : Pattern → Bool
  | .ident name => decide (MayBind name)
  | .object properties => properties.all Pattern.isProperty && areWordedPatterns properties
  | .shorthand name none => decide (IsUnreserved name)
  | .keyed _ value => value.isWorded
  | .defaulted target value => target.isWorded && value.isWorded
  | .expr target => target.isWorded
  | _ => false

def areWordedPatterns : List Pattern → Bool
  | [] => true
  | p :: others => p.isWorded && areWordedPatterns others

def ForHead.isWorded : ForHead → Bool
  | .var kind declarators =>
    isFixed kind && declarators.all Pattern.isName && declarators.length == 1 &&
      areWordedPatterns declarators
  | _ => false

def Stmt.isWorded : Stmt → Bool
  | .expr value => value.isWorded && leadsStatement (value.wording ++ [loose .semicolon])
  | .var kind declarators =>
    isFixed kind && declarators.all Pattern.isDeclarator && declarators.length == 1 &&
      areWordedPatterns declarators
  | .ifElse test consequent none =>
    test.isWorded && consequent.isWorded && consequent.isBody
  | .forIn head object body =>
    head.isWorded && object.isWorded && body.isWorded && body.isBody
  | .return (some (.ident name)) => decide (IsName name)
  | _ => false

def areWordedStmts : List Stmt → Bool
  | [] => true
  | s :: others => s.isWorded && areWordedStmts others

end

section
variable {word : String} {e : Expr} (value : valueOf? word = some e)
include value

theorem wording_of_valueOf? : e.wording = [loose (.word word)] := by
  unfold valueOf? at value
  split at value <;> cases value <;> simp [Expr.wording]

theorem strength_of_valueOf? : e.strength = 15 := by
  unfold valueOf? at value
  split at value <;> cases value <;> rfl

theorem isWorded_of_valueOf? : e.isWorded = true := by
  unfold valueOf? at value
  split at value <;> cases value <;> rfl

end

def Separated {β : Type} (wording : β → List Piece) : List β → List Piece
  | [] => []
  | b :: others =>
    wording b ++ if others.isEmpty then [] else loose .comma :: Separated wording others

theorem elementsWording_eq (elements : List Element) :
    elementsWording elements = Separated Element.wording elements := by
  induction elements with
  | nil => rfl
  | cons e others ih => rw [elementsWording, Separated, ih]

theorem propertiesWording_eq (properties : List Property) :
    propertiesWording properties = Separated Property.wording properties := by
  induction properties with
  | nil => rfl
  | cons p others ih => rw [propertiesWording, Separated, ih]

theorem patternsWording_eq (patterns : List Pattern) :
    patternsWording patterns = Separated Pattern.wording patterns := by
  induction patterns with
  | nil => rfl
  | cons p others ih => rw [patternsWording, Separated, ih]

theorem length_le_separated {β : Type} (wording : β → List Piece) {b : β} {bs : List β}
    (member : b ∈ bs) : (wording b).length ≤ (Separated wording bs).length := by
  induction bs with
  | nil => cases member
  | cons b' others ih =>
      rw [Separated, List.length_append]
      cases member with
      | head => omega
      | tail _ member =>
          cases others with
          | nil => cases member
          | cons => 
              have := ih member
              simp only [List.isEmpty_cons, Bool.false_eq_true, if_false, List.length_cons]
              omega

end Enclose.Script
