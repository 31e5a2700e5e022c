/-!
The operators of the language and their spellings.
-/

namespace Enclose.Script

inductive BinaryOp where
  | equal | notEqual | strictEqual | strictNotEqual
  | less | lessEqual | greater | greaterEqual
  | shiftLeft | shiftRight | shiftRightZero
  | add | subtract | multiply | divide | remainder
  | bitOr | bitXor | bitAnd
  | logicalOr | logicalAnd | isIn | instanceOf | power | nullish
  deriving Repr, DecidableEq, Inhabited

namespace BinaryOp

def text : BinaryOp → String
  | equal => "==" | notEqual => "!=" | strictEqual => "===" | strictNotEqual => "!=="
  | less => "<" | lessEqual => "<=" | greater => ">" | greaterEqual => ">="
  | shiftLeft => "<<" | shiftRight => ">>" | shiftRightZero => ">>>"
  | add => "+" | subtract => "-" | multiply => "*" | divide => "/" | remainder => "%"
  | bitOr => "|" | bitXor => "^" | bitAnd => "&"
  | logicalOr => "||" | logicalAnd => "&&" | isIn => "in" | instanceOf => "instanceof"
  | power => "**" | nullish => "??"

def precedence : BinaryOp → Nat
  | nullish | logicalOr => 1
  | logicalAnd => 2
  | bitOr => 3
  | bitXor => 4
  | bitAnd => 5
  | equal | notEqual | strictEqual | strictNotEqual => 6
  | less | lessEqual | greater | greaterEqual | isIn | instanceOf => 7
  | shiftLeft | shiftRight | shiftRightZero => 8
  | add | subtract => 9
  | multiply | divide | remainder => 10
  | power => 11

def isWord : BinaryOp → Bool
  | isIn | instanceOf => true
  | _ => false

/-- `&&` and `||`, which may not be mixed with `??`. -/
def isLogical : BinaryOp → Bool
  | logicalAnd | logicalOr => true
  | _ => false

end BinaryOp

inductive AssignOp where
  | assign | add | subtract | multiply | divide | remainder
  | shiftLeft | shiftRight | shiftRightZero
  | bitOr | bitXor | bitAnd | power | logicalAnd | logicalOr | nullish
  deriving Repr, DecidableEq, Inhabited

def AssignOp.text : AssignOp → String
  | assign => "=" | add => "+=" | subtract => "-=" | multiply => "*=" | divide => "/="
  | remainder => "%=" | shiftLeft => "<<=" | shiftRight => ">>=" | shiftRightZero => ">>>="
  | bitOr => "|=" | bitXor => "^=" | bitAnd => "&=" | power => "**=" | logicalAnd => "&&="
  | logicalOr => "||=" | nullish => "??="

inductive UnaryOp where
  | minus | plus | not | complement | typeOf | void | delete
  deriving Repr, DecidableEq, Inhabited

def UnaryOp.text : UnaryOp → String
  | minus => "-" | plus => "+" | not => "!" | complement => "~"
  | typeOf => "typeof" | void => "void" | delete => "delete"

def UnaryOp.isWord : UnaryOp → Bool
  | typeOf | void | delete => true
  | _ => false

inductive UpdateOp where
  | increment | decrement
  deriving Repr, DecidableEq, Inhabited

def UpdateOp.text : UpdateOp → String
  | increment => "++" | decrement => "--"

inductive VarKind where
  | var | «let» | const
  deriving Repr, DecidableEq, Inhabited

def VarKind.text : VarKind → String
  | var => "var" | «let» => "let" | const => "const"

end Enclose.Script
