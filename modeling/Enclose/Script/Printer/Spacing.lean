import Enclose.Script.Tree

/-!
Where blanks are needed between the parts of a short text.
-/

namespace Enclose.Script.Printer

def keyStartsWord : PropertyKey → Bool
  | .ident _ | .number _ | .bigint _ => true
  | .string _ | .privateName _ | .computed _ => false

mutual

def startsWord : Expr → Bool
  | .this | .super | .ident _ | .null | .bool _ | .number _ | .bigint _ => true
  | .function _ | .class _ | .yield _ _ | .await _ | .new _ _ | .newBare _ => true
  | .importCall _ _ | .newTarget | .importMeta | .invalid => true
  | .string _ | .regex _ _ | .template _ _ | .array _ | .object _ => false
  | .paren _ | .privateName _ => false
  | .arrow isAsync params _ | .arrowBlock isAsync params _ =>
    isAsync || (match params with | [.ident _] => true | _ => false)
  | .taggedTemplate tag _ _ => startsWord tag
  | .unary op _ => op.isWord
  | .update _ before operand => !before && startsWord operand
  | .binary _ left _ => startsWord left
  | .assign _ target _ => patternStartsWord target
  | .conditional test _ _ => startsWord test
  | .call callee _ => startsWord callee
  | .member object _ => startsWord object
  | .optionalMember _ object _ => startsWord object
  | .optionalCall _ callee _ => startsWord callee
  | .sequence exprs => firstStartsWord exprs

def firstStartsWord : List Expr → Bool
  | [] => false
  | first :: _ => startsWord first

def patternStartsWord : Pattern → Bool
  | .ident _ | .shorthand _ _ | .invalid => true
  | .array _ | .object _ | .rest _ | .hole => false
  | .keyed key _ => keyStartsWord key
  | .defaulted inner _ => patternStartsWord inner
  | .expr target => startsWord target

end

def stmtStartsWord : Stmt → Bool
  | .expr value => startsWord value
  | .block _ | .empty => false
  | _ => true

def endsWord : Expr → Bool
  | .member .super _ => true
  | .array _ | .object _ | .string _ | .paren _ | .member _ (.computed _) => false
  | _ => true

def patternEndsWord : Pattern → Bool
  | .array _ | .object _ => false
  | .rest inner => patternEndsWord inner
  | .defaulted _ value => endsWord value
  | .expr target => endsWord target
  | _ => true

def headEndsWord : ForHead → Bool
  | .nothing => true
  | .var _ declarators => (declarators.getLast?.map patternEndsWord).getD true
  | .pattern target => patternEndsWord target

def startsWithName : List Pattern → Bool
  | .array _ :: _ | .object _ :: _ => false
  | .defaulted (.array _) _ :: _ | .defaulted (.object _) _ :: _ => false
  | _ => true

def clashes (op : BinaryOp) : Expr → Bool
  | .update step true _ =>
    (op == .subtract && step == .decrement) || (op == .add && step == .increment)
  | .unary sign operand =>
    (op == .subtract && sign == .minus) || (op == .add && sign == .plus) ||
      (sign == .not && (op == .less || op == .shiftLeft) &&
        (match operand with | .update .decrement true _ => true | _ => false))
  | .binary _ left _ => clashes op left
  | _ => false

def signClashes (sign : UnaryOp) : Expr → Bool
  | .update step true _ =>
    (sign == .minus && step == .decrement) || (sign == .plus && step == .increment)
  | .unary inner _ => (sign == .minus && inner == .minus) || (sign == .plus && inner == .plus)
  | _ => false

/-- Whether a blank keeps an operator and the operand on its left from being read as `-->`. -/
def endsComment (left : Expr) (op : BinaryOp) : Bool :=
  match left with
  | .update .decrement false _ =>
    [.greater, .shiftRight, .shiftRightZero, .greaterEqual].contains op
  | _ => false

def blankBefore (minify : Bool) (left : Expr) (op : BinaryOp) : Bool :=
  if minify then if op.isWord then endsWord left else endsComment left op else true

def blankAfter (minify : Bool) (op : BinaryOp) (right : Expr) : Bool :=
  if minify then if op.isWord then startsWord right else clashes op right else true

end Enclose.Script.Printer
