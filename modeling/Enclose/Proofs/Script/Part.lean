import Enclose.Script.Tree

/-!
# Parts of a program

A part of a program is made of others (`Part.children`). What a part holds is looked for in all of
them, on the ways through the parts that may be entered (`Part.Holds`). In parts of known depth the search
can be run (`Part.not_holds_of_lacks`, `Part.holds_of_finds`).
-/

namespace Enclose.Script

inductive Part where
  | expr (e : Expr)
  | element (e : Element)
  | key (k : PropertyKey)
  | property (p : Property)
  | function (f : Function)
  | class (c : Class)
  | member (m : ClassMember)
  | pattern (p : Pattern)
  | stmt (s : Stmt)
  | head (h : ForHead)
  | case (c : SwitchCase)
  | item (i : ModuleItem)

def Expr.children : Expr → List Part
  | .this | .super | .ident _ | .null | .bool _ | .number _ | .bigint _ | .string _ => []
  | .regex _ _ | .newTarget | .importMeta | .privateName _ | .invalid => []
  | .array elements => elements.map .element
  | .object properties => properties.map .property
  | .function f => [.function f]
  | .arrow _ params value => params.map .pattern ++ [.expr value]
  | .arrowBlock _ params body => params.map .pattern ++ body.map .stmt
  | .class c => [.class c]
  | .template _ values => values.map .expr
  | .taggedTemplate tag _ values => .expr tag :: values.map .expr
  | .unary _ operand | .update _ _ operand => [.expr operand]
  | .binary _ left right => [.expr left, .expr right]
  | .assign _ target value => [.pattern target, .expr value]
  | .conditional test consequent alternate => [.expr test, .expr consequent, .expr alternate]
  | .call callee args | .new callee args | .optionalCall _ callee args =>
    .expr callee :: args.map .element
  | .newBare callee => [.expr callee]
  | .importCall _ args => args.map .element
  | .member whole key | .optionalMember _ whole key => [.expr whole, .key key]
  | .sequence exprs => exprs.map .expr
  | .paren inner => [.expr inner]
  | .yield _ operand => operand.toList.map .expr
  | .await operand => [.expr operand]

def Element.children : Element → List Part
  | .hole => []
  | .item _ value | .spread _ _ value => [.expr value]

def PropertyKey.children : PropertyKey → List Part
  | .computed key => [.expr key]
  | _ => []

def Property.children : Property → List Part
  | .shorthand _ _ => []
  | .keyed _ key _ value => [.key key, .expr value]
  | .defaulted _ _ value | .spread _ _ value => [.expr value]
  | .getter _ key f | .setter _ key f | .method _ key f => [.key key, .function f]

def Function.children : Function → List Part
  | .mk _ _ _ params body => params.map .pattern ++ body.map .stmt

def Class.children : Class → List Part
  | .mk _ heritage members => heritage.toList.map .expr ++ members.map .member

def ClassMember.children : ClassMember → List Part
  | .constructor params body => params.map .pattern ++ body.map .stmt
  | .method _ key f | .getter _ key f | .setter _ key f => [.key key, .function f]
  | .field _ key value => .key key :: value.toList.map .expr
  | .staticBlock body => body.map .stmt
  | .empty => []

def Pattern.children : Pattern → List Part
  | .ident _ | .hole | .invalid => []
  | .array elements => elements.map .pattern
  | .object properties => properties.map .pattern
  | .keyed key value => [.key key, .pattern value]
  | .shorthand _ value => value.toList.map .expr
  | .rest inner => [.pattern inner]
  | .defaulted inner value => [.pattern inner, .expr value]
  | .expr target => [.expr target]

def ForHead.children : ForHead → List Part
  | .nothing => []
  | .var _ declarators => declarators.map .pattern
  | .pattern target => [.pattern target]

def SwitchCase.children : SwitchCase → List Part
  | .mk test body => test.toList.map .expr ++ body.map .stmt

def Stmt.children : Stmt → List Part
  | .empty | .debugger | .continue _ | .break _ => []
  | .block body => body.map .stmt
  | .expr value | .throw value => [.expr value]
  | .ifElse test consequent alternate =>
    .expr test :: .stmt consequent :: alternate.toList.map .stmt
  | .for init test update body =>
    .head init :: (test.toList.map .expr ++ update.toList.map .expr ++ [.stmt body])
  | .forIn head object body | .forOf _ head object body => [.head head, .expr object, .stmt body]
  | .while test body => [.expr test, .stmt body]
  | .doWhile body test => [.stmt body, .expr test]
  | .return value => value.toList.map .expr
  | .with object body => [.expr object, .stmt body]
  | .switch discriminant cases => .expr discriminant :: cases.map .case
  | .labelled _ body => [.stmt body]
  | .try body param handler finalizer =>
    body.map .stmt ++ .pattern param :: (handler.toList.map .stmt ++ finalizer.toList.map .stmt)
  | .var _ declarators => declarators.map .pattern
  | .function f => [.function f]
  | .class c => [.class c]

def ModuleItem.children : ModuleItem → List Part
  | .stmt s | .exportDecl s => [.stmt s]
  | .exportFunction f => [.function f]
  | .exportClass c => [.class c]
  | .exportDefault value => [.expr value]
  | .import _ _ _ | .exportNamed _ _ | .exportAll _ => []

def Program.parts : Program → List Part
  | .module m => m.items.map .item
  | .script s => s.body.map .stmt

namespace Part

def children : Part → List Part
  | expr e => e.children
  | element e => e.children
  | key k => k.children
  | property p => p.children
  | function f => f.children
  | «class» c => c.children
  | member m => m.children
  | pattern p => p.children
  | stmt s => s.children
  | head h => h.children
  | case c => c.children
  | item i => i.children

section
attribute [local grind →] List.sizeOf_lt_of_mem

theorem sizeOf_lt_of_mem_children {whole child : Part} (member : child ∈ whole.children) :
    sizeOf child < sizeOf whole := by
  cases whole with
  | expr e => cases e <;> grind [children, Expr.children]
  | element e => cases e <;> grind [children, Element.children]
  | key k => cases k <;> grind [children, PropertyKey.children]
  | property p => cases p <;> grind [children, Property.children]
  | function f => cases f; grind [children, Function.children]
  | «class» c => cases c; grind [children, Class.children]
  | member m => cases m <;> grind [children, ClassMember.children]
  | pattern p => cases p <;> grind [children, Pattern.children]
  | stmt s => cases s <;> grind [children, Stmt.children]
  | head h => cases h <;> grind [children, ForHead.children]
  | case c => cases c; grind [children, SwitchCase.children]
  | item i => cases i <;> grind [children, ModuleItem.children]

end

def isFunction : Part → Bool
  | expr (.arrow _ _ _) | expr (.arrowBlock _ _ _) | function _ | member (.constructor _ _) => true
  | _ => false

/-- Some part with a property stands in a part, below parts that may be entered. -/
inductive Holds (enters property : Part → Bool) : Part → Prop
  | here {whole : Part} : property whole → Holds enters property whole
  | inside {whole child : Part} : enters whole → child ∈ whole.children →
      Holds enters property child → Holds enters property whole

abbrev everywhere : Part → Bool := fun _ => true

abbrev outsideFunctions : Part → Bool := fun part => !part.isFunction

section
variable {enters property : Part → Bool}

theorem holds_iff {whole : Part} :
    Holds enters property whole ↔
      property whole ∨ enters whole ∧ ∃ child ∈ whole.children, Holds enters property child := by
  constructor
  · rintro (found | ⟨enter, member, found⟩)
    · exact .inl found
    · exact .inr ⟨enter, _, member, found⟩
  · rintro (found | ⟨enter, child, member, found⟩)
    · exact .here found
    · exact .inside enter member found

theorem Holds.mono {enters' property' : Part → Bool} (enter : ∀ part, enters part → enters' part)
    (weaker : ∀ part, property part → property' part) {whole : Part}
    (h : Holds enters property whole) : Holds enters' property' whole := by
  induction h with
  | here found => exact .here (weaker _ found)
  | inside entered member _ ih => exact .inside (enter _ entered) member ih

def lacks (enters property : Part → Bool) : (depth : Nat) → Part → Bool
  | 0, _ => false
  | depth + 1, whole =>
    !property whole && (!enters whole || whole.children.all (lacks enters property depth))

theorem not_holds_of_lacks (depth : Nat) {whole : Part} (h : lacks enters property depth whole) :
    ¬ Holds enters property whole := by
  induction depth generalizing whole with
  | zero => contradiction
  | succ depth ih =>
      simp only [lacks, Bool.and_eq_true, Bool.not_eq_true', Bool.or_eq_true, List.all_eq_true] at h
      rw [holds_iff]
      rintro (found | ⟨enter, child, member, found⟩)
      · rw [h.1] at found
        contradiction
      · rcases h.2 with closed | others
        · rw [closed] at enter
          contradiction
        · exact ih (others child member) found

def finds (enters property : Part → Bool) : (depth : Nat) → Part → Bool
  | 0, _ => false
  | depth + 1, whole =>
    property whole || (enters whole && whole.children.any (finds enters property depth))

theorem holds_of_finds {depth : Nat} {whole : Part} (h : finds enters property depth whole) :
    Holds enters property whole := by
  induction depth generalizing whole with
  | zero => contradiction
  | succ depth ih =>
      simp only [finds, Bool.or_eq_true, Bool.and_eq_true, List.any_eq_true] at h
      rcases h with found | ⟨enter, child, member, found⟩
      · exact .here found
      · exact .inside enter member (ih found)

end

end Part

end Enclose.Script
