import Enclose.Script.Tree

/-!
The names that patterns bind.
-/

namespace Enclose.Bundle

open Script

mutual

def boundNames : Pattern → List String
  | .ident name => [name]
  | .array elements => boundNamesOf elements
  | .object properties => boundNamesOf properties
  | .hole => []
  | .keyed _ value => boundNames value
  | .shorthand name _ => [name]
  | .rest inner => boundNames inner
  | .defaulted inner _ => boundNames inner
  | .expr _ => []
  | .invalid => []

def boundNamesOf : List Pattern → List String
  | [] => []
  | p :: others => boundNames p ++ boundNamesOf others

end

def declaredNames : Stmt → List String
  | .var _ declarators => boundNamesOf declarators
  | .function (.mk (some name) _ _ _ _) => [name]
  | .class (.mk (some name) _ _) => [name]
  | _ => []

end Enclose.Bundle
