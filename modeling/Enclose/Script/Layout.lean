/-!
Texts in lines with indentation.
-/

namespace Enclose.Script

inductive Layout where
  | empty
  | text (s : String)
  /-- Ends the line, if something stands in it. -/
  | line
  | nested (inner : Layout)
  | append (first second : Layout)
  deriving Repr, DecidableEq, Inhabited

namespace Layout

instance : Append Layout := ⟨append⟩

instance : Coe String Layout := ⟨text⟩

def concat (parts : List Layout) : Layout := parts.foldr append empty

def joined (separator : Layout) : List Layout → Layout
  | [] => empty
  | [part] => part
  | part :: parts => part ++ (separator ++ joined separator parts)

structure Page where
  written : String := ""
  lineStart : Bool := true
  deriving Repr, DecidableEq, Inhabited

def indentation (depth : Nat) : String := String.ofList (List.replicate (4 * depth) ' ')

def write (depth : Nat) : Layout → Page → Page
  | empty, page => page
  | text s, page =>
    if s.isEmpty then page
    else if page.lineStart then ⟨page.written ++ indentation depth ++ s, false⟩
    else ⟨page.written ++ s, false⟩
  | line, page => if page.lineStart then page else ⟨page.written ++ "\n", true⟩
  | nested inner, page => write (depth + 1) inner page
  | append first second, page => write depth second (write depth first page)

def render (layout : Layout) : String := (write 0 layout {}).written

end Layout

end Enclose.Script
