import SocketDocs.SourceFile

/-!
# Function declarations

The functions of a file with the line of their keyword. A method is named with its owner. Functions
and modules for tests are left out, and no function's body is looked into.
-/

namespace SocketDocs

structure Declaration where
  name : String
  line : Nat
  deriving DecidableEq, Repr

structure LineRange where
  first : Nat
  last : Nat
  deriving DecidableEq, Repr

namespace Declaration

open Source (Item)

def qualified (owner : Option String) (name : String) : String :=
  match owner with
  | some owner => owner ++ "::" ++ name
  | none => name

mutual
def ofItem (owner : Option String) : Item → List Declaration
  | .function attributes name line _ _ =>
    if Source.isTestOnly attributes then [] else [⟨qualified owner name, line⟩]
  | .method _ name line _ _ => [⟨qualified owner name, line⟩]
  | .module attributes _ _ _ outside inside =>
    if Source.isTestOnly attributes then [] else ofItems owner outside ++ ofItems owner inside
  | .implementation _ implementor _ _ members => ofItems implementor members
  | .trait _ name _ _ members => ofItems (some name) members
  | .struct _ nested => ofItems owner nested
  | .other nested => ofItems owner nested

def ofItems (owner : Option String) : List Item → List Declaration
  | [] => []
  | item :: rest => ofItem owner item ++ ofItems owner rest
end

mutual
def testRangesOf : Item → List LineRange
  | .function _ _ _ _ _ => []
  | .method _ _ _ _ _ => []
  | .module attributes _ first last outside inside =>
    if Source.isTestOnly attributes then [⟨first, last⟩]
    else testRangesIn outside ++ testRangesIn inside
  | .implementation _ _ _ _ members => testRangesIn members
  | .trait _ _ _ _ members => testRangesIn members
  | .struct _ nested => testRangesIn nested
  | .other nested => testRangesIn nested

def testRangesIn : List Item → List LineRange
  | [] => []
  | item :: rest => testRangesOf item ++ testRangesIn rest
end

/-- The functions of a file by line; functions on one line stay in source order. -/
def ofFile (file : SourceFile) : List Declaration :=
  (ofItems none file.items).mergeSort fun a b => a.line ≤ b.line

end Declaration

end SocketDocs
