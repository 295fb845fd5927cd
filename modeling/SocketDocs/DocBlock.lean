import SocketDocs.DocBlock.Lines
import SocketDocs.Declaration

/-!
# Annotated functions

A block documents the first function that begins below its comment group. Several blocks above one
function are joined in file order. Blocks inside test modules document nothing.
-/

namespace SocketDocs

structure AnnotatedDeclaration where
  declaration : Declaration
  lines : List String
  deriving DecidableEq, Repr

namespace DocBlock

def insideTest (ranges : List LineRange) (group : CommentGroup) : Bool :=
  ranges.any fun range => range.first ≤ group.first && group.last ≤ range.last

def target? (declarations : List Declaration) (group : CommentGroup) : Option Nat :=
  declarations.findIdx? fun declaration => group.last < declaration.line

def attachments (declarations : List Declaration) (ranges : List LineRange)
    (groups : List CommentGroup) : List (Nat × List String) :=
  groups.filterMap fun group =>
    let lines := kept group.lines
    if lines.isEmpty || insideTest ranges group then none
    else (target? declarations group).map fun index => (index, lines)

def linesFor (attached : List (Nat × List String)) (index : Nat) : List String :=
  (attached.filter (·.1 == index)).flatMap (·.2)

def merge (declarations : List Declaration) (attached : List (Nat × List String)) :
    List AnnotatedDeclaration :=
  declarations.zipIdx.filterMap fun (declaration, index) =>
    let lines := linesFor attached index
    if lines.isEmpty then none else some ⟨declaration, lines⟩

def ofFile (file : SourceFile) : List AnnotatedDeclaration :=
  let declarations := Declaration.ofFile file
  merge declarations
    (attachments declarations (Declaration.testRangesIn file.items) (Comment.groups file.comments))

end DocBlock

end SocketDocs
