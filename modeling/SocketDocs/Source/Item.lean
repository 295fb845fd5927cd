import SocketDocs.Source.Token

/-!
# What is kept of a Rust source

Items are reduced to what the documentation needs: where functions stand and who owns them, which
lines are only for tests, and the fields of structs. An item may hold others in the expressions inside
it; those are kept in source order. A function keeps nothing of its body. The lines of an item go from
the first of its attributes to its end.
-/

namespace SocketDocs.Source

inductive Ty where
  /-- A path: the last name on it, and the first type among the arguments of that name. -/
  | path (name : String) (argument : Option Ty)
  | reference (target : Ty)
  | sequence
  | parenthesized (inner : Ty)
  | other
  deriving Inhabited, Repr

/-- An attribute: the line of its mark, its name if that is a single word, and the tokens of its
argument list if it has one. -/
structure Attribute where
  line : Nat
  name : Option String
  arguments : Option (List Token)
  deriving Inhabited, Repr

structure Field where
  name : String
  nameLine : Nat
  attributes : List Attribute
  type : Ty
  typeLine : Nat
  deriving Inhabited, Repr

structure FieldList where
  openLine : Nat
  fields : List Field
  deriving Inhabited, Repr

structure Struct where
  name : String
  attributes : List Attribute
  /-- Absent for tuple and unit structs. -/
  body : Option FieldList
  deriving Inhabited, Repr

inductive Item where
  | function (attributes : List Attribute) (name : String) (line first last : Nat)
  | method (attributes : List Attribute) (name : String) (line first last : Nat)
  /-- A module with its lines; `outside` are items in its attributes, `inside` those between its
  braces. -/
  | module (attributes : List Attribute) (name : String) (first last : Nat)
      (outside inside : List Item)
  /-- An implementation for a type; `owner` is its name if the type is a path. -/
  | implementation (attributes : List Attribute) (owner : Option String) (first last : Nat)
      (members : List Item)
  | trait (attributes : List Attribute) (name : String) (first last : Nat) (members : List Item)
  | struct (declaration : Struct) (nested : List Item)
  /-- Anything else, with the items in its expressions. -/
  | other (nested : List Item)
  deriving Inhabited, Repr

def unraw (name : String) : String :=
  match name.toList with
  | 'r' :: '#' :: rest => String.ofList rest
  | _ => name

namespace Attribute

/-- Whether the attribute limits its item to test builds: `cfg` with the one word `test`. -/
def isTestOnly (mark : Attribute) : Bool :=
  mark.name == some "cfg" &&
    match mark.arguments with
    | some [.identifier "test" _] => true
    | _ => false

end Attribute

def isTestOnly (attributes : List Attribute) : Bool :=
  attributes.any Attribute.isTestOnly

end SocketDocs.Source
