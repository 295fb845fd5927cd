import SocketDocs.Comment
import SocketDocs.Directive.Literal
import SocketDocs.Source.Item

/-!
# Sample values of fields

A field's sample value comes from a comment that gives one, and otherwise from the field's type.
-/

namespace SocketDocs.Sample

open Json (Value)
open Source (Field Ty)

/-- A stand-in for a type, as far as it has a name. A wrapper stands for what it wraps. -/
def ofType : Ty → Option Value
  | .path name argument =>
    if ["String", "str", "char"].contains name then some (.string "string")
    else if ["i8", "i16", "i32", "i64", "i128", "isize", "u8", "u16", "u32", "u64", "u128",
        "usize"].contains name then some (.ofInt 0)
    else if name == "bool" then some (.bool false)
    else if ["Vec", "VecDeque", "LinkedList", "HashSet", "BTreeSet", "IndexSet"].contains name then
      some (.array [])
    else if ["HashMap", "BTreeMap", "IndexMap"].contains name then some (.object [])
    else if ["Option", "Box", "Rc", "Arc", "Cow"].contains name then
      match argument with
      | some wrapped => some ((ofType wrapped).getD (.string name))
      | none => some (.string name)
    else some (.string name)
  | .reference target => ofType target
  | .sequence => some (.array [])
  | .parenthesized inner => ofType inner
  | .other => none

def ofComment? (comment : String) : Option String :=
  let mark := "Example:".toList
  if mark.isPrefixOf comment.toList then
    let text := Text.trimChars (comment.toList.drop mark.length)
    if text.isEmpty then none else some (String.ofList text)
  else none

/-- The sample in the comments above a field, the nearest first. The walk goes up from line
`line + 1`, at most `steps` lines, over comments and, from the line `attributes` on, anything. -/
def above (comments : List Comment) (attributes : Nat) : Nat → Nat → Option String
  | 0, _ => none
  | steps + 1, line =>
    match Comment.ownLine? comments line with
    | some text => (ofComment? text).or (above comments attributes steps (line - 1))
    | none => if attributes ≤ line then above comments attributes steps (line - 1) else none

/-- The sample that the comments around a field give. Nothing on the line of the opening brace, or
above it, belongs to the field. -/
def explicit? (comments : List Comment) (openLine : Nat) (field : Field) : Option String :=
  let attributes := (field.attributes.head?.map (·.line)).getD field.nameLine
  let steps := field.nameLine - (openLine + 1)
  match above comments attributes steps (field.nameLine - 1) with
  | some text => some text
  | none =>
    if field.typeLine == openLine then none
    else (Comment.trailing? comments field.typeLine).bind ofComment?

def ofField (comments : List Comment) (openLine : Nat) (field : Field) : Option Value :=
  match explicit? comments openLine field with
  | some text => some (Literal.value text)
  | none => ofType field.type

end SocketDocs.Sample
