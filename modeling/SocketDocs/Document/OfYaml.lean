import SocketDocs.Document.Decoding
import SocketDocs.Yaml.Node
import SocketDocs.Yaml.Scalar

/-!
# Documents from YAML text

A text is any scalar, whatever it would mean by itself. A list or record may also be an empty plain
scalar. Payloads are read by the meaning of their scalars, and a local tag has no meaning in them.
Collections nest at most 128 deep, and aliases are followed at most a hundred times for each event of
the document.
-/

namespace SocketDocs

open Json (Value)

namespace Yaml

/-- A node and how many more levels of collections may begin there. -/
structure Spot where
  node : Node
  depth : Nat

namespace Spot

def deepest : Nat := 128

def sharesPerEvent : Nat := 100

def follow (tree : Tree) (node : Node) : Decoder Node := do
  match node with
  | .alias target =>
    Decoder.share
    Decoder.ofOption (tree.anchored.lookup target)
  | node => pure node

def isEmptyPlain : Node → Bool
  | .scalar _ .plain text => text.isEmpty
  | _ => false

def scalarText? : Node → Option String
  | .scalar _ _ text => some text
  | _ => none

def coreTag (name : String) : String :=
  "tag:yaml.org,2002:" ++ name

/-- Plain scalars, and literal ones that a tag calls so, may be flags. -/
def flag? : Node → Option Bool
  | .scalar _ .plain text => Meaning.bool? text
  | .scalar (some tag) .literal text =>
    if tag == coreTag "bool" then Meaning.bool? text else none
  | _ => none

def localName? (tag : Option String) : Option String :=
  match tag.map String.toList with
  | some ['!'] => some "!"
  | some ('!' :: name) => some (String.ofList name)
  | _ => none

def tagOf : Node → Option String
  | .scalar tag _ _ => tag
  | .sequence tag _ => tag
  | .mapping tag _ => tag
  | .alias _ => none

/-- A choice is the text of a scalar, or the name in the tag of an empty one. -/
def choice? (node : Node) : Option String :=
  match localName? (tagOf node), node with
  | some name, .scalar _ .plain text =>
    if text.isEmpty || Meaning.isNull text then some name else none
  | none, .scalar _ _ text => some text
  | _, _ => none

def isSet? : Node → Option Bool
  | .scalar none .plain text => some (!(text.isEmpty || Meaning.isNull text))
  | .scalar (some tag) .plain text =>
    if tag == coreTag "null" then (if Meaning.isNull text then some false else none)
    else some true
  | _ => some true

def integer? (n : Int) : Option Value :=
  if Decimal.int64Min ≤ n && n ≤ Decimal.uint64Max then some (.ofInt n) else none

/-- The value of a number or word. What is not finite has no value but null. -/
def ofMeaning? (text : String) : Meaning → Option Value
  | .null => some .null
  | .bool b => some (.bool b)
  | .int n => integer? n
  | .double x => some (.number (.double x))
  | .nonFinite => some .null
  | .text => some (.string text)

/-- The value of a scalar in a payload. Tags for null, flags and numbers demand such a text; under
any other tag, and in quotes, a text means itself. -/
def scalarValue? (tag : Option String) (style : ScalarStyle) (text : String) : Option Value :=
  match tag with
  | none => if style = .plain then ofMeaning? text (.ofText text) else some (.string text)
  | some tag =>
    if tag == coreTag "bool" then (Meaning.bool? text).map .bool
    else if tag == coreTag "int" then (Meaning.int? text.toList).bind integer?
    else if tag == coreTag "float" then (Meaning.float? text).bind (ofMeaning? text)
    else if tag == coreTag "null" then (if Meaning.isNull text then some .null else none)
    else some (.string text)

def keyText (tree : Tree) (node : Node) : Decoder String := do
  Decoder.ofOption (scalarText? (← follow tree node))

/-- The value of a node that is no alias. `inside` reads the nodes of a collection; without it no
collection may begin. -/
def contentValue (tree : Tree) (inside : Option (Node → Decoder Value)) (node : Node) :
    Decoder Value :=
  if (localName? (tagOf node)).isSome then Decoder.fail
  else
    match inside, node with
    | _, .scalar tag style text => Decoder.ofOption (scalarValue? tag style text)
    | some inside, .sequence _ items => do return .array (← items.mapM inside)
    | some inside, .mapping _ entries => do
      let members ← entries.mapM fun (key, value) => do
        return (← keyText tree key, ← inside value)
      return .object (Keyed.ofList members)
    | _, _ => Decoder.fail

def valueAt (tree : Tree) : Nat → Node → Decoder Value
  | 0, node => do contentValue tree none (← follow tree node)
  | depth + 1, node => do contentValue tree (some (valueAt tree depth)) (← follow tree node)

def items (tree : Tree) (spot : Spot) : Decoder (List Spot) := do
  match ← follow tree spot.node, spot.depth with
  | .sequence _ items, depth + 1 => return items.map (⟨·, depth⟩)
  | node, _ => if isEmptyPlain node then return [] else Decoder.fail

def knownFields (tree : Tree) (names : List String) (depth : Nat) :
    List (String × Spot) → List (Node × Node) → Decoder (List (String × Spot))
  | found, [] => pure found
  | found, (key, value) :: rest => do
    let name ← keyText tree key
    if !names.contains name then knownFields tree names depth found rest
    else if (found.lookup name).isSome then Decoder.fail
    else knownFields tree names depth ((name, ⟨value, depth⟩) :: found) rest

def fields (tree : Tree) (names : List String) (spot : Spot) : Decoder (List (String × Spot)) := do
  match ← follow tree spot.node, spot.depth with
  | .mapping _ entries, depth + 1 => knownFields tree names depth [] entries
  | node, _ => if isEmptyPlain node then return [] else Decoder.fail

def present (tree : Tree) (spot : Spot) : Decoder (Option Spot) := do
  let node ← follow tree spot.node
  return if ← Decoder.ofOption (isSet? node) then some { spot with node } else none

end Spot

def medium (tree : Tree) : Medium Spot where
  text spot := Spot.keyText tree spot.node
  flag spot := do Decoder.ofOption (Spot.flag? (← Spot.follow tree spot.node))
  choice spot := do Decoder.ofOption (Spot.choice? (← Spot.follow tree spot.node))
  items := Spot.items tree
  fields := Spot.fields tree
  present := Spot.present tree
  value spot := Spot.valueAt tree spot.depth spot.node

end Yaml

def Document.ofTree? (tree : Yaml.Tree) : Option Document :=
  match tree.root with
  | none => some {}
  | some root =>
    (Document.decode (Yaml.medium tree) ⟨root, Yaml.Spot.deepest⟩).run'
      (tree.events * Yaml.Spot.sharesPerEvent)

def Document.ofYaml? (text : String) : Option Document := do
  Document.ofTree? (← Yaml.Tree.ofText? text)

end SocketDocs
