import SocketDocs.Yaml.Scan

/-!
# YAML nodes

A document is a tree of scalars, sequences and mappings, each perhaps with a tag. An alias refers to
an anchored node by a number. A name that is anchored again gets a number of its own, but numbers
are counted by distinct names, so that a later anchor may take one over; the last node under a
number is the one that its aliases mean.
-/

namespace SocketDocs.Yaml

inductive Node where
  | scalar (tag : Option String) (style : ScalarStyle) (text : String)
  | sequence (tag : Option String) (items : List Node)
  | mapping (tag : Option String) (entries : List (Node × Node))
  | alias (target : Nat)
  deriving Inhabited, Repr

def Node.absent : Node := .scalar none .plain ""

/-- A document: its root, if it has one, the anchored nodes by number, the last one first, and how
many events it takes to spell it: one for a scalar or an alias and two for a collection. -/
structure Tree where
  root : Option Node
  anchored : List (Nat × Node)
  events : Nat

structure Reading where
  tokens : List Token
  /-- No more tokens than these are left. -/
  bound : Nat
  handles : List (String × String)
  names : List (String × Nat)
  nameCount : Nat
  /-- Anchored nodes by number, in the order of their anchors, the last one first. -/
  anchored : List (Nat × Option Node)
  events : Nat

abbrev Reader := StateT Reading Option

namespace Reader

def fail {α : Type} : Reader α := fun _ => none

def peek : Reader Token := do
  match (← get).tokens with
  | token :: _ => pure token
  | [] => fail

def skip : Reader Unit :=
  modify fun s => { s with tokens := s.tokens.drop 1 }

def sees (wanted : List Token) : Reader Bool := do
  return wanted.contains (← peek)

def take? (wanted : Token) : Reader Bool := do
  if (← peek) == wanted then
    skip
    pure true
  else pure false

def count (events : Nat) : Reader Unit :=
  modify fun s => { s with events := s.events + events }

def absent : Reader Node := do
  count 1
  pure .absent

/-! ## Properties of nodes -/

structure Properties where
  anchor : Option String := none
  tag : Option String := none

def resolveTag (handle suffix : String) : Reader String := do
  if handle.isEmpty then pure suffix
  else
    match (← get).handles.lookup handle with
    | some start => pure (start ++ suffix)
    | none => fail

def anchorProperty : Reader (Option String) := do
  match ← peek with
  | .anchor name =>
    skip
    pure (some name)
  | _ => pure none

def tagProperty : Reader (Option (String × String)) := do
  match ← peek with
  | .tag handle suffix =>
    skip
    pure (some (handle, suffix))
  | _ => pure none

def properties : Reader Properties := do
  let first ← anchorProperty
  let tag ← tagProperty
  let anchor ← if first.isNone && tag.isSome then anchorProperty else pure first
  match tag with
  | some (handle, suffix) => pure ⟨anchor, some (← resolveTag handle suffix)⟩
  | none => pure ⟨anchor, none⟩

def registerAnchor (name : String) : Reader Nat := do
  let s ← get
  let known := (s.names.lookup name).isSome
  set { s with
    names := (name, s.nameCount) :: s.names
    nameCount := if known then s.nameCount else s.nameCount + 1
    anchored := (s.nameCount, none) :: s.anchored }
  pure s.anchored.length

def fillAnchor (position : Nat) (node : Node) : Reader Unit :=
  modify fun s =>
    let later := s.anchored.length - position - 1
    { s with
      anchored :=
        s.anchored.take later ++
          (s.anchored.drop later).modifyHead fun entry => (entry.1, some node) }

def anchoredAs (anchor : Option String) (node : Reader Node) : Reader Node := do
  match anchor with
  | none => node
  | some name =>
    let position ← registerAnchor name
    let found ← node
    fillAnchor position found
    pure found

def aliasNode (name : String) : Reader Node := do
  match (← get).names.lookup name with
  | some target =>
    count 1
    pure (.alias target)
  | none => fail

/-! ## Nodes -/

inductive Context where
  /-- Anywhere in block context. -/
  | block
  /-- The key or value of a block mapping, where a sequence needs no further indentation. -/
  | blockMember
  | flow
  deriving DecidableEq

def nodeUnless (node : Context → Reader Node) (stops : List Token) (context : Context) :
    Reader Node := do
  if ← sees stops then absent else node context

def repeated {α : Type} (step : Reader (Option α)) : Nat → Reader (List α)
  | 0 => fail
  | rounds + 1 => do
    match ← step with
    | some a => return a :: (← repeated step rounds)
    | none => return []

/-- Repeats a step until it gives nothing. Each round before takes a token. -/
def many {α : Type} (step : Reader (Option α)) : Reader (List α) := do
  repeated step ((← get).bound + 1)

def blockSequenceStep (node : Context → Reader Node) : Reader (Option Node) := do
  if ← take? .blockEntry then
    return some (← nodeUnless node [.blockEntry, .blockEnd] .block)
  else if ← take? .blockEnd then return none
  else fail

def indentlessStep (node : Context → Reader Node) : Reader (Option Node) := do
  if ← take? .blockEntry then
    return some (← nodeUnless node [.blockEntry, .key, .value, .blockEnd] .block)
  else return none

def blockValue (node : Context → Reader Node) : Reader Node := do
  if ← take? .value then nodeUnless node [.key, .value, .blockEnd] .blockMember else absent

def blockMappingStep (node : Context → Reader Node) : Reader (Option (Node × Node)) := do
  if ← take? .key then
    let key ← nodeUnless node [.key, .value, .blockEnd] .blockMember
    return some (key, ← blockValue node)
  else if ← take? .blockEnd then return none
  else fail

/-- A pair that stands alone in a flow sequence, after the token of its key. A key left out takes
the token after it along. -/
def flowPair (node : Context → Reader Node) : Reader Node := do
  count 2
  let key ←
    if ← sees [.value, .flowEntry, .flowSequenceEnd] then do
      skip
      absent
    else node .flow
  let value ←
    if ← take? .value then nodeUnless node [.flowEntry, .flowSequenceEnd] .flow else absent
  pure (.mapping none [(key, value)])

def flowComma (first : Bool) (stop : Token) : Reader Unit := do
  if first || (← sees [stop]) then pure ()
  else if ← take? .flowEntry then pure ()
  else fail

def flowSequenceStep (node : Context → Reader Node) (first : Bool) : Reader (Option Node) := do
  flowComma first .flowSequenceEnd
  if ← take? .flowSequenceEnd then return none
  else if ← take? .key then return some (← flowPair node)
  else return some (← node .flow)

def flowMappingStep (node : Context → Reader Node) (first : Bool) :
    Reader (Option (Node × Node)) := do
  flowComma first .flowMappingEnd
  if ← take? .flowMappingEnd then return none
  else if ← take? .key then
    let key ← nodeUnless node [.value, .flowEntry, .flowMappingEnd] .flow
    let value ←
      if ← take? .value then nodeUnless node [.flowEntry, .flowMappingEnd] .flow else absent
    return some (key, value)
  else
    let key ← node .flow
    return some (key, ← absent)

def flowItems {α : Type} (step : Bool → Reader (Option α)) : Reader (List α) := do
  match ← step true with
  | none => return []
  | some first => return first :: (← many (step false))

/-- A tag of a single mark means that a scalar has no tag. -/
def scalarTag (tag : Option String) : Option String :=
  tag.filter (· != "!")

def content (node : Context → Reader Node) (context : Context) (found : Properties) :
    Reader Node := do
  let tag := found.tag
  match ← peek with
  | .scalar text style =>
    skip
    count 1
    pure (.scalar (scalarTag tag) style text)
  | .flowSequenceStart =>
    skip
    count 2
    return .sequence tag (← flowItems (flowSequenceStep node))
  | .flowMappingStart =>
    skip
    count 2
    return .mapping tag (← flowItems (flowMappingStep node))
  | .blockEntry =>
    if context = .blockMember then
      count 2
      return .sequence tag (← many (indentlessStep node))
    else empty
  | .blockSequenceStart =>
    if context = .flow then empty
    else
      skip
      count 2
      return .sequence tag (← many (blockSequenceStep node))
  | .blockMappingStart =>
    if context = .flow then empty
    else
      skip
      count 2
      return .mapping tag (← many (blockMappingStep node))
  | _ => empty
where
  /-- Properties alone make an empty scalar. -/
  empty : Reader Node := do
    if found.anchor.isSome || found.tag.isSome then
      count 1
      pure (.scalar found.tag .plain "")
    else fail

def node : Nat → Context → Reader Node
  | 0, _ => fail
  | fuel + 1, context => do
    match ← peek with
    | .alias name =>
      skip
      aliasNode name
    | _ =>
      let found ← properties
      anchoredAs found.anchor (content (node fuel) context found)

/-! ## Documents -/

def standardHandles : List (String × String) :=
  [("!", "!"), ("!!", "tag:yaml.org,2002:")]

/-- Directives before a document, which say what tag handles stand for. A version must be 1.1 or 1.2
and stand alone, and no handle may be given twice. -/
def directives : Nat → Bool → List (String × String) → Reader (List (String × String))
  | 0, _, _ => fail
  | rounds + 1, versioned, handles => do
    match ← peek with
    | .version major minor =>
      if versioned || major != 1 || (minor != 1 && minor != 2) then fail
      else
        skip
        directives rounds true handles
    | .tagDirective handle start =>
      if (handles.lookup handle).isSome then fail
      else
        skip
        directives rounds versioned ((handle, start) :: handles)
    | _ => pure handles

def isDirective : Token → Bool
  | .version _ _ => true
  | .tagDirective _ _ => true
  | _ => false

/-- The root of a document. Directives need a mark after them; after a mark the root may be left
out. -/
def rootNode : Reader Node := do
  let directed := isDirective (← peek)
  let handles ← directives ((← get).bound + 1) false []
  modify fun s => { s with handles := handles ++ standardHandles }
  let depth := (← get).bound + 1
  if ← take? .documentStart then
    if isDirective (← peek) then absent
    else nodeUnless (node depth) [.documentStart, .documentEnd, .streamEnd] .block
  else if directed then fail
  else node depth .block

/-- The marks after a document, and the end. A second document is refused. -/
def finish : Nat → Reader Unit
  | 0 => fail
  | rounds + 1 => do
    if ← take? .documentEnd then finish rounds
    else if ← sees [.streamEnd] then pure ()
    else fail

def stream : Reader (Option Node) := do
  if ← sees [.streamEnd] then pure none
  else
    let root ← rootNode
    finish ((← get).bound + 1)
    pure (some root)

end Reader

def Tree.ofText? (text : String) : Option Tree := do
  let tokens ← tokens? text.toList
  let start : Reading :=
    { tokens, bound := tokens.length, handles := [], names := [], nameCount := 0, anchored := [], events := 0 }
  let (root, found) ← Reader.stream.run start
  pure {
    root
    anchored := found.anchored.filterMap fun (target, node) => node.map fun node => (target, node)
    events := found.events }

end SocketDocs.Yaml
