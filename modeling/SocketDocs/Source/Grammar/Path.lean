import SocketDocs.Source.Grammar.Attribute

/-!
# Paths and bounds

Paths with generic arguments, and the bounds that traits put on types. In an expression the
arguments of a name need a separator before them; in a type they do not.
-/

namespace SocketDocs.Source

open SocketDocs.Source.Parser

namespace PathInfo

def isPlain (path : PathInfo) : Bool :=
  path.segments.all (·.kind == .none)

def lastKind (path : PathInfo) : ArgumentKind :=
  (path.segments.getLast?.map (·.kind)).getD .none

def setLastKind (path : PathInfo) (kind : ArgumentKind) (items : List Item) : PathInfo where
  qualified := path.qualified
  leading := path.leading
  segments :=
    match path.segments.getLast? with
    | some last => path.segments.dropLast ++ [⟨last.name, kind, none⟩]
    | none => path.segments
  items := path.items ++ items

def append (path : PathInfo) (segments : List Segment) (items : List Item) : PathInfo :=
  { path with segments := path.segments ++ segments, items := path.items ++ items }

end PathInfo

def Ahead.callArguments : Ahead := fun tokens =>
  Ahead.parenthesis tokens || (Ahead.mark "::" tokens && Ahead.third Ahead.parenthesis tokens)

def preciseCapture : Parser Unit := do
  keyword "use"
  mark "<"
  let _ ← separatedUntil (Ahead.mark ">") "," do
    if ← sees Ahead.lifetime then lifetime
    else
      let _ ← anyIdentifier
  mark ">"

def constBound (allowConst : Bool) : Parser Unit := do
  if ← sees Ahead.bracket then
    inBrackets (keyword "const")
    if allowConst then pure () else fail
  else if ← mark? "~" then keyword "const"
  else if ← keyword? "const" then
    if allowConst then pure () else fail

structure BoundInfo where
  isTrait : Bool
  items : List Item

def Ahead.bound (allowConst : Bool) : Ahead := fun tokens =>
  Ahead.anyIdentifier tokens || Ahead.marks ["::", "?"] tokens || Ahead.lifetime tokens ||
    Ahead.parenthesis tokens ||
    (allowConst && (Ahead.bracket tokens || Ahead.keyword "const" tokens))

namespace Grammar

variable (g : Grammar)

def constArgument : Parser (List Item) := do
  if ← sees Ahead.literal then
    literal
    return []
  else if ← sees Ahead.identifier then
    let _ ← identifier
    return []
  else g.block

def boundLifetimes : Parser (List Item) := do
  keyword "for"
  mark "<"
  let found ← separatedUntil (Ahead.mark ">") "," g.genericParameter
  mark ">"
  return found.flatten

def boundLifetimes? : Parser (Option (List Item)) := do
  if ← sees (Ahead.keyword "for") then return some (← g.boundLifetimes) else return none

def returnType (allowPlus : Bool) : Parser (Option TypeInfo) := do
  if ← mark? "->" then return some (← g.type allowPlus) else return none

def returnItems (allowPlus : Bool) : Parser (List Item) := do
  match ← g.returnType allowPlus with
  | some info => return info.items
  | none => return []

def parenthesizedArguments : Parser (List Item × Option TypeInfo) := do
  let inputs ← inParentheses (commaList (g.typeItems true))
  let output ← g.returnType false
  let outputItems := match output with | some info => info.items | none => []
  return (inputs.flatten ++ outputItems, output)

def traitBound (allowConst : Bool) : Parser (List Item) := do
  let binder ← g.boundLifetimes?
  constBound allowConst
  let relaxed ← mark? "?"
  let binder ← if relaxed && binder.isNone then g.boundLifetimes? else pure binder
  let path ← g.path false
  let called ←
    if path.lastKind == .none && (← sees Ahead.callArguments) then
      let _ ← mark? "::"
      pure (← g.parenthesizedArguments).1
    else pure []
  if relaxed && binder.isSome then fail
  return binder.getD [] ++ path.items ++ called

def bound (capture allowConst : Bool) : Parser BoundInfo := do
  if ← sees Ahead.lifetime then
    lifetime
    return ⟨false, []⟩
  else if ← sees (Ahead.keyword "use") then
    preciseCapture
    if capture then return ⟨false, []⟩ else fail
  else if ← sees Ahead.parenthesis then
    return ⟨true, ← inParentheses (g.traitBound allowConst)⟩
  else return ⟨true, ← g.traitBound allowConst⟩

def boundsUntil (stop : Ahead) : Parser (List Item) := do
  return (← chainUntil stop "+" (g.bound false true)).flatMap (·.items)

/-- One bound, and the ones after plus signs if `allowPlus`; the last plus may stand alone. -/
def bounds (allowPlus capture allowConst : Bool) : Parser (List BoundInfo) := do
  let first ← g.bound capture allowConst
  let found ← iterate (fun found => do
    if allowPlus && (← sees (Ahead.mark "+")) then
      mark "+"
      if ← sees (Ahead.bound allowConst) then
        return .more ((← g.bound capture allowConst) :: found)
      else return .done found
    else return .done found) [first]
  return found.reverse

def objectBounds (allowPlus capture allowConst : Bool) : Parser (List Item) := do
  let found ← g.bounds allowPlus capture allowConst
  if found.any (·.isTrait) then return found.flatMap (·.items) else fail

/-- What follows a type that stands as a generic argument: it may turn out to name an associated
type or constant, or to carry bounds. -/
def afterArgument (info : TypeInfo) : Parser (Option Ty × List Item) := do
  if info.shape == .simplePath then
    if ← mark? "=" then
      if ← sees (fun tokens => Ahead.literal tokens || Ahead.brace tokens) then
        return (none, info.items ++ (← g.constArgument))
      else return (none, info.items ++ (← g.typeItems true))
    else if ← mark? ":" then
      let found ← g.boundsUntil (Ahead.marks [",", ">"])
      return (none, info.items ++ found)
    else return (some info.type, info.items)
  else return (some info.type, info.items)

def genericArgument : Parser (Option Ty × List Item) := do
  let isLifetime : Ahead := fun tokens =>
    Ahead.lifetime tokens && !Ahead.second (Ahead.mark "+") tokens
  if ← sees isLifetime then
    lifetime
    return (none, [])
  else if ← sees (fun tokens => Ahead.literal tokens || Ahead.brace tokens) then
    return (none, ← g.constArgument)
  else g.afterArgument (← g.type true)

def genericArguments : Parser (Option Ty × List Item) := do
  let _ ← mark? "::"
  mark "<"
  let found ← separatedUntil (Ahead.mark ">") "," g.genericArgument
  mark ">"
  return (found.findSome? (·.1), found.flatMap (·.2))

def segment (exprStyle : Bool) : Parser (Segment × List Item) := do
  if ← sees (Ahead.keywords ["super", "self", "crate", "try"]) then
    return (⟨(← anyIdentifier).1, .none, none⟩, [])
  else
    let (name, _) ← if ← sees (Ahead.keyword "Self") then anyIdentifier else identifier
    let hasArguments : Ahead := fun tokens =>
      (!exprStyle && Ahead.mark "<" tokens && !Ahead.mark "<=" tokens) ||
        (Ahead.mark "::" tokens && Ahead.third (Ahead.mark "<") tokens)
    if ← sees hasArguments then
      let (argument, items) ← g.genericArguments
      return (⟨name, .angle, argument⟩, items)
    else return (⟨name, .none, none⟩, [])

def moreSegments (exprStyle : Bool) : Parser (List (Segment × List Item)) := do
  let ahead : Ahead := fun tokens =>
    Ahead.mark "::" tokens && !Ahead.third Ahead.parenthesis tokens
  manyWhile ahead do
    mark "::"
    g.segment exprStyle

def pathRule (exprStyle : Bool) : Parser PathInfo := do
  let leading ← mark? "::"
  let first ← g.segment exprStyle
  let found := first :: (← g.moreSegments exprStyle)
  return ⟨false, leading, found.map (·.1), found.flatMap (·.2)⟩

def anyPath (exprStyle : Bool) : Parser PathInfo := do
  if ← sees (Ahead.mark "<") then
    mark "<"
    let self ← g.typeItems true
    let viaTrait ← if ← keyword? "as" then pure (← g.path false).items else pure []
    mark ">"
    mark "::"
    let first ← g.segment exprStyle
    let others ← manyWhile (Ahead.mark "::") do
      mark "::"
      g.segment exprStyle
    let found := first :: others
    return ⟨true, false, found.map (·.1), self ++ viaTrait ++ found.flatMap (·.2)⟩
  else g.path exprStyle

end Grammar

end SocketDocs.Source
