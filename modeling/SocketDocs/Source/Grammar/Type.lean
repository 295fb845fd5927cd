import SocketDocs.Source.Grammar.Path

/-!
# Types and generic declarations
-/

namespace SocketDocs.Source

open SocketDocs.Source.Parser

def Ahead.generics : Ahead := fun tokens =>
  Ahead.mark "<" tokens &&
    (Ahead.second (Ahead.marks [">", "#"]) tokens ||
      (Ahead.second (fun rest => Ahead.lifetime rest || Ahead.identifier rest) tokens &&
        (Ahead.third (Ahead.marks [">", ",", "="]) tokens ||
          Ahead.third (fun rest => Ahead.mark ":" rest && !Ahead.mark "::" rest) tokens)) ||
      Ahead.second (Ahead.keyword "const") tokens)

def Ahead.colon : Ahead := fun tokens =>
  Ahead.mark ":" tokens && !Ahead.mark "::" tokens

def Ahead.stringLiteral : Ahead
  | .literal text _ _ :: _ =>
    match text.toList with
    | '"' :: _ => true
    | 'r' :: _ => true
    | _ => false
  | _ => false

def abi? : Parser Unit := do
  if ← keyword? "extern" then
    if ← sees Ahead.stringLiteral then skip 1

namespace Grammar

variable (g : Grammar)

/-! ## Generic declarations -/

def lifetimeParameter : Parser (List Item) := do
  lifetime
  if ← mark? ":" then
    let _ ← chainUntil (Ahead.marks [",", ">"]) "+" lifetime
  return []

def typeParameter : Parser (List Item) := do
  let _ ← identifier
  let bounds ← if ← mark? ":" then g.boundsUntil (Ahead.marks [",", ">", "="]) else pure []
  let standard ← if ← mark? "=" then g.typeItems true else pure []
  return bounds ++ standard

def constParameter : Parser (List Item) := do
  keyword "const"
  let _ ← identifier
  mark ":"
  let type ← g.typeItems true
  let standard ← if ← mark? "=" then g.constArgument else pure []
  return type ++ standard

def genericParameterRule : Parser (List Item) := do
  let before ← g.outerAttributeItems
  let found ←
    if ← sees Ahead.lifetime then lifetimeParameter
    else if ← sees Ahead.identifier then g.typeParameter
    else if ← sees (Ahead.keyword "const") then g.constParameter
    else do
      keyword "_"
      pure []
  return before ++ found

def generics : Parser (Bool × List Item) := do
  if ← sees (Ahead.mark "<") then
    mark "<"
    let found ← separatedUntil (Ahead.mark ">") "," g.genericParameter
    mark ">"
    return (true, found.flatten)
  else return (false, [])

def genericItems : Parser (List Item) := do
  return (← g.generics).2

def conditionEnd : Ahead := fun tokens =>
  Ahead.finished tokens || Ahead.brace tokens || Ahead.marks [",", ";", "="] tokens ||
    Ahead.colon tokens

def whereCondition : Parser (List Item) := do
  if ← sees (fun tokens => Ahead.lifetime tokens && Ahead.second (Ahead.mark ":") tokens) then
    lifetime
    mark ":"
    let _ ← chainUntil conditionEnd "+" lifetime
    return []
  else
    let binder ← g.boundLifetimes?
    let type ← g.typeItems true
    mark ":"
    let bounds ← g.boundsUntil conditionEnd
    return binder.getD [] ++ type ++ bounds

def whereClause? : Parser (Option (List Item)) := do
  if ← keyword? "where" then
    return some (← chainUntil conditionEnd "," g.whereCondition).flatten
  else return none

def whereItems : Parser (List Item) := do
  return (← g.whereClause?).getD []

/-! ## Types -/

def plainType (items : List Item) : TypeInfo := ⟨.other, .other, items⟩

/-- Whether names may follow arguments in parentheses with this result. -/
def continuesPath : Option TypeInfo → Bool
  | none => true
  | some info => info.shape == .parenthesized

def callStep (path : PathInfo) : Parser (Step PathInfo) := do
  if path.lastKind == .none && (← sees Ahead.callArguments) then
    let _ ← mark? "::"
    let (items, output) ← g.parenthesizedArguments
    let path := path.setLastKind .parenthesized items
    if continuesPath output then
      let found ← g.moreSegments false
      return .more (path.append (found.map (·.1)) (found.flatMap (·.2)))
    else return .more path
  else return .done path

def calledPath (path : PathInfo) : Parser PathInfo :=
  iterate g.callStep path

def pathType (path : PathInfo) : TypeInfo :=
  let shape :=
    match path.segments with
    | [only] =>
      if path.qualified then .qualifiedPath
      else if path.leading || only.kind == .parenthesized then .path
      else .simplePath
    | _ => if path.qualified then TypeShape.qualifiedPath else .path
  match path.segments.getLast? with
  | some last => ⟨.path last.name last.argument, shape, path.items⟩
  | none => ⟨.other, shape, path.items⟩

def plusBounds : Parser (List BoundInfo) :=
  manyWhile (Ahead.mark "+") do
    mark "+"
    g.bound false false

def pathLikeType (binder : Option (List Item)) (allowPlus : Bool) : Parser TypeInfo := do
  let path ← g.calledPath (← g.anyPath false)
  let bang : Ahead := fun tokens => Ahead.mark "!" tokens && !Ahead.mark "!=" tokens
  if path.qualified then return pathType path
  else if path.isPlain && (← sees bang) then
    mark "!"
    let _ ← anyGroup
    return plainType []
  else if binder.isSome || (allowPlus && (← sees (Ahead.mark "+"))) then
    let first := binder.getD [] ++ path.items
    let found ← iterate (fun (found : List BoundInfo) => do
      if allowPlus && (← sees (Ahead.mark "+")) then
        mark "+"
        if ← sees (Ahead.bound false) then return .more ((← g.bound false false) :: found)
        else return .done found
      else return .done found) []
    return ⟨.other, .bareObject found.isEmpty, first ++ found.reverse.flatMap (·.items)⟩
  else return pathType path

inductive ParenContent where
  | tuple (items : List Item)
  | relaxed (items : List Item)
  | single (info : TypeInfo)

def parenContent : Parser ParenContent := do
  if ← sees Ahead.finished then return .tuple []
  else if ← sees Ahead.lifetime then
    return .single ⟨.other, .other, ← g.objectBounds true false false⟩
  else if ← sees (Ahead.mark "?") then return .relaxed (← g.traitBound false)
  else
    let first ← g.type true
    if ← mark? "," then
      return .tuple (first.items ++ (← commaList (g.typeItems true)).flatten)
    else return .single first

def parenthesizedType (allowPlus : Bool) : Parser TypeInfo := do
  match ← inParentheses g.parenContent with
  | .tuple items => return plainType items
  | .relaxed items =>
    let others ← g.plusBounds
    return ⟨.other, .bareObject others.isEmpty, items ++ others.flatMap (·.items)⟩
  | .single info =>
    let joins := info.isPath || info.shape == .bareObject true
    if allowPlus && joins && (← sees (Ahead.mark "+")) then
      let others ← g.plusBounds
      return ⟨.other, .bareObject others.isEmpty, info.items ++ others.flatMap (·.items)⟩
    else return ⟨.parenthesized info.type, .parenthesized, info.items⟩

def pointerArgument (allowSelf : Bool) : Parser (List Item) := do
  let before ← g.outerAttributeItems
  let mutSelf : Ahead := fun tokens =>
    allowSelf && Ahead.keyword "mut" tokens && Ahead.second (Ahead.keyword "self") tokens
  let hasMutSelf ← sees mutSelf
  if hasMutSelf then keyword "mut"
  let named : Ahead := fun tokens =>
    (Ahead.identifier tokens || Ahead.keyword "_" tokens ||
      (allowSelf && Ahead.keyword "self" tokens)) && Ahead.second Ahead.colon tokens
  let isNamed ← sees named
  if isNamed then
    let _ ← anyIdentifier
    mark ":"
  let type ←
    if ← sees mutSelf then do
      skip 2
      pure []
    else if hasMutSelf && !isNamed then do
      keyword "self"
      pure []
    else g.typeItems true
  return before ++ type

def pointerArguments : Parser (List Item) := do
  let variadic : Ahead := fun tokens =>
    Ahead.mark "..." tokens ||
      ((Ahead.identifier tokens || Ahead.keyword "_" tokens) &&
        Ahead.second (Ahead.mark ":") tokens && Ahead.third (Ahead.mark "...") tokens)
  let (_, found) ← iterate (fun (first, found) => do
    if ← sees Ahead.finished then return .done (first, found)
    else
      let before ← g.outerAttributeItems
      if ← sees variadic then
        if !(← sees (Ahead.mark "...")) then skip 2
        mark "..."
        let _ ← mark? ","
        return .done (false, found ++ before)
      else
        let next ← g.pointerArgument first
        let found := found ++ before ++ next
        if ← sees Ahead.finished then return .done (false, found)
        else
          mark ","
          return .more (false, found)) (true, [])
  return found

def functionPointer : Parser (List Item) := do
  let _ ← keyword? "unsafe"
  abi?
  keyword "fn"
  let inputs ← inParentheses g.pointerArguments
  let output ← g.returnItems false
  return inputs ++ output

def bracketType : Parser TypeInfo := do
  let items ← inBrackets do
    let element ← g.typeItems true
    if ← mark? ";" then return element ++ (← g.exprItems) else return element
  return ⟨.sequence, .other, items⟩

def pointerType : Parser (List Item) := do
  mark "*"
  if !(← keyword? "const") then keyword "mut"
  g.typeItems false

def referenceType : Parser TypeInfo := do
  mark "&"
  let _ ← lifetime?
  let _ ← keyword? "mut"
  let target ← g.type false
  return ⟨.reference target.type, .other, target.items⟩

def Ahead.boundType : Ahead := fun tokens =>
  Ahead.identifier tokens ||
    Ahead.keywords ["fn", "unsafe", "extern", "super", "self", "Self", "crate"] tokens

def typeRule (allowPlus : Bool) : Parser TypeInfo := do
  let binder ← g.boundLifetimes?
  if binder.isSome then require Ahead.boundType
  if ← sees Ahead.parenthesis then g.parenthesizedType allowPlus
  else if ← sees (Ahead.keywords ["fn", "unsafe", "extern"]) then
    return plainType (binder.getD [] ++ (← g.functionPointer))
  else if ← sees (fun tokens => Ahead.pathWord tokens || Ahead.marks ["::", "<"] tokens) then
    g.pathLikeType binder allowPlus
  else if ← keyword? "dyn" then
    let _ ← mark? "*"
    return plainType (← g.objectBounds allowPlus false false)
  else if ← sees Ahead.bracket then g.bracketType
  else if ← sees (Ahead.mark "*") then return plainType (← g.pointerType)
  else if ← sees (Ahead.mark "&") then g.referenceType
  else if ← mark? "!" then return plainType []
  else if ← keyword? "impl" then return plainType (← g.objectBounds allowPlus true true)
  else if ← keyword? "_" then return plainType []
  else
    require Ahead.lifetime
    return plainType (← g.objectBounds true false false)

end Grammar

end SocketDocs.Source
