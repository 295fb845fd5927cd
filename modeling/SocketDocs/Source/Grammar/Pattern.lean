import SocketDocs.Source.Grammar.Type
import SocketDocs.Source.Literal

/-!
# Patterns
-/

namespace SocketDocs.Source

open SocketDocs.Source.Parser

def Ahead.alternative : Ahead := fun tokens =>
  Ahead.mark "|" tokens && !Ahead.marks ["||", "|="] tokens

def Ahead.bang : Ahead := fun tokens =>
  Ahead.mark "!" tokens && !Ahead.mark "!=" tokens

def tupleIndex : Parser Unit := do
  match ← token with
  | .literal text _ _ =>
    if (Literal.index? text.toList).isSome then pure () else fail
  | _ => fail

def member : Parser Bool := do
  if ← sees Ahead.identifier then
    let _ ← identifier
    return true
  else
    tupleIndex
    return false

/-- The marks of a range: tells whether its end belongs to it. Three points are an old form that
patterns still take. -/
def rangeMark (old : Bool) : Parser Bool := do
  if ← mark? "..=" then return true
  else if ← sees (Ahead.mark "...") then
    if old then
      mark "..."
      return true
    else fail
  else
    mark ".."
    return false

namespace Grammar

variable (g : Grammar)

def plainPattern (items : List Item) : PatternInfo := ⟨.other, items⟩

def alternatives : Parser PatternInfo := do
  let leading ← mark? "|"
  let first ← g.pattern
  let others ← manyWhile Ahead.alternative do
    mark "|"
    g.pattern
  if leading || !others.isEmpty then
    return plainPattern (first.items ++ others.flatMap (·.items))
  else return first

def alternativeItems : Parser (List Item) := do
  return (← g.alternatives).items

def boundEnd : Ahead := fun tokens =>
  Ahead.finished tokens || Ahead.marks ["|", "=", ",", ";"] tokens || Ahead.colon tokens ||
    Ahead.keyword "if" tokens

def rangeBound : Parser (Option (List Item)) := do
  let pathAhead : Ahead := fun tokens =>
    Ahead.pathWord tokens || Ahead.marks ["::", "<"] tokens
  if ← sees boundEnd then return none
  else if ← sees Ahead.literal then
    literal
    return some []
  else if ← sees pathAhead then return some (← g.anyPath true).items
  else
    keyword "const"
    return some (← g.block)

/-- What follows the lower end of a range; an end that belongs to it must be there. -/
def rangeRest (start : List Item) : Parser PatternInfo := do
  let closed ← rangeMark true
  match ← g.rangeBound with
  | some items => return plainPattern (start ++ items)
  | none => if closed then fail else return ⟨.openRange, start⟩

def rangeFromStart : Parser PatternInfo := do
  let closed ← rangeMark false
  match ← g.rangeBound with
  | some items => return ⟨.openRange, items⟩
  | none => if closed then fail else return ⟨.rest, []⟩

def fieldPattern : Parser (List Item) := do
  let boxed ← keyword? "box"
  let byRef ← keyword? "ref"
  let mutable ← keyword? "mut"
  let bare := !(boxed || byRef || mutable)
  let named ←
    if bare then member
    else do
      let _ ← identifier
      pure true
  if (bare && (← sees (Ahead.mark ":"))) || !named then
    mark ":"
    g.alternativeItems
  else return []

def fieldPatterns : Parser (List Item) :=
  iterate (fun (found : List Item) => do
    if ← sees Ahead.finished then return .done found
    else
      let before ← g.outerAttributeItems
      if ← mark? ".." then return .done (found ++ before)
      else
        let found := found ++ before ++ (← g.fieldPattern)
        if ← sees Ahead.finished then return .done found
        else
          mark ","
          return .more found) []

def pathPattern : Parser PatternInfo := do
  let path ← g.anyPath true
  if !path.qualified && path.isPlain && (← sees Ahead.bang) then
    mark "!"
    let _ ← anyGroup
    return plainPattern []
  else if ← sees Ahead.brace then
    return plainPattern (path.items ++ (← inBraces g.fieldPatterns))
  else if ← sees Ahead.parenthesis then
    let elements ← inParentheses (commaList g.alternativeItems)
    return plainPattern (path.items ++ elements.flatten)
  else if ← sees (Ahead.mark "..") then g.rangeRest path.items
  else return plainPattern path.items

def literalPattern : Parser PatternInfo := do
  match ← g.rangeBound with
  | none => fail
  | some start =>
    if ← sees (Ahead.mark "..") then g.rangeRest start else return plainPattern start

def bindingPattern : Parser PatternInfo := do
  let _ ← keyword? "ref"
  let _ ← keyword? "mut"
  if ← sees (Ahead.keyword "self") then keyword "self"
  else
    let _ ← identifier
  if ← mark? "@" then return plainPattern (← g.pattern).items else return plainPattern []

def slicePattern : Parser PatternInfo := do
  let elements ← inBrackets <| commaList do
    let element ← g.alternatives
    if element.kind == .openRange then fail
    return element.items
  return plainPattern elements.flatten

def referencePattern : Parser PatternInfo := do
  mark "&"
  let _ ← keyword? "mut"
  return plainPattern (← g.pattern).items

def Ahead.pathPattern : Ahead := fun tokens =>
  (Ahead.identifier tokens &&
    (Ahead.second (Ahead.marks ["::", "!", ".."]) tokens || Ahead.second Ahead.brace tokens ||
      Ahead.second Ahead.parenthesis tokens)) ||
    (Ahead.keyword "self" tokens && Ahead.second (Ahead.mark "::") tokens) ||
    Ahead.marks ["::", "<"] tokens || Ahead.keywords ["Self", "super", "crate"] tokens

def patternRule : Parser PatternInfo := do
  let literalAhead : Ahead := fun tokens =>
    Ahead.mark "-" tokens || Ahead.literal tokens || Ahead.keyword "const" tokens
  let bindingAhead : Ahead := fun tokens =>
    Ahead.keywords ["ref", "mut", "self"] tokens || Ahead.identifier tokens
  if ← sees Ahead.pathPattern then g.pathPattern
  else if ← keyword? "_" then return plainPattern []
  else if ← keyword? "box" then return plainPattern (← g.pattern).items
  else if ← sees literalAhead then g.literalPattern
  else if ← sees bindingAhead then g.bindingPattern
  else if ← sees (Ahead.mark "&") then g.referencePattern
  else if ← sees Ahead.parenthesis then
    let elements ← inParentheses (commaList g.alternativeItems)
    return plainPattern elements.flatten
  else if ← sees Ahead.bracket then g.slicePattern
  else
    require (Ahead.mark "..")
    g.rangeFromStart

end Grammar

end SocketDocs.Source
