import SocketDocs.Source.Grammar.Basic

/-!
# Attributes

An attribute has a plain path and an argument list, a value after an equals sign, or nothing. The
value is an expression and may hold items.
-/

namespace SocketDocs.Source

open SocketDocs.Source.Parser

def pathKeywords : List String := ["super", "self", "Self", "crate"]

def Ahead.pathWord : Ahead := fun tokens =>
  Ahead.identifier tokens || Ahead.keywords pathKeywords tokens

def pathWord : Parser String := do
  require Ahead.pathWord
  return (← anyIdentifier).1

/-- A path of words alone; tells whether it starts with a separator. -/
def plainPath : Parser (Bool × List String) := do
  let leading ← mark? "::"
  let first ← pathWord
  let others ← manyWhile (Ahead.mark "::") do
    mark "::"
    pathWord
  return (leading, first :: others)

namespace Grammar

variable (g : Grammar)

def attributeValue : Parser (List Item) := do
  mark "="
  if ← sees (fun tokens => Ahead.mark "#" tokens && Ahead.second Ahead.bracket tokens) then fail
  g.exprItems

def attributeBody (line : Nat) : Parser (Attribute × List Item) := do
  let (leading, names) ←
    if ← keyword? "unsafe" then pure (false, ["unsafe"]) else plainPath
  let name := if leading then none else match names with | [name] => some name | _ => none
  match ← tokens with
  | .group _ content _ _ :: _ =>
    skip 1
    return (⟨line, name, some content⟩, [])
  | _ =>
    if ← sees (Ahead.mark "=") then
      return (⟨line, name, none⟩, ← g.attributeValue)
    else return (⟨line, name, none⟩, [])

def outerAttribute : Parser (Attribute × List Item) := do
  let line ← currentLine
  mark "#"
  inBrackets (g.attributeBody line)

def innerAttribute : Parser (Attribute × List Item) := do
  let line ← currentLine
  mark "#"
  mark "!"
  inBrackets (g.attributeBody line)

def collectAttributes (found : List (Attribute × List Item)) : List Attribute × List Item :=
  (found.map (·.1), found.flatMap (·.2))

def outerAttributes : Parser (List Attribute × List Item) := do
  return collectAttributes (← manyWhile (Ahead.mark "#") g.outerAttribute)

def innerAttributes : Parser (List Attribute × List Item) := do
  let ahead : Ahead := fun tokens => Ahead.mark "#" tokens && Ahead.second (Ahead.mark "!") tokens
  return collectAttributes (← manyWhile ahead g.innerAttribute)

def outerAttributeItems : Parser (List Item) := do
  return (← g.outerAttributes).2

def blockWithAttributes : Parser (List Attribute × List Item) :=
  inBraces do
    let (attributes, outside) ← g.innerAttributes
    let inside ← g.statements
    return (attributes, outside ++ inside)

def block : Parser (List Item) := do
  return (← g.blockWithAttributes).2

end Grammar

end SocketDocs.Source
