import SocketDocs.Source.Grammar.Statement

/-!
# Items

Some forms are read only to be passed over, with everything inside them: functions without a body
outside traits, constants without a value, implementations with a visibility, and the like.
-/

namespace SocketDocs.Source

open SocketDocs.Source.Parser

def Item.ignored : Item := .other []

def visibility : Parser Bool := do
  if ← keyword? "pub" then
    match ← tokens with
    | .group .parenthesis [.identifier word _] _ _ :: _ =>
      if ["crate", "self", "super"].contains word then skip 1
    | .group .parenthesis (.identifier "in" _ :: _) _ _ :: _ =>
      inParentheses do
        keyword "in"
        let _ ← plainPath
    | _ => pure ()
    return true
  else return false

def signatureWords (allowSafe : Bool) : Parser Unit := do
  let _ ← keyword? "const"
  let _ ← keyword? "async"
  if allowSafe && (← sees (Ahead.keyword "safe")) then skip 1
  else
    let _ ← keyword? "unsafe"
  abi?

def seesSignature (allowSafe : Bool) : Parser Bool := do
  let found ← lookAhead do
    signatureWords allowSafe
    require (Ahead.keyword "fn")
  return found.isSome

def Ahead.macroPath : Ahead := fun tokens =>
  Ahead.identifier tokens || Ahead.keywords ["self", "super", "crate"] tokens ||
    Ahead.mark "::" tokens

def macroItem (named : Bool) : Parser Item := do
  let _ ← plainPath
  mark "!"
  if named then
    if ← sees (fun tokens => Ahead.identifier tokens || Ahead.keyword "try" tokens) then skip 1
  let braces ← anyGroup
  if !braces then mark ";"
  return .ignored

namespace Grammar

variable (g : Grammar)

/-! ## Functions -/

def receiver : Parser (List Item) := do
  let reference ← mark? "&"
  if reference then
    let _ ← lifetime?
  let _ ← keyword? "mut"
  keyword "self"
  if !reference && (← mark? ":") then g.typeItems true else return []

def typedArgument : Parser (List Item × Bool) := do
  if ← sees (fun tokens => Ahead.identifier tokens && Ahead.second (Ahead.mark "<") tokens) then
    return (← g.typeItems true, false)
  else
    let pattern ← g.pattern
    mark ":"
    if ← mark? "..." then return (pattern.items, true)
    else return (pattern.items ++ (← g.typeItems true), false)

def closeVariadic (found : List Item) : Parser (Step (Bool × List Item)) := do
  if !(← sees Ahead.finished) then mark ","
  return .done (false, found)

/-- One argument of a function with the comma after it. Only the first may be a receiver. -/
def argumentStep (state : Bool × List Item) : Parser (Step (Bool × List Item)) := do
  let (first, found) := state
  if ← sees Ahead.finished then return .done state
  else
    let before ← g.outerAttributeItems
    if ← mark? "..." then closeVariadic (found ++ before)
    else
      let (items, isOpen) ←
        match ← attempt g.receiver with
        | some items => if first then pure (items, false) else fail
        | none => g.typedArgument
      let found := found ++ before ++ items
      if isOpen then closeVariadic found
      else if ← sees Ahead.finished then return .done (false, found)
      else
        mark ","
        return .more (false, found)

structure Signature where
  name : String
  line : Nat
  items : List Item

def signature (allowSafe : Bool) : Parser Signature := do
  signatureWords allowSafe
  let line ← currentLine
  keyword "fn"
  let (name, _) ← identifier
  let parameters ← g.genericItems
  let (_, arguments) ← inParentheses (iterate g.argumentStep (true, []))
  let output ← g.returnItems true
  let conditions ← g.whereItems
  return ⟨name, line, parameters ++ arguments ++ output ++ conditions⟩

def functionItem (first : Nat) (attributes : List Attribute) : Parser Item := do
  let signature ← g.signature false
  if ← mark? ";" then return .ignored
  else
    let (inner, _) ← g.blockWithAttributes
    return .function (attributes ++ inner) signature.name signature.line first (← lastLine)

/-! ## Imports, statics, constants, type names -/

def useTreeRule (allowRoot : Bool) : Parser Unit := do
  let nameAhead : Ahead := fun tokens =>
    Ahead.identifier tokens || Ahead.keywords ["self", "super", "crate", "try"] tokens
  if ← sees nameAhead then
    skip 1
    if ← mark? "::" then g.useTree false
    else if ← keyword? "as" then
      require fun tokens => Ahead.identifier tokens || Ahead.keyword "_" tokens
      skip 1
  else if ← mark? "*" then pure ()
  else
    inBraces do
      let _ ← commaList do
        let rooted ← if allowRoot then mark? "::" else pure false
        g.useTree (allowRoot && !rooted)

def useItem : Parser Item := do
  keyword "use"
  let leading ← mark? "::"
  g.useTree (!leading)
  mark ";"
  return .ignored

def staticItem (outside : List Item) : Parser Item := do
  keyword "static"
  let _ ← keyword? "mut"
  let _ ← identifier
  if ← mark? "=" then
    let _ ← g.expr
    mark ";"
    return .ignored
  else
    mark ":"
    let type ← g.typeItems true
    if ← mark? ";" then return .ignored
    else
      mark "="
      let value ← g.exprItems
      mark ";"
      return .other (outside ++ type ++ value)

/-- A constant after its keyword. A trait may leave the value out; generic constants are passed
over. -/
def constantRest (outside : List Item) (needsValue : Bool) : Parser Item := do
  require fun tokens => Ahead.identifier tokens || Ahead.keyword "_" tokens
  skip 1
  let (generic, _) ← g.generics
  mark ":"
  let type ← g.typeItems true
  let value ← if ← mark? "=" then pure (some (← g.exprItems)) else pure none
  let conditions ← g.whereClause?
  mark ";"
  if generic || conditions.isSome || (needsValue && value.isNone) then return .ignored
  else return .other (outside ++ type ++ value.getD [])

inductive WherePlace where
  | beforeValue
  | afterValue
  | anywhere
  deriving DecidableEq

structure TypeName where
  bounded : Bool
  valued : Bool
  items : List Item

def typeNameRest (place : WherePlace) : Parser TypeName := do
  keyword "type"
  let _ ← identifier
  let parameters ← g.genericItems
  let boundsEnd : Ahead := fun tokens =>
    Ahead.keyword "where" tokens || Ahead.marks ["=", ";"] tokens
  let bounded ← mark? ":"
  let bounds ← if bounded then separatedUntil boundsEnd "+" (g.bound false true) else pure []
  let before ← if place = .afterValue then pure none else g.whereClause?
  let value ← if ← mark? "=" then pure (some (← g.typeItems true)) else pure none
  let after ← if place = .beforeValue || before.isSome then pure none else g.whereClause?
  mark ";"
  let items := parameters ++ bounds.flatMap (·.items) ++ before.getD [] ++ value.getD [] ++
    after.getD []
  return ⟨bounded, value.isSome, items⟩

def typeNameItem (outside : List Item) : Parser Item := do
  let found ← g.typeNameRest .beforeValue
  if found.valued && !found.bounded then return .other (outside ++ found.items)
  else return .ignored

/-! ## Structs, enums, unions -/

/-- A field with a name. A field without one may hold a nested record instead of a type. -/
def namedField : Parser (Field × List Item) := do
  let (attributes, before) ← g.outerAttributes
  let _ ← visibility
  let unnamed ← sees (Ahead.keyword "_")
  let (name, line) ← if unnamed then anyIdentifier else identifier
  mark ":"
  let nestedAhead : Ahead := fun tokens =>
    Ahead.keyword "struct" tokens ||
      (Ahead.keyword "union" tokens && Ahead.second Ahead.brace tokens)
  if unnamed && (← sees nestedAhead) then
    skip 1
    require Ahead.brace
    skip 1
    return (⟨name, line, attributes, .other, (← lastLine)⟩, before)
  else
    let type ← g.type true
    return (⟨name, line, attributes, type.type, (← lastLine)⟩, before ++ type.items)

def namedFields : Parser (FieldList × List Item) := do
  let openLine ← currentLine
  let found ← inBraces (commaList g.namedField)
  return (⟨openLine, found.map (·.1)⟩, found.flatMap (·.2))

def tupleFields : Parser (List Item) := do
  let found ← inParentheses <| commaList do
    let before ← g.outerAttributeItems
    let _ ← visibility
    return before ++ (← g.typeItems true)
  return found.flatten

def structItem (attributes : List Attribute) (outside : List Item) : Parser Item := do
  keyword "struct"
  let (name, _) ← identifier
  let parameters ← g.genericItems
  let conditions ← g.whereClause?
  let before := outside ++ parameters ++ conditions.getD []
  if conditions.isNone && (← sees Ahead.parenthesis) then
    let fields ← g.tupleFields
    let later ← g.whereItems
    mark ";"
    return .struct ⟨name, attributes, none⟩ (before ++ fields ++ later)
  else if ← sees Ahead.brace then
    let (body, items) ← g.namedFields
    return .struct ⟨name, attributes, some body⟩ (before ++ items)
  else
    mark ";"
    return .struct ⟨name, attributes, none⟩ before

def variant : Parser (List Item) := do
  let before ← g.outerAttributeItems
  let _ ← visibility
  let _ ← identifier
  let fields ←
    if ← sees Ahead.brace then pure (← g.namedFields).2
    else if ← sees Ahead.parenthesis then g.tupleFields
    else pure []
  let value ← if ← mark? "=" then g.exprItems else pure []
  return before ++ fields ++ value

def enumItem (outside : List Item) : Parser Item := do
  keyword "enum"
  let _ ← identifier
  let parameters ← g.genericItems
  let conditions ← g.whereItems
  let variants ← inBraces (commaList g.variant)
  return .other (outside ++ parameters ++ conditions ++ variants.flatten)

def unionItem (outside : List Item) : Parser Item := do
  keyword "union"
  let _ ← identifier
  let parameters ← g.genericItems
  let conditions ← g.whereItems
  let (_, items) ← g.namedFields
  return .other (outside ++ parameters ++ conditions ++ items)

/-! ## Modules and foreign blocks -/

def moduleItem (first : Nat) (attributes : List Attribute) (outside : List Item) :
    Parser Item := do
  let _ ← keyword? "unsafe"
  keyword "mod"
  let (name, _) ← if ← sees (Ahead.keyword "try") then anyIdentifier else identifier
  if ← mark? ";" then
    return .module attributes name first (← lastLine) outside []
  else
    let ((inner, inside), items) ← inBraces do
      let found ← g.innerAttributes
      let items ← untilEmpty g.item
      return (found, items)
    return .module (attributes ++ inner) name first (← lastLine) (outside ++ inside) items

def externCrate : Parser Item := do
  keyword "extern"
  keyword "crate"
  if ← sees (Ahead.keyword "self") then skip 1
  else
    let _ ← identifier
  if ← keyword? "as" then
    require fun tokens => Ahead.identifier tokens || Ahead.keyword "_" tokens
    skip 1
  mark ";"
  return .ignored

def foreignStatic (before : List Item) : Parser (List Item) := do
  let isUnsafe ← keyword? "unsafe"
  let isSafe ← if isUnsafe then pure false else keyword? "safe"
  keyword "static"
  let _ ← keyword? "mut"
  let _ ← identifier
  mark ":"
  let type ← g.typeItems true
  let valued ← mark? "="
  if valued then
    let _ ← g.expr
  mark ";"
  if isUnsafe || isSafe || valued then return [] else return before ++ type

def foreignItem : Parser (List Item) := do
  let before ← g.outerAttributeItems
  let visible ← visibility
  let staticAhead : Ahead := fun tokens =>
    Ahead.keyword "static" tokens ||
      (Ahead.keywords ["unsafe", "safe"] tokens && Ahead.second (Ahead.keyword "static") tokens)
  if ← seesSignature true then
    let isSafe ← lookAhead do
      let _ ← keyword? "const"
      let _ ← keyword? "async"
      keyword "safe"
    let signature ← g.signature true
    if ← sees Ahead.brace then
      let _ ← g.block
      return []
    else
      mark ";"
      if isSafe.isSome then return [] else return before ++ signature.items
  else if ← sees staticAhead then g.foreignStatic before
  else if ← sees (Ahead.keyword "type") then
    let found ← g.typeNameRest .anywhere
    if found.bounded || found.valued then return [] else return before ++ found.items
  else if !visible && (← sees Ahead.macroPath) then
    let _ ← macroItem false
    return before
  else fail

def foreignBlock (outside : List Item) : Parser Item := do
  let _ ← keyword? "unsafe"
  require (Ahead.keyword "extern")
  abi?
  let items ← inBraces do
    let (_, inside) ← g.innerAttributes
    return inside ++ (← untilEmpty g.foreignItem).flatten
  return .other (outside ++ items)

/-! ## Traits and implementations -/

def traitMember : Parser Item := do
  let first ← currentLine
  let (attributes, before) ← g.outerAttributes
  let visible ← visibility
  let standard ← keyword? "default"
  let found ←
    if ← seesSignature false then do
      let signature ← g.signature false
      let inner ←
        if ← sees Ahead.brace then pure (← g.blockWithAttributes).1
        else do
          mark ";"
          pure []
      pure (Item.method (attributes ++ inner) signature.name signature.line first
        (← lastLine))
    else if ← keyword? "const" then g.constantRest before false
    else if ← sees (Ahead.keyword "type") then
      pure (.other (before ++ (← g.typeNameRest .afterValue).items))
    else if !visible && !standard && (← sees Ahead.macroPath) then do
      let _ ← macroItem false
      pure (.other before)
    else fail
  if visible || standard then return .ignored else return found

def implMember : Parser Item := do
  let first ← currentLine
  let (attributes, before) ← g.outerAttributes
  let visible ← visibility
  let standardAhead : Ahead := fun tokens =>
    Ahead.keyword "default" tokens && !Ahead.second (Ahead.mark "!") tokens
  let standard ← sees standardAhead
  if standard then skip 1
  if ← seesSignature false then
    let signature ← g.signature false
    if ← mark? ";" then return .ignored
    else
      let (inner, _) ← g.blockWithAttributes
      return .method (attributes ++ inner) signature.name signature.line first (← lastLine)
  else if ← keyword? "const" then g.constantRest before true
  else if ← sees (Ahead.keyword "type") then
    let found ← g.typeNameRest .afterValue
    if found.valued && !found.bounded then return .other (before ++ found.items)
    else return .ignored
  else if !visible && !standard && (← sees Ahead.macroPath) then
    let _ ← macroItem false
    return .other before
  else fail

def traitRest (first : Nat) (attributes : List Attribute) (name : String) (before : List Item) :
    Parser Item := do
  let stop : Ahead := fun tokens => Ahead.keyword "where" tokens || Ahead.brace tokens
  let bounds ← if ← mark? ":" then separatedUntil stop "+" (g.bound false true) else pure []
  let conditions ← g.whereItems
  let ((inner, inside), members) ← inBraces do
    let found ← g.innerAttributes
    return (found, ← untilEmpty g.traitMember)
  let outer := before ++ bounds.flatMap (·.items) ++ conditions ++ inside
  return .trait (attributes ++ inner) name first (← lastLine) (outer ++ members)

def traitItem (first : Nat) (attributes : List Attribute) (outside : List Item) :
    Parser Item := do
  let plain ← sees (Ahead.keyword "trait")
  let _ ← keyword? "unsafe"
  let _ ← keyword? "auto"
  keyword "trait"
  let (name, _) ← identifier
  let parameters ← g.genericItems
  if plain && (← mark? "=") then
    let stop : Ahead := fun tokens => Ahead.keyword "where" tokens || Ahead.mark ";" tokens
    let bounds ← separatedUntil stop "+" (g.bound false true)
    let conditions ← g.whereItems
    mark ";"
    return .other (outside ++ parameters ++ bounds.flatMap (·.items) ++ conditions)
  else g.traitRest first attributes name (outside ++ parameters)

def ownerName : Ty → Option String
  | .path name _ => some name
  | _ => none

def implItem (firstLine : Nat) (attributes : List Attribute) (visible : Bool)
    (outside : List Item) : Parser Item := do
  let _ ← keyword? "default"
  let _ ← keyword? "unsafe"
  keyword "impl"
  let parameters ← if ← sees Ahead.generics then g.genericItems else pure []
  let constAhead : Ahead := fun tokens =>
    Ahead.keyword "const" tokens ||
      (Ahead.mark "?" tokens && Ahead.second (Ahead.keyword "const") tokens)
  let isConst ← sees constAhead
  if isConst then
    let _ ← mark? "?"
    keyword "const"
  let negativeAhead : Ahead := fun tokens =>
    Ahead.mark "!" tokens && !Ahead.second Ahead.brace tokens
  let negative ← sees negativeAhead
  if negative then mark "!"
  let first ← g.type true
  let isFor ← keyword? "for"
  let self ← if isFor then g.type true else pure first
  let conditions ← g.whereItems
  let ((inner, inside), members) ← inBraces do
    let found ← g.innerAttributes
    return (found, ← untilEmpty g.implMember)
  let owner := if negative && !isFor then none else ownerName self.type
  let outer := outside ++ parameters ++ first.items ++ (if isFor then self.items else []) ++
    conditions ++ inside
  if visible || isConst || (isFor && !first.isPath) then return .ignored
  else
    return .implementation (attributes ++ inner) owner firstLine (← lastLine) (outer ++ members)

def macroDeclaration : Parser Item := do
  keyword "macro"
  let _ ← identifier
  if ← sees Ahead.parenthesis then skip 1
  require Ahead.brace
  skip 1
  return .ignored

def externItem (visible : Bool) (outside : List Item) : Parser Item := do
  if ← sees (Ahead.second (Ahead.keyword "crate")) then externCrate
  else if visible then fail
  else g.foreignBlock outside

def unsafeItem (first : Nat) (visible : Bool) (attributes : List Attribute)
    (outside : List Item) : Parser Item := do
  let next (ahead : Ahead) : Parser Bool := sees (Ahead.second ahead)
  let autoTrait : Ahead := fun tokens =>
    Ahead.keyword "auto" tokens && Ahead.second (Ahead.keyword "trait") tokens
  if ← next (fun tokens => Ahead.keyword "trait" tokens || autoTrait tokens) then
    g.traitItem first attributes outside
  else if ← next (Ahead.keyword "impl") then g.implItem first attributes visible outside
  else if ← next (Ahead.keyword "extern") then
    if visible then fail
    g.foreignBlock outside
  else
    require (Ahead.second (Ahead.keyword "mod"))
    g.moduleItem first attributes outside

def itemRule : Parser Item := do
  let first ← currentLine
  let (attributes, outside) ← g.outerAttributes
  let visible ← visibility
  let key (word : String) : Parser Bool := sees (Ahead.keyword word)
  if ← seesSignature false then g.functionItem first attributes
  else if ← key "extern" then g.externItem visible outside
  else if ← key "use" then g.useItem
  else if ← key "static" then g.staticItem outside
  else if ← keyword? "const" then g.constantRest outside true
  else if ← key "unsafe" then g.unsafeItem first visible attributes outside
  else if ← key "mod" then g.moduleItem first attributes outside
  else if ← key "type" then g.typeNameItem outside
  else if ← key "struct" then g.structItem attributes outside
  else if ← key "enum" then g.enumItem outside
  else if ← sees (fun t => Ahead.keyword "union" t && Ahead.second Ahead.identifier t) then
    g.unionItem outside
  else if ← key "trait" then g.traitItem first attributes outside
  else if ← sees (fun t => Ahead.keyword "auto" t && Ahead.second (Ahead.keyword "trait") t) then
    g.traitItem first attributes outside
  else if ← sees (fun t => Ahead.keyword "impl" t ||
      (Ahead.keyword "default" t && !Ahead.second (Ahead.mark "!") t)) then
    g.implItem first attributes visible outside
  else if ← key "macro" then macroDeclaration
  else if !visible && (← sees Ahead.macroPath) then macroItem true
  else fail

end Grammar

end SocketDocs.Source
