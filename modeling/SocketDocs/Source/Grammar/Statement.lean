import SocketDocs.Source.Grammar.Expression

/-!
# Statements

A statement that ends in a form with braces needs no semicolon; any other needs one unless it is
the last of its block.
-/

namespace SocketDocs.Source

open SocketDocs.Source.Parser

def Ahead.item : Ahead := fun tokens =>
  let at2 (ahead : Ahead) := Ahead.second ahead tokens
  let at3 (ahead : Ahead) := Ahead.third ahead tokens
  let key (word : String) := Ahead.keyword word tokens
  let key2 (word : String) := at2 (Ahead.keyword word)
  Ahead.keywords ["pub", "extern", "use", "fn", "mod", "type", "struct", "enum", "trait", "impl",
    "macro"] tokens ||
    (key "crate" && !at2 (Ahead.mark "::")) ||
    (key "static" && (key2 "mut" ||
      (at2 Ahead.identifier &&
        !(key2 "async" && (at3 (Ahead.keyword "move") || at3 (Ahead.mark "|")))))) ||
    (key "const" &&
      !(at2 Ahead.brace || key2 "static" ||
        (key2 "async" && !at3 (Ahead.keywords ["unsafe", "extern", "fn"])) ||
        key2 "move" || at2 (Ahead.mark "|"))) ||
    (key "unsafe" && !at2 Ahead.brace) ||
    (key "async" && at2 (Ahead.keywords ["unsafe", "extern", "fn"])) ||
    (key "union" && at2 Ahead.identifier) ||
    (key "auto" && key2 "trait") ||
    (key "default" && at2 (Ahead.keywords ["unsafe", "impl"]))

inductive MacroForm where
  | item
  | braces
  | expression

def macroForm : Parser MacroForm := do
  let rest ← lookAhead do
    let _ ← plainPath
    return (← tokens)
  match rest with
  | none => return .expression
  | some tokens =>
    if Ahead.mark "!" tokens then
      if Ahead.second Ahead.identifier tokens || Ahead.second (Ahead.keyword "try") tokens then
        return .item
      else if Ahead.second Ahead.brace tokens &&
          !(Ahead.third Ahead.dot tokens || Ahead.third (Ahead.mark "?") tokens) then
        return .braces
      else return .expression
    else return .expression

namespace Grammar

variable (g : Grammar)

/-- A declaration of local names, perhaps with an alternative for a pattern that may not match. A
value that ends in a brace admits none. -/
def localStatement : Parser (List Item) := do
  keyword "let"
  let pattern ← g.pattern
  let type ← if ← mark? ":" then g.typeItems true else pure []
  let value ←
    if ← mark? "=" then do
      let value ← g.exprItems
      let endsInBrace ← afterBrace
      if !endsInBrace && (← keyword? "else") then pure (value ++ (← g.block)) else pure value
    else pure []
  mark ";"
  return pattern.items ++ type ++ value

def exprStatement : Parser (List Item × Bool) := do
  let e ← g.early
  let ended ← mark? ";"
  let complete := ended || e.kind == .block || e.kind == .macroCall true
  return (e.items, complete)

/-- A statement that is no item, if that is what begins here; tells whether it is complete as it
stands. -/
def plainStatement? : Parser (Option (List Item × Bool)) := do
  let (_, before) ← g.outerAttributes
  match ← macroForm with
  | .braces =>
    let _ ← plainPath
    mark "!"
    let _ ← anyGroup
    let _ ← mark? ";"
    return some (before, true)
  | form =>
    if ← sees (Ahead.keyword "let") then return some (before ++ (← g.localStatement), true)
    else
      let itemAhead ← sees Ahead.item
      let isItem := match form with | .item => true | _ => itemAhead
      if isItem then return none
      else
        let (items, complete) ← g.exprStatement
        return some (before ++ items, complete)

def statement : Parser (List Item × Bool) :=
  orElse g.plainStatement? do
    return ([← g.item], true)

def statementStep (found : List Item) : Parser (Step (List Item)) := do
  let _ ← manyWhile (Ahead.mark ";") (mark ";")
  if ← sees Ahead.finished then return .done found
  else
    let (items, complete) ← g.statement
    let found := found ++ items
    if ← sees Ahead.finished then return .done found
    else if complete then return .more found
    else fail

def statementsRule : Parser (List Item) :=
  iterate g.statementStep []

end Grammar

end SocketDocs.Source
