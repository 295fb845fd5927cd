import SocketDocs.Source.Grammar.Pattern

/-!
# Expressions

Operators are read by rank: an operand, then operators of at least the rank asked for. A range
takes no further operator, and comparisons do not chain.
-/

namespace SocketDocs.Source

open SocketDocs.Source.Parser

namespace Rank

def lowest : Nat := 0

def assign : Nat := 1

def range : Nat := 2

def compare : Nat := 6

def cast : Nat := 13

end Rank

/-- Operators between two operands with their ranks; a longer mark comes before the shorter one it
starts with. -/
def operators : List (String × Nat) :=
  [("+=", 1), ("-=", 1), ("*=", 1), ("/=", 1), ("%=", 1), ("^=", 1), ("&=", 1), ("|=", 1),
   ("<<=", 1), (">>=", 1), ("&&", 4), ("||", 3), ("<<", 10), (">>", 10), ("==", 6), ("<=", 6),
   ("!=", 6), (">=", 6), ("+", 11), ("-", 11), ("*", 12), ("/", 12), ("%", 12), ("^", 8),
   ("&", 9), ("|", 7), ("<", 6), (">", 6)]

def operator? (tokens : List Token) : Option (String × Nat) :=
  operators.find? fun operator => Ahead.mark operator.1 tokens

def Ahead.assignment : Ahead := fun tokens =>
  Ahead.mark "=" tokens && !Ahead.mark "=>" tokens

def nextRank (tokens : List Token) : Nat :=
  match operator? tokens with
  | some (_, rank) => rank
  | none =>
    if Ahead.assignment tokens then Rank.assign
    else if Ahead.mark ".." tokens then Rank.range
    else if Ahead.keyword "as" tokens then Rank.cast
    else Rank.lowest

def Ahead.dot : Ahead := fun tokens =>
  Ahead.mark "." tokens && !Ahead.mark ".." tokens

def Ahead.suffix : Ahead := fun tokens =>
  Ahead.dot tokens || Ahead.mark "?" tokens || Ahead.bracket tokens || Ahead.parenthesis tokens

def Ahead.expression : Ahead := fun tokens =>
  (Ahead.anyIdentifier tokens && !Ahead.keyword "as" tokens) || Ahead.anyGroup tokens ||
    Ahead.literal tokens || Ahead.bang tokens ||
    (Ahead.mark "-" tokens && !Ahead.marks ["-=", "->"] tokens) ||
    (Ahead.mark "*" tokens && !Ahead.mark "*=" tokens) ||
    (Ahead.mark "|" tokens && !Ahead.mark "|=" tokens) ||
    (Ahead.mark "&" tokens && !Ahead.mark "&=" tokens) ||
    Ahead.mark ".." tokens ||
    (Ahead.mark "<" tokens && !Ahead.marks ["<=", "<<="] tokens) ||
    Ahead.mark "::" tokens || Ahead.lifetime tokens || Ahead.mark "#" tokens

def Ahead.rangeEnd (allowStruct : Bool) : Ahead := fun tokens =>
  Ahead.finished tokens || Ahead.dot tokens ||
    Ahead.marks [",", ";", "?", "=>", "=", "+", "/", "%", "^", ">", "<=", "!=", "-=", "*=", "&=",
      "|=", "<<="] tokens ||
    (!allowStruct && Ahead.brace tokens) || Ahead.keyword "as" tokens

namespace Grammar

variable (g : Grammar)

/-! ## Operators -/

def rightOperand (allowStruct : Bool) (rank : Nat) : Parser ExprInfo := do
  let first ← g.unary allowStruct
  iterate (fun (operand : ExprInfo) => do
    let before ← tokens
    let next := nextRank before
    if rank < next || (next == rank && rank == Rank.assign) then
      let longer ← g.climb operand allowStruct next
      if (← tokens).length == before.length then return .done longer else return .more longer
    else return .done operand) first

def rangeTail (allowStruct : Bool) : Parser (List Item) := do
  let closed ← rangeMark false
  if !closed && (← sees (Ahead.rangeEnd allowStruct)) then return []
  else return (← g.rightOperand allowStruct Rank.range).items

/-- One operator and its right operand after `left`, if its rank is at least `base`. -/
def climbStep (allowStruct : Bool) (base : Nat) (left : ExprInfo) :
    Parser (Step ExprInfo) := do
  let tokens ← tokens
  if left.kind == .range then return .done left
  else
    match operator? tokens with
    | some (text, rank) =>
      if rank < base then return .done left
      else if rank == Rank.compare && left.kind == .comparison then fail
      else
        mark text
        let right ← g.rightOperand allowStruct rank
        let kind := if rank == Rank.compare then ExprKind.comparison else .other
        return .more ⟨kind, left.items ++ right.items⟩
    | none =>
      if base ≤ Rank.assign && Ahead.assignment tokens then
        mark "="
        let right ← g.rightOperand allowStruct Rank.assign
        return .more (.plain (left.items ++ right.items))
      else if base ≤ Rank.range && Ahead.mark ".." tokens then
        return .more ⟨.range, left.items ++ (← g.rangeTail allowStruct)⟩
      else if base ≤ Rank.cast && Ahead.keyword "as" tokens then
        keyword "as"
        let type ← g.typeItems false
        if ← sees Ahead.suffix then fail
        return .more (.plain (left.items ++ type))
      else return .done left

def climbRule (left : ExprInfo) (allowStruct : Bool) (base : Nat) : Parser ExprInfo :=
  iterate (g.climbStep allowStruct base) left

/-! ## Operands -/

def commaExprs : Parser (List Item) := do
  return (← commaList g.exprItems).flatten

def fieldValue : Parser (List Item) := do
  let before ← g.outerAttributeItems
  let named ← member
  if !named || (← sees (Ahead.mark ":")) then
    mark ":"
    return before ++ (← g.exprItems)
  else return before

def fieldValues : Parser (List Item) :=
  iterate (fun (found : List Item) => do
    if ← sees Ahead.finished then return .done found
    else if ← mark? ".." then
      if ← sees Ahead.finished then return .done found
      else return .done (found ++ (← g.exprItems))
    else
      let found := found ++ (← g.fieldValue)
      if ← sees Ahead.finished then return .done found
      else
        mark ","
        return .more found) []

def pathExpr (allowStruct : Bool) : Parser ExprInfo := do
  let path ← g.anyPath true
  if !path.qualified && path.isPlain && (← sees Ahead.bang) then
    mark "!"
    return ⟨.macroCall (← anyGroup), []⟩
  else if allowStruct && (← sees Ahead.brace) then
    return .plain (path.items ++ (← inBraces g.fieldValues))
  else return .plain path.items

def bracketContent : Parser (List Item) := do
  if ← sees Ahead.finished then return []
  else
    let first ← g.exprItems
    if ← mark? ";" then return first ++ (← g.exprItems)
    else if ← sees Ahead.finished then return first
    else
      mark ","
      return first ++ (← g.commaExprs)

def closureArgument : Parser (List Item) := do
  let before ← g.outerAttributeItems
  let pattern ← g.pattern
  let type ← if ← mark? ":" then g.typeItems true else pure []
  return before ++ pattern.items ++ type

def closure (allowStruct : Bool) : Parser ExprInfo := do
  let binder ← g.boundLifetimes?
  let _ ← keyword? "const"
  let _ ← keyword? "static"
  let _ ← keyword? "async"
  let _ ← keyword? "move"
  mark "|"
  let inputs ← separatedUntil (Ahead.mark "|") "," g.closureArgument
  mark "|"
  let before := binder.getD [] ++ inputs.flatten
  if ← mark? "->" then
    let type ← g.typeItems true
    return .plain (before ++ type ++ (← g.block))
  else return .plain (before ++ (← g.exprWith allowStruct).items)

def letExpr (allowStruct : Bool) : Parser ExprInfo := do
  keyword "let"
  let pattern ← g.alternativeItems
  mark "="
  let left ← g.unary allowStruct
  let value ← g.climb left allowStruct Rank.compare
  return .plain (pattern ++ value.items)

def ifExpr : Parser (List Item) :=
  iterate (fun (found : List Item) => do
    keyword "if"
    let condition ← g.exprWith false
    let found := found ++ condition.items ++ (← g.block)
    if ← keyword? "else" then
      if ← sees (Ahead.keyword "if") then return .more found
      else return .done (found ++ (← g.block))
    else return .done found) []

def whileExpr : Parser (List Item) := do
  keyword "while"
  let condition ← g.exprWith false
  return condition.items ++ (← g.block)

def forExpr : Parser (List Item) := do
  keyword "for"
  let pattern ← g.alternativeItems
  keyword "in"
  let source ← g.exprWith false
  return pattern ++ source.items ++ (← g.block)

def loopExpr : Parser (List Item) := do
  keyword "loop"
  g.block

/-- An arm of a `match`. A comma must follow its body unless that is a form with braces. -/
def arm : Parser (List Item) := do
  let before ← g.outerAttributeItems
  let pattern ← g.alternativeItems
  let guard ← if ← keyword? "if" then g.exprItems else pure []
  mark "=>"
  let body ← g.early
  if body.kind != .block && !(← sees Ahead.finished) then mark ","
  else
    let _ ← mark? ","
  return before ++ pattern ++ guard ++ body.items

def matchExpr : Parser (List Item) := do
  keyword "match"
  let subject ← g.exprWith false
  let arms ← inBraces do
    let (_, inside) ← g.innerAttributes
    return inside ++ (← untilEmpty g.arm).flatten
  return subject.items ++ arms

def blockForm? : Parser (Option (List Item)) := do
  let blockAfter (word : String) : Ahead := fun tokens =>
    Ahead.keyword word tokens && Ahead.second Ahead.brace tokens
  if ← sees (Ahead.keyword "if") then return some (← g.ifExpr)
  else if ← sees (Ahead.keyword "while") then return some (← g.whileExpr)
  else if ← sees (fun tokens => Ahead.keyword "for" tokens && !Ahead.generics (tokens.drop 1)) then
    return some (← g.forExpr)
  else if ← sees (Ahead.keyword "loop") then return some (← g.loopExpr)
  else if ← sees (Ahead.keyword "match") then return some (← g.matchExpr)
  else if ← sees (blockAfter "try") then
    skip 1
    return some (← g.block)
  else if ← sees (Ahead.keyword "unsafe") then
    skip 1
    return some (← g.block)
  else if ← sees (blockAfter "const") then
    skip 1
    return some (← g.block)
  else if ← sees Ahead.brace then return some (← g.block)
  else return none

def labeled : Parser (List Item) := do
  lifetime
  mark ":"
  if ← sees (Ahead.keyword "while") then g.whileExpr
  else if ← sees (Ahead.keyword "for") then g.forExpr
  else if ← sees (Ahead.keyword "loop") then g.loopExpr
  else g.block

def jumpValue (ahead : Ahead) : Parser ExprInfo := do
  if ← sees ahead then return .plain (← g.exprItems) else return .plain []

def breakExpr (allowStruct : Bool) : Parser ExprInfo := do
  keyword "break"
  if ← lifetime? then
    if ← sees (Ahead.mark ":") then fail
  g.jumpValue fun tokens =>
    Ahead.expression tokens && (allowStruct || !Ahead.brace tokens)

/-! ## Suffixes -/

def namedMember : Parser (List Item) := do
  if ← keyword? "await" then return []
  else
    let named ← member
    if named then
      let hasArguments ← sees (Ahead.mark "::")
      let arguments ← if hasArguments then pure (← g.genericArguments).2 else pure []
      if hasArguments || (← sees Ahead.parenthesis) then
        return arguments ++ (← inParentheses g.commaExprs)
      else return []
    else return []

/-- What follows the point after an operand: a field, a method call, or several tuple indices that
were read as one number. -/
def afterDot : Parser (List Item) := do
  match ← tokens with
  | .literal text _ _ :: _ =>
    if Literal.isFloat text.toList then
      let trailing := text.toList.getLast? == some '.'
      let digits := if trailing then text.toList.dropLast else text.toList
      let parts := Literal.splitPoints [] digits
      if !parts.all (fun part => (Literal.index? part).isSome) then fail
      skip 1
      if trailing then g.namedMember else return []
    else g.namedMember
  | _ => g.namedMember

def suffixStep (operand : ExprInfo) : Parser (Step ExprInfo) := do
  let isRange := operand.kind == .range
  if ← sees Ahead.parenthesis then
    return .more (.plain (operand.items ++ (← inParentheses g.commaExprs)))
  else if !isRange && (← sees Ahead.dot) then
    mark "."
    return .more (.plain (operand.items ++ (← g.afterDot)))
  else if ← sees Ahead.bracket then
    return .more (.plain (operand.items ++ (← inBrackets g.exprItems)))
  else if !isRange && (← sees (Ahead.mark "?")) then
    mark "?"
    return .more (.plain operand.items)
  else return .done operand

def suffixes (operand : ExprInfo) : Parser ExprInfo :=
  iterate g.suffixStep operand

/-! ## Atoms and prefixes -/

def Ahead.asyncBlock : Ahead := fun tokens =>
  Ahead.keyword "async" tokens &&
    (Ahead.second Ahead.brace tokens ||
      (Ahead.second (Ahead.keyword "move") tokens && Ahead.third Ahead.brace tokens))

def Ahead.closure : Ahead := fun tokens =>
  Ahead.mark "|" tokens || Ahead.keywords ["move", "static"] tokens ||
    (Ahead.keyword "for" tokens && Ahead.generics (tokens.drop 1)) ||
    (Ahead.keyword "const" tokens && !Ahead.second Ahead.brace tokens) ||
    (Ahead.keyword "async" tokens &&
      (Ahead.second (Ahead.mark "|") tokens || Ahead.second (Ahead.keyword "move") tokens))

def Ahead.pathExpr : Ahead := fun tokens =>
  Ahead.pathWord tokens || Ahead.marks ["::", "<"] tokens ||
    (Ahead.keyword "try" tokens && Ahead.second (Ahead.marks ["!", "::"]) tokens)

def builtin : Parser ExprInfo := do
  skip 1
  mark "#"
  let _ ← identifier
  require Ahead.parenthesis
  skip 1
  return .plain []

def atom (allowStruct : Bool) : Parser ExprInfo := do
  let builtinAhead : Ahead := fun tokens =>
    Ahead.keyword "builtin" tokens && Ahead.second (Ahead.mark "#") tokens
  if ← sees Ahead.literal then
    literal
    return .plain []
  else if ← sees Ahead.asyncBlock then
    skip 1
    let _ ← keyword? "move"
    return .plain (← g.block)
  else if ← sees Ahead.closure then g.closure allowStruct
  else if ← sees builtinAhead then builtin
  else if ← sees Ahead.pathExpr then g.pathExpr allowStruct
  else if ← sees Ahead.parenthesis then return .plain (← inParentheses g.commaExprs)
  else if ← sees (Ahead.keyword "break") then g.breakExpr allowStruct
  else if ← keyword? "continue" then
    let _ ← lifetime?
    return .plain []
  else if ← keyword? "return" then g.jumpValue Ahead.expression
  else if ← keyword? "become" then return .plain (← g.exprItems)
  else if ← sees Ahead.bracket then return .plain (← inBrackets g.bracketContent)
  else if ← sees (Ahead.keyword "let") then g.letExpr allowStruct
  else if ← keyword? "yield" then g.jumpValue Ahead.expression
  else
    match ← g.blockForm? with
    | some items => return ⟨.block, items⟩
    | none =>
      if ← sees (Ahead.mark "..") then return ⟨.range, ← g.rangeTail allowStruct⟩
      else if ← keyword? "_" then return .plain []
      else return ⟨.block, ← g.labeled⟩

def referenceMarks : Parser Unit := do
  let rawAhead : Ahead := fun tokens =>
    Ahead.keyword "raw" tokens && Ahead.second (Ahead.keywords ["mut", "const"]) tokens
  if ← sees rawAhead then skip 2
  else
    let _ ← keyword? "mut"

def unaryRule (allowStruct : Bool) : Parser ExprInfo := do
  let before ← g.outerAttributeItems
  if ← mark? "&" then
    referenceMarks
    return .plain (before ++ (← g.unary allowStruct).items)
  else if ← sees (Ahead.marks ["*", "!", "-"]) then
    skip 1
    return .plain (before ++ (← g.unary allowStruct).items)
  else
    let operand ← g.suffixes (← g.atom allowStruct)
    return { operand with items := before ++ operand.items }

def earlyRule : Parser ExprInfo := do
  let before ← g.outerAttributeItems
  let first ←
    match ← g.blockForm? with
    | some items => pure ⟨.block, items⟩
    | none =>
      if ← sees Ahead.lifetime then pure ⟨.block, ← g.labeled⟩ else g.unary true
  let first : ExprInfo := { first with items := before ++ first.items }
  if first.kind != .block then g.climb first true Rank.lowest
  else if ← sees (fun tokens => Ahead.dot tokens || Ahead.mark "?" tokens) then
    let longer ← g.suffixes first
    g.climb longer true Rank.lowest
  else return first

end Grammar

end SocketDocs.Source
