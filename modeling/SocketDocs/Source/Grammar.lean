import SocketDocs.Source.Grammar.Item

/-!
# Rust sources

The grammar as one recursive value, and the readers for whole texts. Every call of a rule through
the record uses up one unit of fuel. Rules that call one another without taking a token form short
chains, so a small multiple of the number of tokens is enough.
-/

namespace SocketDocs.Source

/-- The grammar with calls nested at most `fuel` deep. -/
def Grammar.bounded : Nat → Grammar
  | 0 => .dead
  | fuel + 1 => {
    type := fun allowPlus => .delay fun _ => (bounded fuel).typeRule allowPlus
    path := fun exprStyle => .delay fun _ => (bounded fuel).pathRule exprStyle
    genericParameter := .delay fun _ => (bounded fuel).genericParameterRule
    unary := fun allowStruct => .delay fun _ => (bounded fuel).unaryRule allowStruct
    climb := fun left allowStruct base =>
      .delay fun _ => (bounded fuel).climbRule left allowStruct base
    early := .delay fun _ => (bounded fuel).earlyRule
    pattern := .delay fun _ => (bounded fuel).patternRule
    statements := .delay fun _ => (bounded fuel).statementsRule
    item := .delay fun _ => (bounded fuel).itemRule
    useTree := fun allowRoot => .delay fun _ => (bounded fuel).useTreeRule allowRoot }

def grammarFor (tokens : List Token) : Grammar :=
  .bounded (8 * Token.countAll tokens + 16)

def parseAll? {α : Type} (tokens : List Token) (parser : Grammar → Parser α) : Option α :=
  match (parser (grammarFor tokens)).run ⟨tokens, 1, false⟩ with
  | some (a, after) => if after.tokens.isEmpty then some a else none
  | none => none

/-- The items of a source file, after those in the values of its inner attributes. -/
def Grammar.file (g : Grammar) : Parser (List Item) := do
  let (_, inside) ← g.innerAttributes
  return .other inside :: (← Parser.untilEmpty g.item)

def itemsOf? (lexemes : List Placed) : Option (List Item) :=
  match Token.nest? lexemes with
  | some tokens => parseAll? tokens Grammar.file
  | none => none

def type? (text : List Char) : Option Ty :=
  match Token.nest? (lexFrom text.length ⟨1, true⟩ text) with
  | some tokens => (parseAll? tokens (fun g => g.type true)).map (·.type)
  | none => none

end SocketDocs.Source
