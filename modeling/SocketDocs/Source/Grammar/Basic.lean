import SocketDocs.Source.Parser

/-!
# The recursive grammar

The rules of the grammar call one another through a record of parsers. Each rule is then an
ordinary function of that record, and the knot is tied once, in the module `Grammar`.
-/

namespace SocketDocs.Source

inductive TypeShape where
  /-- A single name, with angle brackets or bare. -/
  | simplePath
  | path
  | qualifiedPath
  /-- Bounds without the word `dyn`; `single` if it is one trait alone. -/
  | bareObject (single : Bool)
  | parenthesized
  | other
  deriving DecidableEq, Repr

structure TypeInfo where
  type : Ty
  shape : TypeShape
  items : List Item

def TypeInfo.isPath (info : TypeInfo) : Bool :=
  info.shape == .simplePath || info.shape == .path

inductive ArgumentKind where
  | none
  | angle
  | parenthesized
  deriving DecidableEq, Repr

structure Segment where
  name : String
  kind : ArgumentKind
  argument : Option Ty

structure PathInfo where
  qualified : Bool
  leading : Bool
  segments : List Segment
  items : List Item

inductive ExprKind where
  /-- A form that ends a statement or an arm without a mark. -/
  | block
  | macroCall (braces : Bool)
  | range
  | comparison
  | other
  deriving DecidableEq, Repr

structure ExprInfo where
  kind : ExprKind
  items : List Item

def ExprInfo.plain (items : List Item) : ExprInfo := ⟨.other, items⟩

inductive PatternKind where
  /-- The two points that stand for other elements. -/
  | rest
  | openRange
  | other
  deriving DecidableEq, Repr

structure PatternInfo where
  kind : PatternKind
  items : List Item

/-- The rules that others call recursively. -/
structure Grammar where
  /-- A type; the flag admits bounds joined by plus signs. -/
  type : Bool → Parser TypeInfo
  /-- A path that does not start with a type; the flag demands separators before arguments. -/
  path : Bool → Parser PathInfo
  genericParameter : Parser (List Item)
  /-- An operand with its prefixes and suffixes; the flag admits struct literals. -/
  unary : Bool → Parser ExprInfo
  /-- Goes on after an operand with operators of at least the given rank. -/
  climb : ExprInfo → Bool → Nat → Parser ExprInfo
  /-- An expression where a statement or the body of an arm begins: a form with braces ends there,
  and an operator after it starts something new. -/
  early : Parser ExprInfo
  pattern : Parser PatternInfo
  statements : Parser (List Item)
  item : Parser Item
  /-- An import tree; the flag admits a leading path separator inside braces. -/
  useTree : Bool → Parser Unit

namespace Grammar

def dead : Grammar where
  type _ := Parser.fail
  path _ := Parser.fail
  genericParameter := Parser.fail
  unary _ := Parser.fail
  climb _ _ _ := Parser.fail
  early := Parser.fail
  pattern := Parser.fail
  statements := Parser.fail
  item := Parser.fail
  useTree _ := Parser.fail

variable (g : Grammar)

def exprWith (allowStruct : Bool) : Parser ExprInfo := do
  let left ← g.unary allowStruct
  g.climb left allowStruct 0

def expr : Parser ExprInfo := g.exprWith true

def typeItems (allowPlus : Bool) : Parser (List Item) := do
  return (← g.type allowPlus).items

def exprItems : Parser (List Item) := do
  return (← g.expr).items

end Grammar

end SocketDocs.Source
