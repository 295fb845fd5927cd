import SocketDocs.Directive

/-!
# Annotation blocks

Of a comment group, a block keeps the directive lines and the lines of the JSON literals under
them. After the first directive a line is kept if it opens or closes a bracket at its start, or if
a literal above is still unbalanced.
-/

namespace SocketDocs.DocBlock

inductive StringState where
  | outside
  | inside
  | escaped
  deriving DecidableEq, Repr

/-- Opened minus closed brackets, those inside JSON strings apart. -/
def bracketBalanceFrom (state : StringState) (balance : Int) : List Char → Int
  | [] => balance
  | c :: rest =>
    match state with
    | .escaped => bracketBalanceFrom .inside balance rest
    | .inside =>
      let state :=
        if c == '\\' then .escaped else if c == '"' then .outside else StringState.inside
      bracketBalanceFrom state balance rest
    | .outside =>
      if c == '"' then bracketBalanceFrom .inside balance rest
      else if c == '\x7b' || c == '[' then bracketBalanceFrom .outside (balance + 1) rest
      else if c == '\x7d' || c == ']' then bracketBalanceFrom .outside (balance - 1) rest
      else bracketBalanceFrom .outside balance rest

def bracketBalance (cs : List Char) : Int :=
  bracketBalanceFrom .outside 0 cs

def opensLiteral (cs : List Char) : Bool :=
  cs.head? == some '\x7b' || cs.head? == some '['

def isLiteralEdge (cs : List Char) : Bool :=
  opensLiteral cs || cs.head? == some '\x7d' || cs.head? == some ']'

def argumentText (cs : List Char) : List Char :=
  Text.trimLeft (cs.dropWhile (!Text.isBlank ·))

def openedBy (cs : List Char) : Nat :=
  if opensLiteral (argumentText cs) then (bracketBalance (argumentText cs)).toNat else 0

/-- The lines kept after those before: `started` tells whether a directive was among them, and
`depth` how many brackets they leave open. -/
def keptFrom (started : Bool) (depth : Nat) : List String → List String
  | [] => []
  | line :: rest =>
    if Directive.opensDirective line then line :: keptFrom true (openedBy line.toList) rest
    else if started && (0 < depth || isLiteralEdge line.toList) then
      line :: keptFrom true (depth + bracketBalance line.toList).toNat rest
    else keptFrom started depth rest

def kept (lines : List String) : List String :=
  keptFrom false 0 lines

end SocketDocs.DocBlock
