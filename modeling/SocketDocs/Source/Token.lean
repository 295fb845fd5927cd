import SocketDocs.Source.Lexer

/-!
# Token trees

The lexemes of a source with matching delimiters folded into groups. Comments are gone, except that
a documentation comment stands for the attribute that says the same.
-/

namespace SocketDocs.Source

inductive Token where
  | identifier (name : String) (line : Nat)
  | lifetime (name : String) (line : Nat)
  | punct (char : Char) (joint : Bool) (line : Nat)
  | literal (text : String) (line lastLine : Nat)
  | group (delimiter : Delimiter) (content : List Token) (openLine closeLine : Nat)
  deriving Inhabited, Repr

namespace Token

def line : Token → Nat
  | .identifier _ line => line
  | .lifetime _ line => line
  | .punct _ _ line => line
  | .literal _ line _ => line
  | .group _ _ line _ => line

def lastLine : Token → Nat
  | .identifier _ line => line
  | .lifetime _ line => line
  | .punct _ _ line => line
  | .literal _ _ lastLine => lastLine
  | .group _ _ _ closeLine => closeLine

def isBraceGroup : Token → Bool
  | .group .brace _ _ _ => true
  | _ => false

mutual
def count : Token → Nat
  | .group _ content _ _ => 1 + countAll content
  | _ => 1

def countAll : List Token → Nat
  | [] => 0
  | token :: rest => count token + countAll rest
end

/-- The attribute that a documentation comment stands for, last token first. -/
def docAttribute (inner : Bool) (line lastLine : Nat) : List Token :=
  let content : List Token :=
    [.identifier "doc" line, .punct '=' false line, .literal "\"\"" line lastLine]
  let mark := if inner then [Token.punct '!' false line] else []
  .group .bracket content line lastLine :: mark ++ [.punct '#' false line]

/-- A group that is still open: its delimiter, its line, and what came before it, last first. -/
structure OpenGroup where
  delimiter : Delimiter
  line : Nat
  before : List Token

/-- Folds lexemes into token trees. `done` holds the tokens of the innermost open group, last
first. Fails at an unknown character or a delimiter without partner. -/
def nestFrom (stack : List OpenGroup) (done : List Token) : List Placed → Option (List Token)
  | [] => if stack.isEmpty then some done.reverse else none
  | placed :: rest =>
    match placed.lexeme with
    | .lineComment .plain _ => nestFrom stack done rest
    | .blockComment .plain => nestFrom stack done rest
    | .lineComment (.doc inner) _ =>
      nestFrom stack (docAttribute inner placed.line placed.lastLine ++ done) rest
    | .blockComment (.doc inner) =>
      nestFrom stack (docAttribute inner placed.line placed.lastLine ++ done) rest
    | .lineComment .broken _ => none
    | .blockComment .broken => none
    | .opening delimiter => nestFrom (⟨delimiter, placed.line, done⟩ :: stack) [] rest
    | .closing delimiter =>
      match stack with
      | [] => none
      | frame :: outer =>
        if frame.delimiter = delimiter then
          nestFrom outer
            (.group delimiter done.reverse frame.line placed.line :: frame.before) rest
        else none
    | .identifier name => nestFrom stack (.identifier name placed.line :: done) rest
    | .lifetime name => nestFrom stack (.lifetime name placed.line :: done) rest
    | .literal text => nestFrom stack (.literal text placed.line placed.lastLine :: done) rest
    | .punct char joint => nestFrom stack (.punct char joint placed.line :: done) rest
    | .unknown _ => none

def nest? (lexemes : List Placed) : Option (List Token) :=
  nestFrom [] [] lexemes

end Token

end SocketDocs.Source
