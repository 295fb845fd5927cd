import SocketDocs.Source.Item

/-!
# Parsers over token trees

A parser takes tokens from the head of a stream or fails. Looking ahead is a question about a list
of tokens and consumes nothing. A mark of several characters is a run of punctuation of which all
but the last are joint, so a mark is also seen at the head of a longer one (`=` in `==`).
-/

namespace SocketDocs.Source

/-- The tokens to come, and what is known of the last one taken. -/
structure Stream where
  tokens : List Token
  lastLine : Nat
  afterBrace : Bool

namespace Stream

def next (first : Token) (rest : List Token) : Stream :=
  ⟨rest, first.lastLine, first.isBraceGroup⟩

/-- Taking tokens from the head of a stream leads to another one. -/
inductive Leads : Stream → Stream → Prop where
  | refl (stream : Stream) : Leads stream stream
  | take {first : Token} {rest : List Token} {lastLine : Nat} {afterBrace : Bool}
      {later : Stream} (leads : Leads (next first rest) later) :
      Leads ⟨first :: rest, lastLine, afterBrace⟩ later

theorem Leads.trans {stream middle later : Stream} (h : stream.Leads middle)
    (h' : middle.Leads later) : stream.Leads later := by
  induction h with
  | refl => exact h'
  | take _ ih => exact .take (ih h')

end Stream

/-- A parser takes tokens from the head of a stream or fails. It never puts one back. -/
structure Parser (α : Type) where
  run : Stream → Option (α × Stream)
  leads : ∀ {stream later : Stream} {a : α}, run stream = some (a, later) → stream.Leads later

abbrev Ahead := List Token → Bool

namespace Ahead

def keyword (word : String) : Ahead
  | .identifier name _ :: _ => name == word
  | _ => false

def keywords (words : List String) : Ahead
  | .identifier name _ :: _ => words.contains name
  | _ => false

def markChars : List Char → Ahead
  | [], _ => true
  | [c], .punct d _ _ :: _ => c == d
  | c :: rest, .punct d joint _ :: tokens => c == d && joint && markChars rest tokens
  | _ :: _, _ => false

def mark (text : String) : Ahead :=
  markChars text.toList

def marks (texts : List String) : Ahead := fun tokens =>
  texts.any (mark · tokens)

def group (delimiter : Delimiter) : Ahead
  | .group d _ _ _ :: _ => d == delimiter
  | _ => false

def parenthesis : Ahead := group .parenthesis

def bracket : Ahead := group .bracket

def brace : Ahead := group .brace

def anyGroup : Ahead
  | .group _ _ _ _ :: _ => true
  | _ => false

def lifetime : Ahead
  | .lifetime _ _ :: _ => true
  | _ => false

def finished : Ahead := List.isEmpty

def reserved : List String :=
  ["_", "abstract", "as", "async", "await", "become", "box", "break", "const", "continue", "crate",
   "do", "dyn", "else", "enum", "extern", "false", "final", "fn", "for", "if", "impl", "in", "let",
   "loop", "macro", "match", "mod", "move", "mut", "override", "priv", "pub", "ref", "return",
   "Self", "self", "static", "struct", "super", "trait", "true", "try", "type", "typeof", "unsafe",
   "unsized", "use", "virtual", "where", "while", "yield"]

def anyIdentifier : Ahead
  | .identifier _ _ :: _ => true
  | _ => false

def identifier : Ahead
  | .identifier name _ :: _ => !reserved.contains name
  | _ => false

def literal : Ahead
  | .literal _ _ _ :: _ => true
  | .identifier name _ :: _ => name == "true" || name == "false"
  | .punct '-' _ _ :: .literal text _ _ :: _ => text.toList.head?.any Decimal.isDigit
  | _ => false

def second (ahead : Ahead) : Ahead := fun tokens => ahead (tokens.drop 1)

def third (ahead : Ahead) : Ahead := fun tokens => ahead (tokens.drop 2)

end Ahead

namespace Parser

variable {α β : Type}

protected def pure (a : α) : Parser α where
  run stream := some (a, stream)
  leads h := by
    cases h
    exact .refl _

protected def bind (parser : Parser α) (next : α → Parser β) : Parser β where
  run stream :=
    match parser.run stream with
    | some (a, later) => (next a).run later
    | none => none
  leads h := by
    split at h
    · exact (parser.leads ‹_›).trans ((next _).leads h)
    · cases h

instance : Monad Parser where
  pure := Parser.pure
  bind := Parser.bind

def fail : Parser α where
  run _ := none
  leads := nofun

def seen (part : Stream → α) : Parser α where
  run stream := some (part stream, stream)
  leads h := by
    cases h
    exact .refl _

def tokens : Parser (List Token) := seen (·.tokens)

def lastLine : Parser Nat := seen (·.lastLine)

def afterBrace : Parser Bool := seen (·.afterBrace)

def token : Parser Token where
  run stream :=
    match stream.tokens with
    | [] => none
    | first :: rest => some (first, .next first rest)
  leads {stream _ _} h := by
    obtain ⟨_ | ⟨first, rest⟩, _, _⟩ := stream
    · cases h
    · cases h
      exact .take (.refl _)

def currentLine : Parser Nat := do
  match ← tokens with
  | first :: _ => pure first.line
  | [] => fail

def sees (ahead : Ahead) : Parser Bool := do
  return ahead (← tokens)

def require (ahead : Ahead) : Parser Unit := do
  if ahead (← tokens) then pure () else fail

def skip (count : Nat) : Parser Unit :=
  match count with
  | 0 => pure ()
  | n + 1 => do
    let _ ← token
    skip n

def mark (text : String) : Parser Unit := do
  require (Ahead.mark text)
  skip text.length

def keyword (word : String) : Parser Unit := do
  require (Ahead.keyword word)
  skip 1

def mark? (text : String) : Parser Bool := do
  if ← sees (Ahead.mark text) then
    mark text
    pure true
  else pure false

def keyword? (word : String) : Parser Bool := do
  if ← sees (Ahead.keyword word) then
    keyword word
    pure true
  else pure false

def anyIdentifier : Parser (String × Nat) := do
  match ← token with
  | .identifier name line => pure (name, line)
  | _ => fail

def identifier : Parser (String × Nat) := do
  require Ahead.identifier
  anyIdentifier

def lifetime : Parser Unit := do
  require Ahead.lifetime
  skip 1

def lifetime? : Parser Bool := do
  if ← sees Ahead.lifetime then
    lifetime
    pure true
  else pure false

def literal : Parser Unit := do
  require Ahead.literal
  if ← sees (Ahead.mark "-") then skip 2 else skip 1

def inGroup (delimiter : Delimiter) (inner : Parser α) : Parser α := do
  match ← token with
  | .group d content openLine _ =>
    if d = delimiter then
      match inner.run ⟨content, openLine, false⟩ with
      | some (a, after) => if after.tokens.isEmpty then pure a else fail
      | none => fail
    else fail
  | _ => fail

def inParentheses (inner : Parser α) : Parser α := inGroup .parenthesis inner

def inBrackets (inner : Parser α) : Parser α := inGroup .bracket inner

def inBraces (inner : Parser α) : Parser α := inGroup .brace inner

def anyGroup : Parser Bool := do
  match ← token with
  | .group delimiter _ _ _ => pure (delimiter == .brace)
  | _ => fail

def delay (parser : Unit → Parser α) : Parser α where
  run stream := (parser ()).run stream
  leads h := (parser ()).leads h

def attempt (parser : Parser α) : Parser (Option α) where
  run stream :=
    match parser.run stream with
    | some (a, later) => some (some a, later)
    | none => some (none, stream)
  leads h := by
    split at h
    · cases h
      exact parser.leads ‹_›
    · cases h
      exact .refl _

def lookAhead (parser : Parser α) : Parser (Option α) :=
  seen fun stream => (parser.run stream).map (·.1)

def orElse (first : Parser (Option α)) (second : Parser α) : Parser α where
  run stream :=
    match first.run stream with
    | some (some a, later) => some (a, later)
    | some (none, _) => second.run stream
    | none => none
  leads h := by
    split at h
    · cases h
      exact first.leads ‹_›
    · exact second.leads h
    · cases h

/-! ## Repetition -/

inductive Step (σ : Type) where
  | more (state : σ)
  | done (state : σ)

def iterateFor {σ : Type} (step : σ → Parser (Step σ)) : Nat → σ → Parser σ
  | 0, _ => fail
  | rounds + 1, state => do
    match ← step state with
    | .more state => iterateFor step rounds state
    | .done state => pure state

/-- Repeats a step until it is done. Every round but the last takes a token, so the length of the
stream bounds the rounds. -/
def iterate {σ : Type} (step : σ → Parser (Step σ)) (state : σ) : Parser σ := do
  iterateFor step ((← tokens).length + 2) state

def manyWhile (ahead : Ahead) (parser : Parser α) : Parser (List α) := do
  let found ← iterate (fun found => do
    if ← sees ahead then pure (.more ((← parser) :: found)) else pure (.done found)) []
  pure found.reverse

def untilEmpty (parser : Parser α) : Parser (List α) :=
  manyWhile (fun tokens => !tokens.isEmpty) parser

/-- Runs a parser between separators until `stop` holds; a last separator may stand before it. -/
def separatedUntil (stop : Ahead) (separator : String) (parser : Parser α) :
    Parser (List α) := do
  let found ← iterate (fun found => do
    if ← sees stop then pure (.done found)
    else
      let next ← parser
      if ← sees stop then pure (.done (next :: found))
      else
        mark separator
        pure (.more (next :: found))) []
  pure found.reverse

def commaList (parser : Parser α) : Parser (List α) :=
  separatedUntil Ahead.finished "," parser

def chainUntil (stop : Ahead) (separator : String) (parser : Parser α) :
    Parser (List α) := do
  let found ← iterate (fun found => do
    if ← sees stop then pure (.done found)
    else
      let next ← parser
      if ← mark? separator then pure (.more (next :: found)) else pure (.done (next :: found))) []
  pure found.reverse

end Parser

end SocketDocs.Source
