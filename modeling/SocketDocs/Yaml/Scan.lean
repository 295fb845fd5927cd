import SocketDocs.Yaml.Scan.Directive

/-!
# The tokens of a YAML text

Indentation opens and closes block collections, and a colon shows that what was read before it is a
key. A place where such a simple key may have begun is remembered, one for each flow collection,
until the line ends or more than 1024 characters have passed. When the colon comes, the key token
is put in at that place.
-/

namespace SocketDocs.Yaml

structure SimpleKey where
  possible : Bool := false
  /-- Nothing but a key can stand here. -/
  required : Bool := false
  /-- How many tokens stand before it. -/
  position : Nat := 0
  index : Nat := 0
  line : Nat := 0
  column : Nat := 0

structure Scanner where
  cursor : Cursor
  /-- The tokens read, last first, and their number. -/
  tokens : List Token := []
  count : Nat := 0
  simpleKey : SimpleKey := {}
  outerKeys : List SimpleKey := []
  indent : Int := -1
  outerIndents : List Int := []
  keyAllowed : Bool := true

namespace Scanner

def inFlow (s : Scanner) : Bool :=
  !s.outerKeys.isEmpty

def push (s : Scanner) (token : Token) : Scanner :=
  { s with tokens := token :: s.tokens, count := s.count + 1 }

def insertAt (s : Scanner) (position : Nat) (token : Token) : Scanner :=
  let later := s.count - position
  { s with
    tokens := s.tokens.take later ++ token :: s.tokens.drop later
    count := s.count + 1 }

def skip (s : Scanner) (n : Nat) : Scanner :=
  { s with cursor := s.cursor.nextBy n }

/-! ## Simple keys -/

def isStale (cursor : Cursor) (key : SimpleKey) : Bool :=
  key.possible && (key.line < cursor.line || key.index + 1024 < cursor.index)

/-- Gives up a key; one that is required may not be given up. -/
def giveUp? (key : SimpleKey) : Option SimpleKey :=
  if key.possible && key.required then none else some { key with possible := false }

def refresh? (cursor : Cursor) (key : SimpleKey) : Option SimpleKey :=
  if isStale cursor key then giveUp? key else some key

def dropStaleKeys? (s : Scanner) : Option Scanner := do
  let simpleKey ← refresh? s.cursor s.simpleKey
  let outerKeys ← s.outerKeys.mapM (refresh? s.cursor)
  pure { s with simpleKey, outerKeys }

def removeKey? (s : Scanner) : Option Scanner := do
  let simpleKey ← giveUp? s.simpleKey
  pure { s with simpleKey }

def saveKey? (s : Scanner) : Option Scanner :=
  if s.keyAllowed then do
    let s ← s.removeKey?
    let simpleKey : SimpleKey := {
      possible := true
      required := !s.inFlow && s.indent == s.cursor.column
      position := s.count
      index := s.cursor.index, line := s.cursor.line, column := s.cursor.column }
    pure { s with simpleKey }
  else some s

/-! ## Indentation -/

/-- Opens a block collection at a column further right; its token goes to `position`, or to the
end. -/
def openBlock (s : Scanner) (column : Nat) (position : Option Nat) (token : Token) : Scanner :=
  if !s.inFlow && s.indent < column then
    let s := { s with outerIndents := s.indent :: s.outerIndents, indent := column }
    match position with
    | some n => s.insertAt n token
    | none => s.push token
  else s

def closeBlocksIn (column : Int) : List Int → Scanner → Scanner
  | [], s => s
  | outer :: rest, s =>
    if column < s.indent then
      closeBlocksIn column rest ({ s with indent := outer, outerIndents := rest }.push .blockEnd)
    else s

def closeBlocks (s : Scanner) (column : Int) : Scanner :=
  if s.inFlow then s else closeBlocksIn column s.outerIndents s

/-! ## Blanks between tokens -/

def byteOrderMark : Char := Char.ofNat 0xFEFF

/-- Passes over blanks, comments and line breaks. In block context a line break makes keys
possible; tabs are blanks only where none is. -/
def skipToToken : Nat → Scanner → Scanner
  | 0, s => s
  | fuel + 1, s =>
    let cursor :=
      if s.cursor.index == 0 && s.cursor.sees byteOrderMark then s.cursor.next else s.cursor
    let tabs := s.inFlow || !s.keyAllowed
    let cursor := cursor.skipWhile fun c => c == ' ' || (tabs && c == '\t')
    let cursor := if cursor.sees '#' then cursor.skipLineRest else cursor
    if cursor.seesBreak then
      skipToToken fuel
        { s with cursor := cursor.lineBreak.2, keyAllowed := s.keyAllowed || !s.inFlow }
    else { s with cursor }

/-! ## Tokens -/

def documentMark? (s : Scanner) (token : Token) : Option Scanner := do
  let s ← (s.closeBlocks (-1)).removeKey?
  pure (({ s with keyAllowed := false }.skip 3).push token)

def directiveToken? (s : Scanner) : Option Scanner := do
  let s ← (s.closeBlocks (-1)).removeKey?
  let (token, cursor) ← Scan.directive? s.cursor
  pure ({ s with keyAllowed := false, cursor }.push token)

def flowStart? (s : Scanner) (token : Token) : Option Scanner := do
  let s ← s.saveKey?
  let s := { s with simpleKey := {}, outerKeys := s.simpleKey :: s.outerKeys, keyAllowed := true }
  pure ((s.skip 1).push token)

def flowEnd? (s : Scanner) (token : Token) : Option Scanner := do
  let s ← s.removeKey?
  let s := match s.outerKeys with
    | key :: rest => { s with simpleKey := key, outerKeys := rest }
    | [] => s
  pure (({ s with keyAllowed := false }.skip 1).push token)

def flowEntry? (s : Scanner) : Option Scanner := do
  let s ← s.removeKey?
  pure (({ s with keyAllowed := true }.skip 1).push .flowEntry)

def blockEntry? (s : Scanner) : Option Scanner := do
  if !s.inFlow && !s.keyAllowed then none
  else
    let s ← (s.openBlock s.cursor.column none .blockSequenceStart).removeKey?
    pure (({ s with keyAllowed := true }.skip 1).push .blockEntry)

def key? (s : Scanner) : Option Scanner := do
  if !s.inFlow && !s.keyAllowed then none
  else
    let s ← (s.openBlock s.cursor.column none .blockMappingStart).removeKey?
    pure (({ s with keyAllowed := !s.inFlow }.skip 1).push .key)

def value? (s : Scanner) : Option Scanner :=
  if s.simpleKey.possible then
    let key := s.simpleKey
    let s := s.insertAt key.position .key
    let s := s.openBlock key.column (some key.position) .blockMappingStart
    let s := { s with simpleKey := { key with possible := false }, keyAllowed := false }
    some ((s.skip 1).push .value)
  else if !s.inFlow && !s.keyAllowed then none
  else
    let s := s.openBlock s.cursor.column none .blockMappingStart
    some (({ s with keyAllowed := !s.inFlow }.skip 1).push .value)

def anchor? (s : Scanner) (token : String → Token) : Option Scanner := do
  let s ← s.saveKey?
  let (name, cursor) ← Scan.anchorName? s.cursor
  pure ({ s with keyAllowed := false, cursor }.push (token name))

def tagToken? (s : Scanner) : Option Scanner := do
  let s ← s.saveKey?
  let (token, cursor) ← Scan.tag? s.inFlow s.cursor
  pure ({ s with keyAllowed := false, cursor }.push token)

def blockScalar? (s : Scanner) (literal : Bool) : Option Scanner := do
  let s ← s.removeKey?
  let (text, cursor) ← Scan.block? literal s.indent s.cursor
  let style := if literal then ScalarStyle.literal else .folded
  pure ({ s with keyAllowed := true, cursor }.push (.scalar (String.ofList text) style))

def quotedScalar? (s : Scanner) (single : Bool) : Option Scanner := do
  let s ← s.saveKey?
  let (text, cursor) ← Scan.quoted? single s.cursor
  let style := if single then ScalarStyle.singleQuoted else .doubleQuoted
  pure ({ s with keyAllowed := false, cursor }.push (.scalar (String.ofList text) style))

def plainScalar? (s : Scanner) : Option Scanner := do
  let s ← s.saveKey?
  let found ← Scan.plain? s.inFlow (s.indent + 1) s.cursor
  pure ({ s with keyAllowed := found.broken, cursor := found.cursor }.push
    (.scalar (String.ofList found.text) .plain))

def indicators : List Char :=
  "-?:,[]\x7b\x7d#&*!|>'\"%@`".toList

def opensPlain (s : Scanner) (c : Char) : Bool :=
  !(isBlank c || isBreak c || indicators.contains c) ||
    (c == '-' && !(s.cursor.ahead? 1).any isBlank) ||
    (!s.inFlow && (c == '?' || c == ':') && !s.cursor.endsWord 1)

def token? (s : Scanner) (c : Char) : Option Scanner :=
  let marks (a b c : Char) := s.cursor.atDocumentMark && [a, b, c].isPrefixOf s.cursor.rest
  if s.cursor.column == 0 && c == '%' then s.directiveToken?
  else if marks '-' '-' '-' then s.documentMark? .documentStart
  else if marks '.' '.' '.' then s.documentMark? .documentEnd
  else if c == '[' then s.flowStart? .flowSequenceStart
  else if c == '\x7b' then s.flowStart? .flowMappingStart
  else if c == ']' then s.flowEnd? .flowSequenceEnd
  else if c == '\x7d' then s.flowEnd? .flowMappingEnd
  else if c == ',' then s.flowEntry?
  else if c == '-' && s.cursor.endsWord 1 then s.blockEntry?
  else if c == '?' && (s.inFlow || s.cursor.endsWord 1) then s.key?
  else if c == ':' && (s.inFlow || s.cursor.endsWord 1) then s.value?
  else if c == '*' then s.anchor? .alias
  else if c == '&' then s.anchor? .anchor
  else if c == '!' then s.tagToken?
  else if c == '|' && !s.inFlow then s.blockScalar? true
  else if c == '>' && !s.inFlow then s.blockScalar? false
  else if c == '\'' then s.quotedScalar? true
  else if c == '"' then s.quotedScalar? false
  else if s.opensPlain c then s.plainScalar?
  else none

def finish? (s : Scanner) : Option (List Token) := do
  let s ← (s.closeBlocks (-1)).removeKey?
  pure (s.push .streamEnd).tokens.reverse

def run : Nat → Scanner → Option (List Token)
  | 0, _ => none
  | fuel + 1, s => do
    let s ← (skipToToken (s.cursor.bound + 1) s).dropStaleKeys?
    let s := s.closeBlocks s.cursor.column
    match s.cursor.char? with
    | none => s.finish?
    | some c => run fuel (← s.token? c)

end Scanner

def tokens? (text : List Char) : Option (List Token) :=
  if text.all isAllowed then Scanner.run (text.length + 2) { cursor := { rest := text, bound := text.length } } else none

end SocketDocs.Yaml
