import SocketDocs.Decimal.Reader
import SocketDocs.Yaml.Cursor

/-!
# Scalars in YAML text

Readers for the four notations of scalars: plain, between single or double quotes, and as a block.
A single line break inside a flow scalar reads as a space, and of several the first is dropped.
-/

namespace SocketDocs.Yaml.Scan

structure Gap where
  spaces : List Char := []
  first : List Char := []
  more : List Char := []
  broken : Bool := false

def Gap.joined (gap : Gap) : List Char :=
  if gap.broken then
    if gap.first.head? == some '\n' then (if gap.more.isEmpty then [' '] else gap.more)
    else gap.first ++ gap.more
  else gap.spaces

/-- Reads a gap on. Left of the column `indent` a tab may not follow a line break. -/
def takeGap (indent : Int) : Nat → Gap → Cursor → Option (Gap × Cursor)
  | 0, gap, cursor => some (gap, cursor)
  | fuel + 1, gap, cursor =>
    match cursor.char? with
    | none => some (gap, cursor)
    | some c =>
      if isBlank c then
        if gap.broken && (cursor.column : Int) < indent && c == '\t' then none
        else if gap.broken then takeGap indent fuel gap cursor.next
        else takeGap indent fuel { gap with spaces := gap.spaces ++ [c] } cursor.next
      else if isBreak c then
        let (text, after) := cursor.lineBreak
        if gap.broken then takeGap indent fuel { gap with more := gap.more ++ text } after
        else takeGap indent fuel { first := text, broken := true } after
      else some (gap, cursor)

/-! ## Plain scalars -/

/-- A run of characters up to a blank or to a mark that ends a plain scalar. In flow context a
colon before a flow indicator is refused. -/
def plainRun (flow : Bool) (done : List Char) : List Char → Option (List Char)
  | [] => some done.reverse
  | c :: rest =>
    let ends := rest.head?.all fun d => isBlank d || isBreak d
    if isBlank c || isBreak c then some done.reverse
    else if flow && c == ':' && rest.head?.any (fun d => isFlowIndicator d || d == '?') then none
    else if (c == ':' && ends) || (flow && isFlowIndicator c) then some done.reverse
    else plainRun flow (c :: done) rest

structure PlainResult where
  text : List Char
  broken : Bool
  cursor : Cursor

def plainFrom (flow : Bool) (indent : Int) : Nat → List Char → Gap → Cursor → Option PlainResult
  | 0, _, _, _ => none
  | fuel + 1, done, gap, cursor =>
    if cursor.atDocumentMark || cursor.sees '#' then some ⟨done, gap.broken, cursor⟩
    else
      match plainRun flow [] cursor.rest with
      | none => none
      | some run =>
        let after := cursor.nextBy run.length
        let text := if run.isEmpty then done else done ++ gap.joined ++ run
        let pending := if run.isEmpty then gap else {}
        if after.seesBlank || after.seesBreak then
          match takeGap indent (after.bound + 1) {} after with
          | none => none
          | some (gap, next) =>
            if !flow && (next.column : Int) < indent then some ⟨text, gap.broken, next⟩
            else plainFrom flow indent fuel text gap next
        else some ⟨text, pending.broken, after⟩

def plain? (flow : Bool) (indent : Int) (cursor : Cursor) : Option PlainResult :=
  plainFrom flow indent (cursor.bound + 1) [] {} cursor

/-! ## Quoted scalars -/

def escapedChar? : Char → Option Char
  | '0' => some (Char.ofNat 0)
  | 'a' => some '\x07'
  | 'b' => some '\x08'
  | 't' => some '\t'
  | '\t' => some '\t'
  | 'n' => some '\n'
  | 'v' => some '\x0b'
  | 'f' => some '\x0c'
  | 'r' => some '\r'
  | 'e' => some '\x1b'
  | ' ' => some ' '
  | '"' => some '"'
  | '/' => some '/'
  | '\\' => some '\\'
  | 'N' => some (Char.ofNat 0x85)
  | '_' => some (Char.ofNat 0xA0)
  | 'L' => some (Char.ofNat 0x2028)
  | 'P' => some (Char.ofNat 0x2029)
  | _ => none

def codeLength? : Char → Option Nat
  | 'x' => some 2
  | 'u' => some 4
  | 'U' => some 8
  | _ => none

def escape? (rest : List Char) : Option (Char × Nat) :=
  match rest with
  | [] => none
  | letter :: after =>
    match codeLength? letter with
    | some n =>
      let digits := after.take n
      if digits.length == n then
        match Decimal.natOfRadix? 16 digits with
        | some code =>
          if (0xD800 ≤ code && code ≤ 0xDFFF) || 0x10FFFF < code then none
          else some (Char.ofNat code, n + 1)
        | none => none
      else none
    | none => (escapedChar? letter).map fun c => (c, 1)

/-- A run of characters between quotes: the text, whether a backslash at the end of a line ended
it, and the place after it. -/
structure QuotedRun where
  text : List Char
  escapedBreak : Bool
  cursor : Cursor

def quotedRun (single : Bool) : Nat → List Char → Cursor → Option QuotedRun
  | 0, done, cursor => some ⟨done.reverse, false, cursor⟩
  | fuel + 1, done, cursor =>
    match cursor.rest with
    | [] => some ⟨done.reverse, false, cursor⟩
    | c :: rest =>
      if isBlank c || isBreak c then some ⟨done.reverse, false, cursor⟩
      else if single then
        if c == '\'' then
          if rest.head? == some '\'' then quotedRun single fuel ('\'' :: done) (cursor.nextBy 2)
          else some ⟨done.reverse, false, cursor⟩
        else quotedRun single fuel (c :: done) cursor.next
      else if c == '"' then some ⟨done.reverse, false, cursor⟩
      else if c == '\\' then
        if rest.head?.any isBreak then some ⟨done.reverse, true, cursor.next.lineBreak.2⟩
        else
          match escape? rest with
          | some (plain, n) => quotedRun single fuel (plain :: done) (cursor.nextBy (n + 1))
          | none => none
      else quotedRun single fuel (c :: done) cursor.next

def quotedFrom (single : Bool) : Nat → List Char → Cursor → Option (List Char × Cursor)
  | 0, _, _ => none
  | fuel + 1, done, cursor =>
    if cursor.atDocumentMark || cursor.atEnd then none
    else
      match quotedRun single cursor.bound [] cursor with
      | none => none
      | some run =>
        let text := done ++ run.text
        if run.cursor.sees (if single then '\'' else '"') then some (text, run.cursor.next)
        else
          match takeGap 0 (run.cursor.bound + 1) { broken := run.escapedBreak } run.cursor with
          | none => none
          | some (gap, next) => quotedFrom single fuel (text ++ gap.joined) next

def quoted? (single : Bool) (cursor : Cursor) : Option (List Char × Cursor) :=
  quotedFrom single (cursor.bound + 1) [] cursor.next

/-! ## Block scalars -/

inductive Chomping where
  | strip
  | clip
  | keep
  deriving DecidableEq, Repr

structure BlockHeader where
  chomping : Chomping
  /-- The indentation over that of the parent, if it is given. -/
  increment : Option Nat
  cursor : Cursor

def chomping? : Cursor → Option (Chomping × Cursor)
  | cursor =>
    if cursor.sees '+' then some (.keep, cursor.next)
    else if cursor.sees '-' then some (.strip, cursor.next)
    else none

def increment? (cursor : Cursor) : Option (Option Nat × Cursor) :=
  match cursor.char? with
  | some c =>
    if c == '0' then none
    else if Decimal.isDigit c then some (some (Decimal.digitValue c), cursor.next)
    else some (none, cursor)
  | none => some (none, cursor)

def blockHeader? (cursor : Cursor) : Option BlockHeader := do
  let (chomping, increment, cursor) ←
    match chomping? cursor with
    | some (chomping, after) => do
      let (increment, after) ← increment? after
      pure (chomping, increment, after)
    | none => do
      let (increment, after) ← increment? cursor
      match increment, chomping? after with
      | some n, some (chomping, after) => pure (chomping, some n, after)
      | increment, _ => pure (Chomping.clip, increment, after)
  let cursor ← cursor.finishLine?
  pure ⟨chomping, increment, cursor⟩

structure BlockGap where
  breaks : List Char
  widest : Nat
  cursor : Cursor

/-- Reads indentation and empty lines. Without a known indentation all spaces count as such; a tab
in place of one is refused. -/
def blockGap (indent : Option Nat) : Nat → List Char → Nat → Cursor → Option BlockGap
  | 0, _, _, _ => none
  | fuel + 1, breaks, widest, cursor =>
    let limit := match indent with
      | some n => n - cursor.column
      | none => cursor.bound
    let spaces := min limit (cursor.rest.takeWhile (· == ' ')).length
    let cursor := cursor.nextBy spaces
    let widest := max widest cursor.column
    let inIndent := indent.all (cursor.column < ·)
    if inIndent && cursor.sees '\t' then none
    else if cursor.seesBreak then
      let (text, after) := cursor.lineBreak
      blockGap indent fuel (breaks ++ text) widest after
    else some ⟨breaks, widest, cursor⟩

/-- The state of a block scalar before a line: the text so far, the break that ended the last line,
the empty lines after it, and whether the last line began with a blank. -/
structure BlockState where
  text : List Char := []
  leading : List Char := []
  trailing : List Char := []
  leadingBlank : Bool := false

/-- Reads the lines of a block scalar. In a folded one the break between two lines that do not
begin with a blank reads as a space, or as nothing before empty lines. -/
def blockLines (literal : Bool) (indent : Nat) : Nat → BlockState → Cursor →
    Option (BlockState × Cursor)
  | 0, _, _ => none
  | fuel + 1, state, cursor =>
    if cursor.column == indent && !cursor.atEnd then
      let blank := cursor.seesBlank
      let folds := !literal && state.leading.head? == some '\n' && !state.leadingBlank && !blank
      let joint :=
        if folds then (if state.trailing.isEmpty then [' '] else []) else state.leading
      let (line, after) := cursor.takeWhile (!isBreak ·)
      let (leading, after) := after.lineBreak
      match blockGap (some indent) (after.bound + 1) [] 0 after with
      | none => none
      | some gap =>
        let text := state.text ++ joint ++ state.trailing ++ line
        blockLines literal indent fuel ⟨text, leading, gap.breaks, blank⟩ gap.cursor
    else some (state, cursor)

def block? (literal : Bool) (parent : Int) (cursor : Cursor) : Option (List Char × Cursor) := do
  let header ← blockHeader? cursor.next
  let given := header.increment.map fun n => ((max parent 0) + n).toNat
  let gap ← blockGap given (header.cursor.bound + 1) [] 0 header.cursor
  let indent := given.getD (max gap.widest (max 1 (parent + 1).toNat))
  let start : BlockState := { trailing := gap.breaks }
  let (state, after) ← blockLines literal indent (gap.cursor.bound + 1) start gap.cursor
  let ending := match header.chomping with
    | .strip => []
    | .clip => state.leading
    | .keep => state.leading ++ state.trailing
  pure (state.text ++ ending, after)

end SocketDocs.Yaml.Scan
