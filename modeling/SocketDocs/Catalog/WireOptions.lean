import SocketDocs.Source.Grammar

/-!
# Options for the wire

The attribute `serde` of a struct or field can rename it or keep it off the wire. The options of an
attribute are read from left to right; those before a malformed one hold.
-/

namespace SocketDocs

open Source

structure WireOptions where
  rename : Option String := none
  renameAll : Option String := none
  skip : Bool := false
  deriving DecidableEq, Repr

namespace WireOptions

/-- The name of an option: a path of any words, which counts as a name only if it is one word. -/
def optionName : Parser (Option String) := do
  let leading ← Parser.mark? "::"
  let (first, _) ← Parser.anyIdentifier
  let others ← Parser.manyWhile (Ahead.mark "::") do
    Parser.mark "::"
    Parser.anyIdentifier
  if leading || !others.isEmpty then return none else return some first

def textValue : Parser String := do
  Parser.mark "="
  match ← Parser.token with
  | .literal text _ _ =>
    match Literal.string? text with
    | some value => return value
    | none => Parser.fail
  | _ => Parser.fail

def skipValue (g : Grammar) : Parser Unit := do
  if ← Parser.sees (Ahead.mark "=") then
    Parser.mark "="
    let _ ← g.expr
  else if ← Parser.sees Ahead.parenthesis then Parser.skip 1

def serializeStep (g : Grammar) (found : Option String) :
    Parser (Parser.Step (Option String)) := do
  let name ← optionName
  let found ←
    if name == some "serialize" then pure (some (← textValue))
    else do
      skipValue g
      pure found
  if ← Parser.sees Ahead.finished then return .done found
  else
    Parser.mark ","
    if ← Parser.sees Ahead.finished then return .done found else return .more found

/-- The name for writing: a text after an equals sign, or the one under `serialize` in a list. -/
def serializeName (g : Grammar) : Parser (Option String) := do
  if ← Parser.sees (Ahead.mark "=") then return some (← textValue)
  else Parser.inParentheses (Parser.iterate (serializeStep g) none)

def applyOption (g : Grammar) (options : WireOptions) : Parser WireOptions := do
  match ← optionName with
  | some "rename" =>
    match ← serializeName g with
    | some value => return { options with rename := some value }
    | none => return options
  | some "rename_all" =>
    match ← serializeName g with
    | some value => return { options with renameAll := some value }
    | none => return options
  | some "skip" => return { options with skip := true }
  | some "skip_serializing" => return { options with skip := true }
  | _ =>
    skipValue g
    return options

/-- Applies the options of a list. `rounds` is at least the number of its tokens. -/
def applyAll (g : Grammar) : Nat → WireOptions → Stream → WireOptions
  | 0, options, _ => options
  | rounds + 1, options, stream =>
    if stream.tokens.isEmpty then options
    else
      match (applyOption g options).run stream with
      | none => options
      | some (options, stream) =>
        match (Parser.mark ",").run stream with
        | some (_, stream) => applyAll g rounds options stream
        | none => options

def applyAttribute (options : WireOptions) (mark : Attribute) : WireOptions :=
  match mark.name, mark.arguments with
  | some "serde", some tokens =>
    applyAll (grammarFor tokens) tokens.length options ⟨tokens, mark.line, false⟩
  | _, _ => options

def ofAttributes (attributes : List Attribute) : WireOptions :=
  attributes.foldl applyAttribute {}

end WireOptions

end SocketDocs
