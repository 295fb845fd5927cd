import SocketDocs.Diagnostic
import SocketDocs.Directive.Literal
import SocketDocs.Text.Blank
import SocketDocs.Text.Bytes

/-!
# Directives

A directive is a line `@Name arguments…`, followed by literal lines that belong to it. Names
outside the grammar are foreign: they mean something to other tools and are passed over. A
directive of the grammar that is malformed gives the cause instead.
-/

namespace SocketDocs

open Json (Value)

inductive PayloadSource where
  | inline (value : Value)
  | typeRef (name : String)
  deriving DecidableEq, Repr

inductive Directive where
  | webSocket (name : String)
  | group (text : String)
  | url (text : String)
  | description (text : String)
  | tags (names : List String)
  | parameter (parameter : Parameter)
  | message (messageType : String)
  | direction (direction : Direction)
  | payload (source : PayloadSource)
  | sample (value : Value)
  | error (case : ErrorCase)
  | deprecated
  deriving DecidableEq, Repr

inductive Reading where
  | directive (directive : Directive)
  | foreign
  | malformed (cause : Cause)
  /-- The argument text would start inside a character: blanks stand before the name, and as many
  bytes as the name has do not end where a character does. -/
  | misaligned
  deriving DecidableEq, Repr

namespace Directive

def marker : String := "@WebSocket"

def keyword : Directive → String
  | .webSocket _ => marker
  | .group _ => "@Group"
  | .url _ => "@URL"
  | .description _ => "@Description"
  | .tags _ => "@Tags"
  | .parameter _ => "@ConnectionParam"
  | .message _ => "@Message"
  | .direction d => Cause.directionKeyword d
  | .payload _ => "@Payload"
  | .sample _ => "@Example"
  | .error _ => "@Error"
  | .deprecated => "@Deprecated"

def literalText (rest : String) (body : List String) : String :=
  if body.isEmpty then rest
  else "\n".intercalate (if rest.isEmpty then body else rest :: body)

def firstArgument (keyword : String) (arguments : List String) : Except Cause String :=
  match arguments with
  | first :: _ => .ok first
  | [] => .error (.noArgument keyword)

def joinedArguments (keyword : String) (arguments : List String) : Except Cause String :=
  if arguments.isEmpty then .error (.noArgument keyword) else .ok (" ".intercalate arguments)

/-- Splits at every comma. `part` holds the current part in reverse. -/
def splitCommas (part : List Char) : List Char → List (List Char)
  | [] => [part.reverse]
  | c :: rest => if c == ',' then part.reverse :: splitCommas [] rest else splitCommas (c :: part) rest

def tagNames (text : String) : List String :=
  (((splitCommas [] text.toList).map Text.trimChars).filter (!·.isEmpty)).map String.ofList

def readParameter : List String → Except Cause Parameter
  | name :: location :: typeName :: required :: about =>
    match Location.ofName? location with
    | some place =>
      .ok {
        name, location := place, typeName
        required := required == "required"
        description := " ".intercalate about }
    | none => .error (.unknownLocation name location)
  | arguments => .error (.fewArguments arguments.length)

def readDirection (arguments : List String) : Except Cause Direction := do
  let token ← firstArgument "@Direction" arguments
  match Direction.ofName? token with
  | some way => .ok way
  | none => .error (.unknownDirection token)

/-- A payload is inline if its text opens a bracket, even when it is no JSON: then the text itself
is the payload. Otherwise the first word names a type. -/
def readPayload (literal : String) : Except Cause PayloadSource :=
  if literal.isEmpty then .error .noPayload
  else if literal.front == '\x7b' || literal.front == '[' then
    .ok (.inline ((Json.parse? literal).getD (.string literal)))
  else
    match Text.words literal with
    | typeName :: _ => .ok (.typeRef typeName)
    | [] => .error .noPayload

def readSample (literal : String) : Except Cause Value :=
  if literal.isEmpty then .error .noSample else .ok (Literal.value literal)

def readError (arguments body : List String) : Except Cause ErrorCase := do
  let code ← firstArgument "@Error" arguments
  pure {
    code, description := " ".intercalate (arguments.drop 1)
    sample := if body.isEmpty then none else some (Literal.value ("\n".intercalate body)) }

/-- The directive of a name of the grammar. `rest` is the text after the name and `arguments` its
words; `none` stands for a name outside the grammar. -/
def ofParts (name : String) (arguments : List String) (rest : String) (body : List String) :
    Except Cause (Option Directive) :=
  let known (result : Except Cause Directive) := result.map some
  match name with
  | "@WebSocket" => known (.webSocket <$> firstArgument name arguments)
  | "@Group" => known (.group <$> joinedArguments name arguments)
  | "@URL" => known (.url <$> firstArgument name arguments)
  | "@Description" => .ok (some (.description rest))
  | "@Tags" => known ((fun text => .tags (tagNames text)) <$> joinedArguments name arguments)
  | "@ConnectionParam" => known (.parameter <$> readParameter arguments)
  | "@Message" => known (.message <$> firstArgument name arguments)
  | "@Send" => .ok (some (.direction .send))
  | "@Receive" => .ok (some (.direction .receive))
  | "@Direction" => known (.direction <$> readDirection arguments)
  | "@Payload" => known (.payload <$> readPayload (literalText rest body))
  | "@Example" => known (.sample <$> readSample (literalText rest body))
  | "@Error" => known (.error <$> readError arguments body)
  | "@Deprecated" => .ok (some .deprecated)
  | _ => .ok none

/-- Reads a line with the literal lines under it. The argument text is what follows as many bytes
as the name has, counted from the start of the line. -/
def ofLine (line : String) (body : List String) : Reading :=
  match Text.words line with
  | [] => .foreign
  | name :: arguments =>
    match Text.dropBytes? (Text.byteLength name.toList) line.toList with
    | none => .misaligned
    | some rest =>
      match ofParts name arguments (String.ofList (Text.trimChars rest)) body with
      | .ok (some directive) => .directive directive
      | .ok none => .foreign
      | .error cause => .malformed cause

def opensDirective (line : String) : Bool :=
  line.toList.head? == some '@'

/-- Splits a block into its directive lines, each with the literal lines under it. Literal lines
before the first directive belong to none. -/
def segments : List String → List (String × List String)
  | [] => []
  | line :: rest =>
    let later := segments rest
    if opensDirective line then (line, rest.takeWhile (!opensDirective ·)) :: later else later

def collect (reading : Reading) (later : List Directive × List Cause) :
    List Directive × List Cause :=
  match reading with
  | .directive found => (found :: later.1, later.2)
  | .malformed cause => (later.1, cause :: later.2)
  | .foreign => later
  | .misaligned => later

def ofBlock (lines : List String) : List Directive × List Cause :=
  (segments lines).foldr (fun segment later => collect (ofLine segment.1 segment.2) later) ([], [])

def marksEndpoint (lines : List String) : Bool :=
  lines.any fun line => (Text.words line).head? == some marker

end Directive

end SocketDocs
