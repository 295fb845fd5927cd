import SocketDocs.Command

/-!
# Command-line arguments

Options stand before or after the command if they belong to all commands, and after it otherwise. An
option that takes a value has it attached or as the next argument. Such a value is looked at when the
next option comes or the arguments end, so that an argument that fits nowhere is reported before it.
-/

namespace SocketDocs

inductive Refusal where
  | help
  | version
  /-- Nothing is given, and help is shown instead. -/
  | nothing
  | missingCommand
  | unknownCommand
  | unknownArgument
  | invalidValue
  | repeated
  /-- An option that takes no value has one. -/
  | excessValue
  deriving DecidableEq, Repr

/-- Asking for help or the version is no error. -/
def Refusal.exitCode : Refusal → Nat
  | .help => 0
  | .version => 0
  | _ => 2

namespace Arguments

inductive Setting where
  | source
  | output
  | format
  | file
  | target
  deriving DecidableEq, Repr

inductive Switch where
  | verbose
  | help
  | version
  deriving DecidableEq, Repr

inductive Choice where
  | setting (setting : Setting)
  | switch (switch : Switch)
  deriving DecidableEq, Repr

structure Table where
  long : List (String × Choice)
  short : List (Char × Choice)

def commonLong : List (String × Choice) :=
  [("verbose", .switch .verbose), ("help", .switch .help)]

def commonShort : List (Char × Choice) :=
  [('v', .switch .verbose), ('h', .switch .help)]

def topTable : Table where
  long := ("version", .switch .version) :: commonLong
  short := ('V', .switch .version) :: commonShort

inductive Verb where
  | generate
  | validate
  | reformat
  deriving DecidableEq, Repr

def Verb.ofName? : String → Option Verb
  | "generate" => some .generate
  | "validate" => some .validate
  | "fmt" => some .reformat
  | _ => none

def Verb.table : Verb → Table
  | .generate =>
    { long :=
        [("src", .setting .source), ("out", .setting .output), ("format", .setting .format)] ++
          commonLong
      short := ('f', .setting .format) :: commonShort }
  | .validate => { long := ("file", .setting .file) :: commonLong, short := commonShort }
  | .reformat =>
    { long := [("file", .setting .file), ("output", .setting .target)] ++ commonLong
      short := commonShort }

def format? : String → Option Format
  | "yaml" => some .yaml
  | "json" => some .json
  | _ => none

structure State where
  verbose : Bool := false
  settings : List (Setting × String) := []
  /-- A setting that has not been looked at, perhaps still without its value. -/
  pending : Option (Setting × Option String) := none

namespace State

def isValid (setting : Setting) (text : String) : Bool :=
  match setting with
  | .format => (format? text).isSome
  | _ => !text.isEmpty

def settle (s : State) (setting : Setting) (text : String) : Except Refusal State :=
  if (s.settings.lookup setting).isSome then .error .repeated
  else if isValid setting text then .ok { s with settings := (setting, text) :: s.settings }
  else .error .invalidValue

def resolve (s : State) : Except Refusal State :=
  match s.pending with
  | none => .ok s
  | some (_, none) => .error .invalidValue
  | some (setting, some text) => { s with pending := none }.settle setting text

def switchOn (s : State) (switch : Switch) : Except Refusal State := do
  let s ← s.resolve
  match switch with
  | .help => throw .help
  | .version => throw .version
  | .verbose => if s.verbose then throw .repeated else return { s with verbose := true }

def set (s : State) (setting : Setting) (attached : Option String) : Except Refusal State := do
  let s ← s.resolve
  match attached with
  | some text => s.settle setting text
  | none => return { s with pending := some (setting, none) }

def takeLong (s : State) (table : Table) (text : List Char) : Except Refusal State :=
  let name := text.takeWhile (· != '=')
  let attached :=
    match text.drop name.length with
    | [] => none
    | _ :: value => some (String.ofList value)
  match table.long.lookup (String.ofList name), attached with
  | none, _ => .error .unknownArgument
  | some (.setting setting), attached => s.set setting attached
  | some (.switch _), some _ => .error .excessValue
  | some (.switch switch), none => s.switchOn switch

def attachedValue : List Char → Option String
  | [] => none
  | '=' :: value => some (String.ofList value)
  | value => some (String.ofList value)

/-- Options by their letters, one after the other; one with a value takes the rest. -/
def takeShort (s : State) (table : Table) : List Char → Except Refusal State
  | [] => .ok s
  | letter :: rest =>
    match table.short.lookup letter with
    | none => .error .unknownArgument
    | some (.setting setting) => s.set setting (attachedValue rest)
    | some (.switch switch) =>
      match s.switchOn switch with
      | .ok s => takeShort s table rest
      | .error refusal => .error refusal

end State

inductive Shape where
  | separator
  | long (text : List Char)
  | short (letters : List Char)
  | word
  deriving DecidableEq, Repr

def Shape.of (argument : String) : Shape :=
  match argument.toList with
  | ['-', '-'] => .separator
  | '-' :: '-' :: text => .long text
  | '-' :: letter :: letters => .short (letter :: letters)
  | _ => .word

def takeOptions (table : Table) (s : State) : List String → Except Refusal State
  | [] => s.resolve
  | argument :: rest =>
    match Shape.of argument with
    | .separator => if rest.isEmpty then s.resolve else .error .unknownArgument
    | .long text =>
      match s.takeLong table text with
      | .ok s => takeOptions table s rest
      | .error refusal => .error refusal
    | .short letters =>
      match s.takeShort table letters with
      | .ok s => takeOptions table s rest
      | .error refusal => .error refusal
    | .word =>
      match s.pending with
      | some (setting, none) =>
        takeOptions table { s with pending := some (setting, some argument) } rest
      | _ => .error .unknownArgument

def defaultFile : String := "wsdocs/wsapi.yaml"

def defaultSource : String := "./"

def Verb.command (verb : Verb) (s : State) : Command :=
  let value (setting : Setting) (default : String) := (s.settings.lookup setting).getD default
  match verb with
  | .generate =>
    .generate (value .source defaultSource) (value .output defaultFile)
      ((format? (value .format "yaml")).getD .yaml)
  | .validate => .validate (value .file defaultFile)
  | .reformat => .reformat (value .file defaultFile) (s.settings.lookup .target)

/-- A call for help names at most one command, or itself. -/
def help : List String → Refusal
  | [] => .help
  | [name] => if name == "help" || (Verb.ofName? name).isSome then .help else .unknownCommand
  | _ => .unknownCommand

def afterSeparator (verbose : Bool) : List String → Refusal
  | [] => if verbose then .missingCommand else .nothing
  | argument :: _ =>
    if argument == "help" || (Verb.ofName? argument).isSome then .unknownArgument
    else .unknownCommand

def parseFrom (s : State) : List String → Except Refusal Invocation
  | [] => .error (if s.verbose then .missingCommand else .nothing)
  | argument :: rest =>
    match Verb.ofName? argument with
    | some verb =>
      match takeOptions verb.table {} rest with
      | .ok inner => .ok ⟨verb.command inner, s.verbose || inner.verbose⟩
      | .error refusal => .error refusal
    | none =>
      if argument == "help" then .error (help rest)
      else
        match Shape.of argument with
        | .separator => .error (afterSeparator s.verbose rest)
        | .long text =>
          match s.takeLong topTable text with
          | .ok s => parseFrom s rest
          | .error refusal => .error refusal
        | .short letters =>
          match s.takeShort topTable letters with
          | .ok s => parseFrom s rest
          | .error refusal => .error refusal
        | .word => .error .unknownCommand

def parse (arguments : List String) : Except Refusal Invocation :=
  parseFrom {} arguments

end Arguments

end SocketDocs
