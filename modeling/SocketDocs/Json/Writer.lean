import SocketDocs.Decimal.Shortest
import SocketDocs.Json.Value

/-!
# Writing JSON text

Two layouts: on one line without spaces, and over several lines with an indent of two spaces.
Members are written in the order that the value holds them.
-/

namespace SocketDocs.Json

def doubleFormat : Double.TextFormat := ⟨true⟩

def Number.text : Number → String
  | .int n => toString n
  | .double x => x.text doubleFormat

def hexDigit (n : Nat) : Char :=
  (Nat.toDigits 16 n).headD '0'

/-- A character inside quotes. Only quotes, backslashes and control characters are escaped. -/
def escapeChar (c : Char) : List Char :=
  if c == '"' then ['\\', '"']
  else if c == '\\' then ['\\', '\\']
  else if c == '\x08' then ['\\', 'b']
  else if c == '\x0c' then ['\\', 'f']
  else if c == '\n' then ['\\', 'n']
  else if c == '\r' then ['\\', 'r']
  else if c == '\t' then ['\\', 't']
  else if c.toNat < 0x20 then
    ['\\', 'u', '0', '0', hexDigit (c.toNat / 16), hexDigit (c.toNat % 16)]
  else [c]

def quote (text : String) : String :=
  String.ofList ('"' :: text.toList.flatMap escapeChar ++ ['"'])

mutual
def Value.compact : Value → String
  | .null => "null"
  | .bool b => if b then "true" else "false"
  | .number n => n.text
  | .string s => quote s
  | .array items => "[" ++ compactItems items ++ "]"
  | .object members => "\x7b" ++ compactMembers members ++ "\x7d"

def compactItems : List Value → String
  | [] => ""
  | [item] => item.compact
  | item :: rest => item.compact ++ "," ++ compactItems rest

def compactMembers : List (String × Value) → String
  | [] => ""
  | [(key, value)] => quote key ++ ":" ++ value.compact
  | (key, value) :: rest => quote key ++ ":" ++ value.compact ++ "," ++ compactMembers rest
end

def newline (level : Nat) : String :=
  "\n" ++ String.ofList (List.replicate (2 * level) ' ')

mutual
def Value.prettyAt (level : Nat) : Value → String
  | .null => "null"
  | .bool b => if b then "true" else "false"
  | .number n => n.text
  | .string s => quote s
  | .array [] => "[]"
  | .array (item :: items) =>
    "[" ++ prettyItems (level + 1) (item :: items) ++ newline level ++ "]"
  | .object [] => "\x7b\x7d"
  | .object (first :: members) =>
    "\x7b" ++ prettyMembers (level + 1) (first :: members) ++ newline level ++ "\x7d"

def prettyItems (level : Nat) : List Value → String
  | [] => ""
  | [item] => newline level ++ item.prettyAt level
  | item :: rest => newline level ++ item.prettyAt level ++ "," ++ prettyItems level rest

def prettyMembers (level : Nat) : List (String × Value) → String
  | [] => ""
  | [(key, value)] => newline level ++ quote key ++ ": " ++ value.prettyAt level
  | (key, value) :: rest =>
    newline level ++ quote key ++ ": " ++ value.prettyAt level ++ "," ++ prettyMembers level rest
end

def Value.pretty (value : Value) : String :=
  value.prettyAt 0

end SocketDocs.Json
