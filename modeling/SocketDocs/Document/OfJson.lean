import SocketDocs.Document.Decoding

/-!
# Documents from JSON values

A record is an object, or an array of its fields in their order from the first on. Null stands for
an unset part and is nothing else. A choice is its name, or an object that holds null under it.
-/

namespace SocketDocs

open Json (Value)

namespace Json

def text? : Value → Option String
  | .string text => some text
  | _ => none

def flag? : Value → Option Bool
  | .bool value => some value
  | _ => none

def choice? : Value → Option String
  | .string name => some name
  | .object [(name, .null)] => some name
  | _ => none

def items? : Value → Option (List Value)
  | .array items => some items
  | _ => none

def fields? (names : List String) : Value → Option (List (String × Value))
  | .object members => some (members.filter fun member => names.contains member.1)
  | .array items => if items.length ≤ names.length then some (names.zip items) else none
  | _ => none

def isSet : Value → Bool
  | .null => false
  | _ => true

def medium : Medium Value where
  text value := Decoder.ofOption (text? value)
  flag value := Decoder.ofOption (flag? value)
  choice value := Decoder.ofOption (choice? value)
  items value := Decoder.ofOption (items? value)
  fields names value := Decoder.ofOption (fields? names value)
  present value := pure (if isSet value then some value else none)
  value := pure

end Json

def Document.ofJson? (value : Value) : Option Document :=
  (Document.decode Json.medium value).run' 0

def Info.ofJson? (value : Value) : Option Info :=
  (Info.decode Json.medium value).run' 0

end SocketDocs
