import SocketDocs.Document.Model

/-!
# Documents as JSON values

Fields stand in a fixed order under their names in the written form. A field that is empty or unset
is left out, except the few that are always there.
-/

namespace SocketDocs

open Json (Value)

def textMember (key text : String) : List (String × Value) :=
  if text.isEmpty then [] else [(key, .string text)]

def valueMember (key : String) : Option Value → List (String × Value)
  | some value => [(key, value)]
  | none => []

def listMember (key : String) (items : List Value) : List (String × Value) :=
  if items.isEmpty then [] else [(key, .array items)]

def Contact.encode (contact : Contact) : Value :=
  .object (textMember "name" contact.name ++ textMember "email" contact.email)

def License.encode (license : License) : Value :=
  .object (textMember "name" license.name ++ textMember "url" license.url)

def Info.encode (info : Info) : Value :=
  .object
    ([("title", .string info.title), ("version", .string info.version),
      ("description", .string info.description)] ++
      (if info.contact.isEmpty then [] else [("contact", info.contact.encode)]) ++
      (if info.license.isEmpty then [] else [("license", info.license.encode)]))

def Parameter.encode (parameter : Parameter) : Value :=
  .object
    ([("name", .string parameter.name), ("in", .string parameter.location.name),
      ("type", .string parameter.typeName), ("required", .bool parameter.required)] ++
      textMember "description" parameter.description)

def ErrorCase.encode (case : ErrorCase) : Value :=
  .object
    ([("code", .string case.code), ("description", .string case.description)] ++
      valueMember "example" case.sample)

def Message.encode (message : Message) : Value :=
  .object
    ([("type", .string message.messageType), ("direction", .string message.direction.name)] ++
      textMember "description" message.description ++
      valueMember "payload" message.payload ++
      valueMember "example" message.sample ++
      listMember "errors" (message.errors.map ErrorCase.encode) ++
      (if message.deprecated then [("deprecated", .bool true)] else []) ++
      listMember "tags" (message.tags.map .string))

def Exchange.encode (exchange : Exchange) : Value :=
  .object
    ([("type", .string exchange.messageType)] ++
      textMember "description" exchange.description ++
      valueMember "send" (exchange.send.map Message.encode) ++
      valueMember "receive" (exchange.receive.map Message.encode))

def Endpoint.encode (endpoint : Endpoint) : Value :=
  .object
    ([("name", .string endpoint.name), ("url", .string endpoint.url)] ++
      textMember "description" endpoint.description ++
      textMember "group" endpoint.group ++
      listMember "tags" (endpoint.tags.map .string) ++
      listMember "connectionParams" (endpoint.parameters.map Parameter.encode) ++
      [("messages", .array (endpoint.exchanges.map Exchange.encode))])

def Document.members (document : Document) : List (String × Value) :=
  [("info", document.info.encode), ("sockets", .array (document.endpoints.map Endpoint.encode))]

def Document.encode (document : Document) : Value :=
  .object document.members

end SocketDocs
