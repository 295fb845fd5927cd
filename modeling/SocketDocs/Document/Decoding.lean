import SocketDocs.Document.Model

/-!
# Documents from data trees

A document is read from a tree of data by the kinds of its parts: texts, flags, choices, lists and
records. What a medium takes for each of them is its own affair. Fields that may be left out have
the values of an empty document; unknown fields are passed over.
-/

namespace SocketDocs

open Json (Value)

/-- Reading from a tree whose parts may be shared; the state says how many more times a shared part
may be used. -/
abbrev Decoder := StateT Nat Option

namespace Decoder

def fail {α : Type} : Decoder α := fun _ => none

def share : Decoder Unit
  | 0 => none
  | left + 1 => some ((), left)

def ofOption {α : Type} : Option α → Decoder α
  | some a => pure a
  | none => fail

end Decoder

/-- How the parts of a document are found in trees of one kind. -/
structure Medium (σ : Type) where
  text : σ → Decoder String
  flag : σ → Decoder Bool
  choice : σ → Decoder String
  items : σ → Decoder (List σ)
  /-- The fields of a record whose names, in their order, are given. -/
  fields : List String → σ → Decoder (List (String × σ))
  /-- The tree itself, unless it says that a part is unset. -/
  present : σ → Decoder (Option σ)
  value : σ → Decoder Value

namespace Medium

variable {σ : Type} {α : Type}

def list (medium : Medium σ) (read : σ → Decoder α) (tree : σ) : Decoder (List α) := do
  (← medium.items tree).mapM read

def option (medium : Medium σ) (read : σ → Decoder α) (tree : σ) : Decoder (Option α) := do
  match ← medium.present tree with
  | some tree => return some (← read tree)
  | none => return none

def oneOf (medium : Medium σ) (ofName? : String → Option α) (tree : σ) : Decoder α := do
  Decoder.ofOption (ofName? (← medium.choice tree))

end Medium

namespace Decoder

variable {σ : Type} {α : Type}

def mandatory (fields : List (String × σ)) (name : String) (read : σ → Decoder α) : Decoder α :=
  match fields.lookup name with
  | some tree => read tree
  | none => fail

def defaulted (fields : List (String × σ)) (name : String) (default : α) (read : σ → Decoder α) :
    Decoder α :=
  match fields.lookup name with
  | some tree => read tree
  | none => pure default

end Decoder

open Decoder (mandatory defaulted)

variable {σ : Type} (medium : Medium σ) (tree : σ)

def Contact.decode : Decoder Contact := do
  let fields ← medium.fields ["name", "email"] tree
  let name ← defaulted fields "name" "" medium.text
  let email ← defaulted fields "email" "" medium.text
  return { name, email }

def License.decode : Decoder License := do
  let fields ← medium.fields ["name", "url"] tree
  let name ← defaulted fields "name" "" medium.text
  let url ← defaulted fields "url" "" medium.text
  return { name, url }

def Info.decode : Decoder Info := do
  let fields ← medium.fields ["title", "version", "description", "contact", "license"] tree
  let title ← defaulted fields "title" "" medium.text
  let version ← defaulted fields "version" "" medium.text
  let description ← defaulted fields "description" "" medium.text
  let contact ← defaulted fields "contact" {} (Contact.decode medium)
  let license ← defaulted fields "license" {} (License.decode medium)
  return { title, version, description, contact, license }

def Parameter.decode : Decoder Parameter := do
  let fields ← medium.fields ["name", "in", "type", "required", "description"] tree
  let name ← mandatory fields "name" medium.text
  let location ← mandatory fields "in" (medium.oneOf Location.ofName?)
  let typeName ← mandatory fields "type" medium.text
  let required ← mandatory fields "required" medium.flag
  let description ← defaulted fields "description" "" medium.text
  return { name, location, typeName, required, description }

def ErrorCase.decode : Decoder ErrorCase := do
  let fields ← medium.fields ["code", "description", "example"] tree
  let code ← mandatory fields "code" medium.text
  let description ← defaulted fields "description" "" medium.text
  let sample ← defaulted fields "example" none (medium.option medium.value)
  return { code, description, sample }

def Message.decode : Decoder Message := do
  let fields ← medium.fields
    ["type", "direction", "description", "payload", "example", "errors", "deprecated", "tags"] tree
  let messageType ← mandatory fields "type" medium.text
  let direction ← mandatory fields "direction" (medium.oneOf Direction.ofName?)
  let description ← defaulted fields "description" "" medium.text
  let payload ← defaulted fields "payload" none (medium.option medium.value)
  let sample ← defaulted fields "example" none (medium.option medium.value)
  let errors ← defaulted fields "errors" [] (medium.list (ErrorCase.decode medium))
  let deprecated ← defaulted fields "deprecated" false medium.flag
  let tags ← defaulted fields "tags" [] (medium.list medium.text)
  return { messageType, direction, description, payload, sample, errors, deprecated, tags }

def Exchange.decode : Decoder Exchange := do
  let fields ← medium.fields ["type", "description", "send", "receive"] tree
  let messageType ← mandatory fields "type" medium.text
  let description ← defaulted fields "description" "" medium.text
  let send ← defaulted fields "send" none (medium.option (Message.decode medium))
  let receive ← defaulted fields "receive" none (medium.option (Message.decode medium))
  return { messageType, description, send, receive }

def Endpoint.decode : Decoder Endpoint := do
  let fields ← medium.fields
    ["name", "url", "description", "group", "tags", "connectionParams", "messages"] tree
  let name ← defaulted fields "name" "" medium.text
  let url ← defaulted fields "url" "" medium.text
  let description ← defaulted fields "description" "" medium.text
  let group ← defaulted fields "group" "" medium.text
  let tags ← defaulted fields "tags" [] (medium.list medium.text)
  let parameters ← defaulted fields "connectionParams" []
    (medium.list (Parameter.decode medium))
  let exchanges ← defaulted fields "messages" [] (medium.list (Exchange.decode medium))
  return { name, url, description, group, tags, parameters, exchanges }

def Document.decode : Decoder Document := do
  let fields ← medium.fields ["info", "sockets"] tree
  let info ← defaulted fields "info" {} (Info.decode medium)
  let endpoints ← defaulted fields "sockets" [] (medium.list (Endpoint.decode medium))
  return { info, endpoints }

end SocketDocs
