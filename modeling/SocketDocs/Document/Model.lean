import SocketDocs.Json.Value

/-!
# WebSocket API documents

A document lists endpoints. An endpoint has connection parameters and exchanges; an exchange pairs
the message that a client sends with the one that it receives under one message type.
-/

namespace SocketDocs

/-- The way of a message, seen from the client. -/
inductive Direction where
  | send
  | receive
  deriving DecidableEq, Repr

namespace Direction

def name : Direction → String
  | .send => "send"
  | .receive => "receive"

def ofName? : String → Option Direction
  | "send" => some .send
  | "receive" => some .receive
  | _ => none

theorem ofName?_name (d : Direction) : ofName? d.name = some d := by
  cases d <;> rfl

theorem eq_name_of_ofName? {text : String} {d : Direction} (h : ofName? text = some d) :
    text = d.name := by
  unfold ofName? at h
  split at h <;> cases h <;> rfl

end Direction

inductive Location where
  | query
  | header
  deriving DecidableEq, Repr

namespace Location

def name : Location → String
  | .query => "query"
  | .header => "header"

def ofName? : String → Option Location
  | "query" => some .query
  | "header" => some .header
  | _ => none

theorem ofName?_name (l : Location) : ofName? l.name = some l := by
  cases l <;> rfl

theorem eq_name_of_ofName? {text : String} {l : Location} (h : ofName? text = some l) :
    text = l.name := by
  unfold ofName? at h
  split at h <;> cases h <;> rfl

end Location

structure Contact where
  name : String := ""
  email : String := ""
  deriving DecidableEq, Inhabited, Repr

structure License where
  name : String := ""
  url : String := ""
  deriving DecidableEq, Inhabited, Repr

structure Info where
  title : String := ""
  version : String := ""
  description : String := ""
  contact : Contact := {}
  license : License := {}
  deriving DecidableEq, Inhabited, Repr

structure Parameter where
  name : String
  location : Location
  typeName : String
  required : Bool
  description : String := ""
  deriving DecidableEq, Repr

structure ErrorCase where
  code : String
  description : String := ""
  sample : Option Json.Value := none
  deriving DecidableEq, Repr

structure Message where
  messageType : String
  direction : Direction
  description : String := ""
  payload : Option Json.Value := none
  sample : Option Json.Value := none
  errors : List ErrorCase := []
  deprecated : Bool := false
  tags : List String := []
  deriving DecidableEq, Repr

structure Exchange where
  messageType : String
  description : String := ""
  send : Option Message := none
  receive : Option Message := none
  deriving DecidableEq, Repr

structure Endpoint where
  name : String := ""
  url : String := ""
  description : String := ""
  group : String := ""
  tags : List String := []
  parameters : List Parameter := []
  exchanges : List Exchange := []
  deriving DecidableEq, Inhabited, Repr

structure Document where
  info : Info := {}
  endpoints : List Endpoint := []
  deriving DecidableEq, Inhabited, Repr

def Contact.isEmpty (contact : Contact) : Bool :=
  contact.name.isEmpty && contact.email.isEmpty

def License.isEmpty (license : License) : Bool :=
  license.name.isEmpty && license.url.isEmpty

end SocketDocs
