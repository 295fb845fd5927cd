import SocketDocs.Document.Model

/-!
# Structural problems of documents

A document needs a title, a version and an endpoint. Endpoints need distinct names and an address,
exchanges a type and a message, and messages a type and the direction of their slot.
-/

namespace SocketDocs

inductive Problem where
  | noTitle
  | noVersion
  | noEndpoints
  | unnamedEndpoint (endpoint : Nat)
  | repeatedName (endpoint : Nat) (name : String)
  | noUrl (endpoint : Nat)
  | untypedExchange (endpoint exchange : Nat)
  | emptyExchange (endpoint exchange : Nat)
  | untypedMessage (endpoint exchange : Nat) (slot : Direction)
  | wrongDirection (endpoint exchange : Nat) (slot : Direction)
  deriving DecidableEq, Repr

namespace Problem

def endpointPath (endpoint : Nat) : String :=
  "sockets[" ++ toString endpoint ++ "]"

def exchangePath (endpoint exchange : Nat) : String :=
  endpointPath endpoint ++ ".messages[" ++ toString exchange ++ "]"

def messagePath (endpoint exchange : Nat) (slot : Direction) : String :=
  exchangePath endpoint exchange ++ "." ++ slot.name

def message : Problem → String
  | .noTitle => "info.title is required"
  | .noVersion => "info.version is required"
  | .noEndpoints => "at least one WebSocket endpoint is required"
  | .unnamedEndpoint i => endpointPath i ++ ".name is required"
  | .repeatedName i name =>
    endpointPath i ++ ".name `" ++ name ++ "` is already used by another endpoint"
  | .noUrl i => endpointPath i ++ ".url is required"
  | .untypedExchange i j => exchangePath i j ++ ".type is required"
  | .emptyExchange i j => exchangePath i j ++ " must have a send or a receive message"
  | .untypedMessage i j slot => messagePath i j slot ++ ".type is required"
  | .wrongDirection i j slot => messagePath i j slot ++ ".direction does not match its slot"

def when (condition : Bool) (problem : Problem) : List Problem :=
  if condition then [problem] else []

theorem mem_when {condition : Bool} {problem p : Problem} :
    p ∈ when condition problem ↔ condition = true ∧ p = problem := by
  cases condition <;> simp [when]

def ofSlot (i j : Nat) (slot : Direction) : Option Message → List Problem
  | none => []
  | some message =>
    when message.messageType.isEmpty (.untypedMessage i j slot) ++
      when (message.direction != slot) (.wrongDirection i j slot)

def ofExchange (i j : Nat) (exchange : Exchange) : List Problem :=
  when exchange.messageType.isEmpty (.untypedExchange i j) ++
    when (exchange.send.isNone && exchange.receive.isNone) (.emptyExchange i j) ++
    ofSlot i j .send exchange.send ++ ofSlot i j .receive exchange.receive

def ofExchanges (i : Nat) (exchanges : List Exchange) : List Problem :=
  exchanges.zipIdx.flatMap fun (exchange, j) => ofExchange i j exchange

def ofName (i : Nat) (before : List Endpoint) (name : String) : List Problem :=
  if name.isEmpty then [.unnamedEndpoint i]
  else when (before.any (·.name == name)) (.repeatedName i name)

def ofEndpoint (i : Nat) (before : List Endpoint) (endpoint : Endpoint) : List Problem :=
  ofName i before endpoint.name ++ when endpoint.url.isEmpty (.noUrl i) ++
    ofExchanges i endpoint.exchanges

def ofEndpoints (endpoints : List Endpoint) : List Problem :=
  endpoints.zipIdx.flatMap fun (endpoint, i) => ofEndpoint i (endpoints.take i) endpoint

end Problem

def Document.problems (document : Document) : List Problem :=
  Problem.when document.info.title.isEmpty .noTitle ++
    Problem.when document.info.version.isEmpty .noVersion ++
    Problem.when document.endpoints.isEmpty .noEndpoints ++
    Problem.ofEndpoints document.endpoints

end SocketDocs
