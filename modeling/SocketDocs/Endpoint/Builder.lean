import SocketDocs.Catalog
import SocketDocs.Directive

/-!
# Endpoints from annotation blocks

The directives of a block are applied in order. At most one message is under construction: it is
complete, and filed into its exchange, when another is opened, when a new message type is
introduced, or at the end of the block.
-/

namespace SocketDocs

open Json (Value)

inductive Draft where
  | idle
  | building (message : Message)
  deriving Repr

namespace Draft

def message? : Draft → Option Message
  | .idle => none
  | .building message => some message

def openMessage (draft : Draft) (messageType : String) (direction : Direction) :
    Draft × Option Message :=
  (.building { messageType, direction }, draft.message?)

def flush (draft : Draft) : Draft × Option Message :=
  (.idle, draft.message?)

def update (draft : Draft) (change : Message → Message) : Draft :=
  match draft with
  | .idle => .idle
  | .building message => .building (change message)

end Draft

namespace Exchange

/-- Files a message in the slot of its direction, over any message there. The first description of
a message also describes the exchange. -/
def file (exchange : Exchange) (message : Message) : Exchange :=
  let described :=
    if exchange.description.isEmpty then { exchange with description := message.description }
    else exchange
  match message.direction with
  | .send => { described with send := some message }
  | .receive => { described with receive := some message }

def modifyType (messageType : String) (change : Exchange → Exchange) :
    List Exchange → List Exchange
  | [] => [change { messageType }]
  | exchange :: rest =>
    if exchange.messageType = messageType then change exchange :: rest
    else exchange :: modifyType messageType change rest

end Exchange

structure EndpointDraft where
  endpoint : Endpoint := {}
  message : Draft := .idle
  /-- The message type introduced last; empty before the first. -/
  messageType : String := ""
  causes : List Cause := []

namespace EndpointDraft

def warn (draft : EndpointDraft) (cause : Cause) : EndpointDraft :=
  { draft with causes := draft.causes ++ [cause] }

def modifyEndpoint (draft : EndpointDraft) (change : Endpoint → Endpoint) : EndpointDraft :=
  { draft with endpoint := change draft.endpoint }

def modifyExchanges (draft : EndpointDraft) (change : List Exchange → List Exchange) :
    EndpointDraft :=
  draft.modifyEndpoint fun endpoint => { endpoint with exchanges := change endpoint.exchanges }

/-- Files a completed message. A message without a type is dropped. -/
def complete (draft : EndpointDraft) : Option Message → EndpointDraft
  | none => draft
  | some message =>
    if message.messageType.isEmpty then draft.warn (.untypedMessage message.direction)
    else draft.modifyExchanges (Exchange.modifyType message.messageType (·.file message))

def modifyMessage (draft : EndpointDraft) (keyword : String) (change : Message → Message) :
    EndpointDraft :=
  match draft.message with
  | .building message => { draft with message := .building (change message) }
  | .idle => draft.warn (.noOpenMessage keyword)

/-- Changes the open message, or else the endpoint. After a message type has been introduced the
latter is likely a mistake and gives a warning. -/
def modifyMessageOrEndpoint (draft : EndpointDraft) (keyword : String)
    (changeMessage : Message → Message) (changeEndpoint : Endpoint → Endpoint) : EndpointDraft :=
  match draft.message with
  | .building message => { draft with message := .building (changeMessage message) }
  | .idle =>
    let warned :=
      if draft.messageType.isEmpty then draft
      else draft.warn (.appliedToEndpoint keyword draft.messageType)
    warned.modifyEndpoint changeEndpoint

def resolvePayload (catalog : Catalog) : PayloadSource → Except Cause Value
  | .inline value => .ok value
  | .typeRef name =>
    match catalog.resolve? name with
    | some record => .ok record.samplePayload
    | none => .error (.unknownType name)

def introduceType (draft : EndpointDraft) (messageType : String) : EndpointDraft :=
  let (emptied, done) := draft.message.flush
  let filed := { draft with message := emptied }.complete done
  { filed.modifyExchanges (Exchange.modifyType messageType id) with messageType }

def openMessage (draft : EndpointDraft) (direction : Direction) : EndpointDraft :=
  let (opened, done) := draft.message.openMessage draft.messageType direction
  { draft with message := opened }.complete done

def apply (catalog : Catalog) (draft : EndpointDraft) (directive : Directive) : EndpointDraft :=
  let keyword := directive.keyword
  match directive with
  | .webSocket name => draft.modifyEndpoint ({ · with name })
  | .group group => draft.modifyEndpoint ({ · with group })
  | .url url => draft.modifyEndpoint ({ · with url })
  | .description text =>
    draft.modifyMessageOrEndpoint keyword ({ · with description := text })
      ({ · with description := text })
  | .tags tags => draft.modifyMessageOrEndpoint keyword ({ · with tags }) ({ · with tags })
  | .parameter parameter =>
    draft.modifyEndpoint fun endpoint =>
      { endpoint with parameters := endpoint.parameters ++ [parameter] }
  | .message messageType => draft.introduceType messageType
  | .direction direction => draft.openMessage direction
  | .payload source =>
    match resolvePayload catalog source with
    | .ok payload => draft.modifyMessage keyword ({ · with payload := some payload })
    | .error cause => draft.warn cause
  | .sample value => draft.modifyMessage keyword ({ · with sample := some value })
  | .error case =>
    draft.modifyMessage keyword fun message =>
      { message with errors := message.errors ++ [case] }
  | .deprecated => draft.modifyMessage keyword ({ · with deprecated := true })

def finish (draft : EndpointDraft) : EndpointDraft :=
  let (emptied, done) := draft.message.flush
  { draft with message := emptied }.complete done

end EndpointDraft

/-- The endpoint that a block documents, and the causes of its diagnostics. A block without the
endpoint marker documents none and raises none. -/
def Endpoint.ofBlock (catalog : Catalog) (lines : List String) : Option Endpoint × List Cause :=
  if Directive.marksEndpoint lines then
    let (directives, malformed) := Directive.ofBlock lines
    let draft := (directives.foldl (EndpointDraft.apply catalog) { causes := malformed }).finish
    (some draft.endpoint, draft.causes)
  else (none, [])

end SocketDocs
