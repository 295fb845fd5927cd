import SocketDocs.Document.Model
import SocketDocs.Proofs.Json.Ordered

/-!
# The values in a document

Payloads and samples are the parts of a document that hold JSON. A value that is null has the same
written form as one that is not set, so only documents without such values can be told from their
written form (`withoutNulls_eq_self_iff`).
-/

namespace SocketDocs

open Json (Value)

/-- A value as it is read back: null stands for a value that is not set. -/
def unsetNull : Option Value → Option Value
  | some .null => none
  | value => value

theorem unsetNull_eq_self_iff {value : Option Value} :
    unsetNull value = value ↔ ∀ v ∈ value.toList, v ≠ .null := by
  cases value with
  | none => simp [unsetNull]
  | some v => cases v <;> simp [unsetNull]

-- ---------------------------------------------------------------------------
-- The values, and the document without nulls among them
-- ---------------------------------------------------------------------------

namespace ErrorCase

def values (case : ErrorCase) : List Value :=
  case.sample.toList

def withoutNulls (case : ErrorCase) : ErrorCase :=
  { case with sample := unsetNull case.sample }

end ErrorCase

namespace Message

def values (message : Message) : List Value :=
  message.payload.toList ++ message.sample.toList ++ message.errors.flatMap ErrorCase.values

def withoutNulls (message : Message) : Message :=
  { message with
    payload := unsetNull message.payload
    sample := unsetNull message.sample
    errors := message.errors.map ErrorCase.withoutNulls }

end Message

namespace Exchange

def values (exchange : Exchange) : List Value :=
  exchange.send.toList.flatMap Message.values ++ exchange.receive.toList.flatMap Message.values

def withoutNulls (exchange : Exchange) : Exchange :=
  { exchange with
    send := exchange.send.map Message.withoutNulls
    receive := exchange.receive.map Message.withoutNulls }

end Exchange

namespace Endpoint

def values (endpoint : Endpoint) : List Value :=
  endpoint.exchanges.flatMap Exchange.values

def withoutNulls (endpoint : Endpoint) : Endpoint :=
  { endpoint with exchanges := endpoint.exchanges.map Exchange.withoutNulls }

end Endpoint

namespace Document

def values (document : Document) : List Value :=
  document.endpoints.flatMap Endpoint.values

def withoutNulls (document : Document) : Document :=
  { document with endpoints := document.endpoints.map Endpoint.withoutNulls }

def NullFree (document : Document) : Prop :=
  ∀ v ∈ document.values, v ≠ .null

def Ordered (document : Document) : Prop :=
  ∀ v ∈ document.values, v.Ordered

end Document

-- ---------------------------------------------------------------------------
-- Documents that lose nothing
-- ---------------------------------------------------------------------------

theorem map_eq_self_iff {α : Type} {f : α → α} {l : List α} :
    l.map f = l ↔ ∀ a ∈ l, f a = a := by
  induction l with
  | nil => simp
  | cons a l ih => simp [ih]

theorem option_map_eq_self_iff {α : Type} {f : α → α} {o : Option α} :
    o.map f = o ↔ ∀ a ∈ o.toList, f a = a := by
  cases o <;> simp

theorem ErrorCase.withoutNulls_eq_self_iff {case : ErrorCase} :
    case.withoutNulls = case ↔ ∀ v ∈ case.values, v ≠ .null := by
  obtain ⟨code, description, sample⟩ := case
  simp [withoutNulls, values, unsetNull_eq_self_iff]

theorem Message.withoutNulls_eq_self_iff {message : Message} :
    message.withoutNulls = message ↔ ∀ v ∈ message.values, v ≠ .null := by
  obtain ⟨messageType, direction, description, payload, sample, errors, deprecated, tags⟩ := message
  simp only [withoutNulls, values, List.forall_mem_append, List.forall_mem_flatMap,
    ← unsetNull_eq_self_iff, ← ErrorCase.withoutNulls_eq_self_iff, ← map_eq_self_iff]
  simp [and_assoc]

theorem Exchange.withoutNulls_eq_self_iff {exchange : Exchange} :
    exchange.withoutNulls = exchange ↔ ∀ v ∈ exchange.values, v ≠ .null := by
  obtain ⟨messageType, description, send, receive⟩ := exchange
  simp only [withoutNulls, values, List.forall_mem_append, List.forall_mem_flatMap,
    ← Message.withoutNulls_eq_self_iff, ← option_map_eq_self_iff]
  simp

theorem Endpoint.withoutNulls_eq_self_iff {endpoint : Endpoint} :
    endpoint.withoutNulls = endpoint ↔ ∀ v ∈ endpoint.values, v ≠ .null := by
  obtain ⟨name, url, description, group, tags, parameters, exchanges⟩ := endpoint
  simp only [withoutNulls, values, List.forall_mem_flatMap, ← Exchange.withoutNulls_eq_self_iff,
    ← map_eq_self_iff]
  simp

theorem Document.withoutNulls_eq_self_iff {document : Document} :
    document.withoutNulls = document ↔ document.NullFree := by
  obtain ⟨info, endpoints⟩ := document
  simp only [withoutNulls, NullFree, values, List.forall_mem_flatMap,
    ← Endpoint.withoutNulls_eq_self_iff, ← map_eq_self_iff]
  simp

end SocketDocs
