import SocketDocs.Endpoint.Builder
import SocketDocs.Proofs.Catalog.Positions
import SocketDocs.Proofs.Directive.Accesses
import SocketDocs.Proofs.Directive.Readings

/-!
# Endpoints read by position

A block is read by position against a catalog that is kept by position. Of the directives only the
payloads look at the catalog, and no look-up goes past its records, so whatever the lines are and
whatever was inserted, the reading gets through and gives what the block documents
(`Endpoint.ofBlock_in_bounds`).
-/

namespace SocketDocs

open Json (Value)

namespace EndpointDraft

open Catalog (Table)

def resolvePayload? (table : Table) : PayloadSource → Option (Except Cause Value)
  | .inline value => some (.ok value)
  | .typeRef name => do
    match ← table.resolve? name with
    | some record => return .ok record.samplePayload
    | none => return .error (.unknownType name)

/-- Any other directive than a payload is applied without the catalog. -/
def next? (table : Table) (draft : EndpointDraft) (directive : Directive) :
    Option EndpointDraft :=
  match directive with
  | .payload source => do
    match ← resolvePayload? table source with
    | .ok payload => return draft.modifyMessage directive.keyword ({ · with payload := some payload })
    | .error cause => return draft.warn cause
  | other => some (draft.apply .empty other)

section

variable {table : Table} {catalog : Catalog} (h : table.Represents catalog)
include h

theorem resolvePayload?_eq (source : PayloadSource) :
    resolvePayload? table source = some (resolvePayload catalog source) := by
  cases source with
  | inline value => rfl
  | typeRef name =>
    rw [resolvePayload?, h.resolve?_eq, resolvePayload]
    cases catalog.resolve? name <;> rfl

theorem next?_eq (draft : EndpointDraft) (directive : Directive) :
    next? table draft directive = some (draft.apply catalog directive) := by
  cases directive
  case payload source =>
    rw [next?, resolvePayload?_eq h, apply]
    cases resolvePayload catalog source <;> rfl
  all_goals rfl

theorem foldlM_next? (draft : EndpointDraft) (directives : List Directive) :
    directives.foldlM (next? table) draft = some (directives.foldl (apply catalog) draft) := by
  induction directives generalizing draft with
  | nil => rfl
  | cons directive later ih =>
    rw [List.foldlM_cons, next?_eq h, Option.bind_eq_bind, Option.bind_some, ih, List.foldl_cons]

end

end EndpointDraft

namespace Endpoint

open Catalog (Table)

def ofBlock? (table : Table) (lines : List String) : Option (Option Endpoint × List Cause) :=
  if Directive.marksEndpoint lines then do
    let (directives, malformed) ← Directive.ofBlock? lines
    let draft ← directives.foldlM (EndpointDraft.next? table) { causes := malformed }
    return (some draft.finish.endpoint, draft.finish.causes)
  else some (none, [])

theorem ofBlock?_eq {table : Table} {catalog : Catalog} (h : table.Represents catalog)
    (lines : List String) : ofBlock? table lines = some (ofBlock catalog lines) := by
  unfold ofBlock? ofBlock
  split
  · rw [Directive.ofBlock?_eq, Option.bind_eq_bind, Option.bind_some]
    dsimp only
    rw [EndpointDraft.foldlM_next? h]
    rfl
  · rfl

/-- No access of the reading of a block fails. -/
theorem ofBlock_in_bounds (records : List Record) (lines : List String) :
    ofBlock? (Table.ofRecords records) lines =
        some (ofBlock (Catalog.ofRecords records) lines) ∧
      (∀ segment ∈ Directive.segments lines, ∃ name arguments rest,
        Text.words segment.1 = name :: arguments ∧
        segment.1.toList = name.toList ++ rest ∧
        Text.dropBytes? (Text.byteLength name.toList) segment.1.toList = some rest) ∧
      (∀ arguments, Directive.readParameter? arguments = some (Directive.readParameter arguments)) ∧
      (∀ arguments body,
        Directive.readError? arguments body = some (Directive.readError arguments body)) ∧
      (∀ text, Literal.value? text = some (Literal.value text)) ∧
      ∀ entry ∈ (Table.ofRecords records).positions,
        entry.2 < (Table.ofRecords records).records.length := by
  have hrepresents := Catalog.Table.represents_ofRecords records
  refine ⟨ofBlock?_eq hrepresents lines, fun segment hsegment => ?_,
    Directive.readParameter?_eq, Directive.readError?_eq, Literal.value?_eq,
    hrepresents.position_lt⟩
  exact Directive.exists_cut_of_opens (Directive.opens_of_mem_segments hsegment).2

end Endpoint

end SocketDocs
