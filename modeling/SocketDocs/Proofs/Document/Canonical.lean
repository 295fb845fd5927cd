import SocketDocs.Proofs.Document.RoundTrip

/-!
# Canonical texts

A tree spells one value, so a text that loses nothing belongs to one written form. The written form
shows every null among the values, and reading unsets them: a document keeps its text when it is read
and written again exactly if it has none (`Document.text_withoutNulls_iff`).
-/

namespace SocketDocs

open Json (Value)

/-- A node spells at most one value. -/
theorem Yaml.spells_unique {depth : Nat} {node : Node} {v w : Value} (hv : Spells depth node v)
    (hw : Spells depth node w) : v = w := by
  induction depth using Nat.strong_induction_on generalizing node v w with
  | _ depth ih =>
    rcases spells_cases hv with ⟨style, text, rfl, hs⟩ | ⟨d, items, vs, rfl, rfl, rfl, hs⟩ |
      ⟨d, entries, ms, rfl, rfl, rfl, hs⟩
    · rcases spells_cases hw with ⟨_, _, hnode, ht⟩ | ⟨_, _, _, _, hnode, _⟩ | ⟨_, _, _, _, hnode, _⟩
      · cases hnode
        have hread := Spot.scalarValue?_of_spells hs
        rw [Spot.scalarValue?_of_spells ht] at hread
        exact (Option.some.inj hread).symm
      · cases hnode
      · cases hnode
    · have hunique : Relator.RightUnique (Spells d) := fun _ _ _ hv hw =>
        ih d (Nat.lt_succ_self d) hv hw
      rcases spells_cases hw with ⟨_, _, hnode, _⟩ | ⟨_, _, ws, hd, hnode, rfl, ht⟩ |
        ⟨_, _, _, _, hnode, _⟩
      · cases hnode
      · cases hd
        cases hnode
        rw [hunique.forall₂ hs ht]
      · cases hnode
    · have hunique : Relator.RightUnique fun (entry : Node × Node) (m : String × Value) =>
          Spot.scalarText? entry.1 = some m.1 ∧ Spells d entry.2 m.2 := by
        rintro entry ⟨k, v⟩ ⟨l, w⟩ ⟨hk, hv⟩ ⟨hl, hw⟩
        exact Prod.ext (Option.some.inj (hk.symm.trans hl)) (ih d (Nat.lt_succ_self d) hv hw)
      rcases spells_cases hw with ⟨_, _, hnode, _⟩ | ⟨_, _, _, _, hnode, _⟩ |
        ⟨_, _, ns, hd, hnode, rfl, ht⟩
      · cases hnode
      · cases hnode
      · cases hd
        cases hnode
        rw [hunique.forall₂ hs ht]

-- ---------------------------------------------------------------------------
-- Nulls in the written form
-- ---------------------------------------------------------------------------

theorem ErrorCase.member?_example (case : ErrorCase) :
    case.encode.member? "example" = case.sample := by
  simp [encode, Value.member?, List.lookup_cons, lookup_valueMember]

theorem Message.member?_payload (message : Message) :
    message.encode.member? "payload" = message.payload := by
  simp [encode, Value.member?, List.lookup_append, List.lookup_cons, lookup_textMember,
    lookup_valueMember, lookup_listMember, lookup_when]

theorem Message.member?_example (message : Message) :
    message.encode.member? "example" = message.sample := by
  simp [encode, Value.member?, List.lookup_append, List.lookup_cons, lookup_textMember,
    lookup_valueMember, lookup_listMember, lookup_when]

theorem Message.member?_errors (message : Message) :
    (message.encode.member? "errors").getD (.array []) =
      .array (message.errors.map ErrorCase.encode) := by
  cases herrors : message.errors <;>
    simp [encode, Value.member?, List.lookup_append, List.lookup_cons, lookup_textMember,
      lookup_valueMember, lookup_listMember, lookup_when, herrors]

theorem Exchange.member?_send (exchange : Exchange) :
    exchange.encode.member? "send" = exchange.send.map Message.encode := by
  simp [encode, Value.member?, List.lookup_append, List.lookup_cons, lookup_textMember,
    lookup_valueMember]

theorem Exchange.member?_receive (exchange : Exchange) :
    exchange.encode.member? "receive" = exchange.receive.map Message.encode := by
  simp [encode, Value.member?, List.lookup_append, List.lookup_cons, lookup_textMember,
    lookup_valueMember]

theorem Endpoint.member?_messages (endpoint : Endpoint) :
    endpoint.encode.member? "messages" = some (.array (endpoint.exchanges.map Exchange.encode)) := by
  simp [encode, Value.member?, List.lookup_append, List.lookup_cons, lookup_textMember,
    lookup_listMember]

theorem Document.member?_sockets (document : Document) :
    document.encode.member? "sockets" =
      some (.array (document.endpoints.map Endpoint.encode)) := by
  simp [encode, members, Value.member?, List.lookup_cons]

theorem ErrorCase.withoutNulls_of_encode (case : ErrorCase)
    (h : case.withoutNulls.encode = case.encode) : case.withoutNulls = case := by
  have hsample : unsetNull case.sample = case.sample := by
    simpa [member?_example, withoutNulls] using congrArg (Value.member? "example") h
  simp only [withoutNulls, hsample]

theorem Message.withoutNulls_of_encode (message : Message)
    (h : message.withoutNulls.encode = message.encode) : message.withoutNulls = message := by
  have hpayload : unsetNull message.payload = message.payload := by
    simpa [member?_payload, withoutNulls] using congrArg (Value.member? "payload") h
  have hsample : unsetNull message.sample = message.sample := by
    simpa [member?_example, withoutNulls] using congrArg (Value.member? "example") h
  have herrors : ∀ case ∈ message.errors, case.withoutNulls.encode = case.encode := by
    simpa [member?_errors, withoutNulls] using
      congrArg (fun v => (v.member? "errors").getD (.array [])) h
  have hself := map_eq_self_iff.mpr fun case hcase =>
    ErrorCase.withoutNulls_of_encode case (herrors case hcase)
  simp only [withoutNulls, hpayload, hsample, hself]

theorem Exchange.withoutNulls_of_encode (exchange : Exchange)
    (h : exchange.withoutNulls.encode = exchange.encode) : exchange.withoutNulls = exchange := by
  have hkept {message : Option Message}
      (h : message.map (Message.encode ∘ Message.withoutNulls) = message.map Message.encode) :
      message.map Message.withoutNulls = message := by
    cases message with
    | none => rfl
    | some message => rw [Option.map_some, Message.withoutNulls_of_encode message (Option.some.inj h)]
  have hsend := congrArg (Value.member? "send") h
  have hreceive := congrArg (Value.member? "receive") h
  simp only [member?_send, member?_receive, withoutNulls, Option.map_map] at hsend hreceive
  simp only [withoutNulls, hkept hsend, hkept hreceive]

theorem Endpoint.withoutNulls_of_encode (endpoint : Endpoint)
    (h : endpoint.withoutNulls.encode = endpoint.encode) : endpoint.withoutNulls = endpoint := by
  have hexchanges : ∀ exchange ∈ endpoint.exchanges,
      exchange.withoutNulls.encode = exchange.encode := by
    simpa [member?_messages, withoutNulls] using congrArg (Value.member? "messages") h
  have hself := map_eq_self_iff.mpr fun exchange hexchange =>
    Exchange.withoutNulls_of_encode exchange (hexchanges exchange hexchange)
  simp only [withoutNulls, hself]

namespace Document

variable {document : Document}

theorem nullFree_of_encode (h : document.withoutNulls.encode = document.encode) :
    document.NullFree := by
  have hendpoints : ∀ endpoint ∈ document.endpoints,
      endpoint.withoutNulls.encode = endpoint.encode := by
    simpa [member?_sockets, withoutNulls] using congrArg (Value.member? "sockets") h
  have hself := map_eq_self_iff.mpr fun endpoint hendpoint =>
    Endpoint.withoutNulls_of_encode endpoint (hendpoints endpoint hendpoint)
  rw [← withoutNulls_eq_self_iff, withoutNulls, hself]

theorem nullFree_withoutNulls (document : Document) : document.withoutNulls.NullFree :=
  nullFree_of_ofJson? (ofJson?_encode document)

/-- What is read from the text of a document has the same text exactly if the document has no
nulls. -/
theorem text_withoutNulls_iff {format : Format} (htext : document.TextLossless format)
    (htext' : document.withoutNulls.TextLossless format) :
    document.withoutNulls.text format = document.text format ↔ document.NullFree := by
  constructor
  · intro h
    obtain ⟨tree, root, htree, hroot, hspells⟩ := htext
    obtain ⟨tree', root', htree', hroot', hspells'⟩ := htext'
    rw [h, htree] at htree'
    cases htree'
    rw [hroot] at hroot'
    cases hroot'
    exact nullFree_of_encode (Yaml.spells_unique hspells' hspells)
  · intro h
    rw [withoutNulls_eq_self_iff.mpr h]

end Document

end SocketDocs
