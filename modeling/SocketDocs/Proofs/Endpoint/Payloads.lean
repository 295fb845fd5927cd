import SocketDocs.Proofs.Extraction.Values

/-!
# The payloads of an endpoint

A payload is an object or an array, with one exception: an inline literal that opens a bracket but
is no JSON is kept as text (`Directive.readPayload_inline`). The values of inline payloads go into
the messages only. What the builder warns of depends on the directives without those values
(`EndpointDraft.Alike.foldl`), so nothing tells from the causes of a block that a text was kept
(`Endpoint.payloads_ofBlock`).
-/

namespace SocketDocs

open Json (Value)
open DocBlock (isCollection opensLiteral)

-- ---------------------------------------------------------------------------
-- Literals
-- ---------------------------------------------------------------------------

namespace Directive

/-- A text that opens like an object or an array and is no JSON. -/
def IsRaw (literal : String) : Prop :=
  opensLiteral literal.toList = true ∧ Json.parse? literal = none

theorem readPayload_inline {literal : String} {v : Value}
    (h : readPayload literal = .ok (.inline v)) :
    isCollection v = true ∨ (IsRaw literal ∧ v = .string literal) := by
  obtain ⟨hopen, rfl⟩ := readPayload_eq_inline_iff.mp h
  cases hparse : Json.parse? literal with
  | none => exact .inr ⟨⟨hopen, hparse⟩, rfl⟩
  | some v =>
    obtain ⟨c, cs, hcs, hc⟩ := exists_cons_of_opensLiteral hopen
    rw [Json.parse?, hcs] at hparse
    refine .inl ?_
    rcases Json.collection_of_parseChars? hc hparse with ⟨items, rfl⟩ | ⟨members, rfl⟩ <;> rfl

theorem readPayload_of_isRaw {literal : String} (h : IsRaw literal) :
    readPayload literal = .ok (.inline (.string literal)) := by
  rw [readPayload_eq_inline_iff, h.2]
  exact ⟨h.1, rfl⟩

end Directive

-- ---------------------------------------------------------------------------
-- Payloads that are kept
-- ---------------------------------------------------------------------------

theorem Record.isCollection_samplePayload (record : Record) :
    isCollection record.samplePayload = true := rfl

def Endpoint.payloads (endpoint : Endpoint) : List Value :=
  (endpoint.exchanges.flatMap fun x => x.send.toList ++ x.receive.toList).filterMap (·.payload)

theorem Directive.isCollection_of_payload? {catalog : Catalog} {lines : List String} {d : Directive}
    (hd : d ∈ (ofBlock lines).1) {v : Value} (h : d.payload? catalog = some v) :
    isCollection v = true ∨
      ∃ literal, IsRaw literal ∧ v = .string literal ∧ d = .payload (.inline v) := by
  obtain ⟨line, name, arguments, rest, body, -, hstated⟩ := stated_of_mem_ofBlock hd
  unfold payload? at h
  split at h
  · cases h
    exact (readPayload_inline hstated).imp_right fun ⟨hraw, heq⟩ => ⟨_, hraw, heq, rfl⟩
  · obtain ⟨record, -, rfl⟩ := Option.map_eq_some_iff.mp h
    exact .inl record.isCollection_samplePayload
  · cases h

/-- A payload that is no collection is a text that stands in the block. -/
theorem Endpoint.isCollection_of_mem_payloads {catalog : Catalog} {lines : List String} {v : Value}
    (h : v ∈ (ofDirectives catalog (Directive.ofBlock lines).1).payloads) :
    isCollection v = true ∨
      ∃ literal, Directive.IsRaw literal ∧ v = .string literal ∧
        .payload (.inline v) ∈ (Directive.ofBlock lines).1 := by
  obtain ⟨m, hm, hpayload⟩ := List.mem_filterMap.mp h
  obtain ⟨x, hx, hm⟩ := List.mem_flatMap.mp hm
  obtain ⟨t, -, rfl⟩ := List.mem_map.mp hx
  have hslot : ∃ direction, Exchange.slotOf catalog (Segment.all (Directive.ofBlock lines).1) t
      direction = some m := by
    rcases List.mem_append.mp hm with hm | hm
    · exact ⟨.send, Option.mem_toList.mp hm⟩
    · exact ⟨.receive, Option.mem_toList.mp hm⟩
  obtain ⟨direction, hslot⟩ := hslot
  obtain ⟨s, hs, -, -, rfl⟩ := Exchange.slotOf_eq_some hslot
  obtain ⟨d, hd, hread⟩ := Directive.exists_of_last? hpayload
  have hmem := Segment.body_subset hs hd
  refine (Directive.isCollection_of_payload? hmem hread).imp_right ?_
  rintro ⟨literal, hraw, heq, rfl⟩
  exact ⟨literal, hraw, heq, hmem⟩

-- ---------------------------------------------------------------------------
-- Warnings without the values
-- ---------------------------------------------------------------------------

def Directive.outline : Directive → Directive
  | .payload (.inline _) => .payload (.inline .null)
  | x => x

def Message.heading (message : Message) : String × Direction :=
  (message.messageType, message.direction)

namespace EndpointDraft

/-- Two builders that differ in contents only, of which no warning tells anything. -/
structure Alike (a b : EndpointDraft) : Prop where
  causes : a.causes = b.causes
  messageType : a.messageType = b.messageType
  heading : a.message.message?.map Message.heading = b.message.message?.map Message.heading

namespace Alike

variable {a b : EndpointDraft} (h : Alike a b)
include h

theorem warn (cause : Cause) : Alike (a.warn cause) (b.warn cause) where
  causes := by simp only [EndpointDraft.warn, h.causes]
  messageType := h.messageType
  heading := h.heading

theorem modifyEndpoint (f g : Endpoint → Endpoint) :
    Alike (a.modifyEndpoint f) (b.modifyEndpoint g) :=
  ⟨h.causes, h.messageType, h.heading⟩

theorem complete {done done' : Option Message}
    (hdone : done.map Message.heading = done'.map Message.heading) :
    Alike (a.complete done) (b.complete done') := by
  cases done with
  | none =>
    cases done' with
    | none => exact h
    | some message' => cases hdone
  | some message =>
    cases done' with
    | none => cases hdone
    | some message' =>
      simp only [Option.map_some, Option.some.injEq, Message.heading, Prod.mk.injEq] at hdone
      simp only [EndpointDraft.complete, hdone.1, hdone.2]
      split
      · exact h.warn _
      · exact h.modifyEndpoint _ _

theorem withMessage {c d : Draft}
    (hmessage : c.message?.map Message.heading = d.message?.map Message.heading) :
    Alike { a with message := c } { b with message := d } :=
  ⟨h.causes, h.messageType, hmessage⟩

theorem message_cases :
    (a.message = .idle ∧ b.message = .idle) ∨
      ∃ m m', a.message = .building m ∧ b.message = .building m' ∧ m.heading = m'.heading := by
  have hheading := h.heading
  cases ha : a.message <;> cases hb : b.message <;> rw [ha, hb] at hheading
  · exact .inl ⟨rfl, rfl⟩
  · cases hheading
  · cases hheading
  · exact .inr ⟨_, _, rfl, rfl, Option.some.inj hheading⟩

theorem modifyMessage (keyword : String) {f g : Message → Message}
    (hf : ∀ m, (f m).heading = m.heading) (hg : ∀ m, (g m).heading = m.heading) :
    Alike (a.modifyMessage keyword f) (b.modifyMessage keyword g) := by
  unfold EndpointDraft.modifyMessage
  rcases h.message_cases with ⟨ha, hb⟩ | ⟨m, m', ha, hb, hheading⟩
  · rw [ha, hb]
    exact h.warn _
  · rw [ha, hb]
    exact h.withMessage (by simp [Draft.message?, hf, hg, hheading])

theorem modifyMessageOrEndpoint (keyword : String) {f : Message → Message}
    (hf : ∀ m, (f m).heading = m.heading) (change : Endpoint → Endpoint) :
    Alike (a.modifyMessageOrEndpoint keyword f change)
      (b.modifyMessageOrEndpoint keyword f change) := by
  unfold EndpointDraft.modifyMessageOrEndpoint
  rcases h.message_cases with ⟨ha, hb⟩ | ⟨m, m', ha, hb, hheading⟩
  · rw [ha, hb, h.messageType]
    dsimp only
    split
    · exact h.modifyEndpoint _ _
    · exact (h.warn _).modifyEndpoint _ _
  · rw [ha, hb]
    exact h.withMessage (by simp [Draft.message?, hf, hheading])

theorem introduceType (messageType : String) :
    Alike (a.introduceType messageType) (b.introduceType messageType) := by
  have hfiled := (h.withMessage (c := .idle) (d := .idle) rfl).complete h.heading
  exact ⟨hfiled.causes, rfl, hfiled.heading⟩

theorem openMessage (direction : Direction) :
    Alike (a.openMessage direction) (b.openMessage direction) := by
  refine (h.withMessage ?_).complete h.heading
  simp only [Draft.message?, h.messageType]

theorem finish : Alike a.finish b.finish :=
  (h.withMessage (c := .idle) (d := .idle) rfl).complete h.heading

/-- Taking the value out of a payload changes nothing that a warning tells of. -/
theorem apply (catalog : Catalog) (x : Directive) :
    Alike (a.apply catalog x) (b.apply catalog x.outline) := by
  unfold EndpointDraft.apply
  cases x with
  | webSocket name => exact h.modifyEndpoint _ _
  | group text => exact h.modifyEndpoint _ _
  | url text => exact h.modifyEndpoint _ _
  | parameter parameter => exact h.modifyEndpoint _ _
  | description text =>
    refine h.modifyMessageOrEndpoint _ ?_ _
    exact fun _ => rfl
  | tags names =>
    refine h.modifyMessageOrEndpoint _ ?_ _
    exact fun _ => rfl
  | message messageType => exact h.introduceType messageType
  | direction direction => exact h.openMessage direction
  | sample value => exact h.modifyMessage _ (fun _ => rfl) fun _ => rfl
  | error case => exact h.modifyMessage _ (fun _ => rfl) fun _ => rfl
  | deprecated => exact h.modifyMessage _ (fun _ => rfl) fun _ => rfl
  | payload source =>
    cases source with
    | inline value => exact h.modifyMessage _ (fun _ => rfl) fun _ => rfl
    | typeRef name =>
      dsimp only [Directive.outline]
      cases resolvePayload catalog (.typeRef name) with
      | error cause => exact h.warn cause
      | ok payload => exact h.modifyMessage _ (fun _ => rfl) fun _ => rfl

theorem foldl (catalog : Catalog) (directives : List Directive) :
    Alike (directives.foldl (EndpointDraft.apply catalog) a)
      ((directives.map Directive.outline).foldl (EndpointDraft.apply catalog) b) := by
  induction directives generalizing a b with
  | nil => exact h
  | cons x directives ih => exact ih (h.apply catalog x)

end Alike

end EndpointDraft

-- ---------------------------------------------------------------------------
-- Blocks
-- ---------------------------------------------------------------------------

namespace Endpoint

open Directive (marksEndpoint outline)

theorem causes_outline (catalog : Catalog) {lines : List String} (h : marksEndpoint lines = true) :
    (Endpoint.ofBlock catalog lines).2 =
      (((Directive.ofBlock lines).1.map outline).foldl (EndpointDraft.apply catalog)
        { causes := (Directive.ofBlock lines).2 }).finish.causes := by
  unfold Endpoint.ofBlock
  rw [if_pos h]
  exact (EndpointDraft.Alike.foldl ⟨rfl, rfl, rfl⟩ catalog _).finish.causes

/-- Every payload of an endpoint is an object or an array, unless it is the text of an inline
payload of the block that is no JSON. No diagnostic tells that a text was kept: such a text is not
refused, and all blocks whose directives are the same up to the values of inline payloads, with the
same causes of refused lines, have the same causes. -/
theorem payloads_ofBlock {catalog : Catalog} {lines : List String} {endpoint : Endpoint}
    (h : (Endpoint.ofBlock catalog lines).1 = some endpoint) :
    (∀ payload ∈ endpoint.payloads, isCollection payload = true ∨
      ∃ literal, Directive.IsRaw literal ∧ payload = .string literal ∧
        .payload (.inline payload) ∈ (Directive.ofBlock lines).1) ∧
    (∀ literal, Directive.IsRaw literal →
      Directive.readPayload literal = .ok (.inline (.string literal))) ∧
    ∀ other, marksEndpoint other = true →
      (Directive.ofBlock other).2 = (Directive.ofBlock lines).2 →
      (Directive.ofBlock other).1.map outline = (Directive.ofBlock lines).1.map outline →
      (Endpoint.ofBlock catalog other).2 = (Endpoint.ofBlock catalog lines).2 := by
  obtain ⟨hmarked, rfl⟩ := (ofBlock_eq_some_iff ..).mp h
  refine ⟨fun payload => isCollection_of_mem_payloads, fun _ => Directive.readPayload_of_isRaw, ?_⟩
  intro other hother hrefused hdirectives
  rw [causes_outline catalog hother, causes_outline catalog hmarked, hrefused, hdirectives]

/-- Two blocks that differ in the last character: one text is kept, and the other is an object. -/
theorem payloads_ofBlock_unclosed :
    ∃ endpoint,
      (Endpoint.ofBlock Catalog.empty
        ["@WebSocket chat", "@Message m", "@Send", "@Payload \x7b"]).1 = some endpoint ∧
      (∀ payload ∈ endpoint.payloads, isCollection payload = true ∨
        ∃ literal, Directive.IsRaw literal ∧ payload = .string literal ∧
          .payload (.inline payload) ∈ (Directive.ofBlock
            ["@WebSocket chat", "@Message m", "@Send", "@Payload \x7b"]).1) ∧
      (Endpoint.ofBlock Catalog.empty
          ["@WebSocket chat", "@Message m", "@Send", "@Payload \x7b\x7d"]).2 =
        (Endpoint.ofBlock Catalog.empty
          ["@WebSocket chat", "@Message m", "@Send", "@Payload \x7b"]).2 := by
  have hsome : ∃ endpoint, (Endpoint.ofBlock Catalog.empty
      ["@WebSocket chat", "@Message m", "@Send", "@Payload \x7b"]).1 = some endpoint :=
    ⟨_, rfl⟩
  obtain ⟨endpoint, hendpoint⟩ := hsome
  obtain ⟨hpayloads, -, hcauses⟩ := payloads_ofBlock hendpoint
  refine ⟨endpoint, hendpoint, hpayloads, hcauses _ ?_ ?_ ?_⟩
  · decide
  · decide +kernel
  · decide +kernel

/-- A payload that is no JSON becomes a string, and no cause tells of it. -/
theorem payload_kept_silently :
    Endpoint.ofBlock Catalog.empty
        ["@WebSocket chat", "@Message m", "@Send", "@Payload \x7bbroken"] =
      (some {
        name := "chat"
        exchanges := [{
          messageType := "m"
          send := some {
            messageType := "m", direction := .send, payload := some (.string "\x7bbroken") } }] },
        []) ∧
      isCollection (.string "\x7bbroken") = false :=
  ⟨by decide +kernel, rfl⟩

end Endpoint

end SocketDocs
