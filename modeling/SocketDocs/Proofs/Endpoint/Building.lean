import SocketDocs.Proofs.Directive.Stated
import SocketDocs.Proofs.Endpoint.Reading

/-!
# The builder follows the reading

After any number of directives the draft of an endpoint is what the reading says of them: the
header is read off all of them, the message under construction off the open segment, and the
exchanges off the segments that are complete (`Tracks`). Each directive keeps this so, and the end
of the block files the open segment.
-/

namespace SocketDocs

open Directive (last? latestType messageTypes isOpen outside)

-- ---------------------------------------------------------------------------
-- Message types
-- ---------------------------------------------------------------------------

namespace Directive

theorem messageTypes_concat_of_none {directives : List Directive} {x : Directive}
    (h : x.messageType? = none) : messageTypes (directives ++ [x]) = messageTypes directives := by
  simp [messageTypes, h]

theorem messageTypes_concat_message (directives : List Directive) (t : String) :
    messageTypes (directives ++ [.message t]) =
      if t ∈ messageTypes directives then messageTypes directives
      else messageTypes directives ++ [t] := by
  have hmem : t ∈ messageTypes directives ↔ t ∈ directives.filterMap messageType? := by
    rw [messageTypes, List.mem_eraseDups]
  have happend : messageTypes (directives ++ [.message t]) = messageTypes directives ++
      (List.removeAll [t] (directives.filterMap messageType?)).eraseDups := by
    rw [messageTypes, List.filterMap_append, List.eraseDups_append]
    rfl
  by_cases h : t ∈ directives.filterMap messageType?
  · rw [happend, if_pos (hmem.mpr h), List.removeAll, List.filter_cons_of_neg (by simpa using h)]
    simp
  · rw [happend, if_neg (mt hmem.mp h), List.removeAll, List.filter_cons_of_pos (by simpa using h)]
    rfl

theorem messageTypes_subset_append (front back : List Directive) :
    messageTypes front ⊆ messageTypes (front ++ back) := by
  intro t ht
  rw [messageTypes, List.mem_eraseDups] at ht ⊢
  rw [List.filterMap_append]
  exact List.mem_append_left _ ht

theorem nodup_messageTypes (directives : List Directive) : (messageTypes directives).Nodup := by
  induction directives using List.reverseRecOn with
  | nil => exact List.nodup_nil
  | append_singleton directives x ih =>
    cases h : x.messageType? with
    | none => rwa [messageTypes_concat_of_none h]
    | some t =>
      obtain rfl : x = .message t := by cases x <;> cases h; rfl
      rw [messageTypes_concat_message]
      split
      · exact ih
      · rename_i hnew
        refine List.nodup_append.mpr ⟨ih, by simp, ?_⟩
        rintro a ha b hb rfl
        rw [List.mem_singleton] at hb
        exact hnew (hb ▸ ha)

end Directive

-- ---------------------------------------------------------------------------
-- Exchanges
-- ---------------------------------------------------------------------------

namespace Exchange

variable {catalog : Catalog}

theorem slotOf_concat (segments : List Segment) (s : Segment) (t : String) (d : Direction) :
    slotOf catalog (segments ++ [s]) t d =
      if s.messageType = t ∧ s.direction = d then some (s.message catalog)
      else slotOf catalog segments t d := by
  by_cases h : s.messageType = t ∧ s.direction = d <;> simp [slotOf, h]

theorem descriptionOf_concat_of_ne {s : Segment} {t : String} (h : s.messageType ≠ t)
    (segments : List Segment) :
    descriptionOf catalog (segments ++ [s]) t = descriptionOf catalog segments t := by
  simp [descriptionOf, h]

theorem slotOf_eq_none_iff {segments : List Segment} {t : String} {d : Direction} :
    slotOf catalog segments t d = none ↔
      ∀ s ∈ segments, s.messageType = t → s.direction ≠ d := by
  simp [slotOf]

theorem slotOf_eq_some {segments : List Segment} {t : String} {d : Direction} {message : Message}
    (h : slotOf catalog segments t d = some message) :
    ∃ s ∈ segments, s.messageType = t ∧ s.direction = d ∧ message = s.message catalog := by
  obtain ⟨s, hs, rfl⟩ := Option.map_eq_some_iff.mp h
  obtain ⟨hmem, hmatch⟩ := List.mem_filter.mp (List.mem_of_getLast? hs)
  rw [Bool.and_eq_true, beq_iff_eq, beq_iff_eq] at hmatch
  exact ⟨s, hmem, hmatch.1, hmatch.2, rfl⟩

theorem firstText_concat (texts : List String) (text : String) :
    firstText (texts ++ [text]) =
      if (firstText texts).isEmpty then text else firstText texts := by
  cases h : texts.find? (!·.isEmpty) with
  | some found =>
    have hne : found.isEmpty = false := by simpa using List.find?_some h
    simp [firstText, List.find?_append, h, hne]
  | none =>
    cases he : text.isEmpty with
    | true =>
      rw [String.isEmpty_iff] at he
      simp [firstText, List.find?_append, h, he]
    | false =>
      have hne : text ≠ "" := by
        rintro rfl
        cases he
      simp [firstText, List.find?_append, h, hne]

/-- A description is taken over from the first message that has one. -/
theorem descriptionOf_concat (segments : List Segment) (s : Segment) :
    descriptionOf catalog (segments ++ [s]) s.messageType =
      if (descriptionOf catalog segments s.messageType).isEmpty
      then (s.message catalog).description
      else descriptionOf catalog segments s.messageType := by
  rw [descriptionOf, List.filter_append, List.map_append, List.filter_cons_of_pos (by simp)]
  exact firstText_concat _ _

theorem ofSegments_concat (segments : List Segment) (s : Segment) (t : String) :
    ofSegments catalog (segments ++ [s]) t =
      if s.messageType = t then (ofSegments catalog segments t).file (s.message catalog)
      else ofSegments catalog segments t := by
  by_cases h : s.messageType = t
  · subst h
    rw [if_pos rfl, ofSegments, descriptionOf_concat]
    cases hd : s.direction <;>
      by_cases he : (descriptionOf catalog segments s.messageType).isEmpty <;>
      simp [slotOf_concat, hd, he, file, ofSegments, Segment.message]
  · simp [ofSegments, descriptionOf_concat_of_ne h, slotOf_concat, h]

theorem modifyType_of_mem {types : List String} {t : String} (hmem : t ∈ types)
    (hnodup : types.Nodup) {f : String → Exchange} (hf : ∀ u, (f u).messageType = u)
    (change : Exchange → Exchange) :
    modifyType t change (types.map f) =
      types.map fun u => if t = u then change (f u) else f u := by
  induction types with
  | nil => cases hmem
  | cons u types ih =>
    obtain ⟨hnew, hnodup⟩ := List.nodup_cons.mp hnodup
    by_cases h : u = t
    · subst h
      have hrest : types.map (fun v => if u = v then change (f v) else f v) = types.map f := by
        refine List.map_congr_left ?_
        intro v hv
        rw [if_neg]
        rintro rfl
        exact hnew hv
      simp [modifyType, hf, hrest]
    · have hmem : t ∈ types := (List.mem_cons.mp hmem).resolve_left (Ne.symm h)
      simp [modifyType, hf, h, Ne.symm h, ih hmem hnodup]

theorem modifyType_of_not_mem {types : List String} {t : String} (hnew : t ∉ types)
    {f : String → Exchange} (hf : ∀ u, (f u).messageType = u) (change : Exchange → Exchange) :
    modifyType t change (types.map f) = types.map f ++ [change { messageType := t }] := by
  induction types with
  | nil => rfl
  | cons u types ih =>
    rw [List.mem_cons, not_or] at hnew
    simp [modifyType, hf, Ne.symm hnew.1, ih hnew.2]

theorem ofSegments_of_new {segments : List Segment} {t : String}
    (h : ∀ s ∈ segments, s.messageType ≠ t) :
    ofSegments catalog segments t = { messageType := t } := by
  have hnone : segments.filter (·.messageType == t) = [] := by simpa using h
  have hslot : ∀ d, slotOf catalog segments t d = none := by
    intro d
    have hempty : (segments.filter fun s => s.messageType == t && s.direction == d) = [] := by
      rw [List.filter_eq_nil_iff]
      intro s hs
      simp [h s hs]
    simp [slotOf, hempty]
  simp [ofSegments, hslot, descriptionOf, hnone, firstText]

end Exchange

-- ---------------------------------------------------------------------------
-- What one directive adds
-- ---------------------------------------------------------------------------

def Message.add (catalog : Catalog) (message : Message) : Directive → Message
  | .description text => { message with description := text }
  | .tags tags => { message with tags }
  | .payload source =>
    { message with payload := ((Directive.payload source).payload? catalog).or message.payload }
  | .sample value => { message with sample := some value }
  | .error case => { message with errors := message.errors ++ [case] }
  | .deprecated => { message with deprecated := true }
  | _ => message

/-- An endpoint with one directive more in its block. Descriptions and tags in a message are not
about the endpoint. -/
def Endpoint.add (endpoint : Endpoint) (inMessage : Bool) : Directive → Endpoint
  | .webSocket name => { endpoint with name }
  | .group group => { endpoint with group }
  | .url url => { endpoint with url }
  | .description text => if inMessage then endpoint else { endpoint with description := text }
  | .tags tags => if inMessage then endpoint else { endpoint with tags }
  | .parameter parameter => { endpoint with parameters := endpoint.parameters ++ [parameter] }
  | _ => endpoint

theorem Endpoint.add_exchanges (endpoint : Endpoint) (exchanges : List Exchange)
    (inMessage : Bool) (x : Directive) :
    ({ endpoint with exchanges } : Endpoint).add inMessage x =
      { endpoint.add inMessage x with exchanges } := by
  cases x <;> cases inMessage <;> rfl

theorem Segment.message_messageType (catalog : Catalog) (s : Segment) :
    (s.message catalog).messageType = s.messageType := rfl

theorem Segment.message_concat (catalog : Catalog) (s : Segment) (x : Directive) :
    ({ s with body := s.body ++ [x] } : Segment).message catalog =
      (s.message catalog).add catalog x := by
  cases x <;>
    simp [Segment.message, Message.add, Directive.last?_concat, Directive.description?,
      Directive.tags?, Directive.payload?, Directive.sample?, Directive.error?,
      Directive.isDeprecated]

theorem Endpoint.header_concat (directives : List Directive) (x : Directive) :
    header (directives ++ [x]) = (header directives).add (isOpen directives) x := by
  cases h : isOpen directives <;> cases x <;>
    simp [header, add, Directive.last?_concat, Directive.outside_concat, h, Directive.name?,
      Directive.url?, Directive.description?, Directive.group?, Directive.tags?,
      Directive.parameter?]

-- ---------------------------------------------------------------------------
-- The draft after some directives
-- ---------------------------------------------------------------------------

namespace EndpointDraft

/-- The draft says what the reading of the directives so far says. -/
structure Tracks (catalog : Catalog) (directives : List Directive) (draft : EndpointDraft) :
    Prop where
  messageType : draft.messageType = latestType directives
  message : draft.message.message? = (Segment.opened? directives).map (·.message catalog)
  endpoint : draft.endpoint =
    { Endpoint.header directives with
      exchanges := (messageTypes directives).map
        (Exchange.ofSegments catalog (Segment.filed directives)) }

theorem tracks_nil (catalog : Catalog) (causes : List Cause) : Tracks catalog [] { causes } where
  messageType := rfl
  message := rfl
  endpoint := rfl

variable {catalog : Catalog} {directives : List Directive} {draft : EndpointDraft} {x : Directive}

theorem complete_untyped {message : Message} (h : message.messageType = "") (draft : EndpointDraft) :
    draft.complete (some message) = draft.warn (.untypedMessage message.direction) := by
  simp [complete, h]

theorem complete_typed {message : Message} (h : message.messageType ≠ "") (draft : EndpointDraft) :
    draft.complete (some message) =
      draft.modifyExchanges (Exchange.modifyType message.messageType (·.file message)) := by
  simp [complete, h]

theorem complete_state (draft : EndpointDraft) (done : Option Message) :
    (draft.complete done).message = draft.message ∧
      (draft.complete done).messageType = draft.messageType := by
  cases done with
  | none => exact ⟨rfl, rfl⟩
  | some message =>
    by_cases h : message.messageType = ""
    · rw [complete_untyped h]
      exact ⟨rfl, rfl⟩
    · rw [complete_typed h]
      exact ⟨rfl, rfl⟩

/-- Filing the open message leaves no segment out. A segment without a type is dropped, and no
exchange would hold it. -/
theorem Tracks.complete_endpoint (h : Tracks catalog directives draft)
    (htyped : ∀ t ∈ messageTypes directives, t ≠ "") (message : Draft) :
    ({ draft with message }.complete draft.message.message?).endpoint =
      Endpoint.ofDirectives catalog directives := by
  have hall := Segment.all_eq_filed_append directives
  rw [h.message, Endpoint.ofDirectives, hall]
  cases hs : Segment.opened? directives with
  | none => simp [complete, h.endpoint]
  | some s =>
    by_cases hempty : s.messageType = ""
    · have hsame : ∀ t ∈ messageTypes directives,
          Exchange.ofSegments catalog (Segment.filed directives ++ [s]) t =
            Exchange.ofSegments catalog (Segment.filed directives) t := by
        intro t ht
        rw [Exchange.ofSegments_concat, if_neg]
        rintro rfl
        exact htyped _ ht hempty
      rw [Option.map_some, complete_untyped hempty, Option.toList_some, List.map_congr_left hsame]
      exact h.endpoint
    · have hmem : s.messageType ∈ messageTypes directives := by
        refine Segment.mem_messageTypes_of_mem_all ?_ hempty
        rw [hall, hs]
        simp
      have hfile : Exchange.modifyType s.messageType (·.file (s.message catalog))
          ((messageTypes directives).map
            (Exchange.ofSegments catalog (Segment.filed directives))) =
          (messageTypes directives).map
            (Exchange.ofSegments catalog (Segment.filed directives ++ [s])) := by
        rw [Exchange.modifyType_of_mem hmem (Directive.nodup_messageTypes directives) fun _ => rfl]
        refine List.map_congr_left ?_
        intro t _
        rw [Exchange.ofSegments_concat]
      rw [Option.map_some, complete_typed hempty, Option.toList_some, ← hfile]
      simp only [modifyExchanges, modifyEndpoint, h.endpoint, Segment.message_messageType]

theorem apply_of_quiet (catalog : Catalog) (draft : EndpointDraft) (hx : x.endsMessage = false) :
    (draft.apply catalog x).messageType = draft.messageType ∧
      (draft.apply catalog x).message.message? =
        draft.message.message?.map (·.add catalog x) ∧
      (draft.apply catalog x).endpoint = draft.endpoint.add draft.message.message?.isSome x := by
  obtain ⟨endpoint, message, messageType, causes⟩ := draft
  cases x with
  | message t => cases hx
  | direction d => cases hx
  | payload source =>
    have hresolve : (resolvePayload catalog source).toOption =
        (Directive.payload source).payload? catalog := by
      cases source with
      | inline value => rfl
      | typeRef name =>
        cases h : catalog.resolve? name <;>
          simp [resolvePayload, Directive.payload?, h, Except.toOption]
    cases hr : resolvePayload catalog source <;> rw [hr] at hresolve <;> cases message <;>
      simp [apply, hr, modifyMessage, warn, Draft.message?, Message.add, Endpoint.add, ← hresolve,
        Except.toOption]
  | description text =>
    cases message with
    | building m => exact ⟨rfl, rfl, rfl⟩
    | idle =>
      by_cases h : messageType = "" <;>
        simp [apply, modifyMessageOrEndpoint, warn, modifyEndpoint, Draft.message?, Endpoint.add, h]
  | tags names =>
    cases message with
    | building m => exact ⟨rfl, rfl, rfl⟩
    | idle =>
      by_cases h : messageType = "" <;>
        simp [apply, modifyMessageOrEndpoint, warn, modifyEndpoint, Draft.message?, Endpoint.add, h]
  | _ => cases message <;> exact ⟨rfl, rfl, rfl⟩

theorem Tracks.apply_of_quiet (h : Tracks catalog directives draft)
    (hx : x.endsMessage = false) : Tracks catalog (directives ++ [x]) (draft.apply catalog x) := by
  obtain ⟨htype, hmessage, hendpoint⟩ := EndpointDraft.apply_of_quiet catalog draft hx
  have hnone : x.messageType? = none := by cases x <;> first | rfl | cases hx
  refine ⟨?_, ?_, ?_⟩
  · rw [htype, h.messageType, latestType, latestType, Directive.last?_concat, hnone,
      Option.none_or]
  · rw [hmessage, h.message, Segment.opened?_concat_of_quiet hx, Option.map_map, Option.map_map]
    congr 1
    funext s
    exact (Segment.message_concat catalog s x).symm
  · rw [hendpoint, h.message, h.endpoint, Segment.filed_concat_of_quiet hx,
      Directive.messageTypes_concat_of_none hnone, Endpoint.header_concat, Option.isSome_map,
      Segment.isSome_opened?, Endpoint.add_exchanges]

theorem Tracks.openMessage (h : Tracks catalog directives draft)
    (htyped : ∀ t ∈ messageTypes directives, t ≠ "") (d : Direction) :
    Tracks catalog (directives ++ [.direction d]) (draft.openMessage d) := by
  obtain ⟨hmessage, htype⟩ := complete_state
    { draft with message := .building { messageType := draft.messageType, direction := d } }
    draft.message.message?
  refine ⟨?_, ?_, ?_⟩
  · rw [latestType, Directive.last?_concat]
    exact htype.trans h.messageType
  · rw [Segment.opened?_concat_of_end rfl]
    refine (congrArg Draft.message? hmessage).trans ?_
    rw [h.messageType]
    rfl
  · rw [Segment.filed_concat_of_end rfl, Directive.messageTypes_concat_of_none rfl,
      Endpoint.header_concat]
    exact h.complete_endpoint htyped _

theorem Tracks.introduceType (h : Tracks catalog directives draft)
    (htyped : ∀ t ∈ messageTypes directives, t ≠ "") {t : String} (ht : t ≠ "") :
    Tracks catalog (directives ++ [.message t]) (draft.introduceType t) := by
  have hendpoint := h.complete_endpoint htyped .idle
  obtain ⟨hmessage, -⟩ := complete_state { draft with message := .idle } draft.message.message?
  have hexchanges : Exchange.modifyType t id
      ((messageTypes directives).map (Exchange.ofSegments catalog (Segment.all directives))) =
      (messageTypes (directives ++ [.message t])).map
        (Exchange.ofSegments catalog (Segment.all directives)) := by
    rw [Directive.messageTypes_concat_message]
    by_cases hmem : t ∈ messageTypes directives
    · rw [if_pos hmem, Exchange.modifyType_of_mem hmem (Directive.nodup_messageTypes directives)
        fun _ => rfl]
      simp
    · have hnew : ∀ s ∈ Segment.all directives, s.messageType ≠ t := by
        rintro s hs rfl
        exact hmem (Segment.mem_messageTypes_of_mem_all hs ht)
      rw [if_neg hmem, Exchange.modifyType_of_not_mem hmem fun _ => rfl, List.map_append,
        List.map_singleton, Exchange.ofSegments_of_new hnew]
      rfl
  refine ⟨?_, ?_, ?_⟩
  · rw [latestType, Directive.last?_concat]
    rfl
  · rw [Segment.opened?_concat_of_end rfl]
    exact congrArg Draft.message? hmessage
  · rw [Segment.filed_concat_of_end rfl, Endpoint.header_concat, ← hexchanges]
    exact congrArg (fun e : Endpoint => { e with exchanges := Exchange.modifyType t id e.exchanges })
      hendpoint

/-- Every directive keeps the draft in step with the reading. -/
theorem Tracks.apply (h : Tracks catalog directives draft)
    (htyped : ∀ t ∈ messageTypes (directives ++ [x]), t ≠ "") :
    Tracks catalog (directives ++ [x]) (draft.apply catalog x) := by
  have hbefore : ∀ t ∈ messageTypes directives, t ≠ "" := fun t ht =>
    htyped t (Directive.messageTypes_subset_append directives [x] ht)
  cases x with
  | message t =>
    refine h.introduceType hbefore (htyped t ?_)
    rw [messageTypes, List.mem_eraseDups]
    simp [Directive.messageType?]
  | direction d => exact h.openMessage hbefore d
  | _ => exact h.apply_of_quiet rfl

theorem tracks_foldl (catalog : Catalog) (causes : List Cause) (directives : List Directive)
    (htyped : ∀ t ∈ messageTypes directives, t ≠ "") :
    Tracks catalog directives (directives.foldl (EndpointDraft.apply catalog) { causes }) := by
  induction directives using List.reverseRecOn with
  | nil => exact tracks_nil catalog causes
  | append_singleton directives x ih =>
    rw [List.foldl_append, List.foldl_cons, List.foldl_nil]
    refine (ih ?_).apply htyped
    intro t ht
    exact htyped t (Directive.messageTypes_subset_append directives [x] ht)

theorem finish_endpoint (catalog : Catalog) (causes : List Cause) (directives : List Directive)
    (htyped : ∀ t ∈ messageTypes directives, t ≠ "") :
    (directives.foldl (EndpointDraft.apply catalog) { causes }).finish.endpoint =
      Endpoint.ofDirectives catalog directives :=
  (tracks_foldl catalog causes directives htyped).complete_endpoint htyped .idle

end EndpointDraft

-- ---------------------------------------------------------------------------
-- Blocks
-- ---------------------------------------------------------------------------

theorem Directive.isWord_of_mem_messageTypes {lines : List String} {t : String}
    (h : t ∈ messageTypes (Directive.ofBlock lines).1) : Text.IsWord t := by
  rw [messageTypes, List.mem_eraseDups] at h
  obtain ⟨x, hx, ht⟩ := List.mem_filterMap.mp h
  obtain rfl : x = .message t := by cases x <;> cases ht; rfl
  exact Directive.isWord_of_mem_ofBlock hx

namespace Endpoint

theorem ofBlock_eq_some_iff (catalog : Catalog) (lines : List String) (endpoint : Endpoint) :
    (Endpoint.ofBlock catalog lines).1 = some endpoint ↔
      Directive.marksEndpoint lines = true ∧
        endpoint = ofDirectives catalog (Directive.ofBlock lines).1 := by
  have hfinish := EndpointDraft.finish_endpoint catalog (Directive.ofBlock lines).2
    (Directive.ofBlock lines).1 fun t ht => (Directive.isWord_of_mem_messageTypes ht).1
  cases h : Directive.marksEndpoint lines with
  | true => simp [Endpoint.ofBlock, h, hfinish, eq_comm]
  | false => simp [Endpoint.ofBlock, h]

/-- The builder agrees with the reading on every block that documents an endpoint: the exchanges are
those of the distinct message types, in order of introduction, and a slot is empty only if no
segment of the type has its direction. -/
theorem ofBlock_eq_reading (catalog : Catalog) {lines : List String}
    (h : Directive.marksEndpoint lines = true) :
    (Endpoint.ofBlock catalog lines).1 =
        some (ofDirectives catalog (Directive.ofBlock lines).1) ∧
      (messageTypes (Directive.ofBlock lines).1).Nodup ∧
      ∀ t d, Exchange.slotOf catalog (Segment.all (Directive.ofBlock lines).1) t d = none ↔
        ∀ s ∈ Segment.all (Directive.ofBlock lines).1, s.messageType = t → s.direction ≠ d := by
  refine ⟨(ofBlock_eq_some_iff catalog lines _).mpr ⟨h, rfl⟩, ?_, ?_⟩
  · exact Directive.nodup_messageTypes _
  · intro t d
    exact Exchange.slotOf_eq_none_iff

/-- A message that a later one replaces still describes the exchange, and a type comes back to its
exchange. -/
theorem ofBlock_eq_reading_replaced :
    Directive.marksEndpoint ["@WebSocket chat", "@Message a", "@Send", "@Description first",
        "@Message b", "@Tags x", "@Message a", "@Send", "@Deprecated"] = true ∧
      (Endpoint.ofBlock Catalog.empty ["@WebSocket chat", "@Message a", "@Send",
        "@Description first", "@Message b", "@Tags x", "@Message a", "@Send", "@Deprecated"]).1 =
      some {
        name := "chat", tags := ["x"]
        exchanges := [
          { messageType := "a", description := "first"
            send := some { messageType := "a", direction := .send, deprecated := true } },
          { messageType := "b" }] } :=
  ⟨by decide, (ofBlock_eq_reading Catalog.empty (by decide)).1.trans (by decide +kernel)⟩

end Endpoint

end SocketDocs
