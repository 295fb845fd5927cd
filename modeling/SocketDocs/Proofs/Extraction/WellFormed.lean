import SocketDocs.Document.Defaults
import SocketDocs.Document.Validation
import SocketDocs.Extraction
import SocketDocs.Proofs.Endpoint.Building

/-!
# Extracted documents are well formed

Every endpoint of an extraction is read off the block of some function, so its exchanges have
distinct types that are words, and its messages have the type of their exchange and the direction
of their slot. What the check of documents can still find is left to the author of the comments:
names, addresses, and exchanges without a message.
-/

namespace SocketDocs

-- ---------------------------------------------------------------------------
-- The endpoints of an extraction
-- ---------------------------------------------------------------------------

namespace Extraction

theorem endpoints_foldl_addAnnotated (catalog : Catalog) (path : String)
    (annotated : List AnnotatedDeclaration) (extraction : Extraction) :
    (annotated.foldl (addAnnotated catalog path) extraction).document.endpoints =
      extraction.document.endpoints ++
        annotated.filterMap fun a => (Endpoint.ofBlock catalog a.lines).1 := by
  induction annotated generalizing extraction with
  | nil => simp
  | cons a annotated ih =>
    rw [List.foldl_cons, ih]
    cases h : (Endpoint.ofBlock catalog a.lines).1 <;> simp [addAnnotated, h]

theorem endpoints_addFile (catalog : Catalog) (extraction : Extraction) (file : SourceFile) :
    (addFile catalog extraction file).document.endpoints =
      extraction.document.endpoints ++
        (DocBlock.ofFile file).filterMap fun a => (Endpoint.ofBlock catalog a.lines).1 :=
  endpoints_foldl_addAnnotated catalog file.path (DocBlock.ofFile file) _

theorem endpoints_foldl_addFile (catalog : Catalog) (files : List SourceFile)
    (extraction : Extraction) :
    (files.foldl (addFile catalog) extraction).document.endpoints =
      extraction.document.endpoints ++
        files.flatMap fun file =>
          (DocBlock.ofFile file).filterMap fun a => (Endpoint.ofBlock catalog a.lines).1 := by
  induction files generalizing extraction with
  | nil => simp
  | cons file files ih =>
    rw [List.foldl_cons, ih, endpoints_addFile, List.flatMap_cons, List.append_assoc]

theorem endpoints_ofFiles (files : List SourceFile) :
    (ofFiles files).document.endpoints = files.flatMap fun file =>
      (DocBlock.ofFile file).filterMap fun a =>
        (Endpoint.ofBlock (Catalog.ofFiles files) a.lines).1 :=
  endpoints_foldl_addFile (Catalog.ofFiles files) files {}

theorem exists_block_of_mem {files : List SourceFile} {endpoint : Endpoint}
    (h : endpoint ∈ (ofFiles files).document.endpoints) :
    ∃ lines, endpoint =
      Endpoint.ofDirectives (Catalog.ofFiles files) (Directive.ofBlock lines).1 := by
  rw [endpoints_ofFiles] at h
  obtain ⟨file, -, hfile⟩ := List.mem_flatMap.mp h
  obtain ⟨a, -, ha⟩ := List.mem_filterMap.mp hfile
  exact ⟨a.lines, ((Endpoint.ofBlock_eq_some_iff _ _ _).mp ha).2⟩

end Extraction

-- ---------------------------------------------------------------------------
-- Well-formed endpoints
-- ---------------------------------------------------------------------------

/-- A message fits a slot: it has the type of the exchange and the direction of the slot. -/
def Message.Fits (message : Message) (messageType : String) (slot : Direction) : Prop :=
  message.messageType = messageType ∧ message.direction = slot

structure Exchange.WellFormed (exchange : Exchange) : Prop where
  typed : Text.IsWord exchange.messageType
  send : ∀ m ∈ exchange.send, m.Fits exchange.messageType .send
  receive : ∀ m ∈ exchange.receive, m.Fits exchange.messageType .receive

structure Endpoint.WellFormed (endpoint : Endpoint) : Prop where
  exchanges : ∀ x ∈ endpoint.exchanges, x.WellFormed
  distinct : (endpoint.exchanges.map (·.messageType)).Nodup

theorem Exchange.fits_of_slotOf {catalog : Catalog} {segments : List Segment} {t : String}
    {d : Direction} {message : Message} (h : slotOf catalog segments t d = some message) :
    message.Fits t d := by
  obtain ⟨s, -, rfl, rfl, rfl⟩ := slotOf_eq_some h
  exact ⟨rfl, rfl⟩

/-- An endpoint read off a block is well formed. -/
theorem Endpoint.wellFormed_ofDirectives (catalog : Catalog) (lines : List String) :
    (ofDirectives catalog (Directive.ofBlock lines).1).WellFormed where
  exchanges := by
    intro x hx
    obtain ⟨t, ht, rfl⟩ := List.mem_map.mp hx
    exact ⟨Directive.isWord_of_mem_messageTypes ht, fun _ => Exchange.fits_of_slotOf,
      fun _ => Exchange.fits_of_slotOf⟩
  distinct := by
    have htypes : ∀ types : List String, (types.map
        (Exchange.ofSegments catalog (Segment.all (Directive.ofBlock lines).1))).map
          (·.messageType) = types := by
      intro types
      rw [List.map_map]
      exact List.map_id types
    rw [ofDirectives, htypes]
    exact Directive.nodup_messageTypes _

-- ---------------------------------------------------------------------------
-- Problems that well-formed documents can have
-- ---------------------------------------------------------------------------

namespace Problem

theorem ofSlot_of_fits {i j : Nat} {slot : Direction} {t : String} {message? : Option Message}
    (ht : t ≠ "") (h : ∀ m ∈ message?, m.Fits t slot) : ofSlot i j slot message? = [] := by
  cases message? with
  | none => rfl
  | some m =>
    obtain ⟨rfl, rfl⟩ := h m rfl
    simp [ofSlot, when, ht]

theorem ofExchange_of_wellFormed {i j : Nat} {exchange : Exchange} (h : exchange.WellFormed)
    {p : Problem} (hp : p ∈ ofExchange i j exchange) : p = .emptyExchange i j := by
  have htype := h.typed.1
  rw [ofExchange, ofSlot_of_fits htype h.send, ofSlot_of_fits htype h.receive] at hp
  simp only [List.append_nil, List.mem_append, mem_when, String.isEmpty_iff] at hp
  rcases hp with ⟨hempty, -⟩ | ⟨-, rfl⟩
  · exact absurd hempty htype
  · rfl

theorem ofEndpoint_of_wellFormed {i : Nat} {before : List Endpoint} {endpoint : Endpoint}
    (h : endpoint.WellFormed) {p : Problem} (hp : p ∈ ofEndpoint i before endpoint) :
    p = .unnamedEndpoint i ∨ p = .repeatedName i endpoint.name ∨ p = .noUrl i ∨
      ∃ j, p = .emptyExchange i j := by
  simp only [ofEndpoint, List.mem_append, mem_when] at hp
  rcases hp with (hname | ⟨-, rfl⟩) | hexchanges
  · unfold ofName at hname
    split at hname
    · exact .inl (List.mem_singleton.mp hname)
    · exact .inr (.inl (mem_when.mp hname).2)
  · exact .inr (.inr (.inl rfl))
  · obtain ⟨⟨x, j⟩, hx, hp⟩ := List.mem_flatMap.mp hexchanges
    have hmem : x ∈ endpoint.exchanges := (List.mem_zipIdx' hx).2 ▸ List.getElem_mem _
    exact .inr (.inr (.inr ⟨j, ofExchange_of_wellFormed (h.exchanges x hmem) hp⟩))

end Problem

theorem orDefault_ne_empty {text default : String} (h : default ≠ "") :
    orDefault text default ≠ "" := by
  unfold orDefault
  split
  · exact h
  · rename_i hne
    simpa using hne

/-- The endpoints of an extracted document are well formed, and with the default information its
check reports nothing but what the comments left out: endpoints, their names and addresses, and
messages for an exchange. -/
theorem Extraction.wellFormed_and_problems (files : List SourceFile) :
    (∀ endpoint ∈ (Extraction.ofFiles files).document.withDefaults.endpoints,
      endpoint.WellFormed) ∧
    ∀ p ∈ (Extraction.ofFiles files).document.withDefaults.problems,
      p = .noEndpoints ∨ (∃ i, p = .unnamedEndpoint i) ∨ (∃ i name, p = .repeatedName i name) ∨
        (∃ i, p = .noUrl i) ∨ ∃ i j, p = .emptyExchange i j := by
  have hwell : ∀ endpoint ∈ (Extraction.ofFiles files).document.endpoints,
      endpoint.WellFormed := by
    intro endpoint hmem
    obtain ⟨lines, rfl⟩ := exists_block_of_mem hmem
    exact Endpoint.wellFormed_ofDirectives _ lines
  refine ⟨hwell, ?_⟩
  intro p hp
  simp only [Document.problems, List.mem_append, Problem.mem_when, String.isEmpty_iff] at hp
  rcases hp with ((⟨htitle, -⟩ | ⟨hversion, -⟩) | ⟨-, rfl⟩) | hendpoints
  · exact absurd htitle (orDefault_ne_empty (by decide))
  · exact absurd hversion (orDefault_ne_empty (by decide))
  · exact .inl rfl
  · obtain ⟨⟨endpoint, i⟩, hmem, hp⟩ := List.mem_flatMap.mp hendpoints
    have hmem : endpoint ∈ (Extraction.ofFiles files).document.endpoints :=
      (List.mem_zipIdx' hmem).2 ▸ List.getElem_mem _
    rcases Problem.ofEndpoint_of_wellFormed (hwell endpoint hmem) hp with
      rfl | rfl | rfl | ⟨j, rfl⟩
    · exact .inr (.inl ⟨i, rfl⟩)
    · exact .inr (.inr (.inl ⟨i, endpoint.name, rfl⟩))
    · exact .inr (.inr (.inr (.inl ⟨i, rfl⟩)))
    · exact .inr (.inr (.inr (.inr ⟨i, j, rfl⟩)))

end SocketDocs
