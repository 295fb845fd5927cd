import Mathlib.Data.List.Forall2
import SocketDocs.Document.Decoding
import SocketDocs.Document.OfJson
import SocketDocs.Proofs.Document.Values

/-!
# Where the values of a document come from

`Gives m a`: some run of the decoder `m` ends with the result `a`. A successful run of a document's
decoder is taken apart record by record, which shows that the values of the document are those read
at certain places of the tree, in their order (`Document.forall₂_places`).

In JSON no value comes from a null (`Document.nullFree_of_ofJson?`).
-/

namespace SocketDocs

open Json (Value)

-- ---------------------------------------------------------------------------
-- Results of decoders
-- ---------------------------------------------------------------------------

namespace Decoder

variable {α β σ : Type}

def Gives (m : Decoder α) (a : α) : Prop :=
  ∃ left rest, m left = some (a, rest)

theorem Gives.bind {m : Decoder α} {f : α → Decoder β} {b : β} (h : Gives (m >>= f) b) :
    ∃ a, Gives m a ∧ Gives (f a) b := by
  obtain ⟨left, rest, h⟩ := h
  obtain ⟨⟨a, mid⟩, hm, hf⟩ := Option.bind_eq_some_iff.mp h
  exact ⟨a, ⟨left, mid, hm⟩, ⟨mid, rest, hf⟩⟩

theorem gives_pure {a b : α} : Gives (pure a) b ↔ b = a := by
  constructor
  · rintro ⟨left, rest, h⟩
    cases h
    rfl
  · rintro rfl
    exact ⟨0, 0, rfl⟩

theorem not_gives_fail {a : α} : ¬Gives fail a := by
  rintro ⟨left, rest, h⟩
  cases h

theorem gives_ofOption {o : Option α} {a : α} : Gives (ofOption o) a ↔ o = some a := by
  cases o with
  | none => exact iff_of_false not_gives_fail (by simp)
  | some b =>
    rw [ofOption, gives_pure, Option.some.injEq]
    exact eq_comm

theorem Gives.of_run' {m : Decoder α} {left : Nat} {a : α} (h : m.run' left = some a) :
    Gives m a := by
  obtain ⟨⟨b, rest⟩, hm, hb⟩ := Option.map_eq_some_iff.mp h
  cases hb
  exact ⟨left, rest, hm⟩

theorem Gives.mapM {read : α → Decoder β} {as : List α} {bs : List β}
    (h : Gives (as.mapM read) bs) : List.Forall₂ (fun a b => Gives (read a) b) as bs := by
  induction as generalizing bs with
  | nil =>
    rw [List.mapM_nil, gives_pure] at h
    subst h
    exact .nil
  | cons a as ih =>
    rw [List.mapM_cons] at h
    obtain ⟨b, hb, h⟩ := h.bind
    obtain ⟨rest, hrest, h⟩ := h.bind
    rw [gives_pure] at h
    subst h
    exact .cons hb (ih hrest)

theorem Gives.defaulted {fields : List (String × σ)} {name : String} {default a : α}
    {read : σ → Decoder α} (h : Gives (defaulted fields name default read) a) :
    (fields.lookup name = none ∧ a = default) ∨
      ∃ tree, fields.lookup name = some tree ∧ Gives (read tree) a := by
  unfold Decoder.defaulted at h
  split at h
  · exact .inr ⟨_, ‹_›, h⟩
  · exact .inl ⟨‹_›, gives_pure.mp h⟩

end Decoder

open Decoder (Gives gives_pure defaulted)

-- ---------------------------------------------------------------------------
-- Places in a tree
-- ---------------------------------------------------------------------------

structure View (σ : Type) where
  field? : List String → String → σ → Option σ
  items : σ → List σ
  set? : σ → Option σ

structure Medium.Shows {σ : Type} (medium : Medium σ) (view : View σ) : Prop where
  fields {names tree fields} : Gives (medium.fields names tree) fields →
    ∀ name ∈ names, fields.lookup name = view.field? names name tree
  items {tree trees} : Gives (medium.items tree) trees → trees = view.items tree
  present {tree inside} : Gives (medium.present tree) inside → inside = view.set? tree

namespace View

variable {σ : Type} (view : View σ)

def setField (names : List String) (name : String) (tree : σ) : List σ :=
  ((view.field? names name tree).bind view.set?).toList

def entries (names : List String) (name : String) (tree : σ) : List σ :=
  (view.field? names name tree).toList.flatMap view.items

def casePlaces : σ → List σ :=
  view.setField ["code", "description", "example"] "example"

def messagePlaces (tree : σ) : List σ :=
  let names :=
    ["type", "direction", "description", "payload", "example", "errors", "deprecated", "tags"]
  view.setField names "payload" tree ++ view.setField names "example" tree ++
    (view.entries names "errors" tree).flatMap view.casePlaces

def exchangePlaces (tree : σ) : List σ :=
  let names := ["type", "description", "send", "receive"]
  (view.setField names "send" tree).flatMap view.messagePlaces ++
    (view.setField names "receive" tree).flatMap view.messagePlaces

def endpointPlaces (tree : σ) : List σ :=
  (view.entries ["name", "url", "description", "group", "tags", "connectionParams", "messages"]
    "messages" tree).flatMap view.exchangePlaces

/-- The places of all payloads and samples that are set. -/
def places (tree : σ) : List σ :=
  (view.entries ["info", "sockets"] "sockets" tree).flatMap view.endpointPlaces

theorem set?_of_mem_setField {names : List String} {name : String} {tree place : σ}
    (h : place ∈ view.setField names name tree) : ∃ whole, view.set? whole = some place := by
  rw [setField, Option.mem_toList, Option.bind_eq_some_iff] at h
  obtain ⟨whole, -, hset⟩ := h
  exact ⟨whole, hset⟩

theorem set?_of_mem_messagePlaces {tree place : σ} (h : place ∈ view.messagePlaces tree) :
    ∃ whole, view.set? whole = some place := by
  simp only [messagePlaces, List.mem_append, List.mem_flatMap] at h
  rcases h with (h | h) | ⟨case, -, h⟩
  · exact view.set?_of_mem_setField h
  · exact view.set?_of_mem_setField h
  · exact view.set?_of_mem_setField h

theorem set?_of_mem_places {tree place : σ} (h : place ∈ view.places tree) :
    ∃ whole, view.set? whole = some place := by
  simp only [places, endpointPlaces, exchangePlaces, List.mem_flatMap, List.mem_append] at h
  obtain ⟨endpoint, -, exchange, -, h⟩ := h
  rcases h with ⟨message, -, h⟩ | ⟨message, -, h⟩
  · exact view.set?_of_mem_messagePlaces h
  · exact view.set?_of_mem_messagePlaces h

end View

theorem forall_mem_iff_of_forall₂ {α β : Type} {rel : α → β → Prop} {as : List α} {bs : List β}
    (h : List.Forall₂ rel as bs) {p : α → Prop} {q : β → Prop}
    (hiff : ∀ a ∈ as, ∀ b, rel a b → (q b ↔ p a)) : (∀ b ∈ bs, q b) ↔ ∀ a ∈ as, p a := by
  induction h with
  | nil => simp
  | cons hab _ ih =>
    rw [List.forall_mem_cons, List.forall_mem_cons, hiff _ (List.mem_cons_self ..) _ hab,
      ih fun a ha => hiff a (List.mem_cons_of_mem _ ha)]

theorem forall_mem_of_forall₂ {α β : Type} {rel : α → β → Prop} {as : List α} {bs : List β}
    (h : List.Forall₂ rel as bs) {q : β → Prop} (hq : ∀ a ∈ as, ∀ b, rel a b → q b) :
    ∀ b ∈ bs, q b :=
  (forall_mem_iff_of_forall₂ (p := fun _ => True) h fun a ha b hab =>
    iff_of_true (hq a ha b hab) trivial).mpr fun _ _ => trivial

-- ---------------------------------------------------------------------------
-- Records
-- ---------------------------------------------------------------------------

section

variable {σ α : Type} {medium : Medium σ} {view : View σ} {tree : σ}

namespace Medium.Shows

variable {fields : List (String × σ)} {names : List String} {name : String} {read : σ → Decoder α}

theorem forall₂_option (hs : medium.Shows view) {a : Option α}
    (hfield : fields.lookup name = view.field? names name tree)
    (h : Gives (defaulted fields name none (medium.option read)) a) :
    List.Forall₂ (fun t a => Gives (read t) a) (view.setField names name tree) a.toList := by
  rw [View.setField, ← hfield]
  rcases h.defaulted with ⟨hnone, rfl⟩ | ⟨whole, hwhole, h⟩
  · rw [hnone]
    exact .nil
  · rw [hwhole, Option.bind_some]
    obtain ⟨inside, hinside, h⟩ := h.bind
    rw [← hs.present hinside]
    cases inside with
    | none =>
      rw [gives_pure.mp h]
      exact .nil
    | some inside =>
      obtain ⟨b, hb, h⟩ := h.bind
      rw [gives_pure.mp h]
      exact .cons hb .nil

theorem forall₂_list (hs : medium.Shows view) {as : List α}
    (hfield : fields.lookup name = view.field? names name tree)
    (h : Gives (defaulted fields name [] (medium.list read)) as) :
    List.Forall₂ (fun t a => Gives (read t) a) (view.entries names name tree) as := by
  rw [View.entries, ← hfield]
  rcases h.defaulted with ⟨hnone, rfl⟩ | ⟨whole, hwhole, h⟩
  · rw [hnone]
    exact .nil
  · obtain ⟨trees, htrees, h⟩ := h.bind
    rw [hwhole, Option.toList_some, List.flatMap_singleton, ← hs.items htrees]
    exact h.mapM

end Medium.Shows

variable (hs : medium.Shows view)
include hs

theorem ErrorCase.forall₂_places {case : ErrorCase} (h : Gives (ErrorCase.decode medium tree) case) :
    List.Forall₂ (fun t v => Gives (medium.value t) v) (view.casePlaces tree) case.values := by
  unfold ErrorCase.decode at h
  obtain ⟨fields, hfields, h⟩ := h.bind
  obtain ⟨code, -, h⟩ := h.bind
  obtain ⟨description, -, h⟩ := h.bind
  obtain ⟨sample, hsample, h⟩ := h.bind
  rw [gives_pure.mp h]
  exact hs.forall₂_option (hs.fields hfields "example" (by simp)) hsample

theorem Message.forall₂_places {message : Message} (h : Gives (Message.decode medium tree) message) :
    List.Forall₂ (fun t v => Gives (medium.value t) v) (view.messagePlaces tree) message.values := by
  unfold Message.decode at h
  obtain ⟨fields, hfields, h⟩ := h.bind
  obtain ⟨messageType, -, h⟩ := h.bind
  obtain ⟨direction, -, h⟩ := h.bind
  obtain ⟨description, -, h⟩ := h.bind
  obtain ⟨payload, hpayload, h⟩ := h.bind
  obtain ⟨sample, hsample, h⟩ := h.bind
  obtain ⟨errors, herrors, h⟩ := h.bind
  obtain ⟨deprecated, -, h⟩ := h.bind
  obtain ⟨tags, -, h⟩ := h.bind
  rw [gives_pure.mp h]
  have hcases := hs.forall₂_list (hs.fields hfields "errors" (by simp)) herrors
  refine List.rel_append (List.rel_append ?_ ?_) (List.rel_flatMap hcases ?_)
  · exact hs.forall₂_option (hs.fields hfields "payload" (by simp)) hpayload
  · exact hs.forall₂_option (hs.fields hfields "example" (by simp)) hsample
  · intro _ _ hcase
    exact ErrorCase.forall₂_places hs hcase

theorem Exchange.forall₂_places {exchange : Exchange}
    (h : Gives (Exchange.decode medium tree) exchange) :
    List.Forall₂ (fun t v => Gives (medium.value t) v) (view.exchangePlaces tree)
      exchange.values := by
  unfold Exchange.decode at h
  obtain ⟨fields, hfields, h⟩ := h.bind
  obtain ⟨messageType, -, h⟩ := h.bind
  obtain ⟨description, -, h⟩ := h.bind
  obtain ⟨send, hsend, h⟩ := h.bind
  obtain ⟨receive, hreceive, h⟩ := h.bind
  rw [gives_pure.mp h]
  have hsends := hs.forall₂_option (hs.fields hfields "send" (by simp)) hsend
  have hreceives := hs.forall₂_option (hs.fields hfields "receive" (by simp)) hreceive
  refine List.rel_append (List.rel_flatMap hsends ?_) (List.rel_flatMap hreceives ?_)
  · intro _ _ hmessage
    exact Message.forall₂_places hs hmessage
  · intro _ _ hmessage
    exact Message.forall₂_places hs hmessage

theorem Endpoint.forall₂_places {endpoint : Endpoint}
    (h : Gives (Endpoint.decode medium tree) endpoint) :
    List.Forall₂ (fun t v => Gives (medium.value t) v) (view.endpointPlaces tree)
      endpoint.values := by
  unfold Endpoint.decode at h
  obtain ⟨fields, hfields, h⟩ := h.bind
  obtain ⟨name, -, h⟩ := h.bind
  obtain ⟨url, -, h⟩ := h.bind
  obtain ⟨description, -, h⟩ := h.bind
  obtain ⟨group, -, h⟩ := h.bind
  obtain ⟨tags, -, h⟩ := h.bind
  obtain ⟨parameters, -, h⟩ := h.bind
  obtain ⟨exchanges, hexchanges, h⟩ := h.bind
  rw [gives_pure.mp h]
  refine List.rel_flatMap (hs.forall₂_list (hs.fields hfields "messages" (by simp)) hexchanges) ?_
  intro _ _ hexchange
  exact Exchange.forall₂_places hs hexchange

theorem Document.forall₂_places {document : Document}
    (h : Gives (Document.decode medium tree) document) :
    List.Forall₂ (fun t v => Gives (medium.value t) v) (view.places tree) document.values := by
  unfold Document.decode at h
  obtain ⟨fields, hfields, h⟩ := h.bind
  obtain ⟨info, -, h⟩ := h.bind
  obtain ⟨endpoints, hendpoints, h⟩ := h.bind
  rw [gives_pure.mp h]
  refine List.rel_flatMap (hs.forall₂_list (hs.fields hfields "sockets" (by simp)) hendpoints) ?_
  intro _ _ hendpoint
  exact Endpoint.forall₂_places hs hendpoint

end

-- ---------------------------------------------------------------------------
-- JSON values
-- ---------------------------------------------------------------------------

def Json.view : View Value where
  field? names name value := ((fields? names value).getD []).lookup name
  items value := (items? value).getD []
  set? value := if isSet value then some value else none

theorem Json.medium_shows : Json.medium.Shows Json.view where
  fields := by
    intro names value fields h name _
    have hfields := Decoder.gives_ofOption.mp h
    simp [view, hfields]
  items := by
    intro value items h
    have hitems := Decoder.gives_ofOption.mp h
    simp [view, hitems]
  present := by
    intro value inside h
    exact gives_pure.mp h

theorem Document.nullFree_of_ofJson? {value : Value} {document : Document}
    (h : Document.ofJson? value = some document) : document.NullFree := by
  refine forall_mem_of_forall₂ (Document.forall₂_places Json.medium_shows (.of_run' h)) ?_
  intro place hplace v hv
  obtain ⟨whole, hset⟩ := Json.view.set?_of_mem_places hplace
  have hset : Json.isSet whole = true ∧ whole = place := by simpa [Json.view] using hset
  obtain ⟨hset, rfl⟩ := hset
  rw [gives_pure.mp hv]
  rintro rfl
  cases hset

end SocketDocs
