import SocketDocs.Document.Encoding
import SocketDocs.Proofs.Document.Places

/-!
# What must have been written

The converse of reading back. A tree that was drawn for the written form of a document need not spell
it, as its texts may have suffered. But if the document itself is read from such a tree, nothing of it
was lost and the tree spells the document (`Document.spelled_of_gives`). As with the laws of reading,
the argument goes record by record and field by field.
-/

namespace SocketDocs

open Json (Value)

open Decoder (Gives gives_pure gives_ofOption mandatory defaulted)

/-- A member whose field spells it wherever it was drawn. -/
def Spelled {σ : Type} (drawn spells : σ → Value → Prop) (names : List String)
    (fields : List (String × σ)) (m : String × Value) : Prop :=
  m.1 ∈ names ∧ ∀ inside, fields.lookup m.1 = some inside → drawn inside m.2 → spells inside m.2

/-- The medium reads a part only if it is spelled as it was drawn. `sound` tells for which payloads. -/
structure Medium.Faithful {σ : Type} (medium : Medium σ) (drawn spells : σ → Value → Prop)
    (sound : Value → Prop) : Prop where
  text {tree s} : drawn tree (.string s) → Gives (medium.text tree) s → spells tree (.string s)
  flag {tree b} : drawn tree (.bool b) → Gives (medium.flag tree) b → spells tree (.bool b)
  choice {tree s} : drawn tree (.string s) → Gives (medium.choice tree) s → spells tree (.string s)
  items {tree vs trees} : drawn tree (.array vs) → Gives (medium.items tree) trees →
    List.Forall₂ drawn trees vs ∧ (List.Forall₂ spells trees vs → spells tree (.array vs))
  fields {names tree ms fields} : drawn tree (.object ms) → Gives (medium.fields names tree) fields →
    (∀ m ∈ ms, Spelled drawn spells names fields m) → spells tree (.object ms)
  present {tree inside v} : drawn tree v → Gives (medium.present tree) (some inside) → inside = tree
  value {tree v} : drawn tree v → Gives (medium.value tree) v → sound v → spells tree v

-- ---------------------------------------------------------------------------
-- Members
-- ---------------------------------------------------------------------------

section

variable {p : String × Value → Prop} {key : String}

theorem forall_textMember {text : String} (h : p (key, .string text)) :
    ∀ m ∈ textMember key text, p m := by
  unfold textMember
  split <;> simp [h]

theorem forall_valueMember {value : Option Value} (h : ∀ v ∈ value, p (key, v)) :
    ∀ m ∈ valueMember key value, p m := by
  cases value <;> simp_all [valueMember]

theorem forall_listMember {items : List Value} (h : p (key, .array items)) :
    ∀ m ∈ listMember key items, p m := by
  unfold listMember
  split <;> simp [h]

theorem forall_unless {b : Bool} {v : Value} (h : p (key, v)) :
    ∀ m ∈ (if b then [] else [(key, v)]), p m := by
  split <;> simp [h]

end

namespace Medium.Faithful

variable {σ α : Type} {medium : Medium σ} {drawn spells : σ → Value → Prop} {sound : Value → Prop}

theorem list (hf : medium.Faithful drawn spells sound) {read : σ → Decoder α} {encode : α → Value}
    {xs : List α} {tree : σ} (hdrawn : drawn tree (.array (xs.map encode)))
    (h : Gives (medium.list read tree) xs)
    (hread : ∀ x ∈ xs, ∀ tree, drawn tree (encode x) → Gives (read tree) x →
      spells tree (encode x)) :
    spells tree (.array (xs.map encode)) := by
  obtain ⟨trees, htrees, h⟩ := h.bind
  obtain ⟨hshape, hspells⟩ := hf.items hdrawn htrees
  refine hspells ?_
  rw [List.forall₂_map_right_iff] at hshape ⊢
  rw [List.forall₂_iff_zip] at hshape ⊢
  have hgives := List.forall₂_iff_zip.mp h.mapM
  exact ⟨hshape.1, fun hx => hread _ (List.of_mem_zip hx).2 _ (hshape.2 hx) (hgives.2 hx)⟩

theorem option (hf : medium.Faithful drawn spells sound) {read : σ → Decoder α} {a : α} {v : Value}
    {tree : σ} (hdrawn : drawn tree v) (h : Gives (medium.option read tree) (some a))
    (hread : Gives (read tree) a → spells tree v) : spells tree v := by
  obtain ⟨inside, hinside, h⟩ := h.bind
  cases inside with
  | none => cases gives_pure.mp h
  | some inside =>
    obtain ⟨b, hb, h⟩ := h.bind
    cases gives_pure.mp h
    cases hf.present hdrawn hinside
    exact hread hb

theorem oneOf (hf : medium.Faithful drawn spells sound) {ofName? : String → Option α}
    {name : α → String} (hname : ∀ {text a}, ofName? text = some a → text = name a) {a : α}
    {tree : σ} (hdrawn : drawn tree (.string (name a))) (h : Gives (medium.oneOf ofName? tree) a) :
    spells tree (.string (name a)) := by
  obtain ⟨text, htext, h⟩ := h.bind
  cases hname (gives_ofOption.mp h)
  exact hf.choice hdrawn htext

end Medium.Faithful

section

variable {σ α : Type} {drawn spells : σ → Value → Prop} {names : List String}
  {fields : List (String × σ)} {name : String} {read : σ → Decoder α} {a : α} {v : Value}

theorem Spelled.of_mandatory (hname : name ∈ names) (h : Gives (mandatory fields name read) a)
    (hread : ∀ {inside}, drawn inside v → Gives (read inside) a → spells inside v) :
    Spelled drawn spells names fields (name, v) := by
  refine ⟨hname, ?_⟩
  intro inside hinside hdrawn
  rw [mandatory, hinside] at h
  exact hread hdrawn h

theorem Spelled.of_defaulted {default : α} (hname : name ∈ names)
    (h : Gives (defaulted fields name default read) a)
    (hread : ∀ {inside}, drawn inside v → Gives (read inside) a → spells inside v) :
    Spelled drawn spells names fields (name, v) := by
  refine ⟨hname, ?_⟩
  intro inside hinside hdrawn
  rw [defaulted, hinside] at h
  exact hread hdrawn h

end

-- ---------------------------------------------------------------------------
-- Records
-- ---------------------------------------------------------------------------

variable {σ : Type} {medium : Medium σ} {drawn spells : σ → Value → Prop} {sound : Value → Prop}
  {tree : σ} (hf : medium.Faithful drawn spells sound)
include hf

theorem Contact.spelled_of_gives {contact : Contact} (h : Gives (Contact.decode medium tree) contact)
    (hdrawn : drawn tree contact.encode) : spells tree contact.encode := by
  unfold Contact.decode at h
  obtain ⟨fields, hfields, h⟩ := h.bind
  obtain ⟨name, hname, h⟩ := h.bind
  obtain ⟨email, hemail, h⟩ := h.bind
  cases gives_pure.mp h
  rw [Contact.encode] at hdrawn ⊢
  refine hf.fields hdrawn hfields (List.forall_mem_append.mpr ⟨?_, ?_⟩)
  · exact forall_textMember (.of_defaulted (by simp) hname hf.text)
  · exact forall_textMember (.of_defaulted (by simp) hemail hf.text)

theorem License.spelled_of_gives {license : License} (h : Gives (License.decode medium tree) license)
    (hdrawn : drawn tree license.encode) : spells tree license.encode := by
  unfold License.decode at h
  obtain ⟨fields, hfields, h⟩ := h.bind
  obtain ⟨name, hname, h⟩ := h.bind
  obtain ⟨url, hurl, h⟩ := h.bind
  cases gives_pure.mp h
  rw [License.encode] at hdrawn ⊢
  refine hf.fields hdrawn hfields (List.forall_mem_append.mpr ⟨?_, ?_⟩)
  · exact forall_textMember (.of_defaulted (by simp) hname hf.text)
  · exact forall_textMember (.of_defaulted (by simp) hurl hf.text)

theorem Info.spelled_of_gives {info : Info} (h : Gives (Info.decode medium tree) info)
    (hdrawn : drawn tree info.encode) : spells tree info.encode := by
  unfold Info.decode at h
  obtain ⟨fields, hfields, h⟩ := h.bind
  obtain ⟨title, htitle, h⟩ := h.bind
  obtain ⟨version, hversion, h⟩ := h.bind
  obtain ⟨description, hdescription, h⟩ := h.bind
  obtain ⟨contact, hcontact, h⟩ := h.bind
  obtain ⟨license, hlicense, h⟩ := h.bind
  cases gives_pure.mp h
  rw [Info.encode] at hdrawn ⊢
  refine hf.fields hdrawn hfields ?_
  simp only [List.forall_mem_append, List.forall_mem_cons, List.not_mem_nil, false_imp_iff,
    implies_true, and_true]
  refine ⟨⟨⟨?_, ?_, ?_⟩, forall_unless ?_⟩, forall_unless ?_⟩
  · exact .of_defaulted (by simp) htitle hf.text
  · exact .of_defaulted (by simp) hversion hf.text
  · exact .of_defaulted (by simp) hdescription hf.text
  · exact .of_defaulted (by simp) hcontact fun hdrawn h => Contact.spelled_of_gives hf h hdrawn
  · exact .of_defaulted (by simp) hlicense fun hdrawn h => License.spelled_of_gives hf h hdrawn

theorem Parameter.spelled_of_gives {parameter : Parameter}
    (h : Gives (Parameter.decode medium tree) parameter) (hdrawn : drawn tree parameter.encode) :
    spells tree parameter.encode := by
  unfold Parameter.decode at h
  obtain ⟨fields, hfields, h⟩ := h.bind
  obtain ⟨name, hname, h⟩ := h.bind
  obtain ⟨location, hlocation, h⟩ := h.bind
  obtain ⟨typeName, htype, h⟩ := h.bind
  obtain ⟨required, hrequired, h⟩ := h.bind
  obtain ⟨description, hdescription, h⟩ := h.bind
  cases gives_pure.mp h
  rw [Parameter.encode] at hdrawn ⊢
  refine hf.fields hdrawn hfields ?_
  simp only [List.forall_mem_append, List.forall_mem_cons, List.not_mem_nil, false_imp_iff,
    implies_true, and_true]
  refine ⟨⟨?_, ?_, ?_, ?_⟩, forall_textMember ?_⟩
  · exact .of_mandatory (by simp) hname hf.text
  · exact .of_mandatory (by simp) hlocation (hf.oneOf Location.eq_name_of_ofName?)
  · exact .of_mandatory (by simp) htype hf.text
  · exact .of_mandatory (by simp) hrequired hf.flag
  · exact .of_defaulted (by simp) hdescription hf.text

theorem Medium.Faithful.spelled_value {fields : List (String × σ)} {names : List String}
    {name : String} (hname : name ∈ names) {value : Option Value}
    (h : Gives (defaulted fields name none (medium.option medium.value)) value)
    (hsound : ∀ v ∈ value.toList, sound v) :
    ∀ m ∈ valueMember name value, Spelled drawn spells names fields m := by
  refine forall_valueMember ?_
  rintro v ⟨⟩
  exact .of_defaulted hname h fun hdrawn h =>
    hf.option hdrawn h fun h => hf.value hdrawn h (hsound v (by simp))

theorem ErrorCase.spelled_of_gives {case : ErrorCase}
    (h : Gives (ErrorCase.decode medium tree) case) (hdrawn : drawn tree case.encode)
    (hsound : ∀ v ∈ case.values, sound v) : spells tree case.encode := by
  unfold ErrorCase.decode at h
  obtain ⟨fields, hfields, h⟩ := h.bind
  obtain ⟨code, hcode, h⟩ := h.bind
  obtain ⟨description, hdescription, h⟩ := h.bind
  obtain ⟨sample, hsample, h⟩ := h.bind
  cases gives_pure.mp h
  rw [ErrorCase.encode] at hdrawn ⊢
  refine hf.fields hdrawn hfields ?_
  simp only [List.forall_mem_append, List.forall_mem_cons, List.not_mem_nil, false_imp_iff,
    implies_true, and_true]
  refine ⟨⟨?_, ?_⟩, hf.spelled_value (by simp) hsample hsound⟩
  · exact .of_mandatory (by simp) hcode hf.text
  · exact .of_defaulted (by simp) hdescription hf.text

theorem Message.spelled_of_gives {message : Message}
    (h : Gives (Message.decode medium tree) message) (hdrawn : drawn tree message.encode)
    (hsound : ∀ v ∈ message.values, sound v) : spells tree message.encode := by
  unfold Message.decode at h
  obtain ⟨fields, hfields, h⟩ := h.bind
  obtain ⟨messageType, htype, h⟩ := h.bind
  obtain ⟨direction, hdirection, h⟩ := h.bind
  obtain ⟨description, hdescription, h⟩ := h.bind
  obtain ⟨payload, hpayload, h⟩ := h.bind
  obtain ⟨sample, hsample, h⟩ := h.bind
  obtain ⟨errors, herrors, h⟩ := h.bind
  obtain ⟨deprecated, hdeprecated, h⟩ := h.bind
  obtain ⟨tags, htags, h⟩ := h.bind
  cases gives_pure.mp h
  rw [Message.values, List.forall_mem_append, List.forall_mem_append, List.forall_mem_flatMap]
    at hsound
  obtain ⟨⟨hpayloadSound, hsampleSound⟩, herrorsSound⟩ := hsound
  rw [Message.encode] at hdrawn ⊢
  refine hf.fields hdrawn hfields ?_
  simp only [List.forall_mem_append, List.forall_mem_cons, List.not_mem_nil, false_imp_iff,
    implies_true, and_true]
  refine ⟨⟨⟨⟨⟨⟨⟨?_, ?_⟩, forall_textMember ?_⟩, ?_⟩, ?_⟩, forall_listMember ?_⟩, ?_⟩,
    forall_listMember ?_⟩
  · exact .of_mandatory (by simp) htype hf.text
  · exact .of_mandatory (by simp) hdirection (hf.oneOf Direction.eq_name_of_ofName?)
  · exact .of_defaulted (by simp) hdescription hf.text
  · exact hf.spelled_value (by simp) hpayload hpayloadSound
  · exact hf.spelled_value (by simp) hsample hsampleSound
  · refine .of_defaulted (by simp) herrors fun hdrawn h => hf.list hdrawn h ?_
    intro case hcase tree hdrawn h
    exact ErrorCase.spelled_of_gives hf h hdrawn (herrorsSound case hcase)
  · cases deprecated with
    | false => simp
    | true =>
      rw [if_pos rfl, List.forall_mem_singleton]
      exact .of_defaulted (by simp) hdeprecated hf.flag
  · exact .of_defaulted (by simp) htags fun hdrawn h => hf.list hdrawn h fun _ _ _ => hf.text

theorem Exchange.spelled_of_gives {exchange : Exchange}
    (h : Gives (Exchange.decode medium tree) exchange) (hdrawn : drawn tree exchange.encode)
    (hsound : ∀ v ∈ exchange.values, sound v) : spells tree exchange.encode := by
  unfold Exchange.decode at h
  obtain ⟨fields, hfields, h⟩ := h.bind
  obtain ⟨messageType, htype, h⟩ := h.bind
  obtain ⟨description, hdescription, h⟩ := h.bind
  obtain ⟨send, hsend, h⟩ := h.bind
  obtain ⟨receive, hreceive, h⟩ := h.bind
  cases gives_pure.mp h
  rw [Exchange.values, List.forall_mem_append, List.forall_mem_flatMap, List.forall_mem_flatMap]
    at hsound
  rw [Exchange.encode] at hdrawn ⊢
  refine hf.fields hdrawn hfields ?_
  -- the messages of both directions
  have hmessage {name : String} {message : Option Message}
      (hname : name ∈ ["type", "description", "send", "receive"])
      (h : Gives (defaulted fields name none (medium.option (Message.decode medium))) message)
      (hsound : ∀ m ∈ message.toList, ∀ v ∈ m.values, sound v) :
      ∀ m ∈ valueMember name (message.map Message.encode),
        Spelled drawn spells ["type", "description", "send", "receive"] fields m := by
    refine forall_valueMember ?_
    intro v hv
    obtain ⟨message, rfl, rfl⟩ := Option.map_eq_some_iff.mp hv
    exact .of_defaulted hname h fun hdrawn h => hf.option hdrawn h fun h =>
      Message.spelled_of_gives hf h hdrawn (hsound message (by simp))
  simp only [List.forall_mem_append, List.forall_mem_singleton]
  refine ⟨⟨⟨?_, forall_textMember ?_⟩, ?_⟩, ?_⟩
  · exact .of_mandatory (by simp) htype hf.text
  · exact .of_defaulted (by simp) hdescription hf.text
  · exact hmessage (by simp) hsend hsound.1
  · exact hmessage (by simp) hreceive hsound.2

theorem Endpoint.spelled_of_gives {endpoint : Endpoint}
    (h : Gives (Endpoint.decode medium tree) endpoint) (hdrawn : drawn tree endpoint.encode)
    (hsound : ∀ v ∈ endpoint.values, sound v) : spells tree endpoint.encode := by
  unfold Endpoint.decode at h
  obtain ⟨fields, hfields, h⟩ := h.bind
  obtain ⟨name, hname, h⟩ := h.bind
  obtain ⟨url, hurl, h⟩ := h.bind
  obtain ⟨description, hdescription, h⟩ := h.bind
  obtain ⟨group, hgroup, h⟩ := h.bind
  obtain ⟨tags, htags, h⟩ := h.bind
  obtain ⟨parameters, hparameters, h⟩ := h.bind
  obtain ⟨exchanges, hexchanges, h⟩ := h.bind
  cases gives_pure.mp h
  rw [Endpoint.values, List.forall_mem_flatMap] at hsound
  rw [Endpoint.encode] at hdrawn ⊢
  refine hf.fields hdrawn hfields ?_
  simp only [List.forall_mem_append, List.forall_mem_cons, List.not_mem_nil, false_imp_iff,
    implies_true, and_true]
  refine ⟨⟨⟨⟨⟨⟨?_, ?_⟩, forall_textMember ?_⟩, forall_textMember ?_⟩, forall_listMember ?_⟩,
    forall_listMember ?_⟩, ?_⟩
  · exact .of_defaulted (by simp) hname hf.text
  · exact .of_defaulted (by simp) hurl hf.text
  · exact .of_defaulted (by simp) hdescription hf.text
  · exact .of_defaulted (by simp) hgroup hf.text
  · exact .of_defaulted (by simp) htags fun hdrawn h => hf.list hdrawn h fun _ _ _ => hf.text
  · refine .of_defaulted (by simp) hparameters fun hdrawn h => hf.list hdrawn h ?_
    intro parameter _ tree hdrawn h
    exact Parameter.spelled_of_gives hf h hdrawn
  · refine .of_defaulted (by simp) hexchanges fun hdrawn h => hf.list hdrawn h ?_
    intro exchange hexchange tree hdrawn h
    exact Exchange.spelled_of_gives hf h hdrawn (hsound exchange hexchange)

/-- A document that is read from what was drawn for it is spelled there. -/
theorem Document.spelled_of_gives {document : Document}
    (h : Gives (Document.decode medium tree) document) (hdrawn : drawn tree document.encode)
    (hsound : ∀ v ∈ document.values, sound v) : spells tree document.encode := by
  unfold Document.decode at h
  obtain ⟨fields, hfields, h⟩ := h.bind
  obtain ⟨info, hinfo, h⟩ := h.bind
  obtain ⟨endpoints, hendpoints, h⟩ := h.bind
  cases gives_pure.mp h
  rw [Document.values, List.forall_mem_flatMap] at hsound
  rw [Document.encode, Document.members] at hdrawn ⊢
  refine hf.fields hdrawn hfields (List.forall_mem_cons.mpr ⟨?_, List.forall_mem_singleton.mpr ?_⟩)
  · exact .of_defaulted (by simp) hinfo fun hdrawn h => Info.spelled_of_gives hf h hdrawn
  · refine .of_defaulted (by simp) hendpoints fun hdrawn h => hf.list hdrawn h ?_
    intro endpoint hendpoint tree hdrawn h
    exact Endpoint.spelled_of_gives hf h hdrawn (hsound endpoint hendpoint)

end SocketDocs
