import Mathlib.Data.List.Forall2
import SocketDocs.Document.Decoding
import SocketDocs.Document.Encoding
import SocketDocs.Document.OfJson
import SocketDocs.Proofs.Document.Values

/-!
# Reading back what was written

A medium is lawful if it finds in a tree the parts that the tree spells. In such a medium a
document is read back from any tree that spells its written form, less the nulls among its values
(`Document.decode_spelled`). The proof goes record by record and says for each field what the
written form holds under its name.

JSON values spell themselves, which makes their medium lawful.
-/

namespace SocketDocs

open Json (Value)

/-- The medium finds what trees spell. `sound` tells which values it gives back unchanged as
payloads. -/
structure Medium.Lawful {σ : Type} (medium : Medium σ) (spells : σ → Value → Prop)
    (sound : Value → Prop) : Prop where
  text {tree s} : spells tree (.string s) → medium.text tree = pure s
  flag {tree b} : spells tree (.bool b) → medium.flag tree = pure b
  choice {tree s} : spells tree (.string s) → medium.choice tree = pure s
  items {tree vs} : spells tree (.array vs) →
    ∃ trees, medium.items tree = pure trees ∧ List.Forall₂ spells trees vs
  fields {tree ms} (names : List String) : spells tree (.object ms) → (ms.map (·.1)).Nodup →
    ∃ fields, medium.fields names tree = pure fields ∧
      ∀ name ∈ names, Option.Rel spells (fields.lookup name) (ms.lookup name)
  unset {tree} : spells tree .null → medium.present tree = pure none
  present {tree v} : spells tree v → v ≠ .null →
    ∃ inside, medium.present tree = pure (some inside) ∧ spells inside v
  value {tree v} : spells tree v → sound v → medium.value tree = pure v

-- ---------------------------------------------------------------------------
-- Members
-- ---------------------------------------------------------------------------

theorem lookup_singleton {α : Type} (key name : String) (a : α) :
    [(key, a)].lookup name = if name = key then some a else none := by
  by_cases h : name = key
  · simp [h]
  · have hbeq : (name == key) = false := by simpa using h
    simp [List.lookup_cons, hbeq, h]

theorem lookup_textMember (key text name : String) :
    (textMember key text).lookup name =
      if name = key then if text = "" then none else some (.string text) else none := by
  by_cases ht : text = "" <;> simp [textMember, lookup_singleton, ht]

theorem lookup_valueMember (key name : String) (value : Option Value) :
    (valueMember key value).lookup name = if name = key then value else none := by
  cases value <;> simp [valueMember, lookup_singleton]

theorem lookup_listMember (key name : String) (items : List Value) :
    (listMember key items).lookup name =
      if name = key then if items = [] then none else some (.array items) else none := by
  cases items <;> simp [listMember, lookup_singleton]

theorem lookup_unless (b : Bool) (key name : String) (v : Value) :
    (if b then [] else [(key, v)]).lookup name =
      if name = key then if b then none else some v else none := by
  cases b <;> simp [lookup_singleton]

theorem lookup_when (b : Bool) (key name : String) (v : Value) :
    (if b then [(key, v)] else []).lookup name =
      if name = key then if b then some v else none else none := by
  cases b <;> simp [lookup_singleton]

theorem keys_textMember (key text : String) :
    List.Sublist ((textMember key text).map (·.1)) [key] := by
  unfold textMember
  split <;> simp

theorem keys_valueMember (key : String) (value : Option Value) :
    List.Sublist ((valueMember key value).map (·.1)) [key] := by
  cases value <;> simp [valueMember]

theorem keys_when (b : Bool) (key : String) (v : Value) :
    List.Sublist ((if b then [(key, v)] else []).map (·.1)) [key] := by
  cases b <;> simp

theorem keys_listMember (key : String) (items : List Value) :
    List.Sublist ((listMember key items).map (·.1)) [key] := by
  unfold listMember
  split <;> simp

open Decoder (mandatory defaulted)

theorem Decoder.mapM_eq {α β γ : Type} {rel : α → β → Prop} {read : α → Decoder γ} {f : β → γ}
    {as : List α} {bs : List β} (h : List.Forall₂ rel as bs)
    (hread : ∀ a b, b ∈ bs → rel a b → read a = pure (f b)) : as.mapM read = pure (bs.map f) := by
  induction h with
  | nil => rfl
  | cons hab _ ih =>
    have hrest := ih fun a b hb => hread a b (List.mem_cons_of_mem _ hb)
    simp [List.mapM_cons, hread _ _ (List.mem_cons_self ..) hab, hrest]

namespace Medium.Lawful

variable {σ α : Type} {medium : Medium σ} {spells : σ → Value → Prop} {sound : Value → Prop}
variable {fields : List (String × σ)} {name : String}

-- ---------------------------------------------------------------------------
-- Fields
-- ---------------------------------------------------------------------------

theorem mandatory_eq {v : Value} {a : α} {read : σ → Decoder α}
    (h : Option.Rel spells (fields.lookup name) (some v))
    (hread : ∀ tree, spells tree v → read tree = pure a) : mandatory fields name read = pure a := by
  cases hf : fields.lookup name with
  | none => rw [hf] at h; cases h
  | some tree =>
    rw [hf] at h
    cases h with
    | some h => simp [mandatory, hf, hread tree h]

theorem defaulted_eq {written : Option Value} {a default : α} {read : σ → Decoder α}
    (h : Option.Rel spells (fields.lookup name) written)
    (hread : ∀ v ∈ written, ∀ tree, spells tree v → read tree = pure a)
    (hdefault : written = none → a = default) :
    defaulted fields name default read = pure a := by
  cases hf : fields.lookup name with
  | none =>
    rw [hf] at h
    cases h
    rw [defaulted, hf, hdefault rfl]
  | some tree =>
    rw [hf] at h
    cases h with
    | some h => simp [defaulted, hf, hread _ rfl tree h]

theorem defaulted_written {v : Value} {a default : α} {read : σ → Decoder α}
    (h : Option.Rel spells (fields.lookup name) (some v))
    (hread : ∀ tree, spells tree v → read tree = pure a) :
    defaulted fields name default read = pure a := by
  refine defaulted_eq h ?_ (by intro hnone; cases hnone)
  intro w hw
  cases hw
  exact hread

theorem defaulted_unless {b : Bool} {v : Value} {a default : α} {read : σ → Decoder α}
    (h : Option.Rel spells (fields.lookup name) (if b then none else some v))
    (hread : ∀ tree, spells tree v → read tree = pure a) (hdefault : b = true → a = default) :
    defaulted fields name default read = pure a := by
  cases b with
  | true => exact defaulted_eq h (by simp) fun _ => hdefault rfl
  | false => exact defaulted_written h hread

theorem defaulted_text (hl : medium.Lawful spells sound) {text : String}
    (h : Option.Rel spells (fields.lookup name)
      (if text = "" then none else some (.string text))) :
    defaulted fields name "" medium.text = pure text := by
  refine defaulted_eq h ?_ ?_
  · intro v hv tree htree
    split at hv
    · cases hv
    · cases hv
      exact hl.text htree
  · intro hnone
    by_contra hne
    simp [hne] at hnone

theorem defaulted_flag (hl : medium.Lawful spells sound) {b : Bool}
    (h : Option.Rel spells (fields.lookup name) (if b then some (.bool true) else none)) :
    defaulted fields name false medium.flag = pure b := by
  cases b with
  | true => exact defaulted_written h fun _ => hl.flag
  | false => exact defaulted_eq h (by simp) fun _ => rfl

theorem list_eq (hl : medium.Lawful spells sound) {β : Type} {encode : β → Value}
    {read : σ → Decoder α} {f : β → α} {xs : List β} {tree : σ}
    (h : spells tree (.array (xs.map encode)))
    (hread : ∀ x ∈ xs, ∀ tree, spells tree (encode x) → read tree = pure (f x)) :
    medium.list read tree = pure (xs.map f) := by
  obtain ⟨trees, htrees, hall⟩ := hl.items h
  rw [List.forall₂_map_right_iff] at hall
  simp [Medium.list, htrees, Decoder.mapM_eq hall fun _ x hx => hread x hx _]

theorem defaulted_list (hl : medium.Lawful spells sound) {β : Type} {encode : β → Value}
    {read : σ → Decoder α} {f : β → α} {xs : List β}
    (h : Option.Rel spells (fields.lookup name)
      (if xs = [] then none else some (.array (xs.map encode))))
    (hread : ∀ x ∈ xs, ∀ tree, spells tree (encode x) → read tree = pure (f x)) :
    defaulted fields name [] (medium.list read) = pure (xs.map f) := by
  refine defaulted_eq h ?_ ?_
  · intro v hv tree htree
    split at hv
    · cases hv
    · cases hv
      exact hl.list_eq htree hread
  · intro hnone
    cases xs with
    | nil => rfl
    | cons x xs => simp at hnone

theorem option_eq (hl : medium.Lawful spells sound) {read : σ → Decoder α} {a : α} {v : Value}
    {tree : σ} (h : spells tree v) (hv : v ≠ .null)
    (hread : ∀ tree, spells tree v → read tree = pure a) :
    medium.option read tree = pure (some a) := by
  obtain ⟨inside, hpresent, hinside⟩ := hl.present h hv
  simp [Medium.option, hpresent, hread inside hinside]

/-- A value that may be left out. If it is written as null, it is read as unset. -/
theorem defaulted_value (hl : medium.Lawful spells sound) {value : Option Value}
    (h : Option.Rel spells (fields.lookup name) value)
    (hsound : ∀ v ∈ value.toList, sound v) :
    defaulted fields name none (medium.option medium.value) = pure (unsetNull value) := by
  refine defaulted_eq h ?_ (by rintro rfl; rfl)
  rintro v hv tree htree
  cases hv
  by_cases hnull : v = .null
  · subst hnull
    simp [Medium.option, hl.unset htree, unsetNull]
  · have hkeep : unsetNull (some v) = some v :=
      unsetNull_eq_self_iff.mpr (by simpa using hnull)
    rw [hkeep]
    exact hl.option_eq htree hnull fun _ hinside => hl.value hinside (hsound v (by simp))

theorem defaulted_option (hl : medium.Lawful spells sound) {β : Type} {encode : β → Value}
    (hencode : ∀ x, encode x ≠ .null) {read : σ → Decoder α} {f : β → α} {x? : Option β}
    (h : Option.Rel spells (fields.lookup name) (x?.map encode))
    (hread : ∀ x ∈ x?.toList, ∀ tree, spells tree (encode x) → read tree = pure (f x)) :
    defaulted fields name none (medium.option read) = pure (x?.map f) := by
  refine defaulted_eq h ?_ (by intro hnone; cases x? <;> simp_all)
  intro v hv tree htree
  obtain ⟨x, rfl, rfl⟩ := Option.map_eq_some_iff.mp hv
  exact hl.option_eq htree (hencode x) fun inside hinside => hread x (by simp) inside hinside

theorem oneOf_eq (hl : medium.Lawful spells sound) {ofName? : String → Option α} {a : α}
    {text : String} (hname : ofName? text = some a) {tree : σ} (h : spells tree (.string text)) :
    medium.oneOf ofName? tree = pure a := by
  simp [Medium.oneOf, hl.choice h, hname, Decoder.ofOption]

end Medium.Lawful

-- ---------------------------------------------------------------------------
-- Records
-- ---------------------------------------------------------------------------

open Medium.Lawful (mandatory_eq defaulted_written defaulted_unless)

variable {σ : Type} {medium : Medium σ} {spells : σ → Value → Prop} {sound : Value → Prop}
  {tree : σ}

theorem Contact.decode_spelled (hl : medium.Lawful spells sound) {contact : Contact}
    (h : spells tree contact.encode) : Contact.decode medium tree = pure contact := by
  have hkeys : List.Sublist ((textMember "name" contact.name ++
      textMember "email" contact.email).map (·.1)) ["name", "email"] := by
    rw [List.map_append]
    exact (keys_textMember _ _).append (keys_textMember _ _)
  obtain ⟨fields, hfields, hrel⟩ := hl.fields ["name", "email"] h (hkeys.nodup (by decide))
  have hname := hrel "name" (by simp)
  have hemail := hrel "email" (by simp)
  simp [List.lookup_append, lookup_textMember] at hname hemail
  simp [Contact.decode, hfields, hl.defaulted_text hname, hl.defaulted_text hemail]

theorem License.decode_spelled (hl : medium.Lawful spells sound) {license : License}
    (h : spells tree license.encode) : License.decode medium tree = pure license := by
  have hkeys : List.Sublist ((textMember "name" license.name ++
      textMember "url" license.url).map (·.1)) ["name", "url"] := by
    rw [List.map_append]
    exact (keys_textMember _ _).append (keys_textMember _ _)
  obtain ⟨fields, hfields, hrel⟩ := hl.fields ["name", "url"] h (hkeys.nodup (by decide))
  have hname := hrel "name" (by simp)
  have hurl := hrel "url" (by simp)
  simp [List.lookup_append, lookup_textMember] at hname hurl
  simp [License.decode, hfields, hl.defaulted_text hname, hl.defaulted_text hurl]

theorem Contact.eq_default_of_isEmpty {contact : Contact} (h : contact.isEmpty = true) :
    contact = {} := by
  obtain ⟨name, email⟩ := contact
  simpa [Contact.isEmpty] using h

theorem License.eq_default_of_isEmpty {license : License} (h : license.isEmpty = true) :
    license = {} := by
  obtain ⟨name, url⟩ := license
  simpa [License.isEmpty] using h

theorem Info.decode_spelled (hl : medium.Lawful spells sound) {info : Info}
    (h : spells tree info.encode) : Info.decode medium tree = pure info := by
  have hkeys : List.Sublist (([("title", Value.string info.title),
      ("version", .string info.version), ("description", .string info.description)] ++
      (if info.contact.isEmpty then [] else [("contact", info.contact.encode)]) ++
      (if info.license.isEmpty then [] else [("license", info.license.encode)])).map (·.1))
      ["title", "version", "description", "contact", "license"] := by
    cases info.contact.isEmpty <;> cases info.license.isEmpty <;> simp
  obtain ⟨fields, hfields, hrel⟩ := hl.fields
    ["title", "version", "description", "contact", "license"] h (hkeys.nodup (by decide))
  have htitle := hrel "title" (by simp)
  have hversion := hrel "version" (by simp)
  have hdescription := hrel "description" (by simp)
  have hcontact := hrel "contact" (by simp)
  have hlicense := hrel "license" (by simp)
  simp [List.lookup_cons] at htitle hversion hdescription
  simp [List.lookup_append, List.lookup_cons, lookup_unless] at hcontact hlicense
  simp only [Info.decode, hfields, pure_bind]
  rw [defaulted_written htitle fun _ => hl.text, defaulted_written hversion fun _ => hl.text,
    defaulted_written hdescription fun _ => hl.text,
    defaulted_unless hcontact (fun _ => Contact.decode_spelled hl) Contact.eq_default_of_isEmpty,
    defaulted_unless hlicense (fun _ => License.decode_spelled hl) License.eq_default_of_isEmpty]
  simp only [pure_bind]

theorem Parameter.decode_spelled (hl : medium.Lawful spells sound) {parameter : Parameter}
    (h : spells tree parameter.encode) : Parameter.decode medium tree = pure parameter := by
  have hkeys : List.Sublist (([("name", Value.string parameter.name),
      ("in", .string parameter.location.name), ("type", .string parameter.typeName),
      ("required", .bool parameter.required)] ++
      textMember "description" parameter.description).map (·.1))
      ["name", "in", "type", "required", "description"] := by
    rw [List.map_append]
    exact (List.Sublist.refl _).append (keys_textMember _ _)
  obtain ⟨fields, hfields, hrel⟩ := hl.fields
    ["name", "in", "type", "required", "description"] h (hkeys.nodup (by decide))
  have hname := hrel "name" (by simp)
  have hlocation := hrel "in" (by simp)
  have htype := hrel "type" (by simp)
  have hrequired := hrel "required" (by simp)
  have hdescription := hrel "description" (by simp)
  simp [List.lookup_cons] at hname hlocation htype hrequired
  simp [List.lookup_cons, lookup_textMember] at hdescription
  simp only [Parameter.decode, hfields, pure_bind]
  rw [mandatory_eq hname fun _ => hl.text,
    mandatory_eq hlocation fun _ => hl.oneOf_eq (Location.ofName?_name _),
    mandatory_eq htype fun _ => hl.text, mandatory_eq hrequired fun _ => hl.flag,
    hl.defaulted_text hdescription]
  simp only [pure_bind]

theorem ErrorCase.decode_spelled (hl : medium.Lawful spells sound) {case : ErrorCase}
    (hsound : ∀ v ∈ case.values, sound v) (h : spells tree case.encode) :
    ErrorCase.decode medium tree = pure case.withoutNulls := by
  have hkeys : List.Sublist (([("code", Value.string case.code),
      ("description", .string case.description)] ++ valueMember "example" case.sample).map (·.1))
      ["code", "description", "example"] := by
    rw [List.map_append]
    exact (List.Sublist.refl _).append (keys_valueMember _ _)
  obtain ⟨fields, hfields, hrel⟩ := hl.fields ["code", "description", "example"] h
    (hkeys.nodup (by decide))
  have hcode := hrel "code" (by simp)
  have hdescription := hrel "description" (by simp)
  have hsample := hrel "example" (by simp)
  simp [List.lookup_cons] at hcode hdescription
  simp [List.lookup_cons, lookup_valueMember] at hsample
  simp only [ErrorCase.decode, hfields, pure_bind]
  rw [mandatory_eq hcode fun _ => hl.text, defaulted_written hdescription fun _ => hl.text,
    hl.defaulted_value hsample hsound]
  simp only [pure_bind]
  rfl

theorem Message.decode_spelled (hl : medium.Lawful spells sound) {message : Message}
    (hsound : ∀ v ∈ message.values, sound v) (h : spells tree message.encode) :
    Message.decode medium tree = pure message.withoutNulls := by
  have hkeys : List.Sublist (([("type", Value.string message.messageType),
      ("direction", .string message.direction.name)] ++
      textMember "description" message.description ++ valueMember "payload" message.payload ++
      valueMember "example" message.sample ++
      listMember "errors" (message.errors.map ErrorCase.encode) ++
      (if message.deprecated then [("deprecated", Value.bool true)] else []) ++
      listMember "tags" (message.tags.map Value.string)).map (·.1))
      ["type", "direction", "description", "payload", "example", "errors", "deprecated", "tags"] := by
    simp only [List.map_append]
    exact ((((((List.Sublist.refl _).append (keys_textMember _ _)).append
      (keys_valueMember _ _)).append (keys_valueMember _ _)).append (keys_listMember _ _)).append
      (keys_when _ _ _)).append (keys_listMember _ _)
  obtain ⟨fields, hfields, hrel⟩ := hl.fields
    ["type", "direction", "description", "payload", "example", "errors", "deprecated", "tags"] h
    (hkeys.nodup (by decide))
  have htype := hrel "type" (by simp)
  have hdirection := hrel "direction" (by simp)
  have hdescription := hrel "description" (by simp)
  have hpayload := hrel "payload" (by simp)
  have hsample := hrel "example" (by simp)
  have herrors := hrel "errors" (by simp)
  have hdeprecated := hrel "deprecated" (by simp)
  have htags := hrel "tags" (by simp)
  simp [List.lookup_cons] at htype hdirection
  simp [List.lookup_append, List.lookup_cons, lookup_textMember, lookup_valueMember,
    lookup_listMember, lookup_when] at hdescription hpayload hsample herrors hdeprecated htags
  simp only [values, List.forall_mem_append, List.forall_mem_flatMap] at hsound
  obtain ⟨⟨hpayloads, hsamples⟩, hcases⟩ := hsound
  simp only [Message.decode, hfields, pure_bind]
  rw [mandatory_eq htype fun _ => hl.text,
    mandatory_eq hdirection fun _ => hl.oneOf_eq (Direction.ofName?_name _),
    hl.defaulted_text hdescription, hl.defaulted_value hpayload hpayloads,
    hl.defaulted_value hsample hsamples,
    hl.defaulted_list herrors fun case hcase _ => ErrorCase.decode_spelled hl (hcases case hcase),
    hl.defaulted_flag hdeprecated,
    hl.defaulted_list (f := id) htags fun _ _ _ => hl.text]
  simp only [pure_bind, List.map_id]
  rfl

theorem Exchange.decode_spelled (hl : medium.Lawful spells sound) {exchange : Exchange}
    (hsound : ∀ v ∈ exchange.values, sound v) (h : spells tree exchange.encode) :
    Exchange.decode medium tree = pure exchange.withoutNulls := by
  have hkeys : List.Sublist (([("type", Value.string exchange.messageType)] ++
      textMember "description" exchange.description ++
      valueMember "send" (exchange.send.map Message.encode) ++
      valueMember "receive" (exchange.receive.map Message.encode)).map (·.1))
      ["type", "description", "send", "receive"] := by
    simp only [List.map_append]
    exact (((List.Sublist.refl _).append (keys_textMember _ _)).append
      (keys_valueMember _ _)).append (keys_valueMember _ _)
  obtain ⟨fields, hfields, hrel⟩ := hl.fields ["type", "description", "send", "receive"] h
    (hkeys.nodup (by decide))
  have htype := hrel "type" (by simp)
  have hdescription := hrel "description" (by simp)
  have hsend := hrel "send" (by simp)
  have hreceive := hrel "receive" (by simp)
  simp at htype
  simp [List.lookup_append, List.lookup_cons, lookup_textMember,
    lookup_valueMember] at hdescription hsend hreceive
  simp only [values, List.forall_mem_append, List.forall_mem_flatMap] at hsound
  obtain ⟨hsends, hreceives⟩ := hsound
  have hobject : ∀ message : Message, message.encode ≠ .null := by simp [Message.encode]
  simp only [Exchange.decode, hfields, pure_bind]
  rw [mandatory_eq htype fun _ => hl.text, hl.defaulted_text hdescription,
    hl.defaulted_option hobject hsend fun m hm _ => Message.decode_spelled hl (hsends m hm),
    hl.defaulted_option hobject hreceive fun m hm _ => Message.decode_spelled hl (hreceives m hm)]
  simp only [pure_bind]
  rfl

theorem Endpoint.decode_spelled (hl : medium.Lawful spells sound) {endpoint : Endpoint}
    (hsound : ∀ v ∈ endpoint.values, sound v) (h : spells tree endpoint.encode) :
    Endpoint.decode medium tree = pure endpoint.withoutNulls := by
  have hkeys : List.Sublist (([("name", Value.string endpoint.name),
      ("url", .string endpoint.url)] ++ textMember "description" endpoint.description ++
      textMember "group" endpoint.group ++ listMember "tags" (endpoint.tags.map Value.string) ++
      listMember "connectionParams" (endpoint.parameters.map Parameter.encode) ++
      [("messages", Value.array (endpoint.exchanges.map Exchange.encode))]).map (·.1))
      ["name", "url", "description", "group", "tags", "connectionParams", "messages"] := by
    simp only [List.map_append]
    exact (((((List.Sublist.refl _).append (keys_textMember _ _)).append
      (keys_textMember _ _)).append (keys_listMember _ _)).append (keys_listMember _ _)).append
      (List.Sublist.refl _)
  obtain ⟨fields, hfields, hrel⟩ := hl.fields
    ["name", "url", "description", "group", "tags", "connectionParams", "messages"] h
    (hkeys.nodup (by decide))
  have hname := hrel "name" (by simp)
  have hurl := hrel "url" (by simp)
  have hdescription := hrel "description" (by simp)
  have hgroup := hrel "group" (by simp)
  have htags := hrel "tags" (by simp)
  have hparameters := hrel "connectionParams" (by simp)
  have hexchanges := hrel "messages" (by simp)
  simp [List.lookup_cons] at hname hurl
  simp [List.lookup_append, List.lookup_cons, lookup_textMember,
    lookup_listMember] at hdescription hgroup htags hparameters hexchanges
  simp only [values, List.forall_mem_flatMap] at hsound
  simp only [Endpoint.decode, hfields, pure_bind]
  rw [defaulted_written hname fun _ => hl.text, defaulted_written hurl fun _ => hl.text,
    hl.defaulted_text hdescription, hl.defaulted_text hgroup,
    hl.defaulted_list (f := id) htags fun _ _ _ => hl.text,
    hl.defaulted_list (f := id) hparameters fun _ _ _ => Parameter.decode_spelled hl,
    defaulted_written hexchanges fun _ htree => hl.list_eq htree fun x hx _ =>
      Exchange.decode_spelled hl (hsound x hx)]
  simp only [pure_bind, List.map_id]
  rfl

theorem Document.decode_spelled (hl : medium.Lawful spells sound) {document : Document}
    (hsound : ∀ v ∈ document.values, sound v) (h : spells tree document.encode) :
    Document.decode medium tree = pure document.withoutNulls := by
  obtain ⟨fields, hfields, hrel⟩ := hl.fields ["info", "sockets"] h
    (show (document.members.map (·.1)).Nodup by simp [Document.members])
  have hinfo := hrel "info" (by simp)
  have hendpoints := hrel "sockets" (by simp)
  simp [Document.members, List.lookup_cons] at hinfo hendpoints
  simp only [values, List.forall_mem_flatMap] at hsound
  simp only [Document.decode, hfields, pure_bind]
  rw [defaulted_written hinfo fun _ => Info.decode_spelled hl,
    defaulted_written hendpoints fun _ htree => hl.list_eq htree fun x hx _ =>
      Endpoint.decode_spelled hl (hsound x hx)]
  simp only [pure_bind]
  rfl

-- ---------------------------------------------------------------------------
-- JSON values
-- ---------------------------------------------------------------------------

theorem lookup_filter_contains {α : Type} {names : List String} {name : String} (h : name ∈ names)
    (members : List (String × α)) :
    (members.filter fun m => names.contains m.1).lookup name = members.lookup name := by
  induction members with
  | nil => rfl
  | cons member members ih =>
    obtain ⟨key, a⟩ := member
    by_cases hkey : names.contains key = true
    · rw [List.filter_cons, if_pos hkey, List.lookup_cons, List.lookup_cons, ih]
    · have hne : (name == key) = false := by
        rw [beq_eq_false_iff_ne]
        rintro rfl
        exact hkey (by simpa using h)
      rw [List.filter_cons, if_neg hkey, List.lookup_cons, hne, ih]

theorem Json.medium_lawful : Json.medium.Lawful Eq fun _ => True where
  text := by rintro _ s rfl; rfl
  flag := by rintro _ b rfl; rfl
  choice := by rintro _ s rfl; rfl
  items := by
    rintro _ vs rfl
    exact ⟨vs, rfl, List.forall₂_refl vs⟩
  fields := by
    rintro _ ms names rfl -
    refine ⟨_, rfl, ?_⟩
    intro name hname
    rw [lookup_filter_contains hname]
    cases ms.lookup name with
    | none => exact .none
    | some v => exact .some rfl
  unset := by rintro _ rfl; rfl
  present := by
    rintro tree v rfl hv
    refine ⟨tree, ?_, rfl⟩
    cases tree <;> first | rfl | exact absurd rfl hv
  value := by rintro _ v rfl -; rfl

theorem Document.ofJson?_encode (document : Document) :
    Document.ofJson? document.encode = some document.withoutNulls := by
  rw [Document.ofJson?, Document.decode_spelled Json.medium_lawful (fun _ _ => trivial) rfl]
  rfl

end SocketDocs
