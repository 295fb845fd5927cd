import SocketDocs.Proofs.Command.Running
import SocketDocs.Proofs.Document.RoundTrip
import SocketDocs.Proofs.Extraction.Faults
import SocketDocs.Proofs.Yaml.Drawn

/-!
# JSON text of documents

Documents are written as JSON and read as YAML, which is not quite a larger language. A document
comes back from its JSON text exactly if it is legible (`Document.ofYaml?_json_iff_legible`): YAML
allows its characters, its line breaks survive folding, its keys are short and on one line, and its
payloads do not nest too deep.
-/

namespace SocketDocs

open Json (Value)

-- ---------------------------------------------------------------------------
-- The numbers of a document
-- ---------------------------------------------------------------------------

section

variable (key : String)

@[simp] theorem numbers_textMember (text : String) :
    (textMember key text).flatMap (·.2.numbers) = [] := by
  unfold textMember
  split <;> simp

@[simp] theorem numbers_valueMember (value : Option Value) :
    (valueMember key value).flatMap (·.2.numbers) = value.toList.flatMap Value.numbers := by
  cases value <;> simp [valueMember]

@[simp] theorem numbers_listMember (items : List Value) :
    (listMember key items).flatMap (·.2.numbers) = items.flatMap Value.numbers := by
  cases items <;> simp [listMember]

end

@[simp] theorem Contact.numbers_encode (contact : Contact) : contact.encode.numbers = [] := by
  simp [encode]

@[simp] theorem License.numbers_encode (license : License) : license.encode.numbers = [] := by
  simp [encode]

@[simp] theorem Info.numbers_encode (info : Info) : info.encode.numbers = [] := by
  simp [encode]

@[simp] theorem Parameter.numbers_encode (parameter : Parameter) : parameter.encode.numbers = [] := by
  simp [encode]

@[simp] theorem ErrorCase.numbers_encode (case : ErrorCase) :
    case.encode.numbers = case.values.flatMap Value.numbers := by
  simp [encode, values]

@[simp] theorem Message.numbers_encode (message : Message) :
    message.encode.numbers = message.values.flatMap Value.numbers := by
  cases hdeprecated : message.deprecated <;>
    simp [encode, values, hdeprecated, List.flatMap_map, List.flatMap_assoc]

@[simp] theorem Exchange.numbers_encode (exchange : Exchange) :
    exchange.encode.numbers = exchange.values.flatMap Value.numbers := by
  simp [encode, values, Option.toList_map, List.flatMap_map, List.flatMap_assoc]

@[simp] theorem Endpoint.numbers_encode (endpoint : Endpoint) :
    endpoint.encode.numbers = endpoint.values.flatMap Value.numbers := by
  have hnone {α : Type} (l : List α) : (l.flatMap fun _ => ([] : List Json.Number)) = [] := by simp
  simp [encode, values, List.flatMap_map, List.flatMap_assoc, hnone]

theorem Document.numbers_encode (document : Document) :
    document.encode.numbers = document.values.flatMap Value.numbers := by
  simp [encode, members, values, List.flatMap_map, List.flatMap_assoc]

-- ---------------------------------------------------------------------------
-- Documents
-- ---------------------------------------------------------------------------

namespace Document

def InRange (document : Document) : Prop :=
  ∀ v ∈ document.values, v.InRange

/-- A document whose JSON text means the same in YAML. -/
def Legible (document : Document) : Prop :=
  Yaml.Legible Yaml.Spot.deepest document.encode

variable {document : Document}

theorem textLossless_json_iff (h : document.InRange) :
    document.TextLossless .json ↔ document.Legible := by
  refine Yaml.ofText?_pretty_spells_iff ?_
  rw [← encode, numbers_encode, List.forall_mem_flatMap]
  exact h

theorem textLossless_of_ofYaml? (hordered : document.Ordered)
    (h : ofYaml? (document.text .json) = some document) : document.TextLossless .json := by
  obtain ⟨tree, htree, hread⟩ := exists_tree_of_ofYaml? h
  obtain ⟨-, root, hnode, hroot⟩ := Yaml.root_ofText?_pretty_iff.mp ⟨tree, htree, rfl⟩
  refine ⟨tree, root, htree, hroot.symm, ?_⟩
  rw [ofTree?, ← hroot] at hread
  have hgives : Decoder.Gives (decode (Yaml.medium tree) ⟨root, Yaml.Spot.deepest⟩) document :=
    .of_run' hread
  exact spelled_of_gives (Yaml.medium_faithful tree) hgives hnode hordered

theorem ofYaml?_json_iff (hfree : document.NullFree) (hordered : document.Ordered)
    (hrange : document.InRange) :
    ofYaml? (document.text .json) = some document ↔ document.Legible := by
  rw [← textLossless_json_iff hrange]
  refine ⟨textLossless_of_ofYaml? hordered, ?_⟩
  intro htext
  rw [ofYaml?_text hordered htext, some_withoutNulls_eq_iff]
  exact hfree

end Document

theorem Extraction.sound_ofRoot {path : String} {found : Except FileProblem FileNode}
    {extraction : Extraction} (h : ofRoot path found = .ok extraction) :
    ∀ v ∈ extraction.document.values, v.Sound := by
  rcases found with problem | (content | ⟨entries, access⟩)
  · cases h
  · cases h
  · obtain ⟨sources, -, hsources⟩ := search_of_ofRoot h
    unfold ofSources at hsources
    dsimp only [bind, Except.bind] at hsources
    split at hsources
    · cases hsources
    · cases hsources
      exact sound_ofFiles _

namespace Document

/-- The JSON text of a document is read back as the document exactly if the document is legible. This
also holds of the file that generation leaves behind: if its document is legible, the file can be
validated and formatted, unless it was there before as one that cannot be opened. -/
theorem ofYaml?_json_iff_legible (tree : FileTree) :
    (∀ document : Document, document.NullFree → document.Ordered → document.InRange →
      (ofYaml? (document.text .json) = some document ↔ document.Legible)) ∧
    ∀ source output after, after = (Command.generate source output .json).run tree →
      after.failure = none →
      ∃ extraction document place own,
        Extraction.ofRoot source (tree.node? source) = .ok extraction ∧
        document = extraction.document.withDefaults ∧
        after.tree.follow [] (FilePath.parts output) = .ok place ∧
        own = (tree.access? place).getD {} ∧
        after.tree.node? output = .ok (.file (.text (document.text .json)) own) ∧
        (own.read = true →
          (Plan.load output (after.tree.node? output) = .ok document ↔ document.Legible) ∧
          (document.Legible →
            ((Command.validate output).run after.tree).failure =
              (if document.problems.isEmpty then none
                else some (.invalid output document.problems.length)) ∧
            ∀ target, (Plan.reformat output target (after.tree.node? output)).ending =
              .write ⟨target.getD output, document.text .yaml,
                [Plan.reformatLine output (target.getD output)]⟩)) := by
  refine ⟨fun document => ofYaml?_json_iff, ?_⟩
  rintro source output _ rfl hfailure
  obtain ⟨extraction, place, hextraction, hplace, hnode⟩ := Command.run_generate hfailure
  refine ⟨extraction, _, place, _, hextraction, rfl, hplace, rfl, hnode, ?_⟩
  intro hopens
  have hsound := Extraction.sound_ofRoot hextraction
  have hload : Plan.load output (((Command.generate source output .json).run tree).tree.node? output) =
      .ok extraction.document.withDefaults ↔ extraction.document.withDefaults.Legible := by
    rw [hnode, Plan.load_file_iff hopens]
    exact ofYaml?_json_iff (fun v hv => (hsound v hv).ne_null) (fun v hv => (hsound v hv).ordered)
      (fun v hv => (hsound v hv).inRange)
  refine ⟨hload, ?_⟩
  intro hlegible
  exact ⟨Command.failure_validate (hload.mpr hlegible), Plan.reformat_of_load (hload.mpr hlegible)⟩

/-- A document with a payload comes back, and so does what is generated for an empty directory. -/
theorem ofYaml?_json_iff_legible_instances :
    (∃ document : Document,
      document = ofPayload (some (.object [("user", .array [.string "Ann Lee", .ofInt 40])])) ∧
      document.Legible ∧ ofYaml? (document.text .json) = some document) ∧
    ∃ after document,
      after = (Command.generate "src" "api.json" .json).run { entries := [("src", .directory [])] } ∧
      document.info.title = "WebSocket API" ∧
      Plan.load "api.json" (after.tree.node? "api.json") = .ok document := by
  let tree : FileTree := { entries := [("src", .directory [])] }
  obtain ⟨hread, hgenerate⟩ := ofYaml?_json_iff_legible tree
  refine ⟨⟨_, rfl, ?_⟩, ?_⟩
  · have hlegible : Legible
        (ofPayload (some (.object [("user", .array [.string "Ann Lee", .ofInt 40])]))) :=
      Yaml.legible_of_spaces (by decide +kernel) (by decide +kernel) (by decide +kernel)
    refine ⟨hlegible, (hread _ ?_ ?_ ?_).mpr hlegible⟩
    · simp [NullFree, ofPayload, values, Endpoint.values, Exchange.values, Message.values]
    · simp [Ordered, ofPayload, values, Endpoint.values, Exchange.values, Message.values,
        Keyed.Sorted, Value.ofInt, Value.Ordered, Value.OrderedMembers, Value.OrderedItems]
    · simp [InRange, ofPayload, values, Endpoint.values, Exchange.values, Message.values,
        Value.InRange, Value.ofInt, Json.Number.InRange, Decimal.int64Min, Decimal.uint64Max]
  · have hroot : Extraction.ofRoot "src" (tree.node? "src") = .ok (Extraction.ofFiles []) :=
      Extraction.ofRoot_empty "src"
    have hdone : ((Command.generate "src" "api.json" .json).run tree).failure = none :=
      Command.failure_generate hroot fun text => rfl
    obtain ⟨extraction, document, place, own, hextraction, rfl, hplace, rfl, -, hread⟩ :=
      hgenerate _ _ _ rfl hdone
    have hled : ((Command.generate "src" "api.json" .json).run tree).tree.follow []
        (FilePath.parts "api.json") = .ok ["api.json"] := by decide +kernel
    rw [hled] at hplace
    cases hplace
    obtain ⟨hload, -⟩ := hread rfl
    rw [hroot] at hextraction
    cases hextraction
    have hlegible : (Extraction.ofFiles []).document.withDefaults.Legible :=
      Yaml.legible_of_spaces (by decide +kernel) (by decide +kernel) (by decide +kernel)
    exact ⟨_, _, rfl, rfl, hload.mpr hlegible⟩

/-- Two titles that JSON text does not carry: one is refused, the other comes back changed. -/
theorem ofYaml?_json_not_read_back :
    ∃ refused changed : Document, refused.info.title = "a\x7fb" ∧ refused.NullFree ∧
      ofYaml? (refused.text .json) = none ∧
      changed.info.title = "a\u0085b" ∧ changed.NullFree ∧
      ofYaml? (changed.text .json) = some { changed with info := { title := "a b" } } := by
  refine ⟨{ info := { title := "a\x7fb" } }, { info := { title := "a\u0085b" } }, rfl, ?_, ?_, rfl,
    ?_, ?_⟩
  · simp [NullFree, values]
  · decide +kernel
  · simp [NullFree, values]
  · decide +kernel

end Document

end SocketDocs
