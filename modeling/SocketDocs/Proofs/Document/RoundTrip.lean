import SocketDocs.Document.Text
import SocketDocs.Proofs.Document.Lawful
import SocketDocs.Proofs.Extraction.Values
import SocketDocs.Proofs.Yaml.Places
import SocketDocs.Proofs.Yaml.Spelling

/-!
# Written documents are read back

Reading what was written for a document gives the document, except that a payload or sample that is
null comes back unset. Extracted documents hold no such value. A document that was read holds one
exactly if its tree has a set part whose value is null, such as a number that is not finite; of all
documents that can be read, those are lost.
-/

namespace SocketDocs

open Json (Value)

namespace Document

/-- The text of a document is read as the tree that was printed. -/
def TextLossless (document : Document) (format : Format) : Prop :=
  ∃ tree root, Yaml.Tree.ofText? (document.text format) = some tree ∧ tree.root = some root ∧
    Yaml.Spells Yaml.Spot.deepest root document.encode

theorem textLossless_iff {document : Document} {format : Format} :
    document.TextLossless format ↔
      ((Yaml.Tree.ofText? (document.text format)).bind (·.root)).any
        (Yaml.spells Yaml.Spot.deepest · document.encode) = true := by
  unfold TextLossless
  simp only [Option.any_eq_true, Option.bind_eq_some_iff, Yaml.spells_iff]
  grind

instance (document : Document) (format : Format) : Decidable (document.TextLossless format) :=
  decidable_of_iff _ textLossless_iff.symm

def RoundTrips (document : Document) : Prop :=
  ofJson? document.encode = some document ∧
    ∀ format, document.TextLossless format → ofYaml? (document.text format) = some document

variable {document : Document}

theorem ofYaml?_text {format : Format} (hordered : document.Ordered)
    (htext : document.TextLossless format) :
    ofYaml? (document.text format) = some document.withoutNulls := by
  obtain ⟨tree, root, htree, hroot, hspells⟩ := htext
  have hread : decode (Yaml.medium tree) ⟨root, Yaml.Spot.deepest⟩ = pure document.withoutNulls :=
    decode_spelled (Yaml.medium_lawful tree) hordered hspells
  simp [ofYaml?, htree, ofTree?, hroot, hread]

theorem some_withoutNulls_eq_iff :
    some document.withoutNulls = some document ↔ document.NullFree := by
  rw [Option.some.injEq, withoutNulls_eq_self_iff]

theorem roundTrips_iff (h : document.Ordered) : document.RoundTrips ↔ document.NullFree := by
  unfold RoundTrips
  rw [ofJson?_encode, some_withoutNulls_eq_iff]
  refine ⟨And.left, ?_⟩
  intro hfree
  refine ⟨hfree, ?_⟩
  intro format htext
  rw [ofYaml?_text h htext, some_withoutNulls_eq_iff]
  exact hfree

theorem exists_tree_of_ofYaml? {text : String} (h : ofYaml? text = some document) :
    ∃ tree, Yaml.Tree.ofText? text = some tree ∧ ofTree? tree = some document :=
  Option.bind_eq_some_iff.mp h

/-- Writing and reading lose nothing but nulls among the values. Extracted documents have none, and
those that were read have one exactly if their tree does. -/
theorem lossless_except_null (document : Document) :
    (ofJson? document.encode = some document.withoutNulls ∧
      (ofJson? document.encode = some document ↔ document.NullFree)) ∧
    (∀ format, document.Ordered → document.TextLossless format →
      ofYaml? (document.text format) = some document.withoutNulls ∧
        (ofYaml? (document.text format) = some document ↔ document.NullFree)) ∧
    (∀ files, document = (Extraction.ofFiles files).document →
      document.NullFree ∧ document.RoundTrips) ∧
    (∀ value, ofJson? value = some document →
      document.NullFree ∧ ofJson? document.encode = some document) ∧
    (∀ text, ofYaml? text = some document →
      ∃ tree, Yaml.Tree.ofText? text = some tree ∧
        (document.NullFree ↔ tree.NullFree) ∧ (document.RoundTrips ↔ tree.NullFree)) := by
  refine ⟨?_, ?_, ?_, ?_, ?_⟩
  · rw [ofJson?_encode]
    exact ⟨rfl, some_withoutNulls_eq_iff⟩
  · intro format hordered htext
    rw [ofYaml?_text hordered htext]
    exact ⟨rfl, some_withoutNulls_eq_iff⟩
  · rintro files rfl
    have hproper := Extraction.proper_ofFiles files
    have hfree : (Extraction.ofFiles files).document.NullFree := fun v hv => (hproper v hv).1
    exact ⟨hfree, (roundTrips_iff fun v hv => (hproper v hv).2).mpr hfree⟩
  · intro value h
    have hfree := nullFree_of_ofJson? h
    rw [ofJson?_encode, some_withoutNulls_eq_iff]
    exact ⟨hfree, hfree⟩
  · intro text h
    obtain ⟨tree, htree, hread⟩ := exists_tree_of_ofYaml? h
    obtain ⟨hordered, hfree⟩ := of_ofTree? hread
    exact ⟨tree, htree, hfree, (roundTrips_iff hordered).trans hfree⟩

def ofPayload (payload : Option Value) : Document :=
  { endpoints := [{ exchanges := [{
      messageType := "t"
      send := some { messageType := "t", direction := .send, payload } }] }] }

section

open Yaml

/-- A null payload is unset when it is read back, and a text comes back whole. -/
theorem lossless_except_null_instances :
    ofJson? (ofPayload (some .null)).encode = some (ofPayload none) ∧
    ∃ document : Document, document.info.title = "Chat" ∧
      document.Ordered ∧ document.TextLossless .json ∧
      ofYaml? (document.text .json) = some document ∧ document.RoundTrips ∧
      ∃ tree, Tree.ofText? (document.text .json) = some tree ∧ tree.NullFree := by
  let document : Document := { info := { title := "Chat" } }
  have hlossless : document.TextLossless .json := by decide +kernel
  have hordered : document.Ordered := by simp [document, Ordered, values]
  obtain ⟨hdata, htext, -, hjson, hyaml⟩ := lossless_except_null document
  have hfree : document.NullFree := (hjson _ hdata.1).1
  have hread : ofYaml? (document.text .json) = some document :=
    (htext .json hordered hlossless).1
  obtain ⟨tree, htree, hiff, hround⟩ := hyaml _ hread
  exact ⟨(lossless_except_null (ofPayload (some .null))).1.1, document, rfl, hordered, hlossless,
    hread, hround.mpr (hiff.mp hfree), tree, htree, hiff.mp hfree⟩

/-- What is not a number counts as a payload and is read as null, which is lost in writing. -/
theorem ofYaml?_notANumber :
    ofYaml?
      "sockets: [messages: [\x7btype: t, send: \x7btype: t, direction: send, payload: .nan\x7d\x7d]]" =
        some (ofPayload (some .null)) ∧
      ¬(ofPayload (some .null)).NullFree ∧ ¬(ofPayload (some .null)).RoundTrips := by
  have hnull : ¬(ofPayload (some .null)).NullFree := by
    intro h
    exact h .null (by simp [ofPayload, values, Endpoint.values, Exchange.values, Message.values]) rfl
  refine ⟨by decide +kernel, hnull, ?_⟩
  intro h
  rw [RoundTrips, ofJson?_encode, some_withoutNulls_eq_iff] at h
  exact hnull h.1

end

end Document

end SocketDocs
