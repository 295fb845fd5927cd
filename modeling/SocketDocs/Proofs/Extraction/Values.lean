import SocketDocs.Proofs.Catalog.Samples
import SocketDocs.Proofs.Directive.Literals
import SocketDocs.Proofs.Directive.Stated
import SocketDocs.Proofs.Document.Values
import SocketDocs.Proofs.Extraction.WellFormed

/-!
# The values of extracted documents

Payloads, samples and error samples of a message come from its directives, and sample payloads from
the catalog. All of them are sound, so that an extracted document can be read back from its text.
-/

namespace SocketDocs

open Json (Value)

namespace Directive

variable {lines : List String} {d : Directive}

theorem sound_of_readPayload {literal : String} {v : Value}
    (h : readPayload literal = .ok (.inline v)) : v.Sound := by
  obtain ⟨hopen, rfl⟩ := readPayload_eq_inline_iff.mp h
  cases hparse : Json.parse? literal with
  | none => exact Value.sound_string _
  | some v =>
    obtain ⟨c, cs, hcs, hc⟩ := exists_cons_of_opensLiteral hopen
    rw [Json.parse?, hcs] at hparse
    exact Json.sound_of_parseChars? hc hparse

theorem sound_of_readSample {literal : String} {v : Value} (h : readSample literal = .ok v) :
    v.Sound := by
  unfold readSample at h
  split at h
  · cases h
  · cases h
    exact Literal.sound_value literal

theorem sound_of_readError {arguments body : List String} {case : ErrorCase}
    (h : readError arguments body = .ok case) : ∀ v ∈ case.values, v.Sound := by
  unfold readError at h
  cases hcode : firstArgument "@Error" arguments with
  | error cause =>
    rw [hcode] at h
    cases h
  | ok code =>
    rw [hcode] at h
    cases h
    intro v hv
    rw [ErrorCase.values, Option.mem_toList] at hv
    split at hv
    · cases hv
    · cases hv
      exact Literal.sound_value _

theorem sound_of_payload? {catalog : Catalog} (hcatalog : catalog.Sound)
    (hd : d ∈ (ofBlock lines).1) {v : Value} (h : d.payload? catalog = some v) : v.Sound := by
  obtain ⟨line, name, arguments, rest, body, -, hstated⟩ := stated_of_mem_ofBlock hd
  unfold payload? at h
  split at h
  · cases h
    exact sound_of_readPayload hstated
  · obtain ⟨record, hrecord, rfl⟩ := Option.map_eq_some_iff.mp h
    exact (hcatalog.resolve? hrecord).samplePayload
  · cases h

theorem sound_of_sample? (hd : d ∈ (ofBlock lines).1) {v : Value} (h : d.sample? = some v) :
    v.Sound := by
  obtain ⟨line, name, arguments, rest, body, -, hstated⟩ := stated_of_mem_ofBlock hd
  unfold sample? at h
  split at h
  · cases h
    exact sound_of_readSample hstated
  · cases h

theorem sound_of_error? (hd : d ∈ (ofBlock lines).1) {case : ErrorCase} (h : d.error? = some case) :
    ∀ v ∈ case.values, v.Sound := by
  obtain ⟨line, name, arguments, rest, body, -, hstated⟩ := stated_of_mem_ofBlock hd
  unfold error? at h
  split at h
  · cases h
    exact sound_of_readError hstated
  · cases h

theorem exists_of_last? {α : Type} {read : Directive → Option α} {directives : List Directive}
    {a : α} (h : last? read directives = some a) : ∃ d ∈ directives, read d = some a :=
  List.mem_filterMap.mp (List.mem_of_getLast? h)

end Directive

theorem Segment.body_subset {directives : List Directive} {s : Segment} (h : s ∈ all directives) :
    s.body ⊆ directives := by
  obtain ⟨⟨before, x, after⟩, hcut, hs⟩ := List.mem_filterMap.mp h
  have hbody : s.body = after.takeWhile (!·.endsMessage) := by
    cases x <;> cases hs
    rfl
  intro d hd
  rw [hbody] at hd
  rw [Directive.eq_of_mem_cuts hcut]
  exact List.mem_append_right _ (List.mem_cons_of_mem _ (List.takeWhile_subset _ hd))

theorem Segment.sound_message {catalog : Catalog} (hcatalog : catalog.Sound)
    {lines : List String} {s : Segment} (hs : s ∈ all (Directive.ofBlock lines).1) :
    ∀ v ∈ (s.message catalog).values, v.Sound := by
  have hbody := body_subset hs
  simp only [Message.values, List.forall_mem_append, List.forall_mem_flatMap, Option.mem_toList]
  refine ⟨⟨?_, ?_⟩, ?_⟩
  · intro v hv
    obtain ⟨d, hd, hread⟩ := Directive.exists_of_last? hv
    exact Directive.sound_of_payload? hcatalog (hbody hd) hread
  · intro v hv
    obtain ⟨d, hd, hread⟩ := Directive.exists_of_last? hv
    exact Directive.sound_of_sample? (hbody hd) hread
  · intro case hcase
    obtain ⟨d, hd, hread⟩ := List.mem_filterMap.mp hcase
    exact Directive.sound_of_error? (hbody hd) hread

theorem Endpoint.sound_ofDirectives {catalog : Catalog} (hcatalog : catalog.Sound)
    (lines : List String) :
    ∀ v ∈ (ofDirectives catalog (Directive.ofBlock lines).1).values, v.Sound := by
  simp only [Endpoint.values, List.forall_mem_flatMap]
  intro x hx
  obtain ⟨t, -, rfl⟩ := List.mem_map.mp hx
  have hslot : ∀ direction,
      ∀ m ∈ (Exchange.slotOf catalog (Segment.all (Directive.ofBlock lines).1) t direction).toList,
        ∀ v ∈ m.values, v.Sound := by
    intro direction m hm
    obtain ⟨s, hs, -, -, rfl⟩ := Exchange.slotOf_eq_some (Option.mem_toList.mp hm)
    exact Segment.sound_message hcatalog hs
  simp only [Exchange.values, List.forall_mem_append, List.forall_mem_flatMap]
  exact ⟨hslot .send, hslot .receive⟩

theorem Extraction.sound_ofFiles (files : List SourceFile) :
    ∀ v ∈ (ofFiles files).document.values, v.Sound := by
  simp only [Document.values, List.forall_mem_flatMap]
  intro endpoint hendpoint
  obtain ⟨lines, rfl⟩ := exists_block_of_mem hendpoint
  exact Endpoint.sound_ofDirectives (Catalog.sound_ofFiles files) lines

theorem Extraction.proper_ofFiles (files : List SourceFile) :
    ∀ v ∈ (ofFiles files).document.values, v.Proper := by
  intro v hv
  have hsound := sound_ofFiles files v hv
  exact ⟨hsound.ne_null, hsound.ordered⟩

end SocketDocs
