import SocketDocs.Proofs.Directive.Refusals
import SocketDocs.Proofs.Directive.Stated

/-!
# Blocks line by line

A block is read one directive line at a time: each gives a directive, a cause, or nothing, and both
lists come in the order of the lines (`Directive.ofBlock_eq`). The marker of an endpoint is read as a
directive or refused for want of a name, never passed over.
-/

namespace SocketDocs

namespace Reading

def directive? : Reading → Option Directive
  | .directive found => some found
  | _ => none

def cause? : Reading → Option Cause
  | .malformed cause => some cause
  | _ => none

end Reading

namespace Directive

def readings (lines : List String) : List Reading :=
  (segments lines).map fun segment => ofLine segment.1 segment.2

theorem ofBlock_eq (lines : List String) :
    ofBlock lines =
      ((readings lines).filterMap Reading.directive?, (readings lines).filterMap Reading.cause?) := by
  unfold ofBlock readings
  induction segments lines with
  | nil => rfl
  | cons segment later ih =>
    rw [List.foldr_cons, ih, List.map_cons, List.filterMap_cons, List.filterMap_cons]
    cases ofLine segment.1 segment.2 <;> rfl

theorem segments_lines (lines : List String) :
    (segments lines).map (·.1) = lines.filter opensDirective := by
  induction lines with
  | nil => rfl
  | cons line rest ih =>
    cases hopen : opensDirective line <;> simp [segments, hopen, ih]

theorem opens_of_mem_segments {lines : List String} {segment : String × List String}
    (h : segment ∈ segments lines) :
    segment.1 ∈ lines ∧ opensDirective segment.1 = true := by
  have hmem := List.mem_map_of_mem (f := (·.1)) h
  rwa [segments_lines, List.mem_filter] at hmem

theorem exists_segment {lines : List String} {line : String} (hmem : line ∈ lines)
    (hopen : opensDirective line = true) : ∃ body, (line, body) ∈ segments lines := by
  have hline : line ∈ (segments lines).map (·.1) := by
    rw [segments_lines]
    exact List.mem_filter.mpr ⟨hmem, hopen⟩
  obtain ⟨⟨_, body⟩, hsegment, rfl⟩ := List.mem_map.mp hline
  exact ⟨body, hsegment⟩

-- ---------------------------------------------------------------------------
-- Causes
-- ---------------------------------------------------------------------------

theorem words_of_opens {line : String} (h : opensDirective line = true) :
    ∃ name arguments, Text.words line = name :: arguments := by
  have hhead : line.toList.head? = some '@' := by simpa [opensDirective] using h
  exact ⟨_, _, Text.words_cons hhead (by decide)⟩

/-- The causes for which a line that begins with a name can be refused. -/
def Refuses (name : String) : Cause → Prop
  | .noArgument keyword => keyword = name
  | .unknownDirection _ => name = "@Direction"
  | .noSample => name = "@Example"
  | .noPayload => name = "@Payload"
  | .fewArguments _ => name = "@ConnectionParam"
  | .unknownLocation _ _ => name = "@ConnectionParam"
  | _ => False

theorem kind_of_refuses {name : String} {cause : Cause} (h : Refuses name cause) :
    cause.kind = .directiveGrammar := by
  cases cause <;> first | rfl | cases h

theorem refuses_of_faulty {name rest : String} {arguments body : List String} {cause : Cause}
    (h : Faulty name arguments rest body cause) : Refuses name cause := by
  cases cause <;> simp_all [Faulty, Refuses]

-- ---------------------------------------------------------------------------
-- Lines of a block
-- ---------------------------------------------------------------------------

theorem exists_parts_of_mem_readings {lines : List String} {reading : Reading}
    (h : reading ∈ readings lines) :
    ∃ line name arguments rest body, line ∈ lines ∧ opensDirective line = true ∧
      Text.words line = name :: arguments ∧
      reading = readingOf (ofParts name arguments rest body) := by
  obtain ⟨segment, hsegment, rfl⟩ := List.mem_map.mp h
  obtain ⟨hmem, hopen⟩ := opens_of_mem_segments hsegment
  obtain ⟨name, arguments, hwords⟩ := words_of_opens hopen
  exact ⟨segment.1, name, arguments, _, segment.2, hmem, hopen, hwords,
    ofLine_of_opens hopen hwords segment.2⟩

theorem ne_misaligned_of_mem_readings {lines : List String} {reading : Reading}
    (h : reading ∈ readings lines) : reading ≠ .misaligned := by
  obtain ⟨-, name, arguments, rest, body, -, -, -, rfl⟩ := exists_parts_of_mem_readings h
  rcases ofParts name arguments rest body with cause | (_ | found) <;> simp [readingOf]

theorem exists_line_of_mem_causes {lines : List String} {cause : Cause}
    (h : cause ∈ (ofBlock lines).2) :
    ∃ line name arguments, line ∈ lines ∧ opensDirective line = true ∧
      Text.words line = name :: arguments ∧ Refuses name cause := by
  rw [ofBlock_eq] at h
  obtain ⟨reading, hreading, hcause⟩ := List.mem_filterMap.mp h
  obtain ⟨line, name, arguments, rest, body, hmem, hopen, hwords, rfl⟩ :=
    exists_parts_of_mem_readings hreading
  refine ⟨line, name, arguments, hmem, hopen, hwords, ?_⟩
  rcases hparts : ofParts name arguments rest body with cause' | (_ | found) <;>
    rw [hparts] at hcause <;> cases hcause
  exact refuses_of_faulty (ofParts_eq_error_iff.mp hparts)

end Directive

end SocketDocs
