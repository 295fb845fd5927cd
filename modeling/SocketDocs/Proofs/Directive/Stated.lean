import SocketDocs.Directive
import SocketDocs.Proofs.Text.Words

/-!
# Where directives come from

What a directive of a block holds stands in the block: in the words of its line, in the text after
its name, or in the literal lines under it. `stated_of_mem_ofBlock` inverts the reading of blocks
once for all directives.
-/

namespace SocketDocs.Directive

/-- What the parts of a line say for a directive to be read off them. -/
def Stated (arguments : List String) (rest : String) (body : List String) : Directive → Prop
  | .webSocket name => arguments.head? = some name
  | .group text => arguments ≠ [] ∧ text = " ".intercalate arguments
  | .url text => arguments.head? = some text
  | .description text => text = rest
  | .tags names => arguments ≠ [] ∧ names = tagNames (" ".intercalate arguments)
  | .parameter found => readParameter arguments = .ok found
  | .message messageType => arguments.head? = some messageType
  | .direction _ => True
  | .payload source => readPayload (literalText rest body) = .ok source
  | .sample value => readSample (literalText rest body) = .ok value
  | .error case => readError arguments body = .ok case
  | .deprecated => True

theorem firstArgument_eq_ok {keyword first : String} {arguments : List String}
    (h : firstArgument keyword arguments = .ok first) : arguments.head? = some first := by
  cases arguments with
  | nil => cases h
  | cons a rest => cases h; rfl

theorem joinedArguments_eq_ok {keyword text : String} {arguments : List String}
    (h : joinedArguments keyword arguments = .ok text) :
    arguments ≠ [] ∧ text = " ".intercalate arguments := by
  cases arguments with
  | nil => cases h
  | cons a rest => cases h; exact ⟨List.cons_ne_nil a rest, rfl⟩

theorem map_some_eq_ok {α : Type} {result : Except Cause α} {make : α → Directive}
    {found : Directive} (h : (make <$> result).map some = .ok (some found)) :
    ∃ a, result = .ok a ∧ found = make a := by
  cases result with
  | error cause => cases h
  | ok a => cases h; exact ⟨a, rfl, rfl⟩

theorem stated_of_ofParts {name rest : String} {arguments body : List String} {found : Directive}
    (h : ofParts name arguments rest body = .ok (some found)) :
    Stated arguments rest body found := by
  unfold ofParts at h
  dsimp only at h
  split at h
  · obtain ⟨a, ha, rfl⟩ := map_some_eq_ok h
    exact firstArgument_eq_ok ha
  · obtain ⟨a, ha, rfl⟩ := map_some_eq_ok h
    exact joinedArguments_eq_ok ha
  · obtain ⟨a, ha, rfl⟩ := map_some_eq_ok h
    exact firstArgument_eq_ok ha
  · cases h
    rfl
  · obtain ⟨a, ha, rfl⟩ := map_some_eq_ok h
    obtain ⟨hne, rfl⟩ := joinedArguments_eq_ok ha
    exact ⟨hne, rfl⟩
  · obtain ⟨a, ha, rfl⟩ := map_some_eq_ok h
    exact ha
  · obtain ⟨a, ha, rfl⟩ := map_some_eq_ok h
    exact firstArgument_eq_ok ha
  · cases h
    trivial
  · cases h
    trivial
  · obtain ⟨a, -, rfl⟩ := map_some_eq_ok h
    trivial
  · obtain ⟨a, ha, rfl⟩ := map_some_eq_ok h
    exact ha
  · obtain ⟨a, ha, rfl⟩ := map_some_eq_ok h
    exact ha
  · obtain ⟨a, ha, rfl⟩ := map_some_eq_ok h
    exact ha
  · cases h
    trivial
  · cases h

theorem stated_of_ofLine {line : String} {body : List String} {found : Directive}
    (h : ofLine line body = .directive found) :
    ∃ name arguments rest, Text.words line = name :: arguments ∧
      Stated arguments rest body found := by
  unfold ofLine at h
  split at h
  · cases h
  · rename_i name arguments hwords
    split at h
    · cases h
    · split at h
      · rename_i hparts
        cases h
        exact ⟨name, arguments, _, hwords, stated_of_ofParts hparts⟩
      · cases h
      · cases h

theorem stated_of_mem_ofBlock {lines : List String} {found : Directive}
    (h : found ∈ (ofBlock lines).1) :
    ∃ line name arguments rest body, Text.words line = name :: arguments ∧
      Stated arguments rest body found := by
  unfold ofBlock at h
  generalize segments lines = parts at h
  induction parts with
  | nil => cases h
  | cons segment later ih =>
    rw [List.foldr_cons] at h
    cases hread : ofLine segment.1 segment.2 with
    | directive d =>
      rw [hread, collect] at h
      rcases List.mem_cons.mp h with rfl | h
      · obtain ⟨name, arguments, rest, hwords, hstated⟩ := stated_of_ofLine hread
        exact ⟨segment.1, name, arguments, rest, segment.2, hwords, hstated⟩
      · exact ih h
    | foreign => rw [hread, collect] at h; exact ih h
    | malformed cause => rw [hread, collect] at h; exact ih h
    | misaligned => rw [hread, collect] at h; exact ih h

theorem isWord_of_mem_ofBlock {lines : List String} {messageType : String}
    (h : .message messageType ∈ (ofBlock lines).1) : Text.IsWord messageType := by
  obtain ⟨line, name, arguments, rest, body, hwords, hstated⟩ := stated_of_mem_ofBlock h
  have hmem : messageType ∈ Text.words line := by
    rw [hwords]
    exact List.mem_cons_of_mem _ (List.mem_of_head? hstated)
  exact Text.isWord_of_mem_words hmem

end SocketDocs.Directive
