import SocketDocs.Proofs.Directive.Readings
import SocketDocs.Proofs.DocBlock.Attachment

/-!
# Joined blocks

A directive line takes the literal lines up to the next directive line, so a block that begins with
a directive is read by itself, whatever stands above it. The blocks above one function all begin so:
their directives and causes, joined, are those of the joined block, and a literal that one of them
leaves open takes no line of the next (`ofBlock_distributes`).
-/

namespace SocketDocs

def Reading.isForeign : Reading → Bool
  | .foreign => true
  | _ => false

namespace Directive

open DocBlock (kept)

-- ---------------------------------------------------------------------------
-- Segments
-- ---------------------------------------------------------------------------

theorem takeWhile_append_of_opens {xs ys : List String}
    (h : ∀ line ∈ ys.head?, opensDirective line = true) :
    (xs ++ ys).takeWhile (!opensDirective ·) = xs.takeWhile (!opensDirective ·) := by
  induction xs with
  | nil =>
    cases ys with
    | nil => rfl
    | cons line rest => simp [h line rfl]
  | cons line xs ih =>
    cases hopen : opensDirective line <;> simp [hopen, ih]

theorem segments_append {xs ys : List String}
    (h : ∀ line ∈ ys.head?, opensDirective line = true) :
    segments (xs ++ ys) = segments xs ++ segments ys := by
  induction xs with
  | nil => rfl
  | cons line xs ih =>
    rw [List.cons_append, segments, segments, ih, takeWhile_append_of_opens h]
    split <;> rfl

/-- A block is its stray lines and then, for each directive, its line and the lines under it. -/
theorem flatMap_segments (lines : List String) :
    lines.takeWhile (!opensDirective ·) ++ (segments lines).flatMap (fun s => s.1 :: s.2) = lines := by
  induction lines with
  | nil => rfl
  | cons line rest ih =>
    cases hopen : opensDirective line <;> simp [segments, hopen, ih]

theorem not_opens_of_mem_takeWhile {lines : List String} {line : String}
    (h : line ∈ lines.takeWhile (!opensDirective ·)) : opensDirective line = false := by
  simpa using List.mem_takeWhile_imp h

theorem not_opens_of_mem_body {lines : List String} {segment : String × List String}
    (h : segment ∈ segments lines) : ∀ line ∈ segment.2, opensDirective line = false := by
  induction lines with
  | nil => cases h
  | cons line rest ih =>
    rw [segments] at h
    split at h
    · rcases List.mem_cons.mp h with rfl | h
      · exact fun other hother => not_opens_of_mem_takeWhile hother
      · exact ih h
    · exact ih h

-- ---------------------------------------------------------------------------
-- Directives and causes
-- ---------------------------------------------------------------------------

theorem ofBlock_append {xs ys : List String}
    (h : ∀ line ∈ ys.head?, opensDirective line = true) :
    ofBlock (xs ++ ys) = ((ofBlock xs).1 ++ (ofBlock ys).1, (ofBlock xs).2 ++ (ofBlock ys).2) := by
  simp only [ofBlock_eq, readings, segments_append h, List.map_append, List.filterMap_append]

theorem opens_head?_kept (lines : List String) :
    ∀ line ∈ (kept lines).head?, opensDirective line = true := by
  intro line hline
  obtain ⟨rest, hrest⟩ := List.head?_eq_some_iff.mp hline
  exact DocBlock.opensDirective_of_kept hrest

theorem opens_head?_flatMap_kept (groups : List CommentGroup) :
    ∀ line ∈ (groups.flatMap (kept ·.lines)).head?, opensDirective line = true := by
  intro line hline
  obtain ⟨rest, hrest⟩ := List.head?_eq_some_iff.mp hline
  exact DocBlock.opensDirective_of_flatMap hrest

/-- Kept blocks one below the other are read one after the other. -/
theorem segments_flatMap_kept (groups : List CommentGroup) :
    segments (groups.flatMap (kept ·.lines)) = groups.flatMap fun g => segments (kept g.lines) := by
  induction groups with
  | nil => rfl
  | cons group groups ih =>
    rw [List.flatMap_cons, segments_append (opens_head?_flatMap_kept groups), ih]
    rfl

theorem ofBlock_flatMap_kept (groups : List CommentGroup) :
    ofBlock (groups.flatMap (kept ·.lines)) =
      (groups.flatMap fun g => (ofBlock (kept g.lines)).1,
        groups.flatMap fun g => (ofBlock (kept g.lines)).2) := by
  induction groups with
  | nil => rfl
  | cons group groups ih =>
    rw [List.flatMap_cons, ofBlock_append (opens_head?_flatMap_kept groups), ih]
    rfl

/-- A reading is a directive, a cause or foreign, and counts once. -/
theorem length_filterMap_add {found : List Reading} (h : ∀ reading ∈ found, reading ≠ .misaligned) :
    (found.filterMap Reading.directive?).length + (found.filterMap Reading.cause?).length +
      found.countP Reading.isForeign = found.length := by
  induction found with
  | nil => rfl
  | cons reading later ih =>
    obtain ⟨hfirst, hlater⟩ := List.forall_mem_cons.mp h
    have hlength := ih hlater
    rw [List.filterMap_cons, List.filterMap_cons, List.countP_cons, List.length_cons]
    cases reading with
    | directive found =>
      simp only [Reading.directive?, Reading.cause?, Reading.isForeign, List.length_cons,
        Bool.false_eq_true, if_false]
      omega
    | foreign =>
      simp only [Reading.directive?, Reading.cause?, Reading.isForeign, if_true]
      omega
    | malformed cause =>
      simp only [Reading.directive?, Reading.cause?, Reading.isForeign, List.length_cons,
        Bool.false_eq_true, if_false]
      omega
    | misaligned => exact absurd rfl hfirst

end Directive

theorem DocBlock.exists_groups_of_mem_ofFile {file : SourceFile}
    {annotated : AnnotatedDeclaration} (h : annotated ∈ ofFile file) :
    ∃ groups : List CommentGroup, groups.Sublist (Comment.groups file.comments) ∧
      annotated.lines = groups.flatMap (kept ·.lines) := by
  rw [ofFile, merge_eq_map] at h
  obtain ⟨placed, -, rfl⟩ := List.mem_map.mp h
  exact ⟨_, List.filter_sublist, linesFor_attachments placed.2⟩

namespace Directive

open DocBlock (kept)

/-- Reading directives goes along with joining blocks. A block that begins with a directive is read
by itself below any lines, and the block of a comment group begins so; the block of a function is
read as those of its groups are, one by one; and in any block each directive line has one outcome and
the lines under it, which are the other lines, but for those above the first directive. -/
theorem ofBlock_distributes :
    (∀ xs ys : List String, (∀ line ∈ ys.head?, opensDirective line = true) →
      ofBlock (xs ++ ys) = ((ofBlock xs).1 ++ (ofBlock ys).1, (ofBlock xs).2 ++ (ofBlock ys).2)) ∧
    (∀ lines : List String, ∀ line ∈ (kept lines).head?, opensDirective line = true) ∧
    (∀ file, ∀ annotated ∈ DocBlock.ofFile file, ∃ groups : List CommentGroup,
      groups.Sublist (Comment.groups file.comments) ∧
      annotated.lines = groups.flatMap (kept ·.lines) ∧
      segments annotated.lines = groups.flatMap (fun g => segments (kept g.lines)) ∧
      ofBlock annotated.lines =
        (groups.flatMap fun g => (ofBlock (kept g.lines)).1,
          groups.flatMap fun g => (ofBlock (kept g.lines)).2)) ∧
    ∀ lines : List String, ∃ (stray : List String) (parts : List (String × List String)),
      stray ++ parts.flatMap (fun part => part.1 :: part.2) = lines ∧
      (∀ line ∈ stray, opensDirective line = false) ∧
      (∀ part ∈ parts, opensDirective part.1 = true ∧
        (∀ line ∈ part.2, opensDirective line = false) ∧ ofLine part.1 part.2 ≠ .misaligned) ∧
      ofBlock lines =
        (parts.filterMap fun part => (ofLine part.1 part.2).directive?,
          parts.filterMap fun part => (ofLine part.1 part.2).cause?) ∧
      (ofBlock lines).1.length + (ofBlock lines).2.length +
        parts.countP (fun part => (ofLine part.1 part.2).isForeign) =
          lines.countP opensDirective := by
  refine ⟨fun xs ys h => ofBlock_append h, opens_head?_kept, ?_, ?_⟩
  · intro file annotated hannotated
    obtain ⟨groups, hsublist, hlines⟩ := DocBlock.exists_groups_of_mem_ofFile hannotated
    refine ⟨groups, hsublist, hlines, ?_, ?_⟩
    · rw [hlines, segments_flatMap_kept]
    · rw [hlines, ofBlock_flatMap_kept]
  · intro lines
    have hreadings := fun reading => @ne_misaligned_of_mem_readings lines reading
    refine ⟨lines.takeWhile (!opensDirective ·), segments lines, flatMap_segments lines,
      fun line => not_opens_of_mem_takeWhile, ?_, ?_, ?_⟩
    · intro part hpart
      exact ⟨(opens_of_mem_segments hpart).2, not_opens_of_mem_body hpart,
        hreadings _ (List.mem_map_of_mem hpart)⟩
    · rw [ofBlock_eq, readings, List.filterMap_map, List.filterMap_map]
      rfl
    · have hcount := length_filterMap_add hreadings
      have hforeign : (readings lines).countP Reading.isForeign =
          (segments lines).countP (fun part => (ofLine part.1 part.2).isForeign) :=
        List.countP_map
      have hlines : (readings lines).length = lines.countP opensDirective := by
        rw [readings, List.length_map, ← List.length_map (·.1), segments_lines,
          List.countP_eq_length_filter]
      rw [ofBlock_eq, ← hforeign, hcount, hlines]

/-- A literal that the first block leaves open does not reach into the second. -/
theorem ofBlock_distributes_unclosed :
    (∀ line ∈ ["@Send", "\x7d"].head?, opensDirective line = true) ∧
      ofBlock (["@Message a", "@Payload \x7b", "\x7b"] ++ ["@Send", "\x7d"]) =
        ([.message "a", .payload (.inline (.string "\x7b\n\x7b")), .direction .send], []) := by
  have hopen : ∀ line ∈ ["@Send", "\x7d"].head?, opensDirective line = true := by decide
  refine ⟨hopen, (ofBlock_distributes.1 _ _ hopen).trans ?_⟩
  decide +kernel

end Directive

end SocketDocs
