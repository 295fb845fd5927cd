import SocketDocs.DocBlock
import SocketDocs.Proofs.DocBlock.Filter
import SocketDocs.Proofs.Text.Words

/-!
# Trimmed lines

The text of a comment has no blanks at its ends. Grouping, keeping and joining only pass lines on, so
the same holds of every line of an annotated function (`isTrimmed_of_mem_ofFile`).
-/

namespace SocketDocs

def Text.IsTrimmed (text : String) : Prop :=
  Text.trimChars text.toList = text.toList

theorem Text.trimChars_trimChars (cs : List Char) : trimChars (trimChars cs) = trimChars cs := by
  have hleft : trimLeft (trimChars cs) = trimChars cs := by
    have hfront : trimChars cs <+: trimLeft cs :=
      List.rdropWhile_prefix isBlank (trimLeft cs)
    cases htrim : trimChars cs with
    | nil => rfl
    | cons c rest =>
      -- the first character left is the first visible one
      obtain ⟨more, hmore⟩ := htrim ▸ hfront
      have hhead := List.head?_dropWhile_not isBlank cs
      rw [← trimLeft, ← hmore] at hhead
      exact trimLeft_cons_of_not_blank hhead
  rw [trimChars, hleft, trimRight_trimChars]

-- ---------------------------------------------------------------------------
-- Comments
-- ---------------------------------------------------------------------------

namespace Comment

theorem isTrimmed_body (text : List Char) : Text.IsTrimmed (body text) := by
  unfold Text.IsTrimmed body
  rw [String.toList_ofList, Text.trimChars_trimChars]

theorem isTrimmed_of_mem_ofLexemes {lexemes : List Source.Placed} {comment : Comment}
    (h : comment ∈ ofLexemes lexemes) : Text.IsTrimmed comment.text := by
  obtain ⟨placed, -, hcomment⟩ := List.mem_filterMap.mp h
  unfold ofLexeme? at hcomment
  split at hcomment <;> cases hcomment
  exact isTrimmed_body _

theorem mem_lines_of_prependGroup {comment : Comment} {groups : List CommentGroup}
    {group : CommentGroup} {line : String} (h : group ∈ prependGroup comment groups)
    (hline : line ∈ group.lines) :
    line = comment.text ∨ ∃ other ∈ groups, line ∈ other.lines := by
  cases groups with
  | nil =>
    rw [List.mem_singleton.mp h] at hline
    exact .inl (List.mem_singleton.mp hline)
  | cons next later =>
    rw [prependGroup] at h
    split at h <;> rcases List.mem_cons.mp h with rfl | h
    · rcases List.mem_cons.mp hline with rfl | hline
      · exact .inl rfl
      · exact .inr ⟨next, List.mem_cons_self .., hline⟩
    · exact .inr ⟨group, List.mem_cons_of_mem _ h, hline⟩
    · exact .inl (List.mem_singleton.mp hline)
    · exact .inr ⟨group, h, hline⟩

theorem exists_comment_of_mem_groups {comments : List Comment} {group : CommentGroup}
    {line : String} (h : group ∈ groups comments) (hline : line ∈ group.lines) :
    ∃ comment ∈ comments, line = comment.text := by
  have hall : ∀ own : List Comment, ∀ group ∈ own.foldr prependGroup [], ∀ line ∈ group.lines,
      ∃ comment ∈ own, line = comment.text := by
    intro own
    induction own with
    | nil => simp
    | cons comment rest ih =>
      intro group hgroup line hline
      rcases mem_lines_of_prependGroup hgroup hline with rfl | ⟨other, hother, hline⟩
      · exact ⟨comment, List.mem_cons_self .., rfl⟩
      · obtain ⟨found, hfound, rfl⟩ := ih other hother line hline
        exact ⟨found, List.mem_cons_of_mem _ hfound, rfl⟩
  obtain ⟨comment, hcomment, rfl⟩ := hall _ group h line hline
  exact ⟨comment, (List.mem_filter.mp hcomment).1, rfl⟩

end Comment

-- ---------------------------------------------------------------------------
-- Blocks
-- ---------------------------------------------------------------------------

namespace DocBlock

theorem keptFrom_sublist (started : Bool) (depth : Nat) (lines : List String) :
    (keptFrom started depth lines).Sublist lines := by
  obtain ⟨picked, hpicks, hkept⟩ := exists_picks started depth 0 lines
  have hsublist := hpicks.sublist.map (·.1)
  rwa [List.zipIdx_map_fst, ← hkept] at hsublist

theorem exists_group_of_mem_ofFile {file : SourceFile} {annotated : AnnotatedDeclaration}
    {line : String} (h : annotated ∈ ofFile file) (hline : line ∈ annotated.lines) :
    ∃ group ∈ Comment.groups file.comments, line ∈ group.lines := by
  obtain ⟨⟨declaration, index⟩, -, hlines⟩ := List.mem_filterMap.mp h
  dsimp only at hlines
  split at hlines <;> cases hlines
  obtain ⟨⟨i, block⟩, hblock, hline⟩ := List.mem_flatMap.mp hline
  obtain ⟨group, hgroup, hattached⟩ := List.mem_filterMap.mp (List.mem_filter.mp hblock).1
  dsimp only at hattached
  split at hattached
  · cases hattached
  · obtain ⟨_, -, hpair⟩ := Option.map_eq_some_iff.mp hattached
    cases hpair
    exact ⟨group, hgroup, (keptFrom_sublist ..).subset hline⟩

theorem isTrimmed_of_mem_ofFile {path text : String} {file : SourceFile}
    (hfile : SourceFile.parse? path text = some file) {annotated : AnnotatedDeclaration}
    {line : String} (h : annotated ∈ ofFile file) (hline : line ∈ annotated.lines) :
    Text.IsTrimmed line := by
  obtain ⟨group, hgroup, hline⟩ := exists_group_of_mem_ofFile h hline
  obtain ⟨comment, hcomment, rfl⟩ := Comment.exists_comment_of_mem_groups hgroup hline
  obtain ⟨items, -, rfl⟩ := Option.map_eq_some_iff.mp hfile
  exact Comment.isTrimmed_of_mem_ofLexemes hcomment

end DocBlock

end SocketDocs
