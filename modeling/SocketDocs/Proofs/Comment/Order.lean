import SocketDocs.SourceFile

/-!
# Comments in source order

Lexemes are read front to back, so their lines never descend. The same holds of the comments among
them and of the groups that comments form: a group ends no later than the next one begins.
-/

namespace SocketDocs

-- ---------------------------------------------------------------------------
-- Lexemes
-- ---------------------------------------------------------------------------

namespace Source

theorem Position.line_le_next (position : Position) (c : Char) :
    position.line ≤ (position.next c).line := by
  unfold Position.next
  split <;> simp

theorem Position.line_le_after (position : Position) (cs : List Char) :
    position.line ≤ (position.after cs).line := by
  induction cs generalizing position with
  | nil => exact Nat.le_refl _
  | cons c cs ih => exact Nat.le_trans (position.line_le_next c) (ih (position.next c))

theorem line_le_of_mem_lexFrom {fuel : Nat} {position : Position} {cs : List Char}
    {placed : Placed} (h : placed ∈ lexFrom fuel position cs) : position.line ≤ placed.line := by
  induction fuel generalizing position cs with
  | zero => cases h
  | succ fuel ih =>
    cases cs with
    | nil => cases h
    | cons c rest =>
      have hafter := position.line_le_after ((c :: rest).take (max (nextLexeme c (c :: rest)).2 1))
      simp only [lexFrom] at h
      split at h
      · rcases List.mem_cons.mp h with rfl | h
        · exact Nat.le_refl _
        · exact Nat.le_trans hafter (ih h)
      · exact Nat.le_trans hafter (ih h)

theorem lexFrom_ordered (fuel : Nat) (position : Position) (cs : List Char) :
    (lexFrom fuel position cs).Pairwise fun a b => a.line ≤ b.line := by
  induction fuel generalizing position cs with
  | zero => exact .nil
  | succ fuel ih =>
    cases cs with
    | nil => exact .nil
    | cons c rest =>
      simp only [lexFrom]
      split
      · refine List.pairwise_cons.mpr ⟨?_, ih _ _⟩
        intro placed hplaced
        exact Nat.le_trans (position.line_le_after _) (line_le_of_mem_lexFrom hplaced)
      · exact ih _ _

theorem lexemes_ordered (source : List Char) :
    (lexemes source).Pairwise fun a b => a.line ≤ b.line := by
  unfold lexemes
  dsimp only
  split <;> exact lexFrom_ordered _ _ _

end Source

-- ---------------------------------------------------------------------------
-- Comments and their groups
-- ---------------------------------------------------------------------------

namespace Comment

theorem line_of_ofLexeme? {placed : Source.Placed} {comment : Comment}
    (h : ofLexeme? placed = some comment) : comment.line = placed.line := by
  unfold ofLexeme? at h
  split at h
  · cases h
    rfl
  · cases h

theorem ofLexemes_ordered {lexemes : List Source.Placed}
    (h : lexemes.Pairwise fun a b => a.line ≤ b.line) :
    (ofLexemes lexemes).Pairwise fun a b => a.line ≤ b.line := by
  refine h.filterMap ofLexeme? ?_
  intro a b hab x hx y hy
  rw [line_of_ofLexeme? hx, line_of_ofLexeme? hy]
  exact hab

theorem first_of_mem_prependGroup {comment : Comment} {groups : List CommentGroup}
    {group : CommentGroup} (h : group ∈ prependGroup comment groups) :
    group.first = comment.line ∨ group ∈ groups := by
  cases groups with
  | nil =>
    rw [List.mem_singleton.mp h]
    exact .inl rfl
  | cons next later =>
    rw [prependGroup] at h
    split at h <;> rcases List.mem_cons.mp h with rfl | h
    · exact .inl rfl
    · exact .inr (List.mem_cons_of_mem _ h)
    · exact .inl rfl
    · exact .inr h

theorem exists_line_of_mem_foldr {comments : List Comment} {group : CommentGroup}
    (h : group ∈ comments.foldr prependGroup []) :
    ∃ comment ∈ comments, comment.line = group.first := by
  induction comments with
  | nil => cases h
  | cons comment rest ih =>
    rcases first_of_mem_prependGroup h with hfirst | h
    · exact ⟨comment, List.mem_cons_self .., hfirst.symm⟩
    · obtain ⟨other, hmem, hline⟩ := ih h
      exact ⟨other, List.mem_cons_of_mem _ hmem, hline⟩

theorem first_le_last_of_mem_foldr (comments : List Comment) :
    ∀ group ∈ comments.foldr prependGroup [], group.first ≤ group.last := by
  induction comments with
  | nil => simp
  | cons comment rest ih =>
    rw [List.foldr_cons]
    generalize rest.foldr prependGroup [] = groups at ih
    cases groups with
    | nil => simp [prependGroup]
    | cons next later =>
      obtain ⟨hnext, hlater⟩ := List.forall_mem_cons.mp ih
      rw [prependGroup]
      split
      · rename_i hjoin
        have hjoin : comment.line + 1 = next.first := by simpa using hjoin
        refine List.forall_mem_cons.mpr ⟨?_, hlater⟩
        show comment.line ≤ next.last
        omega
      · exact List.forall_mem_cons.mpr ⟨Nat.le_refl _, ih⟩

theorem foldr_prependGroup_ordered {comments : List Comment}
    (h : comments.Pairwise fun a b => a.line ≤ b.line) :
    (comments.foldr prependGroup []).Pairwise fun a b => a.last ≤ b.last := by
  induction comments with
  | nil => exact .nil
  | cons comment rest ih =>
    obtain ⟨hfirst, hrest⟩ := List.pairwise_cons.mp h
    have hbelow : ∀ group ∈ rest.foldr prependGroup [], comment.line ≤ group.last := by
      intro group hgroup
      obtain ⟨other, hother, hline⟩ := exists_line_of_mem_foldr hgroup
      calc comment.line ≤ other.line := hfirst other hother
        _ = group.first := hline
        _ ≤ group.last := first_le_last_of_mem_foldr rest group hgroup
    have hordered := ih hrest
    rw [List.foldr_cons]
    generalize rest.foldr prependGroup [] = groups at hbelow hordered
    cases groups with
    | nil => exact List.pairwise_singleton _ _
    | cons next later =>
      rw [prependGroup]
      split
      · -- The joined group ends where the one after the comment did.
        obtain ⟨hnext, hlater⟩ := List.pairwise_cons.mp hordered
        exact List.pairwise_cons.mpr ⟨hnext, hlater⟩
      · exact List.pairwise_cons.mpr ⟨hbelow, hordered⟩

theorem groups_ordered {comments : List Comment}
    (h : comments.Pairwise fun a b => a.line ≤ b.line) :
    (groups comments).Pairwise fun a b => a.last ≤ b.last :=
  foldr_prependGroup_ordered (h.filter _)

end Comment

theorem SourceFile.groups_ordered {path text : String} {file : SourceFile}
    (h : parse? path text = some file) :
    (Comment.groups file.comments).Pairwise fun a b => a.last ≤ b.last := by
  obtain ⟨items, -, rfl⟩ := Option.map_eq_some_iff.mp h
  exact Comment.groups_ordered (Comment.ofLexemes_ordered (Source.lexemes_ordered _))

end SocketDocs
