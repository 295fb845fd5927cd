import Mathlib.Data.List.Induction
import Mathlib.Data.List.Nodup
import SocketDocs.Proofs.Comment.Order

/-!
# Comment groups are maximal runs

A line comment reaches to the end of its line, so a source has at most one on a line and its comments
come with ascending lines (`ofSource_ascending`). Among comments on distinct lines the groups are the
longest runs of lines that a comment has to itself: `Runs` is what putting one more comment in front
preserves, `Grouped` what it says of whole lists (`groups_grouped`). Extending the last group, from
the first comment to the last, finds the same groups (`groups_eq_foldl`).
-/

namespace SocketDocs

-- ---------------------------------------------------------------------------
-- One comment a line
-- ---------------------------------------------------------------------------

namespace Source

def Lexeme.isLineComment : Lexeme → Bool
  | .lineComment _ _ => true
  | _ => false

theorem isLineComment_wordLexeme (c : Char) (cs : List Char) :
    (wordLexeme c cs).1.isLineComment = false := by
  unfold wordLexeme
  split
  · rfl
  · split
    · rfl
    · split
      · rfl
      · split
        · rfl
        · split <;> rfl

theorem length_of_isLineComment {c : Char} {cs : List Char} {lexeme : Lexeme} {n : Nat}
    (h : nextLexeme c cs = (some lexeme, n)) (hcomment : lexeme.isLineComment = true) :
    n = Lexeme.lineLength cs := by
  unfold nextLexeme at h
  split at h
  · cases h
    rfl
  · split at h
    · split at h
      · split at h <;> cases h
        cases hcomment
      · cases h
        cases hcomment
    · split at h
      · cases h
      · split at h
        · cases h
          cases hcomment
        · cases h
          cases hcomment
        · cases h
          exact absurd ((isLineComment_wordLexeme c cs).symm.trans hcomment) Bool.false_ne_true

theorem nextLexeme_newline (rest : List Char) : nextLexeme '\n' ('\n' :: rest) = (none, 1) := by
  have hspace : Lexeme.isSpace '\n' = true := by decide
  simp [nextLexeme, Lexeme.startsWith, hspace]

theorem line_lt_of_mem_lexFrom {fuel : Nat} {position : Position} {cs : List Char}
    {placed : Placed} (h : placed ∈ lexFrom fuel position (cs.dropWhile (· != '\n'))) :
    position.line < placed.line := by
  cases fuel with
  | zero => cases h
  | succ fuel =>
    cases hrest : cs.dropWhile (· != '\n') with
    | nil =>
      rw [hrest] at h
      cases h
    | cons c rest =>
      have hbreak : c = '\n' := by
        have hhead := List.head?_dropWhile_not (· != '\n') cs
        rw [hrest] at hhead
        simpa using hhead
      subst c
      rw [hrest, lexFrom, nextLexeme_newline] at h
      have hbelow : (position.after ['\n']).line ≤ placed.line := line_le_of_mem_lexFrom h
      exact hbelow

theorem drop_lineLength (cs : List Char) :
    cs.drop (Lexeme.lineLength cs) = cs.dropWhile (· != '\n') := by
  have hsplit := List.takeWhile_append_dropWhile (p := (· != '\n')) (l := cs)
  calc cs.drop (Lexeme.lineLength cs)
      = (cs.takeWhile (· != '\n') ++ cs.dropWhile (· != '\n')).drop (Lexeme.lineLength cs) := by
        rw [hsplit]
    _ = cs.dropWhile (· != '\n') := List.drop_left

theorem lexFrom_ascending (fuel : Nat) (position : Position) (cs : List Char) :
    (lexFrom fuel position cs).Pairwise fun a b =>
      a.lexeme.isLineComment = true → a.line < b.line := by
  induction fuel generalizing position cs with
  | zero => exact .nil
  | succ fuel ih =>
    cases cs with
    | nil => exact .nil
    | cons c rest =>
      rw [lexFrom]
      cases hnext : nextLexeme c (c :: rest) with
      | mk lexeme? n =>
        cases lexeme? with
        | none => exact ih _ _
        | some lexeme =>
          refine List.pairwise_cons.mpr ⟨?_, ih _ _⟩
          intro later hlater hcomment
          have hlength := length_of_isLineComment hnext hcomment
          have hpositive : max n 1 = n := by
            refine Nat.max_eq_left ?_
            by_cases hc : c = '\n'
            · rw [hc, nextLexeme_newline] at hnext
              cases hnext
            · simp [hlength, Lexeme.lineLength, hc]
          rw [hpositive, hlength, drop_lineLength] at hlater
          exact Nat.lt_of_le_of_lt (position.line_le_after _) (line_lt_of_mem_lexFrom hlater)

theorem lexemes_ascending (source : List Char) :
    (lexemes source).Pairwise fun a b => a.lexeme.isLineComment = true → a.line < b.line := by
  unfold lexemes
  dsimp only
  split <;> exact lexFrom_ascending _ _ _

end Source

namespace Comment

theorem isLineComment_of_ofLexeme? {placed : Source.Placed} {comment : Comment}
    (h : ofLexeme? placed = some comment) : placed.lexeme.isLineComment = true := by
  unfold ofLexeme? at h
  split at h
  · rename_i hlexeme
    rw [hlexeme]
    rfl
  · cases h

theorem ofSource_ascending (source : List Char) :
    (ofSource source).Pairwise fun a b => a.line < b.line := by
  refine (Source.lexemes_ascending source).filterMap ofLexeme? ?_
  intro a b hab x hx y hy
  rw [line_of_ofLexeme? hx, line_of_ofLexeme? hy]
  exact hab (isLineComment_of_ofLexeme? hx)

-- ---------------------------------------------------------------------------
-- Comments by line
-- ---------------------------------------------------------------------------

def byLine (comments : List Comment) : List Comment :=
  comments.mergeSort fun a b => a.line ≤ b.line

theorem mem_byLine {comments : List Comment} {comment : Comment} :
    comment ∈ byLine comments ↔ comment ∈ comments :=
  List.mem_mergeSort

theorem byLine_of_ascending {comments : List Comment}
    (h : comments.Pairwise fun a b => a.line < b.line) : byLine comments = comments :=
  List.mergeSort_of_pairwise (h.imp fun hab => decide_eq_true (Nat.le_of_lt hab))

section

variable {comments : List Comment} (h : (comments.map (·.line)).Nodup)
include h

theorem byLine_ascending : (byLine comments).Pairwise fun a b => a.line < b.line := by
  have hsorted : (byLine comments).Pairwise fun a b => a.line ≤ b.line :=
    (List.pairwise_mergeSort (by simpa using fun a b c => Nat.le_trans) (by simp [Nat.le_total])
      comments).imp of_decide_eq_true
  have hdistinct : ((byLine comments).map (·.line)).Nodup :=
    ((List.mergeSort_perm ..).map _).nodup_iff.mpr h
  exact hsorted.imp₂ (fun a b => Nat.lt_of_le_of_ne) (List.pairwise_map.mp hdistinct)

theorem eq_of_line_eq {a b : Comment} (ha : a ∈ comments) (hb : b ∈ comments)
    (hline : a.line = b.line) : a = b :=
  List.inj_on_of_nodup_map h ha hb hline

theorem ownLine?_of_mem {comment : Comment} (hmem : comment ∈ comments)
    (hown : comment.ownLine = true) : ownLine? comments comment.line = some comment.text := by
  have hsome : (comments.find? fun c => c.line == comment.line && c.ownLine).isSome := by
    rw [List.find?_isSome]
    exact ⟨comment, hmem, by simp [hown]⟩
  obtain ⟨found, hfound⟩ := Option.isSome_iff_exists.mp hsome
  have hline := List.find?_some hfound
  simp only [Bool.and_eq_true, beq_iff_eq] at hline
  have heq := eq_of_line_eq h (List.mem_of_find?_eq_some hfound) hmem hline.1
  rw [ownLine?, hfound, heq]
  rfl

end

-- ---------------------------------------------------------------------------
-- Runs
-- ---------------------------------------------------------------------------

/-- Groups of ascending comments: they hold the texts with their lines, each group without a gap, and
between two groups there is one. -/
structure Runs (own : List Comment) (found : List CommentGroup) : Prop where
  covered : found.flatMap (fun group => group.lines.zipIdx group.first) =
    own.map fun comment => (comment.text, comment.line)
  filled : ∀ group ∈ found, group.lines ≠ [] ∧ group.last + 1 = group.first + group.lines.length
  apart : found.Pairwise fun a b => a.last + 1 < b.first

theorem Runs.exists_first {own : List Comment} {found : List CommentGroup} (h : Runs own found)
    {group : CommentGroup} (hgroup : group ∈ found) :
    ∃ comment ∈ own, comment.line = group.first := by
  obtain ⟨text, rest, hlines⟩ := List.exists_cons_of_ne_nil (h.filled group hgroup).1
  have hmem : (text, group.first) ∈ found.flatMap fun group => group.lines.zipIdx group.first := by
    refine List.mem_flatMap.mpr ⟨group, hgroup, ?_⟩
    rw [hlines, List.zipIdx_cons]
    exact List.mem_cons_self
  rw [h.covered] at hmem
  obtain ⟨comment, hcomment, heq⟩ := List.mem_map.mp hmem
  exact ⟨comment, hcomment, (Prod.mk.inj heq).2⟩

theorem Runs.first_le_last {own : List Comment} {found : List CommentGroup} (h : Runs own found)
    {group : CommentGroup} (hgroup : group ∈ found) : group.first ≤ group.last := by
  obtain ⟨hne, hcount⟩ := h.filled group hgroup
  have hpos := List.length_pos_iff.mpr hne
  omega

theorem runs_prependGroup {comment : Comment} {own : List Comment} {found : List CommentGroup}
    (h : Runs own found) (hfirst : ∀ other ∈ own, comment.line < other.line) :
    Runs (comment :: own) (prependGroup comment found) := by
  have hbelow : ∀ group ∈ found, comment.line < group.first := by
    intro group hgroup
    obtain ⟨other, hother, hline⟩ := h.exists_first hgroup
    exact hline ▸ hfirst other hother
  have hsingle : ∀ found : List CommentGroup, Runs own found →
      (∀ group ∈ found, comment.line + 1 < group.first) →
      Runs (comment :: own) (⟨comment.line, comment.line, [comment.text]⟩ :: found) := by
    intro found h hgap
    refine ⟨?_, ?_, List.pairwise_cons.mpr ⟨hgap, h.apart⟩⟩
    · rw [List.flatMap_cons, h.covered]
      rfl
    · rintro group (_ | ⟨_, hgroup⟩)
      · exact ⟨List.cons_ne_nil _ _, rfl⟩
      · exact h.filled group hgroup
  cases found with
  | nil => exact hsingle [] h nofun
  | cons next later =>
    obtain ⟨hnext, hlater⟩ := List.pairwise_cons.mp h.apart
    rw [prependGroup]
    split
    · -- The comment stands right above the next group and joins it.
      rename_i hjoin
      rw [beq_iff_eq] at hjoin
      refine ⟨?_, ?_, List.pairwise_cons.mpr ⟨hnext, hlater⟩⟩
      · have hcovered := h.covered
        rw [List.flatMap_cons] at hcovered ⊢
        rw [List.map_cons, ← hcovered, ← hjoin]
        rfl
      · obtain ⟨⟨-, hcount⟩, hothers⟩ := List.forall_mem_cons.mp h.filled
        refine List.forall_mem_cons.mpr ⟨⟨List.cons_ne_nil _ _, ?_⟩, hothers⟩
        rw [List.length_cons]
        dsimp only
        omega
    · rename_i hgap
      rw [beq_iff_eq] at hgap
      refine hsingle _ h ?_
      have hfar : comment.line + 1 < next.first := by
        have := hbelow next List.mem_cons_self
        omega
      refine List.forall_mem_cons.mpr ⟨hfar, fun group hgroup => ?_⟩
      have hlast := h.first_le_last List.mem_cons_self
      have hafter := hnext group hgroup
      omega

theorem runs_foldr {own : List Comment} (h : own.Pairwise fun a b => a.line < b.line) :
    Runs own (own.foldr prependGroup []) := by
  induction own with
  | nil => exact ⟨rfl, nofun, .nil⟩
  | cons comment own ih =>
    obtain ⟨hfirst, hown⟩ := List.pairwise_cons.mp h
    exact runs_prependGroup (ih hown) hfirst

-- ---------------------------------------------------------------------------
-- From first to last
-- ---------------------------------------------------------------------------

def appendGroup (comment : Comment) : List CommentGroup → List CommentGroup
  | [] => [⟨comment.line, comment.line, [comment.text]⟩]
  | [group] =>
    if group.last + 1 == comment.line then
      [⟨group.first, comment.line, group.lines ++ [comment.text]⟩]
    else [group, ⟨comment.line, comment.line, [comment.text]⟩]
  | group :: next :: later => group :: appendGroup comment (next :: later)

theorem appendGroup_prependGroup (first last : Comment) (found : List CommentGroup) :
    appendGroup last (prependGroup first found) = prependGroup first (appendGroup last found) := by
  match found with
  | [] => rfl
  | [group] =>
    simp only [prependGroup, appendGroup]
    split
    · rename_i hfirst
      simp only [appendGroup]
      split <;> simp [hfirst]
    · rename_i hfirst
      simp only [appendGroup]
      split <;> simp [hfirst]
  | group :: next :: later =>
    simp only [prependGroup, appendGroup]
    split <;> rfl

/-- Going through the comments from first to last and extending the last group comes to the same. -/
theorem groups_eq_foldl (comments : List Comment) :
    groups comments =
      (comments.filter (·.ownLine)).foldl (fun found comment => appendGroup comment found) [] := by
  have happend : ∀ (own : List Comment) (last : Comment),
      (own ++ [last]).foldr prependGroup [] = appendGroup last (own.foldr prependGroup []) := by
    intro own last
    induction own with
    | nil => rfl
    | cons first own ih =>
      rw [List.cons_append, List.foldr_cons, List.foldr_cons, ih, appendGroup_prependGroup]
  unfold groups
  induction comments.filter (·.ownLine) using List.reverseRecOn with
  | nil => rfl
  | append_singleton own last ih => rw [happend, ih, List.foldl_concat]

-- ---------------------------------------------------------------------------
-- Groups
-- ---------------------------------------------------------------------------

/-- The groups of a list of comments are the longest runs of lines with a comment alone on each. -/
structure Grouped (comments : List Comment) (found : List CommentGroup) : Prop where
  texts : found.flatMap (·.lines) = ((byLine comments).filter (·.ownLine)).map (·.text)
  lengths : ∀ group ∈ found,
    group.first ≤ group.last ∧ group.lines.length = group.last - group.first + 1
  lines : ∀ group ∈ found, ∀ k (hk : k < group.lines.length),
    ownLine? comments (group.first + k) = some group.lines[k]
  apart : found.Pairwise fun a b => a.last + 1 < b.first
  trailing : ∀ comment ∈ comments, comment.ownLine = false → ∀ group ∈ found,
    comment.line < group.first ∨ group.last < comment.line

theorem grouped_of_runs {comments : List Comment} (h : (comments.map (·.line)).Nodup)
    {found : List CommentGroup} (hruns : Runs ((byLine comments).filter (·.ownLine)) found) :
    Grouped comments found := by
  have hplaced : ∀ group ∈ found, ∀ k (hk : k < group.lines.length),
      ∃ comment ∈ comments, comment.ownLine = true ∧ comment.line = group.first + k ∧
        comment.text = group.lines[k] := by
    intro group hgroup k hk
    have hmem : (group.lines[k], group.first + k) ∈
        found.flatMap fun group => group.lines.zipIdx group.first :=
      List.mem_flatMap.mpr ⟨group, hgroup, List.mem_iff_getElem.mpr ⟨k, by simpa using hk, by simp⟩⟩
    rw [hruns.covered] at hmem
    obtain ⟨comment, hcomment, heq⟩ := List.mem_map.mp hmem
    obtain ⟨hmem, hown⟩ := List.mem_filter.mp hcomment
    obtain ⟨htext, hline⟩ := Prod.mk.inj heq
    exact ⟨comment, mem_byLine.mp hmem, hown, hline, htext⟩
  constructor
  case texts =>
    have htexts := congrArg (List.map Prod.fst) hruns.covered
    simpa [List.map_flatMap, Function.comp_def] using htexts
  case lengths =>
    intro group hgroup
    have hle := hruns.first_le_last hgroup
    have hcount := (hruns.filled group hgroup).2
    omega
  case lines =>
    intro group hgroup k hk
    obtain ⟨comment, hcomment, hown, hline, htext⟩ := hplaced group hgroup k hk
    rw [← hline, ← htext]
    exact ownLine?_of_mem h hcomment hown
  case apart => exact hruns.apart
  case trailing =>
    intro comment hcomment htrailing group hgroup
    by_contra hinside
    -- The group has a comment alone on this line, and there is no second comment.
    have hcount := (hruns.filled group hgroup).2
    obtain ⟨other, hother, hown, hline, -⟩ :=
      hplaced group hgroup (comment.line - group.first) (by omega)
    obtain rfl := eq_of_line_eq h hother hcomment (by omega)
    rw [hown] at htrailing
    cases htrailing

/-- Among comments on distinct lines, as those of a source are, the groups are the longest runs of
comments alone on consecutive lines, from first to last. -/
theorem groups_grouped :
    (∀ comments : List Comment, (comments.map (·.line)).Nodup →
      Grouped comments (groups (byLine comments))) ∧
    (∀ comments : List Comment, groups comments =
      (comments.filter (·.ownLine)).foldl (fun found comment => appendGroup comment found) []) ∧
    ∀ source, ((ofSource source).map (·.line)).Nodup ∧ byLine (ofSource source) = ofSource source := by
  refine ⟨fun comments h => ?_, groups_eq_foldl, fun source => ?_⟩
  · exact grouped_of_runs h (runs_foldr ((byLine_ascending h).filter _))
  · have hascending := ofSource_ascending source
    exact ⟨List.pairwise_map.mpr (hascending.imp Nat.ne_of_lt), byLine_of_ascending hascending⟩

/-- A trailing comment on line 2 keeps the comments above and below it apart. -/
theorem groups_grouped_split :
    let comments : List Comment := [⟨3, "c", true⟩, ⟨1, "a", true⟩, ⟨2, "b", false⟩, ⟨4, "d", true⟩]
    (comments.map (·.line)).Nodup ∧ Grouped comments [⟨1, 1, ["a"]⟩, ⟨3, 4, ["c", "d"]⟩] := by
  intro comments
  have hdistinct : (comments.map (·.line)).Nodup := by decide
  have hgroups : groups (byLine comments) = [⟨1, 1, ["a"]⟩, ⟨3, 4, ["c", "d"]⟩] := by
    simp [comments, byLine, groups, prependGroup, List.mergeSort,
      List.MergeSort.Internal.splitInTwo]
  exact ⟨hdistinct, hgroups ▸ groups_grouped.1 comments hdistinct⟩

end Comment

end SocketDocs
