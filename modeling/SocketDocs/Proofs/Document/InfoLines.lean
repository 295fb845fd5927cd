import Mathlib.Data.List.Induction
import Mathlib.Data.List.Forall2
import Mathlib.Data.List.Perm.Subperm
import SocketDocs.Extraction
import SocketDocs.Proofs.Comment.Order
import SocketDocs.Proofs.Comment.Runs
import SocketDocs.Proofs.DocBlock.Attachment

/-!
# The annotations that count

General information is the last that the annotations of the files say under each key
(`info_of_annotations`). The annotations of a file are those that open it, as far as they stand on
lines without a break, and then those above the function `main`, as far as nothing but blank lines
and attributes stands in between.
-/

namespace SocketDocs

-- ---------------------------------------------------------------------------
-- Values
-- ---------------------------------------------------------------------------

namespace Info

def keyed : List (String × (Info → String)) :=
  [("@title", (·.title)), ("@version", (·.version)), ("@description", (·.description)),
    ("@contact.name", (·.contact.name)), ("@contact.email", (·.contact.email)),
    ("@license.name", (·.license.name)), ("@license.url", (·.license.url))]

def valueUnder? (key line : String) : Option String :=
  match Text.words line with
  | first :: word :: later => if first = key then some (" ".intercalate (word :: later)) else none
  | _ => none

theorem get_setKey {key : String} {get : Info → String} (h : (key, get) ∈ keyed) (info : Info)
    (other value : String) :
    get (info.setKey other value) = if other = key then value else get info := by
  simp only [keyed, List.mem_cons, Prod.mk.injEq, List.not_mem_nil, or_false] at h
  unfold setKey
  rcases h with ⟨rfl, rfl⟩ | ⟨rfl, rfl⟩ | ⟨rfl, rfl⟩ | ⟨rfl, rfl⟩ | ⟨rfl, rfl⟩ | ⟨rfl, rfl⟩ |
      ⟨rfl, rfl⟩ <;>
    split <;> simp_all

theorem get_empty {key : String} {get : Info → String} (h : (key, get) ∈ keyed) : get {} = "" := by
  simp only [keyed, List.mem_cons, Prod.mk.injEq, List.not_mem_nil, or_false] at h
  rcases h with ⟨-, rfl⟩ | ⟨-, rfl⟩ | ⟨-, rfl⟩ | ⟨-, rfl⟩ | ⟨-, rfl⟩ | ⟨-, rfl⟩ | ⟨-, rfl⟩ <;> rfl

theorem get_applyLine {key : String} {get : Info → String} (h : (key, get) ∈ keyed) (info : Info)
    (line : String) : get (info.applyLine line) = (valueUnder? key line).getD (get info) := by
  unfold applyLine valueUnder?
  rcases Text.words line with _ | ⟨first, _ | ⟨word, later⟩⟩
  · rfl
  · rfl
  · rw [get_setKey h]
    by_cases hkey : first = key <;> simp [hkey]

/-- Of the lines that say something under a key, the last one counts. -/
theorem get_foldl_applyLine {key : String} {get : Info → String} (h : (key, get) ∈ keyed)
    (lines : List String) (info : Info) :
    get (lines.foldl applyLine info) =
      (lines.filterMap (valueUnder? key)).getLast?.getD (get info) := by
  induction lines using List.reverseRecOn with
  | nil => rfl
  | append_singleton lines line ih =>
    rw [List.foldl_append, List.foldl_cons, List.foldl_nil, get_applyLine h, ih,
      List.filterMap_append]
    cases hline : valueUnder? key line <;> simp [hline]

end Info

-- ---------------------------------------------------------------------------
-- Lines of a source
-- ---------------------------------------------------------------------------

namespace Source

theorem Position.line_after (position : Position) (cs : List Char) :
    (position.after cs).line = position.line + cs.count '\n' := by
  induction cs generalizing position with
  | nil => rfl
  | cons c rest ih =>
    have hnext : (position.next c).line = position.line + if c = '\n' then 1 else 0 := by
      unfold Position.next
      by_cases hc : c = '\n' <;> simp [hc]
    have hstep : position.after (c :: rest) = (position.next c).after rest := rfl
    rw [hstep, ih, hnext, List.count_cons]
    simp only [beq_iff_eq]
    omega

theorem line_le_of_mem_lexFrom_of_count {fuel : Nat} {position : Position} {cs : List Char}
    {placed : Placed} (h : placed ∈ lexFrom fuel position cs) :
    placed.line ≤ position.line + cs.count '\n' := by
  induction fuel generalizing position cs with
  | zero => cases h
  | succ fuel ih =>
    cases cs with
    | nil => cases h
    | cons c rest =>
      have hlater : ∀ n, placed ∈ lexFrom fuel (position.after ((c :: rest).take n))
          ((c :: rest).drop n) → placed.line ≤ position.line + (c :: rest).count '\n' := by
        intro n hmem
        have hline := ih hmem
        rwa [Position.line_after, Nat.add_assoc, ← List.count_append, List.take_append_drop] at hline
      simp only [lexFrom] at h
      split at h
      · rcases List.mem_cons.mp h with rfl | h
        · exact Nat.le_add_right _ _
        · exact hlater _ h
      · exact hlater _ h

theorem line_le_of_mem_lexemes {source : List Char} {placed : Placed} (h : placed ∈ lexemes source) :
    placed.line ≤ 1 + source.count '\n' := by
  have hdrop : ∀ cs : List Char, (dropMark cs).Sublist cs := by
    intro cs
    unfold dropMark
    split
    · split
      · exact List.sublist_cons_self _ _
      · exact .refl _
    · exact .refl _
  have hbody := (hdrop source).count_le '\n'
  have hbody' := (hdrop (dropMark source)).count_le '\n'
  unfold lexemes at h
  dsimp only at h
  split at h
  · have hline := line_le_of_mem_lexFrom_of_count h
    rw [Position.line_after, Nat.add_assoc, ← List.count_append, List.take_append_drop] at hline
    exact Nat.le_trans hline (Nat.add_le_add_left hbody 1)
  · exact Nat.le_trans (line_le_of_mem_lexFrom_of_count h)
      (Nat.add_le_add_left (Nat.le_trans hbody' hbody) 1)

end Source

namespace SourceFile

theorem length_linesFrom (line cs : List Char) : (linesFrom line cs).length = cs.count '\n' + 1 := by
  induction cs generalizing line with
  | nil => rfl
  | cons c rest ih =>
    rw [linesFrom, List.count_cons]
    split <;> simp_all

theorem line_le_of_mem_comments {path text : String} {file : SourceFile}
    (h : parse? path text = some file) {comment : Comment} (hmem : comment ∈ file.comments) :
    comment.line ≤ file.trimmedLines.length := by
  obtain ⟨items, -, rfl⟩ := Option.map_eq_some_iff.mp h
  obtain ⟨placed, hplaced, hcomment⟩ := List.mem_filterMap.mp hmem
  rw [Comment.line_of_ofLexeme? hcomment, trimmedLines, List.length_map, length_linesFrom,
    Nat.add_comm]
  exact Source.line_le_of_mem_lexemes hplaced

end SourceFile

-- ---------------------------------------------------------------------------
-- Annotations of a file
-- ---------------------------------------------------------------------------

namespace Info

def IsAnnotated (comments : List Comment) (line : Nat) : Prop :=
  ∃ text, Comment.ownLine? comments line = some text ∧ text.toList.head? = some '@'

/-- The annotations that open a file: the comments on the longest run of annotated lines from the
first line on. -/
def Opens (file : SourceFile) (lines : List String) : Prop :=
  ∃ stop, RunFrom (IsAnnotated file.comments) 1 stop ∧
    lines = (linesBetween 1 stop).filterMap (Comment.ownLine? file.comments)

def lineText (file : SourceFile) (line : Nat) : List Char :=
  file.trimmedLines[line - 1]?.getD []

/-- A line that may stand above the function `main` without parting it from annotations above. -/
def MayStandAbove (file : SourceFile) (line : Nat) : Prop :=
  1 ≤ line ∧ (IsAnnotated file.comments line ∨ Comment.ownLine? file.comments line = none ∧
    (lineText file line = [] ∨ "#[".toList <+: lineText file line))

/-- The annotations above the first function `main`, if there is one: those on the longest run of
lines that may stand there. -/
def StandsAboveMain (file : SourceFile) (lines : List String) : Prop :=
  match (Declaration.ofFile file).find? (·.name == "main") with
  | none => lines = []
  | some main => ∃ first, RunAbove (MayStandAbove file) main.line first ∧
      lines = (linesBetween first main.line).filterMap (Comment.ownLine? file.comments)

/-- All that a file says about the document, in order. -/
def Annotates (file : SourceFile) (lines : List String) : Prop :=
  ∃ opening above, Opens file opening ∧ StandsAboveMain file above ∧ lines = opening ++ above

theorem isMarked_iff {text : String} : isMarked text = true ↔ text.toList.head? = some '@' := by
  simp [isMarked]

theorem markedAt?_of_isAnnotated {comments : List Comment} {line : Nat}
    (h : IsAnnotated comments line) :
    ∃ text, Comment.ownLine? comments line = some text ∧ markedAt? comments line = some text := by
  obtain ⟨text, hown, hmark⟩ := h
  exact ⟨text, hown, by simp [markedAt?, hown, isMarked_iff.mpr hmark]⟩

theorem markedAt?_of_not_isAnnotated {comments : List Comment} {line : Nat}
    (h : ¬IsAnnotated comments line) : markedAt? comments line = none := by
  cases hown : Comment.ownLine? comments line with
  | none => simp [markedAt?, hown]
  | some text =>
    have hmark : isMarked text = false := by
      rw [← Bool.not_eq_true, isMarked_iff]
      exact fun hmark => h ⟨text, hown, hmark⟩
    simp [markedAt?, hown, hmark]

theorem headerFrom_eq (comments : List Comment) (count first : Nat) :
    ∃ stop, first ≤ stop ∧ (∀ line, first ≤ line → line < stop → IsAnnotated comments line) ∧
      (stop = first + count ∨ ¬IsAnnotated comments stop) ∧
      headerFrom comments count first =
        (linesBetween first stop).filterMap (Comment.ownLine? comments) := by
  induction count generalizing first with
  | zero =>
    refine ⟨first, Nat.le_refl _, fun line h h' => by omega, .inl rfl, ?_⟩
    rw [headerFrom, linesBetween_self]
    rfl
  | succ count ih =>
    by_cases hfirst : IsAnnotated comments first
    · obtain ⟨text, hown, hmarked⟩ := markedAt?_of_isAnnotated hfirst
      obtain ⟨stop, hle, hlines, hstop, hheader⟩ := ih (first + 1)
      refine ⟨stop, by omega, ?_, by rwa [Nat.add_right_comm, Nat.add_assoc] at hstop, ?_⟩
      · intro line hline hlt
        rcases Nat.eq_or_lt_of_le hline with rfl | hline
        · exact hfirst
        · exact hlines line hline hlt
      · rw [headerFrom, hmarked, linesBetween_of_lt hle, List.filterMap_cons, hown]
        exact congrArg _ hheader
    · refine ⟨first, Nat.le_refl _, fun line h h' => by omega, .inr hfirst, ?_⟩
      rw [headerFrom, markedAt?_of_not_isAnnotated hfirst, linesBetween_self]
      rfl

theorem not_forall_isAnnotated (comments : List Comment) (first : Nat) :
    ¬∀ line, first ≤ line → line < first + comments.length + 1 → IsAnnotated comments line := by
  intro h
  have hsub : List.range' first (comments.length + 1) ⊆ comments.map (·.line) := by
    intro line hline
    rw [List.mem_range'_1] at hline
    obtain ⟨text, hown, -⟩ := h line hline.1 (by omega)
    obtain ⟨comment, hmem, rfl, -⟩ := Comment.exists_of_ownLine? hown
    exact List.mem_map_of_mem hmem
  have hle := (List.subperm_of_subset List.nodup_range' hsub).length_le
  rw [List.length_range', List.length_map] at hle
  omega

theorem opens_headerLines (file : SourceFile) : Opens file (headerLines file.comments) := by
  obtain ⟨stop, hle, hlines, hstop, hheader⟩ :=
    headerFrom_eq file.comments file.comments.length 1
  refine ⟨stop, .of_stop hle hlines ?_, hheader⟩
  intro hannotated
  rcases hstop with rfl | hstop
  · refine not_forall_isAnnotated file.comments 1 fun line hfirst hline => ?_
    rcases Nat.lt_succ_iff_lt_or_eq.mp hline with hline | rfl
    · exact hlines line hfirst hline
    · exact hannotated
  · exact hstop hannotated

theorem Opens.unique {file : SourceFile} {lines lines' : List String} (h : Opens file lines)
    (h' : Opens file lines') : lines = lines' := by
  obtain ⟨stop, hrun, rfl⟩ := h
  obtain ⟨stop', hrun', rfl⟩ := h'
  rw [IsGreatest.unique hrun hrun']

theorem StandsAboveMain.unique {file : SourceFile} {lines lines' : List String}
    (h : StandsAboveMain file lines) (h' : StandsAboveMain file lines') : lines = lines' := by
  unfold StandsAboveMain at h h'
  split at h <;> split at h'
  · rw [h, h']
  · simp_all
  · simp_all
  · rename_i main hmain _ main' hmain'
    obtain rfl : main = main' := Option.some.inj (hmain.symm.trans hmain')
    obtain ⟨first, hrun, rfl⟩ := h
    obtain ⟨first', hrun', rfl⟩ := h'
    rw [hrun.unique hrun']

section

variable {file : SourceFile}
  (hcomments : ∀ comment ∈ file.comments, comment.line ≤ file.trimmedLines.length)
include hcomments

/-- The walk up from a line looks at that line first. Below the last line nothing ends it. -/
theorem linesAbove_succ (k : Nat) :
    linesAbove file.comments (file.trimmedLines.take (k + 1)).reverse =
      match Comment.ownLine? file.comments (k + 1) with
      | some text =>
        if isMarked text then
          text :: linesAbove file.comments (file.trimmedLines.take k).reverse
        else []
      | none =>
        if isGap (lineText file (k + 1)) then
          linesAbove file.comments (file.trimmedLines.take k).reverse
        else [] := by
  by_cases hk : k < file.trimmedLines.length
  · have hline : lineText file (k + 1) = file.trimmedLines[k] := by simp [lineText, hk]
    have hcons : (file.trimmedLines.take (k + 1)).reverse =
        lineText file (k + 1) :: (file.trimmedLines.take k).reverse := by
      rw [List.take_succ_eq_append_getElem hk, List.reverse_append, List.reverse_singleton,
        List.singleton_append, hline]
    have hstep := linesAbove.eq_2 file.comments (lineText file (k + 1))
      (file.trimmedLines.take k).reverse
    rw [List.length_reverse, List.length_take, Nat.min_eq_left (Nat.le_of_lt hk), ← hcons] at hstep
    exact hstep
  · have hnone : Comment.ownLine? file.comments (k + 1) = none := by
      rw [Option.eq_none_iff_forall_ne_some]
      intro text hown
      obtain ⟨comment, hmem, hline, -⟩ := Comment.exists_of_ownLine? hown
      have := hcomments comment hmem
      omega
    have hgap : isGap (lineText file (k + 1)) = true := by
      simp [lineText, isGap, Nat.le_of_not_lt hk]
    rw [hnone, hgap, if_pos rfl, List.take_of_length_le (Nat.le_of_not_lt hk),
      List.take_of_length_le (Nat.le_succ_of_le (Nat.le_of_not_lt hk))]

theorem linesAbove_eq {k first : Nat} (h : RunAbove (MayStandAbove file) (k + 1) first) :
    (linesAbove file.comments (file.trimmedLines.take k).reverse).reverse =
      (linesBetween first (k + 1)).filterMap (Comment.ownLine? file.comments) := by
  induction k generalizing first with
  | zero =>
    have hkind : ¬MayStandAbove file 0 := fun hkind => absurd hkind.1 (by decide)
    rw [h.unique (.empty hkind), linesBetween_self]
    rfl
  | succ k ih =>
    rw [linesAbove_succ hcomments]
    by_cases hkind : MayStandAbove file (k + 1)
    · obtain ⟨first', hrun⟩ := exists_runAbove (MayStandAbove file) (k + 1)
      rw [h.unique (hrun.succ hkind), linesBetween_succ hrun.le_stop, List.filterMap_append, ← ih hrun]
      rcases hkind.2 with ⟨text, hown, hmark⟩ | ⟨hown, hgap⟩
      · simp [hown, isMarked_iff.mpr hmark]
      · have hgap : isGap (lineText file (k + 1)) = true := by
          simpa [isGap] using hgap
        simp [hown, hgap]
    · rw [h.unique (.empty hkind), linesBetween_self]
      cases hown : Comment.ownLine? file.comments (k + 1) with
      | some text =>
        have hmark : isMarked text = false := by
          rw [← Bool.not_eq_true, isMarked_iff]
          exact fun hmark => hkind ⟨Nat.le_add_left .., .inl ⟨text, hown, hmark⟩⟩
        simp [hmark]
      | none =>
        have hgap : isGap (lineText file (k + 1)) = false := by
          rw [← Bool.not_eq_true]
          intro hgap
          refine hkind ⟨Nat.le_add_left .., .inr ⟨hown, ?_⟩⟩
          simpa [isGap] using hgap
        simp [hgap]

theorem standsAboveMain_mainLines : StandsAboveMain file (mainLines file) := by
  unfold StandsAboveMain mainLines
  cases (Declaration.ofFile file).find? (·.name == "main") with
  | none => rfl
  | some main =>
    obtain ⟨first, hrun⟩ := exists_runAbove (MayStandAbove file) main.line
    refine ⟨first, hrun, ?_⟩
    dsimp only
    cases hline : main.line with
    | zero =>
      rw [hline] at hrun
      rw [Nat.le_zero.mp hrun.le_stop, linesBetween_self]
      rfl
    | succ k =>
      rw [hline] at hrun
      exact linesAbove_eq hcomments hrun

end

theorem annotates_iff {path text : String} {file : SourceFile}
    (h : SourceFile.parse? path text = some file) {lines : List String} :
    Annotates file lines ↔ lines = headerLines file.comments ++ mainLines file := by
  have hmain : StandsAboveMain file (mainLines file) :=
    standsAboveMain_mainLines fun _ hmem => SourceFile.line_le_of_mem_comments h hmem
  constructor
  · rintro ⟨opening, above, hopens, habove, rfl⟩
    rw [hopens.unique (opens_headerLines file), habove.unique hmain]
  · rintro rfl
    exact ⟨_, _, opens_headerLines file, hmain, rfl⟩

theorem foldl_applyFile (files : List SourceFile) (info : Info) :
    files.foldl applyFile info =
      (files.flatMap fun file => headerLines file.comments ++ mainLines file).foldl applyLine
        info := by
  induction files generalizing info with
  | nil => rfl
  | cons file files ih =>
    rw [List.foldl_cons, ih, List.flatMap_cons, List.foldl_append, applyFile]

theorem forall₂_annotates_iff {files : List SourceFile}
    (h : ∀ file ∈ files, ∃ path text, SourceFile.parse? path text = some file)
    {lists : List (List String)} :
    List.Forall₂ Annotates files lists ↔
      lists = files.map fun file => headerLines file.comments ++ mainLines file := by
  induction files generalizing lists with
  | nil => exact List.forall₂_nil_left_iff
  | cons file files ih =>
    obtain ⟨⟨path, text, hparse⟩, hfiles⟩ := List.forall_mem_cons.mp h
    rw [List.forall₂_cons_left_iff, List.map_cons]
    constructor
    · rintro ⟨lines, rest, hfirst, hrest, rfl⟩
      rw [(annotates_iff hparse).mp hfirst, (ih hfiles).mp hrest]
    · rintro rfl
      exact ⟨_, _, (annotates_iff hparse).mpr rfl, (ih hfiles).mpr rfl, rfl⟩

end Info

namespace Extraction

theorem info_addFile (catalog : Catalog) (extraction : Extraction) (file : SourceFile) :
    (addFile catalog extraction file).document.info = extraction.document.info.applyFile file := by
  rw [addFile]
  induction DocBlock.ofFile file using List.reverseRecOn with
  | nil => rfl
  | append_singleton blocks block ih => rwa [List.foldl_append]

theorem info_foldl_addFile (catalog : Catalog) (extraction : Extraction) (files : List SourceFile) :
    (files.foldl (addFile catalog) extraction).document.info =
      files.foldl Info.applyFile extraction.document.info := by
  induction files generalizing extraction with
  | nil => rfl
  | cons file files ih => rw [List.foldl_cons, ih, info_addFile, List.foldl_cons]

theorem info_ofFiles (files : List SourceFile) :
    (ofFiles files).document.info = files.foldl Info.applyFile {} :=
  info_foldl_addFile _ _ files

end Extraction

namespace Info

/-- Files annotate in one way only, and of all that they say under a key the last counts. -/
theorem info_of_annotations {files : List SourceFile}
    (h : ∀ file ∈ files, ∃ path text, SourceFile.parse? path text = some file) :
    (Extraction.ofFiles files).document.info = files.foldl applyFile {} ∧
    ∃ annotations : List (List String),
      (∀ lists, List.Forall₂ Annotates files lists ↔ lists = annotations) ∧
      ∀ key get, (key, get) ∈ keyed →
        get (files.foldl applyFile {}) =
          (annotations.flatten.filterMap (valueUnder? key)).getLast?.getD "" := by
  refine ⟨Extraction.info_ofFiles files,
    files.map fun file => headerLines file.comments ++ mainLines file, fun _ => forall₂_annotates_iff h, ?_⟩
  intro key get hkey
  rw [foldl_applyFile, get_foldl_applyLine hkey, get_empty hkey, List.flatMap]

/-- The title above `main` comes after the one that opens the file, and is the one that counts. -/
theorem info_of_annotations_above_main :
    ∃ file, SourceFile.parse? "a.rs"
        ("// @title Chat\n// plain\n\n// @title  Chat   two\n#[tokio::main]\n" ++
          "fn main() \x7b\x7d\n") = some file ∧
      (∀ file' ∈ [file], ∃ path text, SourceFile.parse? path text = some file') ∧
      (Extraction.ofFiles [file]).document.info.title = "Chat two" := by
  have hread : (SourceFile.parse? "a.rs"
      ("// @title Chat\n// plain\n\n// @title  Chat   two\n#[tokio::main]\n" ++
        "fn main() \x7b\x7d\n")).map (fun file =>
        (Declaration.ofItems none file.items, file.comments, file.trimmedLines.take 5)) =
      some ([⟨"main", 6⟩],
        [⟨1, "@title Chat", true⟩, ⟨2, "plain", true⟩, ⟨4, "@title  Chat   two", true⟩],
        ["// @title Chat".toList, "// plain".toList, [], "// @title  Chat   two".toList,
          "#[tokio::main]".toList]) := by
    decide +kernel
  obtain ⟨file, hfile, heq⟩ := Option.map_eq_some_iff.mp hread
  simp only [Prod.mk.injEq] at heq
  obtain ⟨hitems, hcomments, hlines⟩ := heq
  have hparsed : ∀ file' ∈ [file], ∃ path text, SourceFile.parse? path text = some file' :=
    fun file' hmem => ⟨_, _, List.mem_singleton.mp hmem ▸ hfile⟩
  refine ⟨file, hfile, hparsed, ?_⟩
  obtain ⟨hinfo, annotations, hannotations, hvalue⟩ := info_of_annotations hparsed
  have hmain : mainLines file = ["@title  Chat   two"] := by
    have hwalk : mainLines file =
        (linesAbove file.comments (file.trimmedLines.take 5).reverse).reverse := by
      rw [mainLines, DocBlock.ofFile_of_ordered hitems (by decide)]
      rfl
    rw [hwalk, hcomments, hlines]
    decide +kernel
  obtain rfl := (hannotations [headerLines file.comments ++ mainLines file]).mp
    (.cons ((annotates_iff hfile).mpr rfl) .nil)
  rw [hinfo, hvalue "@title" (·.title) (by simp [keyed]), hmain, hcomments]
  decide +kernel

end Info

end SocketDocs
