import Mathlib.Data.List.Basic
import Mathlib.Data.List.Induction
import SocketDocs.DocBlock
import SocketDocs.Proofs.Comment.Order

/-!
# Blocks and the functions they document

The blocks of a file are attached to positions among its functions and read back position by
position. Groups come in file order and a later group is attached no earlier, so the lines come
back in file order: none is lost, repeated or moved (`ofFile_attachment`).
-/

namespace SocketDocs.DocBlock

-- ---------------------------------------------------------------------------
-- Lines by position
-- ---------------------------------------------------------------------------

/-- A list in which a property is lost once and for all is the part with it before the part
without. -/
theorem filter_append_filter_not {α : Type} {p : α → Bool} {l : List α}
    (h : l.Pairwise fun a b => p b = true → p a = true) : l.filter p ++ l.filter (!p ·) = l := by
  induction l with
  | nil => rfl
  | cons a l ih =>
    obtain ⟨hfirst, hrest⟩ := List.pairwise_cons.mp h
    cases ha : p a with
    | true => simp [ha, ih hrest]
    | false =>
      have hnone : ∀ b ∈ l, p b = false := by
        intro b hb
        by_contra hpb
        have := hfirst b hb (by simpa using hpb)
        simp [ha] at this
      have hempty : l.filter p = [] := by simpa [List.filter_eq_nil_iff] using hnone
      have hall : l.filter (!p ·) = l := by simpa [List.filter_eq_self] using hnone
      simp [ha, hempty, hall]

theorem linesFor_filter {attached : List (Nat × List String)} {p : Nat × List String → Bool}
    {index : Nat} (h : ∀ lines, p (index, lines) = true) :
    linesFor (attached.filter p) index = linesFor attached index := by
  unfold linesFor
  rw [List.filter_filter]
  congr 1
  refine List.filter_congr ?_
  rintro ⟨i, lines⟩ -
  by_cases hi : i = index
  · simp [hi, h lines]
  · simp [hi]

theorem flatMap_linesFor {attached : List (Nat × List String)} {count : Nat}
    (hordered : attached.Pairwise fun a b => a.1 ≤ b.1) (hbound : ∀ a ∈ attached, a.1 < count) :
    (List.range count).flatMap (linesFor attached) = attached.flatMap (·.2) := by
  induction count generalizing attached with
  | zero =>
    cases attached with
    | nil => rfl
    | cons a rest => exact absurd (hbound a (List.mem_cons_self ..)) (Nat.not_lt_zero _)
  | succ count ih =>
    let early : Nat × List String → Bool := fun a => decide (a.1 < count)
    have hsplit : attached.filter early ++ attached.filter (!early ·) = attached := by
      refine filter_append_filter_not (hordered.imp ?_)
      intro a b hab hb
      simp only [early, decide_eq_true_eq] at hb ⊢
      omega
    have hlast : attached.filter (!early ·) = attached.filter (·.1 == count) := by
      refine List.filter_congr ?_
      intro a ha
      have := hbound a ha
      simp only [early, ← decide_not, Nat.not_lt]
      rw [Bool.eq_iff_iff]
      simp only [decide_eq_true_eq, beq_iff_eq]
      omega
    have hbefore : (List.range count).flatMap (linesFor attached) =
        (attached.filter early).flatMap (·.2) := by
      rw [← ih (hordered.filter _) (by simp [early])]
      refine List.flatMap_congr fun index hindex => ?_
      exact (linesFor_filter fun lines => by simpa [early] using hindex).symm
    calc (List.range (count + 1)).flatMap (linesFor attached)
        = (attached.filter early).flatMap (·.2) ++ linesFor attached count := by
          rw [List.range_succ, List.flatMap_append, hbefore, List.flatMap_singleton]
      _ = (attached.filter early ++ attached.filter (!early ·)).flatMap (·.2) := by
          rw [List.flatMap_append, hlast]
          rfl
      _ = attached.flatMap (·.2) := by rw [hsplit]

-- ---------------------------------------------------------------------------
-- Groups that document a function
-- ---------------------------------------------------------------------------

/-- A group whose block is kept: it lies in no test module, and a function begins below it. -/
def documents (declarations : List Declaration) (ranges : List LineRange) (group : CommentGroup) :
    Bool :=
  !insideTest ranges group && declarations.getLast?.any (group.last < ·.line)

section

variable {declarations : List Declaration} {ranges : List LineRange} {groups : List CommentGroup}

theorem isSome_target? (hordered : declarations.Pairwise fun a b => a.line ≤ b.line)
    (group : CommentGroup) :
    (target? declarations group).isSome = declarations.getLast?.any (group.last < ·.line) := by
  rw [target?, List.findIdx?_isSome]
  induction declarations using List.reverseRecOn with
  | nil => rfl
  | append_singleton front last _ =>
    rw [List.getLast?_concat, Option.any_some, List.any_append, List.any_cons, List.any_nil,
      Bool.or_false, Bool.or_eq_right_iff_imp]
    intro hfront
    obtain ⟨d, hd, hline⟩ := List.any_eq_true.mp hfront
    have hle : d.line ≤ last.line :=
      (List.pairwise_append.mp hordered).2.2 d hd last (by simp)
    simp only [decide_eq_true_eq] at hline ⊢
    omega

theorem target?_le {a b : CommentGroup} (h : a.last ≤ b.last) {i j : Nat}
    (ha : target? declarations a = some i) (hb : target? declarations b = some j) : i ≤ j := by
  obtain ⟨hi, -, hbefore⟩ := List.findIdx?_eq_some_iff_getElem.mp ha
  obtain ⟨hj, hbelow, -⟩ := List.findIdx?_eq_some_iff_getElem.mp hb
  by_contra hlt
  have hnot := hbefore j (by omega)
  simp only [decide_eq_true_eq] at hbelow hnot
  omega

theorem target?_lt {group : CommentGroup} {i : Nat} (h : target? declarations group = some i) :
    i < declarations.length :=
  (List.findIdx?_eq_some_iff_getElem.mp h).1

def attachment? (declarations : List Declaration) (ranges : List LineRange)
    (group : CommentGroup) : Option (Nat × List String) :=
  if (kept group.lines).isEmpty || insideTest ranges group then none
  else (target? declarations group).map fun index => (index, kept group.lines)

theorem attachments_eq : attachments declarations ranges groups =
    groups.filterMap (attachment? declarations ranges) := rfl

theorem attachment?_eq_some_iff {group : CommentGroup} {index : Nat} {lines : List String} :
    attachment? declarations ranges group = some (index, lines) ↔
      insideTest ranges group = false ∧ target? declarations group = some index ∧
        kept group.lines = lines ∧ lines ≠ [] := by
  unfold attachment?
  split
  · rename_i hskip
    simp only [reduceCtorEq, false_iff]
    rintro ⟨hinside, -, rfl, hne⟩
    simp [hinside, hne] at hskip
  · rename_i hkeep
    simp only [Bool.or_eq_true, List.isEmpty_iff, not_or, Bool.not_eq_true] at hkeep
    simp only [Option.map_eq_some_iff, Prod.mk.injEq]
    constructor
    · rintro ⟨i, hi, rfl, rfl⟩
      exact ⟨hkeep.2, hi, rfl, hkeep.1⟩
    · rintro ⟨-, hi, rfl, -⟩
      exact ⟨index, hi, rfl, rfl⟩

theorem attachments_ordered (h : groups.Pairwise fun a b => a.last ≤ b.last) :
    (attachments declarations ranges groups).Pairwise fun a b => a.1 ≤ b.1 := by
  rw [attachments_eq]
  refine h.filterMap _ ?_
  rintro a b hab ⟨i, _⟩ ha ⟨j, _⟩ hb
  exact target?_le hab (attachment?_eq_some_iff.mp ha).2.1 (attachment?_eq_some_iff.mp hb).2.1

theorem attachments_lt : ∀ a ∈ attachments declarations ranges groups,
    a.1 < declarations.length := by
  rintro ⟨i, lines⟩ ha
  obtain ⟨group, -, hgroup⟩ := List.mem_filterMap.mp ha
  exact target?_lt (attachment?_eq_some_iff.mp hgroup).2.1

/-- The lines attached to certain positions are the blocks of the groups whose function stands
there. -/
theorem flatMap_filter_attachments (wanted : Nat → Bool) :
    ((attachments declarations ranges groups).filter (wanted ·.1)).flatMap (·.2) =
      (groups.filter fun group =>
        !insideTest ranges group && (target? declarations group).any wanted).flatMap
          (kept ·.lines) := by
  induction groups with
  | nil => rfl
  | cons group groups ih =>
    rw [attachments_eq] at ih ⊢
    rw [List.filterMap_cons, List.filter_cons, attachment?]
    cases hinside : insideTest ranges group with
    | true => simp [ih]
    | false =>
      cases htarget : target? declarations group with
      | none => simp [ih]
      | some index =>
        -- An empty block is not attached, but neither does it have lines.
        by_cases hempty : kept group.lines = []
        · cases hwanted : wanted index <;> simp [hempty, hwanted, ih]
        · cases hwanted : wanted index <;> simp [hempty, hwanted, ih]

theorem linesFor_attachments (index : Nat) :
    linesFor (attachments declarations ranges groups) index =
      (groups.filter fun group =>
        !insideTest ranges group && (target? declarations group).any (· == index)).flatMap
          (kept ·.lines) :=
  flatMap_filter_attachments (· == index)

theorem flatMap_attachments (hordered : declarations.Pairwise fun a b => a.line ≤ b.line) :
    (attachments declarations ranges groups).flatMap (·.2) =
      (groups.filter (documents declarations ranges)).flatMap (kept ·.lines) := by
  have hall := @flatMap_filter_attachments declarations ranges groups fun _ => true
  have hsame : ∀ group, (!insideTest ranges group &&
      (target? declarations group).any fun _ => true) = documents declarations ranges group := by
    intro group
    rw [documents, ← isSome_target? hordered]
    cases target? declarations group <;> rfl
  rw [List.filter_congr fun group _ => hsame group, List.filter_eq_self.mpr fun _ _ => rfl] at hall
  exact hall

end

-- ---------------------------------------------------------------------------
-- The first line of a block
-- ---------------------------------------------------------------------------

theorem opensDirective_of_kept {lines : List String} {first : String} {rest : List String}
    (h : kept lines = first :: rest) : Directive.opensDirective first = true := by
  unfold kept at h
  induction lines with
  | nil => cases h
  | cons line lines ih =>
    rw [keptFrom] at h
    split at h
    · cases h
      assumption
    · exact ih h

theorem opensDirective_of_flatMap {groups : List CommentGroup} {first : String}
    {rest : List String} (h : groups.flatMap (kept ·.lines) = first :: rest) :
    Directive.opensDirective first = true := by
  induction groups with
  | nil => cases h
  | cons group groups ih =>
    rw [List.flatMap_cons] at h
    cases hkept : kept group.lines with
    | nil =>
      rw [hkept] at h
      exact ih h
    | cons line lines =>
      rw [hkept, List.cons_append] at h
      cases h
      exact opensDirective_of_kept hkept

-- ---------------------------------------------------------------------------
-- Whole files
-- ---------------------------------------------------------------------------

theorem declarations_ordered (file : SourceFile) :
    (Declaration.ofFile file).Pairwise fun a b => a.line ≤ b.line := by
  have htrans : ∀ a b c : Declaration, decide (a.line ≤ b.line) = true →
      decide (b.line ≤ c.line) = true → decide (a.line ≤ c.line) = true := by
    intro a b c
    simp only [decide_eq_true_eq]
    omega
  have htotal : ∀ a b : Declaration,
      (decide (a.line ≤ b.line) || decide (b.line ≤ a.line)) = true := by
    intro a b
    simp only [Bool.or_eq_true, decide_eq_true_eq]
    omega
  have hsorted := List.pairwise_mergeSort htrans htotal (Declaration.ofItems none file.items)
  exact hsorted.imp fun hab => of_decide_eq_true hab

def documented (declarations : List Declaration) (attached : List (Nat × List String)) :
    List (Declaration × Nat) :=
  declarations.zipIdx.filter fun placed => !(linesFor attached placed.2).isEmpty

theorem merge_eq_map (declarations : List Declaration) (attached : List (Nat × List String)) :
    merge declarations attached =
      (documented declarations attached).map fun placed => ⟨placed.1, linesFor attached placed.2⟩ := by
  unfold merge documented
  induction declarations.zipIdx with
  | nil => rfl
  | cons placed rest ih =>
    rw [List.filterMap_cons, List.filter_cons, ih]
    by_cases hempty : linesFor attached placed.2 = [] <;> simp [hempty]

theorem flatMap_merge (declarations : List Declaration) (attached : List (Nat × List String)) :
    (merge declarations attached).flatMap (·.lines) =
      (List.range declarations.length).flatMap (linesFor attached) := by
  have hpositions : declarations.zipIdx.map (·.2) = List.range declarations.length := by
    rw [List.range_eq_range']
    exact List.zipIdx_map_snd 0 declarations
  rw [← hpositions, List.flatMap_map, merge]
  induction declarations.zipIdx with
  | nil => rfl
  | cons placed rest ih =>
    rw [List.filterMap_cons, List.flatMap_cons, ← ih]
    by_cases hempty : linesFor attached placed.2 = [] <;> simp [hempty]

theorem flatMap_lines_ofFile {path text : String} {file : SourceFile}
    (h : SourceFile.parse? path text = some file) :
    (ofFile file).flatMap (·.lines) =
      ((Comment.groups file.comments).filter (documents (Declaration.ofFile file)
        (Declaration.testRangesIn file.items))).flatMap (kept ·.lines) := by
  let attached := attachments (Declaration.ofFile file) (Declaration.testRangesIn file.items)
    (Comment.groups file.comments)
  calc (ofFile file).flatMap (·.lines)
      = (List.range (Declaration.ofFile file).length).flatMap (linesFor attached) :=
        flatMap_merge _ attached
    _ = attached.flatMap (·.2) :=
        flatMap_linesFor (attachments_ordered (SourceFile.groups_ordered h)) attachments_lt
    _ = _ := flatMap_attachments (declarations_ordered file)

/-- In a parsed file, the lines of the output are those of the groups that document a function, in
file order. Each such group stands under the first function that begins below it, functions come in
their order and at most once, and a block begins with a directive. -/
theorem ofFile_attachment {path text : String} {file : SourceFile}
    (h : SourceFile.parse? path text = some file) :
    let declarations := Declaration.ofFile file
    let groups := (Comment.groups file.comments).filter
      (documents declarations (Declaration.testRangesIn file.items))
    let below (group : CommentGroup) := declarations.findIdx? fun d => group.last < d.line
    (ofFile file).flatMap (·.lines) = groups.flatMap (kept ·.lines) ∧
    (∃ placed : List (Declaration × Nat), placed.Sublist declarations.zipIdx ∧
      (ofFile file = placed.map fun d =>
        ⟨d.1, (groups.filter (below · == some d.2)).flatMap (kept ·.lines)⟩) ∧
      ∀ group ∈ groups, kept group.lines ≠ [] → ∃ d ∈ placed, below group = some d.2) ∧
    ∀ entry ∈ ofFile file, ∃ first rest, entry.lines = first :: rest ∧
      first.toList.head? = some '@' := by
  intro declarations groups below
  let attached := attachments declarations (Declaration.testRangesIn file.items)
    (Comment.groups file.comments)
  have hordered : declarations.Pairwise fun a b => a.line ≤ b.line := declarations_ordered file
  have hlines : ∀ i, linesFor attached i =
      (groups.filter (below · == some i)).flatMap (kept ·.lines) := by
    intro i
    rw [linesFor_attachments, List.filter_filter]
    congr 1
    refine List.filter_congr fun group _ => ?_
    have htarget : below group = target? declarations group := rfl
    rw [documents, ← isSome_target? hordered, htarget]
    cases target? declarations group <;> simp [Bool.and_comm]
  have hmerge : ofFile file = (documented declarations attached).map fun d =>
      ⟨d.1, (groups.filter (below · == some d.2)).flatMap (kept ·.lines)⟩ := by
    simp only [← hlines]
    exact merge_eq_map declarations attached
  refine ⟨flatMap_lines_ofFile h, ?_, ?_⟩
  · refine ⟨documented declarations attached, List.filter_sublist, hmerge, ?_⟩
    intro group hgroup hblock
    have hdoc := (List.mem_filter.mp hgroup).2
    rw [documents, ← isSome_target? hordered, Bool.and_eq_true, Option.isSome_iff_exists] at hdoc
    obtain ⟨-, i, hi⟩ := hdoc
    have hlt : i < declarations.length := target?_lt hi
    refine ⟨(declarations[i], i), ?_, hi⟩
    refine List.mem_filter.mpr ⟨List.mk_mem_zipIdx_iff_getElem?.mpr (List.getElem?_eq_getElem _), ?_⟩
    rw [hlines]
    have hmem : group ∈ groups.filter (below · == some i) :=
      List.mem_filter.mpr ⟨hgroup, beq_iff_eq.mpr hi⟩
    have hne : (groups.filter (below · == some i)).flatMap (kept ·.lines) ≠ [] := by
      intro hempty
      exact hblock (List.flatMap_eq_nil_iff.mp hempty group hmem)
    simpa using hne
  · intro entry hentry
    rw [hmerge] at hentry
    obtain ⟨d, hd, rfl⟩ := List.mem_map.mp hentry
    have hne := (List.mem_filter.mp hd).2
    rw [hlines] at hne
    cases hblock : (groups.filter (below · == some d.2)).flatMap (kept ·.lines) with
    | nil =>
      rw [hblock] at hne
      cases hne
    | cons first rest =>
      exact ⟨first, rest, rfl, by
        simpa [Directive.opensDirective] using opensDirective_of_flatMap hblock⟩

theorem ofFile_of_ordered {file : SourceFile} {declarations : List Declaration}
    (h : Declaration.ofItems none file.items = declarations)
    (hordered : declarations.Pairwise fun a b => decide (a.line ≤ b.line) = true) :
    Declaration.ofFile file = declarations := by
  rw [Declaration.ofFile, h]
  exact List.mergeSort_of_pairwise hordered

/-- Two groups above one function are joined, one in its body goes to the next function, and one
after the last function is dropped. -/
theorem ofFile_attachment_joined :
    ∃ file, SourceFile.parse? "a.rs"
        ("// @WebSocket A\n// @URL /a\n\n// @Tags x\nfn a() \x7b\n    // @Group g\n\x7d\n" ++
          "fn b() \x7b\x7d\n// @Tags y\n") = some file ∧
      (ofFile file).flatMap (·.lines) = ["@WebSocket A", "@URL /a", "@Tags x", "@Group g"] := by
  have hread : (SourceFile.parse? "a.rs"
      ("// @WebSocket A\n// @URL /a\n\n// @Tags x\nfn a() \x7b\n    // @Group g\n\x7d\n" ++
        "fn b() \x7b\x7d\n// @Tags y\n")).map (fun file =>
        (Declaration.ofItems none file.items, Declaration.testRangesIn file.items,
          Comment.groups file.comments)) =
      some ([⟨"a", 5⟩, ⟨"b", 8⟩], [],
        [⟨1, 2, ["@WebSocket A", "@URL /a"]⟩, ⟨4, 4, ["@Tags x"]⟩, ⟨6, 6, ["@Group g"]⟩,
          ⟨9, 9, ["@Tags y"]⟩]) := by
    decide +kernel
  obtain ⟨file, hfile, heq⟩ := Option.map_eq_some_iff.mp hread
  simp only [Prod.mk.injEq] at heq
  obtain ⟨hitems, hranges, hgroups⟩ := heq
  refine ⟨file, hfile, (ofFile_attachment hfile).1.trans ?_⟩
  rw [ofFile_of_ordered hitems (by decide), hranges, hgroups]
  decide +kernel

end SocketDocs.DocBlock
