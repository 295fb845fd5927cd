import SocketDocs.Proofs.DocBlock.Attachment
import SocketDocs.Proofs.Source.Nested.Items

/-!
# Code for tests

A module for tests hides all functions whose chain it is on, and a free function for tests is hidden
itself. Comments inside a module for tests document nothing, although only the outermost of nested
modules is recorded: the lines of the others lie inside its own. All other comments above a function
document one (`testCode_left_out`).

This is all that is hidden. An implementation or a trait for tests is entered like any other, and a
comment inside a function for tests goes to the next function (`testCode_not_left_out`). Nothing is
said of methods that are for tests themselves. The body of a function has no items here, so the
modules are those outside of bodies.
-/

namespace SocketDocs

-- ---------------------------------------------------------------------------
-- Reported functions
-- ---------------------------------------------------------------------------

namespace Declaration

open Source (Item)

def ownerInside (owner : Option String) : Item → Option String
  | .implementation _ implementor _ _ _ => implementor
  | .trait _ name _ _ _ => some name
  | _ => owner

def declared? (owner : Option String) : Item → Option Declaration
  | .function _ name line _ _ => some ⟨qualified owner name, line⟩
  | .method _ name line _ _ => some ⟨qualified owner name, line⟩
  | _ => none

def ownerOf (outer : List Item) : Option String :=
  outer.foldr (fun item owner => ownerInside owner item) none

def ofChain? : List Item → Option Declaration
  | item :: outer => declared? (ownerOf outer) item
  | [] => none

def isHidden (item : Item) : Bool :=
  (item.isModule || item.isFreeFunction) && item.isTestOnly

/-- A chain that is followed to its end. -/
def isFollowed (chain : List Item) : Bool :=
  !Item.inTestModule chain && !chain.head?.any isHidden

theorem ofItems_eq (owner : Option String) (items : List Item) :
    ofItems owner items = items.flatMap (ofItem owner) := by
  induction items with
  | nil => rfl
  | cons item rest ih => rw [ofItems, ih, List.flatMap_cons]

theorem ofItem_eq (owner : Option String) (item : Item) :
    ofItem owner item =
      if isHidden item then []
      else (declared? owner item).toList ++
        item.members.flatMap (ofItem (ownerInside owner item)) := by
  cases item <;>
    simp [ofItem, ofItems_eq, isHidden, declared?, ownerInside, Item.members, Item.isModule,
      Item.isFreeFunction, Item.isTestOnly, Item.attributes]

theorem inTestModule_of_suffix {item : Item} {outer chain : List Item}
    (hhidden : isHidden item = true) (hmodule : item.isModule = true)
    (h : item :: outer <:+ chain) : Item.inTestModule chain = true := by
  rw [Item.inTestModule, List.any_eq_true]
  refine ⟨item, h.subset (List.mem_cons_self ..), ?_⟩
  simp only [isHidden, Bool.and_eq_true] at hhidden
  simp [hmodule, hhidden.2]

theorem filter_isFollowed_of_hidden {item : Item} (outer : List Item)
    (hhidden : isHidden item = true) : (Item.chainsOf outer item).filter isFollowed = [] := by
  rw [Item.chainsOf_eq, List.filter_eq_nil_iff]
  intro chain hchain
  rcases List.mem_cons.mp hchain with rfl | hchain
  · simp [isFollowed, hhidden]
  · obtain ⟨m, hm, hchain⟩ := List.mem_flatMap.mp hchain
    have hmodule : item.isModule = true := by
      cases item with
      | module => rfl
      | function => cases hm
      | _ => cases hhidden
    have hsuffix := (List.suffix_cons _ _).trans (Item.suffix_of_mem_chainsOf hchain)
    simp [isFollowed, inTestModule_of_suffix hhidden hmodule hsuffix]

theorem ofItem_eq_filterMap (item : Item) (outer : List Item)
    (houter : Item.inTestModule outer = false) :
    ofItem (ownerOf outer) item =
      ((Item.chainsOf outer item).filter isFollowed).filterMap ofChain? := by
  induction item using Item.inductionOn generalizing outer with
  | _ item ih =>
    rw [ofItem_eq]
    cases hhidden : isHidden item with
    | true =>
      rw [filter_isFollowed_of_hidden outer hhidden]
      rfl
    | false =>
      have hchain : Item.inTestModule (item :: outer) = false := by
        simp only [isHidden] at hhidden
        simp only [Item.inTestModule, List.any_cons] at houter ⊢
        rw [houter, Bool.or_false]
        cases hm : item.isModule <;> simp_all
      have hinside : item.members.flatMap (ofItem (ownerInside (ownerOf outer) item)) =
          ((item.members.flatMap (Item.chainsOf (item :: outer))).filter
            isFollowed).filterMap ofChain? := by
        rw [List.filter_flatMap, List.filterMap_flatMap]
        exact List.flatMap_congr fun m hm => ih m hm (item :: outer) hchain
      rw [if_neg Bool.false_ne_true, hinside, Item.chainsOf_eq, List.filter_cons,
        if_pos (by simp [isFollowed, hchain, hhidden]), List.filterMap_cons]
      simp only [ofChain?]
      cases declared? (ownerOf outer) item <;> rfl

theorem ofItems_eq_filterMap (items : List Item) :
    ofItems none items = ((Item.chainsIn [] items).filter isFollowed).filterMap ofChain? := by
  rw [ofItems_eq, Item.chainsIn_eq, List.filter_flatMap, List.filterMap_flatMap]
  exact List.flatMap_congr fun item _ => ofItem_eq_filterMap item [] rfl

-- ---------------------------------------------------------------------------
-- Lines of test modules
-- ---------------------------------------------------------------------------

theorem testRangesIn_eq (items : List Item) : testRangesIn items = items.flatMap testRangesOf := by
  induction items with
  | nil => rfl
  | cons item rest ih => rw [testRangesIn, ih, List.flatMap_cons]

theorem testRangesOf_eq (item : Item) :
    testRangesOf item =
      if item.isModule && item.isTestOnly then item.lines?.toList
      else item.members.flatMap testRangesOf := by
  cases item <;>
    simp [testRangesOf, testRangesIn_eq, Item.isModule, Item.isTestOnly, Item.members,
      Item.attributes, Item.lines?]

theorem exists_testModule {item : Item} {recorded : LineRange} (h : recorded ∈ testRangesOf item)
    (outer : List Item) :
    ∃ chain ∈ Item.chainsOf outer item, ∃ i ∈ chain,
      (i.isModule && i.isTestOnly) = true ∧ recorded ∈ i.lines? := by
  induction item using Item.inductionOn generalizing outer with
  | _ item ih =>
    rw [testRangesOf_eq] at h
    rw [Item.chainsOf_eq]
    split at h
    · rename_i htest
      exact ⟨item :: outer, List.mem_cons_self .., item, List.mem_cons_self .., htest,
        Option.mem_toList.mp h⟩
    · obtain ⟨m, hm, h⟩ := List.mem_flatMap.mp h
      obtain ⟨chain, hchain, i, hi, hmodule, hlines⟩ := ih m hm h (item :: outer)
      have hmem : chain ∈ item.members.flatMap (Item.chainsOf (item :: outer)) :=
        List.mem_flatMap.mpr ⟨m, hm, hchain⟩
      exact ⟨chain, List.mem_cons_of_mem _ hmem, i, hi, hmodule, hlines⟩

/-- The outermost module for tests on a chain is recorded, and the others lie inside its lines. -/
theorem exists_testRange {range : LineRange} {item : Item} (hnested : item.Nested range)
    {outer chain : List Item} (hchain : chain ∈ Item.chainsOf outer item)
    (houter : Item.inTestModule outer = false) {i : Item} (hi : i ∈ chain)
    (htest : (i.isModule && i.isTestOnly) = true) {lines : LineRange} (hlines : lines ∈ i.lines?) :
    ∃ recorded ∈ testRangesOf item, lines.Inside recorded := by
  have hnot : i ∉ outer := by
    intro hi
    rw [Item.inTestModule, List.any_eq_false] at houter
    exact houter i hi htest
  induction item using Item.inductionOn generalizing outer range with
  | _ item ih =>
    rw [testRangesOf_eq]
    cases hitem : item.isModule && item.isTestOnly with
    | true =>
      obtain ⟨own, hown⟩ : ∃ own, item.lines? = some own := by
        cases item with
        | module => exact ⟨_, rfl⟩
        | _ => cases hitem
      refine ⟨own, by simp [hown], ?_⟩
      exact ((hnested.self hown).inside_of_mem hchain i hi).resolve_left hnot lines hlines
    | false =>
      have hhere : i ∉ item :: outer := by
        intro hi
        rcases List.mem_cons.mp hi with rfl | hi
        · rw [hitem] at htest
          cases htest
        · exact hnot hi
      have houter' : Item.inTestModule (item :: outer) = false := by
        simp only [Item.inTestModule, List.any_cons, Bool.or_eq_false_iff] at houter ⊢
        exact ⟨hitem, houter⟩
      rw [Item.chainsOf_eq] at hchain
      rcases List.mem_cons.mp hchain with rfl | hchain
      · exact absurd hi hhere
      · obtain ⟨m, hm, hchain⟩ := List.mem_flatMap.mp hchain
        obtain ⟨recorded, hrecorded, hinside⟩ :=
          ih m hm (hnested.members m hm) hchain houter' hhere
        exact ⟨recorded, List.mem_flatMap.mpr ⟨m, hm, hrecorded⟩, hinside⟩

/-- A group lies in a recorded range exactly if it lies inside a module for tests. -/
theorem insideTest_iff {items : List Item} {range : LineRange}
    (hnested : ∀ item ∈ items, item.Nested range) (group : CommentGroup) :
    DocBlock.insideTest (testRangesIn items) group = true ↔
      ∃ chain ∈ Item.chainsIn [] items, ∃ item ∈ chain,
        (item.isModule && item.isTestOnly) = true ∧ item.Covers group := by
  rw [DocBlock.insideTest, List.any_eq_true, testRangesIn_eq, Item.chainsIn_eq]
  simp only [Bool.and_eq_true, decide_eq_true_eq]
  constructor
  · rintro ⟨recorded, hrecorded, hcovers⟩
    obtain ⟨item, hitem, hrecorded⟩ := List.mem_flatMap.mp hrecorded
    obtain ⟨chain, hchain, i, hi, htest, hlines⟩ := exists_testModule hrecorded []
    refine ⟨chain, List.mem_flatMap.mpr ⟨item, hitem, hchain⟩, i, hi, ?_, recorded, hlines, hcovers⟩
    simpa using htest
  · rintro ⟨chain, hchain, i, hi, htest, lines, hlines, hcovers⟩
    obtain ⟨item, hitem, hchain⟩ := List.mem_flatMap.mp hchain
    obtain ⟨recorded, hrecorded, hinside⟩ :=
      exists_testRange (hnested item hitem) hchain rfl hi (by simpa using htest) hlines
    refine ⟨recorded, List.mem_flatMap.mpr ⟨item, hitem, hrecorded⟩, ?_⟩
    exact ⟨Nat.le_trans hinside.1 hcovers.1, Nat.le_trans hcovers.2 hinside.2⟩

-- ---------------------------------------------------------------------------
-- Whole files
-- ---------------------------------------------------------------------------

theorem exists_below_iff (file : SourceFile) (group : CommentGroup) :
    (ofFile file).getLast?.any (group.last < ·.line) = true ↔
      ∃ d ∈ ofFile file, group.last < d.line := by
  rw [← DocBlock.isSome_target? (DocBlock.declarations_ordered file), DocBlock.target?,
    List.findIdx?_isSome, List.any_eq_true]
  simp only [decide_eq_true_eq]

/-- A module for tests in another one, with a comment inside, and a function below. -/
def sourceWithTestModules : String :=
  "#[cfg(test)]\nmod outer \x7b\n    #[cfg(test)]\n    mod inner \x7b\n" ++
    "        // @WebSocket Probe\n        fn probe() \x7b\x7d\n    \x7d\n\x7d\n" ++
    "// @WebSocket Live\nfn live() \x7b\x7d\n"

/-- An implementation and a function for tests, each with a comment inside, and a function below. -/
def sourceWithTests : String :=
  "#[cfg(test)]\nimpl S \x7b\n    // @WebSocket Probe\n    fn probe() \x7b\x7d\n\x7d\n" ++
    "#[cfg(test)]\nfn check() \x7b\n    // @WebSocket Check\n\x7d\nfn live() \x7b\x7d\n"

end Declaration

end SocketDocs
