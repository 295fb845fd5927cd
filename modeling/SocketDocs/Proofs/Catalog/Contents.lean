import SocketDocs.Proofs.Catalog.Lookup
import SocketDocs.Proofs.Declaration.TestCode

/-!
# What the catalog holds

The structs of a file are those that stand in it or in its inline modules, one in another to any
depth, each with the modules around it. The catalog is made of those that are not for tests and
stand in no module for tests, each packaged by the innermost module around it
(`Record.ofItem_eq_map`). So the records stay the same when all structs and modules for tests are
deleted (`Record.ofItems_withoutTests`), and with them all lookups (`Catalog.lookups_ofFiles`).
-/

namespace SocketDocs

open Source (Item)

-- ---------------------------------------------------------------------------
-- Structs in inline modules
-- ---------------------------------------------------------------------------

structure Source.ModuleHead where
  attributes : List Attribute
  name : String

/-- A struct of a file with the inline modules around it, the innermost first. -/
structure PlacedStruct where
  file : SourceFile
  modules : List Source.ModuleHead
  declaration : Source.Struct

namespace PlacedStruct

mutual
def ofItem (file : SourceFile) (outer : List Source.ModuleHead) : Item → List PlacedStruct
  | .struct declaration _ => [⟨file, outer, declaration⟩]
  | .module attributes name _ _ _ inside => ofItems file (⟨attributes, name⟩ :: outer) inside
  | .function _ _ _ _ _ => []
  | .method _ _ _ _ _ => []
  | .implementation _ _ _ _ _ => []
  | .trait _ _ _ _ _ => []
  | .other _ => []

def ofItems (file : SourceFile) (outer : List Source.ModuleHead) : List Item → List PlacedStruct
  | [] => []
  | item :: rest => ofItem file outer item ++ ofItems file outer rest
end

def ofFile (file : SourceFile) : List PlacedStruct :=
  ofItems file [] file.items

def isLive (placed : PlacedStruct) : Bool :=
  !Source.isTestOnly placed.declaration.attributes &&
    placed.modules.all fun head => !Source.isTestOnly head.attributes

def name (placed : PlacedStruct) : String :=
  Source.unraw placed.declaration.name

def packageIn (file : SourceFile) (outer : List Source.ModuleHead) : String :=
  match outer with
  | [] => SourceFile.moduleName file.path
  | innermost :: _ => Source.unraw innermost.name

def package (placed : PlacedStruct) : String :=
  packageIn placed.file placed.modules

def record (placed : PlacedStruct) : Record :=
  Record.ofStruct placed.file.comments placed.package placed.declaration

theorem keys_record (placed : PlacedStruct) :
    placed.record.keys = [placed.name, placed.package ++ "." ++ placed.name] := rfl

theorem ofItems_eq (file : SourceFile) (outer : List Source.ModuleHead) (items : List Item) :
    ofItems file outer items = items.flatMap (ofItem file outer) := by
  induction items with
  | nil => rfl
  | cons item rest ih => rw [ofItems, ih, List.flatMap_cons]

theorem suffix_of_mem_ofItem {file : SourceFile} {outer : List Source.ModuleHead} {item : Item}
    {placed : PlacedStruct} (h : placed ∈ ofItem file outer item) : outer <:+ placed.modules := by
  induction item using Item.inductionOn generalizing outer with
  | _ item ih =>
    cases item with
    | struct declaration nested =>
      rw [ofItem, List.mem_singleton] at h
      subst h
      exact List.suffix_refl _
    | module attributes name first last outside inside =>
      rw [ofItem, ofItems_eq] at h
      obtain ⟨m, hm, h⟩ := List.mem_flatMap.mp h
      exact (List.suffix_cons _ _).trans (ih m (List.mem_append_right _ hm) h)
    | _ => simp [ofItem] at h

theorem filter_isLive_of_test {file : SourceFile} {outer : List Source.ModuleHead}
    {head : Source.ModuleHead} (h : Source.isTestOnly head.attributes = true) (items : List Item) :
    (ofItems file (head :: outer) items).filter isLive = [] := by
  rw [List.filter_eq_nil_iff, ofItems_eq]
  intro placed hmem hlive
  obtain ⟨item, -, hmem⟩ := List.mem_flatMap.mp hmem
  have hhead : head ∈ placed.modules :=
    (suffix_of_mem_ofItem hmem).subset (List.mem_cons_self ..)
  simp only [isLive, Bool.and_eq_true, List.all_eq_true] at hlive
  simpa [h] using hlive.2 head hhead

end PlacedStruct

-- ---------------------------------------------------------------------------
-- Records of structs
-- ---------------------------------------------------------------------------

namespace Record

theorem ofItems_eq (comments : List Comment) (package : String) (items : List Item) :
    ofItems comments package items = items.flatMap (ofItem comments package) := by
  induction items with
  | nil => rfl
  | cons item rest ih => rw [ofItems, ih, List.flatMap_cons]

/-- The records of an item are those of its live structs. -/
theorem ofItem_eq_map (file : SourceFile) (item : Item) (outer : List Source.ModuleHead)
    (houter : ∀ head ∈ outer, Source.isTestOnly head.attributes = false) :
    ofItem file.comments (PlacedStruct.packageIn file outer) item =
      ((PlacedStruct.ofItem file outer item).filter PlacedStruct.isLive).map
        PlacedStruct.record := by
  induction item using Item.inductionOn generalizing outer with
  | _ item ih =>
    cases item with
    | struct declaration nested =>
      have hmodules : (outer.all fun head => !Source.isTestOnly head.attributes) = true := by
        simpa using houter
      rw [ofItem, PlacedStruct.ofItem]
      cases htest : Source.isTestOnly declaration.attributes with
      | true => simp [PlacedStruct.isLive, htest]
      | false =>
        simp [PlacedStruct.isLive, htest, hmodules, PlacedStruct.record, PlacedStruct.package]
    | module attributes name first last outside inside =>
      rw [ofItem, PlacedStruct.ofItem]
      cases htest : Source.isTestOnly attributes with
      | true =>
        rw [if_pos rfl, PlacedStruct.filter_isLive_of_test htest]
        rfl
      | false =>
        rw [if_neg Bool.false_ne_true, ofItems_eq, PlacedStruct.ofItems_eq, List.filter_flatMap,
          List.map_flatMap]
        refine List.flatMap_congr fun m hm => ?_
        exact ih m (List.mem_append_right _ hm) (⟨attributes, name⟩ :: outer)
          (List.forall_mem_cons.mpr ⟨htest, houter⟩)
    | _ => rfl

theorem ofFile_eq_map (file : SourceFile) :
    ofFile file = ((PlacedStruct.ofFile file).filter PlacedStruct.isLive).map
      PlacedStruct.record := by
  rw [ofFile, PlacedStruct.ofFile, ofItems_eq, PlacedStruct.ofItems_eq, List.filter_flatMap,
    List.map_flatMap]
  exact List.flatMap_congr fun item _ => ofItem_eq_map file item [] (by simp)

theorem ofFiles_eq_map (files : List SourceFile) :
    files.flatMap ofFile =
      ((files.flatMap PlacedStruct.ofFile).filter PlacedStruct.isLive).map PlacedStruct.record := by
  rw [List.filter_flatMap, List.map_flatMap]
  exact List.flatMap_congr fun file _ => ofFile_eq_map file

end Record

-- ---------------------------------------------------------------------------
-- Sources without their tests
-- ---------------------------------------------------------------------------

namespace Source.Item

def isStruct : Item → Bool
  | .struct _ _ => true
  | _ => false

mutual
/-- An item without the structs and inline modules for tests in it; nothing if it is one of them. -/
def withoutTests : Item → List Item
  | .struct declaration nested =>
    if Source.isTestOnly declaration.attributes then []
    else [.struct declaration (withoutTestsIn nested)]
  | .module attributes name first last outside inside =>
    if Source.isTestOnly attributes then []
    else [.module attributes name first last (withoutTestsIn outside) (withoutTestsIn inside)]
  | .implementation attributes owner first last members =>
    [.implementation attributes owner first last (withoutTestsIn members)]
  | .trait attributes name first last members =>
    [.trait attributes name first last (withoutTestsIn members)]
  | .other nested => [.other (withoutTestsIn nested)]
  | .function attributes name line first last => [.function attributes name line first last]
  | .method attributes name line first last => [.method attributes name line first last]

def withoutTestsIn : List Item → List Item
  | [] => []
  | item :: rest => withoutTests item ++ withoutTestsIn rest
end

theorem withoutTestsIn_eq (items : List Item) :
    withoutTestsIn items = items.flatMap withoutTests := by
  induction items with
  | nil => rfl
  | cons item rest ih => rw [withoutTestsIn, ih, List.flatMap_cons]

def NoTests (chain : List Item) : Prop :=
  ∀ item ∈ chain, item.isTestOnly = true → item.isModule = false ∧ item.isStruct = false

theorem of_mem_withoutTests {item kept : Item} (h : kept ∈ withoutTests item) :
    (kept.isTestOnly = true → kept.isModule = false ∧ kept.isStruct = false) ∧
      kept.members = item.members.flatMap withoutTests := by
  cases item with
  | struct declaration nested =>
    rw [withoutTests] at h
    cases htest : Source.isTestOnly declaration.attributes with
    | true => simp [htest] at h
    | false =>
      rw [htest, if_neg Bool.false_ne_true, List.mem_singleton] at h
      subst h
      exact ⟨fun hkept => absurd (htest.symm.trans hkept) (by decide), withoutTestsIn_eq nested⟩
  | module attributes name first last outside inside =>
    rw [withoutTests] at h
    cases htest : Source.isTestOnly attributes with
    | true => simp [htest] at h
    | false =>
      rw [htest, if_neg Bool.false_ne_true, List.mem_singleton] at h
      subst h
      refine ⟨fun hkept => absurd (htest.symm.trans hkept) (by decide), ?_⟩
      simp only [members, withoutTestsIn_eq, List.flatMap_append]
  | _ =>
    rw [withoutTests, List.mem_singleton] at h
    subst h
    simp [isModule, isStruct, members, withoutTestsIn_eq]

theorem noTests_of_mem_withoutTests {outer chain : List Item} {item kept : Item}
    (hkept : kept ∈ withoutTests item) (hchain : chain ∈ chainsOf outer kept)
    (houter : NoTests outer) : NoTests chain := by
  induction item using inductionOn generalizing outer kept with
  | _ item ih =>
    obtain ⟨hhere, hmembers⟩ := of_mem_withoutTests hkept
    have hextended : NoTests (kept :: outer) := List.forall_mem_cons.mpr ⟨hhere, houter⟩
    rw [chainsOf_eq] at hchain
    rcases List.mem_cons.mp hchain with rfl | hchain
    · exact hextended
    · obtain ⟨m, hm, hchain⟩ := List.mem_flatMap.mp hchain
      rw [hmembers] at hm
      obtain ⟨original, horiginal, hm⟩ := List.mem_flatMap.mp hm
      exact ih original horiginal hm hchain hextended

end Source.Item

namespace SourceFile

def withoutTests (file : SourceFile) : SourceFile :=
  { file with items := Item.withoutTestsIn file.items }

theorem noTests_withoutTests (file : SourceFile) :
    ∀ chain ∈ Item.chainsIn [] file.withoutTests.items, Item.NoTests chain := by
  intro chain hchain
  rw [withoutTests, Item.chainsIn_eq, Item.withoutTestsIn_eq] at hchain
  obtain ⟨kept, hkept, hchain⟩ := List.mem_flatMap.mp hchain
  obtain ⟨item, -, hkept⟩ := List.mem_flatMap.mp hkept
  exact Item.noTests_of_mem_withoutTests hkept hchain (by simp [Item.NoTests])

end SourceFile

namespace Record

theorem ofItems_withoutTests (comments : List Comment) (package : String) (item : Item) :
    ofItems comments package (Item.withoutTests item) = ofItem comments package item := by
  induction item using Item.inductionOn generalizing package with
  | _ item ih =>
    cases item with
    | struct declaration nested =>
      rw [Item.withoutTests, ofItem]
      cases htest : Source.isTestOnly declaration.attributes <;> simp [htest, ofItems, ofItem]
    | module attributes name first last outside inside =>
      rw [Item.withoutTests, ofItem]
      cases htest : Source.isTestOnly attributes with
      | true => rfl
      | false =>
        have hinside : ofItems comments (Source.unraw name) (Item.withoutTestsIn inside) =
            ofItems comments (Source.unraw name) inside := by
          rw [Item.withoutTestsIn_eq, ofItems_eq, ofItems_eq, List.flatMap_assoc]
          refine List.flatMap_congr fun m hm => ?_
          rw [← ofItems_eq]
          exact ih m (List.mem_append_right _ hm) (Source.unraw name)
        simp [ofItems, ofItem, htest, hinside]
    | _ => simp [Item.withoutTests, ofItems, ofItem]

theorem ofFile_withoutTests (file : SourceFile) : ofFile file.withoutTests = ofFile file := by
  rw [ofFile, ofFile, SourceFile.withoutTests, Item.withoutTestsIn_eq, ofItems_eq, ofItems_eq,
    List.flatMap_assoc]
  refine List.flatMap_congr fun item _ => ?_
  rw [← ofItems_eq]
  exact ofItems_withoutTests file.comments _ item

end Record

-- ---------------------------------------------------------------------------
-- Lookups
-- ---------------------------------------------------------------------------

namespace Catalog

theorem ofFiles_withoutTests (files : List SourceFile) :
    ofFiles (files.map SourceFile.withoutTests) = ofFiles files := by
  rw [ofFiles, ofFiles, List.flatMap_map]
  simp only [Record.ofFile_withoutTests]

theorem findRev?_map_record (structs : List PlacedStruct) (key : String) :
    ((structs.filter PlacedStruct.isLive).map PlacedStruct.record).findRev? (key ∈ ·.keys) =
      (structs.findRev? fun s =>
        s.isLive && (key == s.name || key == s.package ++ "." ++ s.name)).map
          PlacedStruct.record := by
  rw [List.findRev?_eq_find?_reverse, List.findRev?_eq_find?_reverse, ← List.map_reverse,
    List.find?_map, ← List.filter_reverse, List.find?_filter]
  congr 2
  funext s
  cases s.isLive <;> simp [PlacedStruct.keys_record, beq_eq_decide]

/-- A key stands for the last struct, in the order of files and sources, that is not for tests,
stands in no module for tests and has that name or that name after its package, and for nothing if
there is none. Without the structs and modules for tests, all keys and lookups are the same. -/
theorem lookups_ofFiles (files : List SourceFile) :
    let catalog := ofFiles files
    let structs := files.flatMap PlacedStruct.ofFile
    let pruned := files.map SourceFile.withoutTests
    (∀ key,
      catalog.get? key =
        (structs.findRev? fun s =>
          s.isLive && (key == s.name || key == s.package ++ "." ++ s.name)).map (·.record) ∧
      (catalog.get? key = none ↔
        ∀ s ∈ structs, s.isLive = true → key ≠ s.name ∧ key ≠ s.package ++ "." ++ s.name)) ∧
    (∀ file ∈ pruned, ∀ chain ∈ Item.chainsIn [] file.items, Item.NoTests chain) ∧
    (ofFiles pruned).keys = catalog.keys ∧
    (∀ key, (ofFiles pruned).get? key = catalog.get? key) ∧
    ∀ reference, (ofFiles pruned).resolve? reference = catalog.resolve? reference := by
  intro catalog structs pruned
  have hget : ∀ key, catalog.get? key =
      (structs.findRev? fun s =>
        s.isLive && (key == s.name || key == s.package ++ "." ++ s.name)).map (·.record) := by
    intro key
    rw [← findRev?_map_record, ← Record.ofFiles_eq_map]
    exact get?_ofRecords _ key
  have hsame : ofFiles pruned = catalog := ofFiles_withoutTests files
  refine ⟨fun key => ⟨hget key, ?_⟩, ?_, ?_, ?_, ?_⟩
  · rw [hget, Option.map_eq_none_iff, List.findRev?_eq_find?_reverse, List.find?_eq_none]
    simp
  · intro file hfile
    obtain ⟨original, -, rfl⟩ := List.mem_map.mp hfile
    exact original.noTests_withoutTests
  · rw [hsame]
  · intro key
    rw [hsame]
  · intro reference
    rw [hsame]

/-- The later struct is in a module for tests. -/
example :
    (SourceFile.parse? "chat.rs"
      ("mod v1 \x7b mod api \x7b struct Note; \x7d \x7d" ++
        "#[cfg(test)] mod t \x7b struct Note; \x7d")).map
        (fun file => ((ofFiles [file]).keys, ((ofFiles [file]).get? "Note").map (·.package))) =
      some (["Note", "api.Note"], some "api") := by
  decide +kernel

end Catalog

end SocketDocs
