import Mathlib.Data.List.Nodup
import Mathlib.Order.Defs.LinearOrder
import SocketDocs.Proofs.Extraction.Faults
import SocketDocs.Proofs.FilePath.Components
import SocketDocs.Proofs.FileTree.SourcesKept

/-!
# Sources are found

A search below a directory finds the files that are named as sources, in places that it looks into,
and nothing else. It lists them in the order of their paths, component by component, each once, in
whatever order the directories list their entries (`scan_sources`).
-/

namespace SocketDocs

open FileNode (directory)

theorem lookup_eq_some_iff_mem {α : Type} {entries : List (String × α)}
    (h : (entries.map (·.1)).Nodup) {name : String} {value : α} :
    entries.lookup name = some value ↔ (name, value) ∈ entries := by
  induction entries with
  | nil => simp
  | cons entry rest ih =>
    obtain ⟨other, node⟩ := entry
    obtain ⟨hother, hrest⟩ := List.nodup_cons.mp h
    by_cases heq : name = other
    · subst heq
      have hnot : (name, value) ∉ rest := fun hmem =>
        hother (List.mem_map.mpr ⟨_, hmem, rfl⟩)
      simp [hnot, eq_comm]
    · have hbeq : (name == other) = false := by simpa using heq
      simp [List.lookup_cons, hbeq, heq, ih hrest]

-- ---------------------------------------------------------------------------
-- Trees
-- ---------------------------------------------------------------------------

namespace FileNode

/-- Every directory may be listed and gone through, lists a name once, and lists no name that an entry
cannot have. -/
inductive Lawful : FileNode → Prop
  | file (content : Content) (access : Access) : Lawful (.file content access)
  | directory {entries : List (String × FileNode)} {access : Access}
      (opens : access.read = true ∧ access.search = true)
      (distinct : (entries.map (·.1)).Nodup) (names : ∀ entry ∈ entries, FilePath.IsName entry.1)
      (inside : ∀ entry ∈ entries, Lawful entry.2) : Lawful (.directory entries access)

/-- The directories of the two trees list the same entries, perhaps in another order. -/
inductive Reordered : FileNode → FileNode → Prop
  | refl (node : FileNode) : Reordered node node
  | perm {entries entries' : List (String × FileNode)} {access : Access}
      (h : entries.Perm entries') :
      Reordered (.directory entries access) (.directory entries' access)
  | inside {front back : List (String × FileNode)} {access : Access} {name : String}
      {node node' : FileNode} (h : Reordered node node') :
      Reordered (.directory (front ++ (name, node) :: back) access)
        (.directory (front ++ (name, node') :: back) access)
  | trans {node node' node'' : FileNode} (h : Reordered node node') (h' : Reordered node' node'') :
      Reordered node node''

theorem Lawful.of_at? {node inner : FileNode} (h : node.Lawful) {names : List String}
    (hat : node.at? names = some inner) : inner.Lawful ∧ ∀ name ∈ names, FilePath.IsName name := by
  induction names generalizing node with
  | nil =>
    cases hat
    exact ⟨h, by simp⟩
  | cons name rest ih =>
    cases h with
    | file => cases hat
    | directory _ distinct hnames inside =>
      obtain ⟨next, hnext, hrest⟩ := at?_cons.mp hat
      have hmem := (lookup_eq_some_iff_mem distinct).mp hnext
      obtain ⟨hinner, hlater⟩ := ih (inside _ hmem) hrest
      exact ⟨hinner, List.forall_mem_cons.mpr ⟨hnames _ hmem, hlater⟩⟩

theorem Reordered.lawful {node node' : FileNode} (h : Reordered node node') (hl : node.Lawful) :
    node'.Lawful := by
  induction h with
  | refl => exact hl
  | perm hperm =>
    cases hl with
    | directory opens distinct names inside =>
      exact .directory opens ((hperm.map _).nodup distinct)
        (fun entry hentry => names entry (hperm.mem_iff.mpr hentry))
        fun entry hentry => inside entry (hperm.mem_iff.mpr hentry)
  | inside hinner ih =>
    cases hl with
    | directory opens distinct names inside =>
      refine .directory opens (by simpa using distinct) ?_ ?_
      · simp only [List.forall_mem_append, List.forall_mem_cons] at names ⊢
        exact names
      · simp only [List.forall_mem_append, List.forall_mem_cons] at inside ⊢
        exact ⟨inside.1, ih inside.2.1, inside.2.2⟩
  | trans _ _ ih ih' => exact ih' (ih hl)

theorem Reordered.file {content : Content} {access : Access} {node : FileNode}
    (h : Reordered (.file content access) node) : node = .file content access := by
  generalize hfile : FileNode.file content access = start at h
  induction h with
  | refl => rfl
  | perm => cases hfile
  | inside => cases hfile
  | trans _ _ ih ih' =>
    obtain rfl := ih hfile
    exact ih' hfile

theorem Reordered.directory {entries : List (String × FileNode)} {access : Access}
    {node : FileNode} (h : Reordered (.directory entries access) node) :
    ∃ entries', node = .directory entries' access := by
  generalize hdir : FileNode.directory entries access = start at h
  induction h generalizing entries with
  | refl => exact ⟨entries, hdir.symm⟩
  | perm =>
    cases hdir
    exact ⟨_, rfl⟩
  | inside =>
    cases hdir
    exact ⟨_, rfl⟩
  | trans _ _ ih ih' =>
    obtain ⟨entries', rfl⟩ := ih hdir
    exact ih' rfl

theorem at?_nil (node : FileNode) : node.at? [] = some node := by
  cases node <;> rfl

theorem Reordered.symm {node node' : FileNode} (h : Reordered node node') : Reordered node' node := by
  induction h with
  | refl => exact .refl _
  | perm hperm => exact .perm hperm.symm
  | inside _ ih => exact .inside ih
  | trans _ _ ih ih' => exact .trans ih' ih

theorem Reordered.at? {node node' inner : FileNode} (h : Reordered node node') (hl : node.Lawful)
    {names : List String} (hat : node.at? names = some inner) :
    ∃ inner', node'.at? names = some inner' ∧ Reordered inner inner' := by
  induction h generalizing names inner with
  | refl => exact ⟨inner, hat, .refl _⟩
  | perm hperm =>
    cases names with
    | nil =>
      cases hat
      exact ⟨_, rfl, .perm hperm⟩
    | cons name rest =>
      cases hl with
      | directory _ distinct _ _ =>
        obtain ⟨next, hnext, hrest⟩ := at?_cons.mp hat
        refine ⟨inner, at?_cons.mpr ⟨next, ?_, hrest⟩, .refl _⟩
        rw [lookup_eq_some_iff_mem distinct, hperm.mem_iff] at hnext
        exact (lookup_eq_some_iff_mem ((hperm.map _).nodup distinct)).mpr hnext
  | @inside front back _ name old new hinner ih =>
    have hl' := (Reordered.inside hinner).lawful hl
    cases names with
    | nil =>
      cases hat
      exact ⟨_, rfl, .inside hinner⟩
    | cons first rest =>
      cases hl with
      | directory _ distinct _ inside =>
        cases hl' with
        | directory _ distinct' _ _ =>
          obtain ⟨next, hnext, hrest⟩ := at?_cons.mp hat
          have hmem := (lookup_eq_some_iff_mem distinct).mp hnext
          by_cases heq : first = name
          · subst heq
            have hold : (front ++ (first, old) :: back).lookup first = some old :=
              (lookup_eq_some_iff_mem distinct).mpr (by simp)
            rw [hnext] at hold
            cases hold
            obtain ⟨inner', hat', hsame⟩ := ih (inside _ hmem) hrest
            refine ⟨inner', at?_cons.mpr ⟨new, ?_, hat'⟩, hsame⟩
            exact (lookup_eq_some_iff_mem distinct').mpr (by simp)
          · refine ⟨inner, at?_cons.mpr ⟨next, ?_, hrest⟩, .refl _⟩
            refine (lookup_eq_some_iff_mem distinct').mpr ?_
            simpa [heq] using hmem
  | trans h _ ih ih' =>
    obtain ⟨middle, hmiddle, hsame⟩ := ih hl hat
    obtain ⟨inner', hat', hsame'⟩ := ih' (h.lawful hl) hmiddle
    exact ⟨inner', hat', hsame.trans hsame'⟩

-- ---------------------------------------------------------------------------
-- Places of sources
-- ---------------------------------------------------------------------------

/-- The names below a root that lead to a source: a search looks into every directory on the way, and
the file is named as a source and not as a test. -/
structure IsSourcePlace (names : List String) : Prop where
  visible : ∀ name ∈ names, ¬".".toList <+: name.toList
  searched : ∀ name ∈ names.dropLast, name ∉ ["target", "tests", "benches"]
  named : ∃ text, names.getLast? = some (text ++ ".rs") ∧ text ∉ ["test", "tests"] ∧
    ∀ ending ∈ ["_test", "_tests"], ¬ending.toList <:+ text.toList

theorem isTestStem_iff {text : String} :
    isTestStem text = true ↔ text ∈ ["test", "tests"] ∨
      ∃ ending ∈ ["_test", "_tests"], ending.toList <:+ text.toList := by
  simp [isTestStem, Text.endsWith_iff, or_assoc]

theorem isTestStem_eq_false_iff {text : String} :
    isTestStem text = false ↔ text ∉ ["test", "tests"] ∧
      ∀ ending ∈ ["_test", "_tests"], ¬ending.toList <:+ text.toList := by
  rw [← Bool.not_eq_true, isTestStem_iff, not_or]
  simp only [not_exists, not_and]

theorem isSourceName_iff {name : String} (hvisible : ¬".".toList <+: name.toList) :
    isSourceName name = true ↔ ∃ text, name = text ++ ".rs" ∧ text ∉ ["test", "tests"] ∧
      ∀ ending ∈ ["_test", "_tests"], ¬ending.toList <:+ text.toList := by
  have hrs : ".rs" = "." ++ "rs" := rfl
  simp only [isSourceName, Bool.and_eq_true, beq_iff_eq, Bool.not_eq_true', isTestStem_eq_false_iff]
  constructor
  · rintro ⟨hextension, hstem⟩
    obtain ⟨-, -, hname⟩ := FilePath.stem_and_extension?_iff.mp ⟨rfl, hextension⟩
    exact ⟨FilePath.stem name, by rw [hrs, ← String.append_assoc, ← hname], hstem⟩
  · rintro ⟨text, hname, htext⟩
    have hne : text ≠ "" := by
      rintro rfl
      exact hvisible (by rw [hname]; exact ⟨['r', 's'], rfl⟩)
    have hsplit : name = text ++ "." ++ "rs" := by rw [hname, hrs, ← String.append_assoc]
    obtain ⟨hstem, hextension⟩ :=
      FilePath.stem_and_extension?_iff.mpr ⟨hne, by decide, hsplit⟩
    exact ⟨hextension, hstem ▸ htext⟩

theorem isSourcePlace_singleton {name : String} :
    IsSourcePlace [name] ↔ ¬".".toList <+: name.toList ∧ isSourceName name = true := by
  constructor
  · rintro ⟨hvisible, -, hnamed⟩
    have hvisible := hvisible name (by simp)
    exact ⟨hvisible, (isSourceName_iff hvisible).mpr (by simpa using hnamed)⟩
  · rintro ⟨hvisible, hname⟩
    exact ⟨by simpa using hvisible, by simp, by simpa using (isSourceName_iff hvisible).mp hname⟩

theorem isSourcePlace_cons {name : String} {rest : List String} (hrest : rest ≠ []) :
    IsSourcePlace (name :: rest) ↔ ¬".".toList <+: name.toList ∧
      name ∉ ["target", "tests", "benches"] ∧ IsSourcePlace rest := by
  obtain ⟨next, later, rfl⟩ := List.exists_cons_of_ne_nil hrest
  constructor
  · rintro ⟨hvisible, hsearched, hnamed⟩
    rw [List.forall_mem_cons] at hvisible
    rw [List.dropLast_cons_cons, List.forall_mem_cons] at hsearched
    exact ⟨hvisible.1, hsearched.1, hvisible.2, hsearched.2, by simpa using hnamed⟩
  · rintro ⟨hvisible, hsearched, h⟩
    refine ⟨List.forall_mem_cons.mpr ⟨hvisible, h.visible⟩, ?_, by simpa using h.named⟩
    rw [List.dropLast_cons_cons]
    exact List.forall_mem_cons.mpr ⟨hsearched, h.searched⟩

-- ---------------------------------------------------------------------------
-- Searching
-- ---------------------------------------------------------------------------

variable {entries : List (String × FileNode)} {access : Access} {place : List String}
  {name : String} {found : List String × Finding}

theorem findingsIn_eq (reached : Bool) (place : List String) (entries : List (String × FileNode)) :
    findingsIn reached place entries =
      entries.flatMap fun entry => entryFindings reached place entry.1 entry.2 := by
  induction entries with
  | nil => rfl
  | cons entry rest ih => rw [findingsIn_cons, ih, List.flatMap_cons]

theorem mem_entryFindings_file {content : Content} :
    found ∈ entryFindings true place name (.file content access) ↔
      found = (place ++ [name], .source content access.read) ∧ IsSourcePlace [name] := by
  rw [isSourcePlace_singleton, ← String.startsWith_string_iff]
  by_cases hhidden : name.startsWith "." = true <;>
    by_cases hsource : isSourceName name = true <;>
    simp [entryFindings, isSkipped, isDirectory, findingsAt, hhidden, hsource]

theorem mem_entryFindings_directory (hopens : access.read = true ∧ access.search = true) :
    found ∈ entryFindings true place name (.directory entries access) ↔
      (¬".".toList <+: name.toList ∧ name ∉ ["target", "tests", "benches"]) ∧
        found ∈ findingsIn true (place ++ [name]) entries := by
  have hskipped : isSkipped name (.directory entries access) = false ↔
      ¬".".toList <+: name.toList ∧ name ∉ ["target", "tests", "benches"] := by
    simp [isSkipped, isDirectory, and_assoc]
  rw [← hskipped, entryFindings]
  cases isSkipped name (.directory entries access) <;> simp [findingsAt, hopens.1, hopens.2]

/-- A search of a directory comes upon the files at places of sources. -/
theorem mem_findingsIn (h : (directory entries access).Lawful) :
    found ∈ findingsIn true place entries ↔ ∃ names content own,
      found = (place ++ names, .source content own.read) ∧
      (directory entries access).at? names = some (.file content own) ∧ IsSourcePlace names := by
  generalize hdir : directory entries access = node at h
  induction h generalizing entries access place with
  | file => cases hdir
  | directory _ distinct _ inside ih =>
    cases hdir
    rw [findingsIn_eq, List.mem_flatMap]
    constructor
    · rintro ⟨⟨name, child⟩, hmem, hfound⟩
      have hlookup := (lookup_eq_some_iff_mem distinct).mpr hmem
      have hchild := inside _ hmem
      cases hchild with
      | file content own =>
        obtain ⟨rfl, hplace⟩ := mem_entryFindings_file.mp hfound
        exact ⟨[name], content, own, rfl, at?_cons.mpr ⟨_, hlookup, rfl⟩, hplace⟩
      | directory opens =>
        obtain ⟨⟨hvisible, hsearched⟩, hfound⟩ := (mem_entryFindings_directory opens).mp hfound
        obtain ⟨rest, content, own, rfl, hat, hplace⟩ := (ih _ hmem rfl).mp hfound
        have hrest : rest ≠ [] := by
          rintro rfl
          cases hat
        refine ⟨name :: rest, content, own, by simp, at?_cons.mpr ⟨_, hlookup, hat⟩, ?_⟩
        exact (isSourcePlace_cons hrest).mpr ⟨hvisible, hsearched, hplace⟩
    · rintro ⟨names, content, own, rfl, hat, hplace⟩
      cases names with
      | nil => cases hat
      | cons name rest =>
        obtain ⟨child, hlookup, hrest⟩ := at?_cons.mp hat
        have hmem := (lookup_eq_some_iff_mem distinct).mp hlookup
        have hchild := inside _ hmem
        refine ⟨(name, child), hmem, ?_⟩
        cases hchild with
        | file =>
          cases rest with
          | nil =>
            cases hrest
            exact mem_entryFindings_file.mpr ⟨rfl, hplace⟩
          | cons _ _ => cases hrest
        | directory opens =>
          have hne : rest ≠ [] := by
            rintro rfl
            cases hrest
          obtain ⟨hvisible, hsearched, hplace⟩ := (isSourcePlace_cons hne).mp hplace
          refine (mem_entryFindings_directory opens).mpr ⟨⟨hvisible, hsearched⟩, ?_⟩
          exact (ih _ hmem rfl).mpr ⟨rest, content, own, by simp, hrest, hplace⟩

theorem exists_rest_of_mem_entryFindings {node : FileNode} (h : node.Lawful)
    (hfound : found ∈ entryFindings true place name node) :
    ∃ rest, found.1 = place ++ name :: rest := by
  cases h with
  | file =>
    obtain ⟨rfl, -⟩ := mem_entryFindings_file.mp hfound
    exact ⟨[], rfl⟩
  | directory opens distinct names inside =>
    obtain ⟨rest, content, own, rfl, -⟩ := (mem_findingsIn (.directory opens distinct names inside)).mp
      ((mem_entryFindings_directory opens).mp hfound).2
    exact ⟨rest, by simp⟩

theorem nodup_findingsIn (h : (directory entries access).Lawful) (place : List String) :
    ((findingsIn true place entries).map (·.1)).Nodup := by
  generalize hdir : directory entries access = node at h
  induction h generalizing entries access place with
  | file => cases hdir
  | directory _ distinct _ inside ih =>
    cases hdir
    rw [findingsIn_eq, List.map_flatMap, List.nodup_flatMap]
    constructor
    · rintro ⟨name, child⟩ hmem
      have hchild := inside _ hmem
      rw [entryFindings]
      split
      · exact List.nodup_nil
      · cases hchild with
        | file =>
          rw [findingsAt]
          split <;> simp
        | directory opens =>
          rw [findingsAt, opens.1, opens.2]
          exact ih _ hmem (place ++ [name]) rfl
    · rw [List.Nodup, List.pairwise_map] at distinct
      refine distinct.imp_of_mem ?_
      intro a b ha hb hne found hfa hfb
      obtain ⟨source, hsource, rfl⟩ := List.mem_map.mp hfa
      obtain ⟨source', hsource', heq⟩ := List.mem_map.mp hfb
      obtain ⟨rest, hrest⟩ := exists_rest_of_mem_entryFindings (inside a ha) hsource
      obtain ⟨rest', hrest'⟩ := exists_rest_of_mem_entryFindings (inside b hb) hsource'
      rw [heq, hrest, List.append_right_inj] at hrest'
      exact hne (List.cons.inj hrest').1

theorem findingsAt_directory (h : (directory entries access).Lawful) (path : String) :
    findingsAt true [] path (directory entries access) = findingsIn true [] entries := by
  cases h with
  | directory opens =>
    rw [findingsAt, opens.1, opens.2]
    rfl

theorem mem_findings_directory (h : (directory entries access).Lawful) {path : String} :
    found ∈ (directory entries access).findings path ↔ ∃ names content own,
      found = (names, .source content own.read) ∧
      (directory entries access).at? names = some (.file content own) ∧ IsSourcePlace names := by
  rw [mem_findings, findingsAt_directory h, mem_findingsIn h]
  rfl

theorem findings_strict (h : (directory entries access).Lawful) (path : String) :
    ((directory entries access).findings path).Pairwise fun a b => a.1 < b.1 := by
  have hnodup : (((directory entries access).findings path).map (·.1)).Nodup := by
    refine ((List.mergeSort_perm _ _).map _).nodup_iff.mpr ?_
    rw [findingsAt_directory h]
    exact nodup_findingsIn h []
  rw [List.Nodup, List.pairwise_map] at hnodup
  refine (findings_ordered path _).imp₂ ?_ hnodup
  intro a b hle hne
  exact lt_of_le_of_ne (not_lt.mp hle) hne

/-- A search comes upon the same, in the same order, however the directories list their entries. -/
theorem findings_of_reordered {entries' : List (String × FileNode)}
    (h : (directory entries access).Lawful)
    (hsame : Reordered (directory entries access) (directory entries' access)) (path : String) :
    (directory entries' access).findings path = (directory entries access).findings path := by
  have h' := hsame.lawful h
  have hat : ∀ names content own,
      (directory entries' access).at? names = some (.file content own) ↔
        (directory entries access).at? names = some (.file content own) := by
    intro names content own
    constructor
    · intro hfile
      obtain ⟨inner, hinner, hsame⟩ := hsame.symm.at? h' hfile
      rwa [hsame.file] at hinner
    · intro hfile
      obtain ⟨inner, hinner, hsame⟩ := hsame.at? h hfile
      rwa [hsame.file] at hinner
  have hstrict := findings_strict h path
  have hstrict' := findings_strict h' path
  have hperm : ((directory entries' access).findings path).Perm
      ((directory entries access).findings path) := by
    refine (List.perm_ext_iff_of_nodup ?_ ?_).mpr ?_
    · exact hstrict'.imp fun hlt => mt (congrArg Prod.fst) hlt.ne
    · exact hstrict.imp fun hlt => mt (congrArg Prod.fst) hlt.ne
    · intro found
      simp only [mem_findings_directory h, mem_findings_directory h', hat]
  exact hperm.eq_of_pairwise (fun a b _ _ hab hba => absurd hba (lt_asymm hab)) hstrict' hstrict

theorem Reordered.grows {node node' : FileNode} (h : Reordered node node') (hl : node.Lawful) :
    FileTree.Grows node node' := by
  intro place entries access hat
  obtain ⟨inner, hinner, hsame⟩ := h.at? hl hat
  obtain ⟨entries', rfl⟩ := hsame.directory
  refine ⟨entries', hinner, fun name hname => ?_⟩
  obtain ⟨child, hchild⟩ := Option.isSome_iff_exists.mp hname
  have hbelow : (FileNode.directory entries access).at? [name] = some child :=
    at?_cons.mpr ⟨child, hchild, at?_nil _⟩
  obtain ⟨child', hchild', -⟩ := hsame.at? (hl.of_at? hat).1 hbelow
  obtain ⟨next, hnext, -⟩ := at?_cons.mp hchild'
  rw [hnext]
  rfl

end FileNode

-- ---------------------------------------------------------------------------
-- Scanning a tree
-- ---------------------------------------------------------------------------

open FileNode (Lawful Reordered IsSourcePlace)

namespace FileTree

theorem node?_of_reordered {tree tree' : FileTree} (hl : tree.top.Lawful)
    (h : Reordered tree.top tree'.top) {root : String} {entries : List (String × FileNode)}
    {access : Access} (hroot : tree.node? root = .ok (directory entries access)) :
    ∃ entries', tree'.node? root = .ok (directory entries' access) ∧
      Reordered (directory entries access) (directory entries' access) := by
  obtain ⟨hne, place, hfollow, hat⟩ := node?_eq_ok_iff.mp hroot
  obtain ⟨inner, hinner, hsame⟩ := h.at? hl hat
  obtain ⟨entries', rfl⟩ := hsame.directory
  exact ⟨entries', node?_eq_ok_iff.mpr ⟨hne, place, follow_of_grows (h.grows hl) hfollow, hinner⟩,
    hsame⟩

end FileTree

namespace Extraction

def scanned? (path : String) (found : List String × Finding) : Option (String × Content) :=
  match found.2 with
  | .source content _ => some (FilePath.below path found.1, content)
  | .unlisted => none

theorem mapM_file {path : String} {l : List (List String × Finding)}
    (h : ∀ found ∈ l, found.2 ≠ .unlisted) :
    (l.mapM (Finding.file path)).map (·.map fun file => (file.path, file.content)) =
      .ok (l.filterMap (scanned? path)) := by
  induction l with
  | nil => rfl
  | cons found rest ih =>
    obtain ⟨hfound, hrest⟩ := List.forall_mem_cons.mp h
    obtain ⟨names, finding⟩ := found
    cases finding with
    | unlisted => exact absurd rfl hfound
    | source content opens =>
      have hscanned : scanned? path (names, .source content opens) =
          some (FilePath.below path names, content) := rfl
      have hfile : Finding.file path (names, .source content opens) =
          .ok ⟨FilePath.below path names, content, opens⟩ := rfl
      specialize ih hrest
      rw [List.filterMap_cons_some hscanned, List.mapM_cons, hfile]
      cases hfiles : rest.mapM (Finding.file path) with
      | error fault =>
        rw [hfiles] at ih
        cases ih
      | ok files =>
        rw [hfiles] at ih
        injection ih with ih
        rw [← ih]
        rfl

/-- A scan below a directory of a tree gives the paths of the files there that are sources, strictly
ordered by their components, whatever the directory is called and however the directories of the tree
list their entries. -/
theorem scan_sources {tree : FileTree} {root : String} {entries : List (String × FileNode)}
    {access : Access} (hlawful : tree.top.Lawful)
    (hroot : tree.node? root = .ok (directory entries access)) :
    ∃ found, scan root (tree.node? root) = .ok found ∧
      (found.map fun source => FilePath.components source.1).Pairwise (· < ·) ∧
      (∀ path content, (path, content) ∈ found ↔ ∃ names own, path = FilePath.below root names ∧
        (directory entries access).at? names = some (.file content own) ∧ IsSourcePlace names) ∧
      ∀ tree' : FileTree, Reordered tree.top tree'.top →
        scan root (tree'.node? root) = .ok found := by
  obtain ⟨hne, place, -, hat⟩ := FileTree.node?_eq_ok_iff.mp hroot
  have hentries : (directory entries access).Lawful := (hlawful.of_at? hat).1
  have hmem : ∀ found, found ∈ (directory entries access).findings root ↔ _ :=
    fun found => FileNode.mem_findings_directory hentries
  have hlisted : ∀ found ∈ (directory entries access).findings root, found.2 ≠ .unlisted := by
    intro found hfound
    obtain ⟨names, content, own, rfl, -⟩ := (hmem found).mp hfound
    exact Finding.noConfusion
  refine ⟨((directory entries access).findings root).filterMap (scanned? root), ?_, ?_, ?_, ?_⟩
  · rw [hroot]
    exact mapM_file hlisted
  · rw [List.pairwise_map, List.pairwise_filterMap]
    refine (FileNode.findings_strict hentries root).imp_of_mem ?_
    intro a b ha hb hlt source hsource source' hsource'
    obtain ⟨names, content, own, rfl, hfile, -⟩ := (hmem a).mp ha
    obtain ⟨names', content', own', rfl, hfile', -⟩ := (hmem b).mp hb
    cases hsource
    cases hsource'
    have hcomponents : ∀ {names content own},
        (directory entries access).at? names = some (.file content own) →
          FilePath.components (FilePath.below root names) =
            FilePath.components root ++ names.map FilePath.Component.name := by
      intro names content own hfile
      refine FilePath.components_below ?_ ?_ (hentries.of_at? hfile).2
      · rintro rfl
        exact absurd hne (by decide)
      · rintro rfl
        cases hfile
    rw [hcomponents hfile, hcomponents hfile']
    exact FilePath.append_name_lt _ hlt
  · intro path content
    rw [List.mem_filterMap]
    constructor
    · rintro ⟨found, hfound, heq⟩
      obtain ⟨names, content, own, rfl, hfile, hplace⟩ := (hmem found).mp hfound
      cases heq
      exact ⟨names, own, rfl, hfile, hplace⟩
    · rintro ⟨names, own, rfl, hfile, hplace⟩
      exact ⟨_, (hmem _).mpr ⟨names, content, own, rfl, hfile, hplace⟩, rfl⟩
  · intro tree' hsame
    obtain ⟨entries', hroot', hinside⟩ := FileTree.node?_of_reordered hlawful hsame hroot
    have hfindings := FileNode.findings_of_reordered hentries hinside root
    rw [hroot', ← hfindings]
    exact mapM_file (hfindings ▸ hlisted)

/-- A root may be called like a directory that is not searched. In it tests are passed over, and the
entries may be listed backwards. -/
theorem scan_sources_under_target :
    ∃ (tree : FileTree) (entries : List (String × FileNode)) (found : List (String × Content)),
      tree.top.Lawful ∧ tree.node? "target" = .ok (directory entries) ∧
      scan "target" (tree.node? "target") = .ok found ∧
      (found.map fun source => FilePath.components source.1).Pairwise (· < ·) ∧
      ("target/a/b.rs", Content.text "fn b()") ∈ found ∧ ("target/a.rs", Content.text "") ∈ found ∧
      scan "target" (FileTree.node? { entries := [("target", .directory entries.reverse)] }
        "target") = .ok found := by
  let inner : List (String × FileNode) :=
    [("b.rs", .file (.text "fn b()")), ("b_test.rs", .file (.text ""))]
  let entries : List (String × FileNode) :=
    [("a.rs", .file (.text "")), ("a", .directory inner), (".git", .directory [])]
  have hinner : (directory inner).Lawful := by
    refine .directory ⟨rfl, rfl⟩ (by decide) (by decide) ?_
    simp [inner, Lawful.file]
  have hempty : (directory []).Lawful := .directory ⟨rfl, rfl⟩ .nil nofun nofun
  have hentries : (directory entries).Lawful := by
    refine .directory ⟨rfl, rfl⟩ (by decide) (by decide) ?_
    simp [entries, Lawful.file, hinner, hempty]
  let tree : FileTree := { entries := [("target", .directory entries)] }
  have hlawful : tree.top.Lawful := by
    refine .directory ⟨rfl, rfl⟩ (by decide) (by decide) ?_
    simpa [tree] using hentries
  have hroot : tree.node? "target" = .ok (.directory entries) :=
    FileTree.node?_eq_ok_iff.mpr ⟨by decide, ["target"], by decide +kernel, rfl⟩
  obtain ⟨found, hscan, hordered, hmem, hsame⟩ := scan_sources hlawful hroot
  refine ⟨tree, entries, found, hlawful, hroot, hscan, hordered, ?_, ?_, ?_⟩
  · refine (hmem _ _).mpr ⟨["a", "b.rs"], {}, by decide +kernel, rfl, ?_⟩
    exact ⟨by decide, by decide, "b", by decide, by decide, by decide⟩
  · refine (hmem _ _).mpr ⟨["a.rs"], {}, by decide +kernel, rfl, ?_⟩
    exact ⟨by decide, by decide, "a", by decide, by decide, by decide⟩
  · refine hsame { entries := [("target", .directory entries.reverse)] } ?_
    exact @Reordered.inside [] [] {} "target" _ _ (.perm entries.reverse_perm.symm)

end Extraction

end SocketDocs
