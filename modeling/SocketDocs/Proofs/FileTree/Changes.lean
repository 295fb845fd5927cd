import SocketDocs.Proofs.FileTree.Saving

/-!
# What saving changes

Putting a node that has nothing inside it changes what stands at one place (`Puts.bare?`). Saving is a
sequence of such steps: it makes directories that were missing on the path, and then the file. So a
saved file is the only one that is new or different, and the directories that are new are those that
its path leads through (`savedAs_of_save`).
-/

namespace SocketDocs

open FileNode (directory)

namespace FileNode

/-- A node without what is inside it. -/
def bare : FileNode → FileNode
  | .file content access => .file content access
  | .directory _ access => .directory [] access

def content? : FileNode → Option Content
  | .file content _ => some content
  | .directory _ _ => none

@[simp] theorem content?_bare (node : FileNode) : node.bare.content? = node.content? := by
  cases node <;> rfl

@[simp] theorem access_bare (node : FileNode) : node.bare.access = node.access := by
  cases node <;> rfl

@[simp] theorem isDirectory_bare (node : FileNode) : node.bare.isDirectory = node.isDirectory := by
  cases node <;> rfl

theorem isDirectory_iff {node : FileNode} :
    node.isDirectory = true ↔ ∃ entries access, node = directory entries access := by
  cases node <;> simp [isDirectory]

theorem at?_of_bare {node : FileNode} (h : node.bare = node) (name : String) (rest : List String) :
    node.at? (name :: rest) = none := by
  cases node with
  | file => rfl
  | directory entries access =>
    cases h
    rfl

end FileNode

namespace FileTree

variable {node : FileNode} {name : String} {place : List String} {access own : Access}

-- ---------------------------------------------------------------------------
-- Places
-- ---------------------------------------------------------------------------

def bare? (tree : FileTree) (place : List String) : Option FileNode :=
  (tree.at? place).map FileNode.bare

def content? (tree : FileTree) (place : List String) : Option Content :=
  (tree.at? place).bind FileNode.content?

def hasDirectory (tree : FileTree) (place : List String) : Bool :=
  (tree.at? place).any FileNode.isDirectory

theorem content?_eq (tree : FileTree) (place : List String) :
    tree.content? place = (tree.bare? place).bind FileNode.content? := by
  unfold content? bare?
  cases tree.at? place <;> simp

theorem access?_eq (tree : FileTree) (place : List String) :
    tree.access? place = (tree.bare? place).map FileNode.access := by
  unfold access? bare?
  cases tree.at? place <;> simp

theorem hasDirectory_eq (tree : FileTree) (place : List String) :
    tree.hasDirectory place = (tree.bare? place).any FileNode.isDirectory := by
  unfold hasDirectory bare?
  cases tree.at? place <;> simp

theorem hasDirectory_iff {tree : FileTree} :
    tree.hasDirectory place = true ↔
      ∃ entries access, tree.at? place = some (directory entries access) := by
  unfold hasDirectory
  cases tree.at? place <;> simp [FileNode.isDirectory_iff]

theorem at?_setEntry (name : String) (node : FileNode) (entries : List (String × FileNode))
    (first : String) (rest : List String) :
    (directory (setEntry name node entries) access).at? (first :: rest) =
      if first = name then node.at? rest else (directory entries access).at? (first :: rest) := by
  rw [FileNode.at?, FileNode.at?]
  by_cases hfirst : first = name
  · rw [if_pos hfirst, hfirst, lookup_setEntry_self]
  · rw [if_neg hfirst, lookup_setEntry_of_ne hfirst]

theorem bare_putIn {entries inside : List (String × FileNode)}
    (hat : (directory entries own).at? place = some (directory inside access))
    (hfree : ∀ lost own, inside.lookup name ≠ some (directory lost own)) (hnode : node.bare = node)
    (asked : List String) :
    ((directory (putIn node (place ++ [name]) entries) own).at? asked).map FileNode.bare =
      if asked = place ++ [name] then some node
      else ((directory entries own).at? asked).map FileNode.bare := by
  induction place generalizing entries own asked with
  | nil =>
    obtain ⟨rfl, rfl⟩ : entries = inside ∧ own = access := by simpa [FileNode.at?] using hat
    rcases asked with _ | ⟨first, rest⟩
    · simp [FileNode.at?, FileNode.bare]
    rw [List.nil_append, putIn, at?_setEntry]
    by_cases hfirst : first = name
    · subst hfirst
      rcases rest with _ | ⟨second, more⟩
      · simp [FileNode.at?, hnode]
      -- there was no directory under the name before either
      have hnone : (directory entries own).at? (first :: second :: more) = none := by
        rw [FileNode.at?]
        cases hold : entries.lookup first with
        | none => rfl
        | some old =>
          cases old with
          | file => rfl
          | directory lost => exact absurd hold (hfree lost _)
      simp [FileNode.at?_of_bare hnode, hnone]
    · simp [hfirst]
  | cons first front ih =>
    obtain ⟨next, hnext, hrest⟩ := FileNode.at?_cons.mp hat
    obtain ⟨entries', own', rfl⟩ := FileNode.eq_directory_of_at? hrest
    rw [List.cons_append, putIn_cons (by simp) hnext]
    rcases asked with _ | ⟨asked, rest⟩
    · simp [FileNode.at?, FileNode.bare]
    rw [at?_setEntry]
    by_cases hfirst : asked = first
    · subst hfirst
      rw [if_pos rfl, ih hrest, FileNode.at?, hnext]
      simp
    · simp [hfirst]

theorem Puts.bare? {tree after : FileTree} {front : List String} {above : FoundDirectory}
    (h : tree.Puts front name above node after) (hnode : node.bare = node) (asked : List String) :
    after.bare? asked = if asked = above.place ++ [name] then some node else tree.bare? asked :=
  h.put ▸ bare_putIn h.found h.free hnode asked

-- ---------------------------------------------------------------------------
-- Directories
-- ---------------------------------------------------------------------------

theorem makeDirectory_eq_ok {tree made : FileTree} {parts : List String}
    (h : tree.makeDirectory parts = .ok made) :
    ∃ front name above, parts = front ++ [name] ∧
      tree.Puts front name above (directory []) made ∧ above.entries.lookup name = none := by
  unfold makeDirectory at h
  dsimp only [bind, Except.bind] at h
  split at h
  · cases h
  rename_i above hsearched
  obtain ⟨hfollow, hat, hsearch⟩ := searched?_eq_ok hsearched
  split_ifs at h with hname hwrite
  cases h
  simp only [Bool.or_eq_true, not_or, Bool.not_eq_true, Option.isSome_eq_false_iff,
    Option.isNone_iff_eq_none] at hname
  obtain ⟨hdots, hfree⟩ := hname
  refine ⟨parts.dropLast, parts.getLastD "", above, (dropLast_concat_of_not_dots hdots).symm,
    ⟨hdots, hfollow, hat, hsearch, ?_, rfl⟩, hfree⟩
  intro lost own
  rw [hfree]
  exact nofun

/-- The trees that come from another one by making some of the directories of a list. -/
inductive Made (above : List (List String)) (before : FileTree) : FileTree → Prop
  | refl : Made above before before
  | step {middle after : FileTree} {parts : List String} (made : Made above before middle)
      (mem : parts ∈ above) (step : middle.makeDirectory parts = .ok after) :
      Made above before after

theorem Made.mono {above more : List (List String)} {before after : FileTree}
    (h : Made above before after) (hsub : above ⊆ more) : Made more before after := by
  induction h with
  | refl => exact .refl
  | step _ hmem hstep ih => exact ih.step (hsub hmem) hstep

theorem made_makeDirectories (above : List (List String)) (tree : FileTree) :
    Made above tree (tree.makeDirectories above).1 := by
  induction above with
  | nil => exact .refl
  | cons parts above ih =>
    have ih : Made (parts :: above) tree (tree.makeDirectories above).1 :=
      ih.mono (List.subset_cons_self ..)
    rcases parts with _ | ⟨part, parts⟩
    · exact .refl
    unfold makeDirectories
    split
    · exact .step .refl (List.mem_cons_self ..) ‹_›
    · split
      · rename_i middle hmiddle
        rw [hmiddle] at ih
        split
        · exact ih.step (List.mem_cons_self ..) ‹_›
        · exact ih
      · exact ih
    · exact .refl

theorem Made.grows {above : List (List String)} {before after : FileTree}
    (h : Made above before after) : Grows before.top after.top := by
  induction h with
  | refl => exact fun place entries access hat => ⟨entries, hat, fun _ h => h⟩
  | step _ _ hstep ih =>
    obtain ⟨front, name, inside, -, hput, -⟩ := makeDirectory_eq_ok hstep
    exact ih.trans hput.grows

/-- Making directories adds them, and changes nothing else. -/
theorem Made.bare? {above : List (List String)} {before after : FileTree}
    (h : Made above before after) (asked : List String) :
    after.bare? asked = before.bare? asked ∨
      before.bare? asked = none ∧ after.bare? asked = some (directory []) ∧
        ∃ parts ∈ above, after.follow [] parts = .ok asked := by
  induction h with
  | refl => exact .inl rfl
  | @step middle after parts _ hmem hstep ih =>
    obtain ⟨front, name, inside, rfl, hput, hfree⟩ := makeDirectory_eq_ok hstep
    rw [hput.bare? rfl]
    by_cases hasked : asked = inside.place ++ [name]
    · subst hasked
      rw [if_pos rfl]
      have hnone : middle.bare? (inside.place ++ [name]) = none := by
        rw [FileTree.bare?, at?_concat hput.found, hfree]
        rfl
      refine .inr ⟨?_, rfl, _, hmem, hput.follow⟩
      rcases ih with ih | ⟨ih, -, -⟩
      · rw [← ih, hnone]
      · exact ih
    · rw [if_neg hasked]
      rcases ih with ih | ⟨hbefore, hafter, parts, hparts, hled⟩
      · exact .inl ih
      · exact .inr ⟨hbefore, hafter, parts, hparts, follow_of_grows hput.grows hled⟩

-- ---------------------------------------------------------------------------
-- Saved files
-- ---------------------------------------------------------------------------

theorem save_eq_none {tree written : FileTree} {path text : String}
    (h : tree.save path text = (written, none)) :
    ∃ middle, Made ((FilePath.ancestors path).drop 1) tree middle ∧
      middle.writeFile path text = .ok written := by
  have hmade := made_makeDirectories ((FilePath.ancestors path).drop 1) tree
  unfold save at h
  dsimp only at h
  split at h
  · cases h
  · rename_i middle hmiddle
    rw [hmiddle] at hmade
    split at h
    · rename_i hwritten
      cases h
      exact ⟨middle, hmade, hwritten⟩
    · cases h

theorem grows_save {tree written : FileTree} {path text : String}
    (h : tree.save path text = (written, none)) :
    Grows tree.top written.top := by
  obtain ⟨middle, hmade, hwritten⟩ := save_eq_none h
  obtain ⟨-, front, name, above, own, -, hput, -, -⟩ := writeFile_eq_ok hwritten
  exact hmade.grows.trans hput.grows

/-- The paths above one that ends in a name are those that lead to the name. -/
theorem ancestors_drop_one {path : String} {front : List String}
    (hparts : FilePath.parts path = front ++ [name]) (hname : isDots name = false) :
    (FilePath.ancestors path).drop 1 =
      ((List.range (front.length + 1)).reverse.map (front.take ·)).filter
        FilePath.endsInComponent := by
  have hends : FilePath.endsInComponent (front ++ [name]) = true := by
    simp only [isDots, Bool.or_eq_false_iff, beq_eq_false_iff_ne] at hname
    simp [FilePath.endsInComponent, hname]
  have htake : ∀ k ∈ (List.range (front.length + 1)).reverse,
      (front ++ [name]).take k = front.take k := by
    intro k hk
    simp only [List.mem_reverse, List.mem_range] at hk
    exact List.take_append_of_le_length (by omega)
  have hwhole : (front ++ [name]).take (front.length + 1) = front ++ [name] :=
    List.take_of_length_le (by simp)
  unfold FilePath.ancestors
  dsimp only
  rw [hparts, List.length_append, List.length_singleton, List.range_succ, List.reverse_append,
    List.reverse_singleton, List.singleton_append, List.map_cons, hwhole,
    List.filter_cons_of_pos hends, List.drop_one, List.tail_cons, List.map_congr_left htake]

theorem prefix_of_mem_ancestors {path : String} {front parts : List String}
    (hparts : FilePath.parts path = front ++ [name]) (hname : isDots name = false)
    (h : parts ∈ (FilePath.ancestors path).drop 1) : parts <+: front := by
  rw [ancestors_drop_one hparts hname] at h
  obtain ⟨k, -, rfl⟩ := List.mem_map.mp (List.mem_filter.mp h).1
  exact List.take_prefix k front

/-- One tree is another one with a text saved under a path. -/
structure SavedAs (path text : String) (before after : FileTree) : Prop where
  /-- The file has the access that one at its place had, and a new one has all. -/
  found : ∃ place, after.follow [] (FilePath.parts path) = .ok place ∧
    after.node? path = .ok (.file (.text text) ((before.access? place).getD {}))
  /-- No file at another place is changed, made or lost. -/
  files : ∀ place, after.follow [] (FilePath.parts path) ≠ .ok place →
    after.content? place = before.content? place
  /-- The directories that are new are those that the paths above lead to. -/
  directories : ∀ place, after.hasDirectory place = true ↔
    before.hasDirectory place = true ∨
      ∃ parts ∈ (FilePath.ancestors path).drop 1, after.follow [] parts = .ok place
  accesses : ∀ place access, before.access? place = some access → after.access? place = some access

theorem hasDirectory_of_follow {tree : FileTree} {start stop rest : List String} {part : String}
    (h : tree.follow start (part :: rest) = .ok stop) : tree.hasDirectory start = true := by
  rw [hasDirectory_iff]
  unfold follow at h
  split at h
  · exact ⟨_, _, ‹_›⟩
  · cases h
  · cases h

theorem hasDirectory_of_front {tree : FileTree} {front parts stop : List String}
    (hfront : tree.follow [] front = .ok place) (hplace : tree.hasDirectory place = true)
    (hstart : parts <+: front) (hparts : tree.follow [] parts = .ok stop) :
    tree.hasDirectory stop = true := by
  obtain ⟨rest, rfl⟩ := hstart
  rw [follow_append hparts] at hfront
  cases rest with
  | nil =>
    cases hfront
    exact hplace
  | cons part rest => exact hasDirectory_of_follow hfront

theorem Made.access? {above : List (List String)} {before after : FileTree}
    (h : Made above before after) (asked : List String) :
    after.access? asked = before.access? asked ∨
      before.access? asked = none ∧ after.access? asked = some {} := by
  rw [access?_eq, access?_eq]
  rcases h.bare? asked with hsame | ⟨hnone, hnew, -⟩
  · exact .inl (by rw [hsame])
  · exact .inr (by rw [hnone, hnew]; exact ⟨rfl, rfl⟩)

theorem access?_writeFile {tree written : FileTree} {path text : String} {asked : List String}
    (h : tree.writeFile path text = .ok written) (hbefore : tree.access? asked = some access) :
    written.access? asked = some access := by
  obtain ⟨-, front, name, above, own, -, hput, -, hown⟩ := writeFile_eq_ok h
  rw [access?_eq, hput.bare? rfl]
  split
  · rename_i hasked
    rw [← hasked, hbefore] at hown
    rw [hown]
    rfl
  · rw [← access?_eq, hbefore]

theorem node?_save {tree written : FileTree} {path text : String}
    (h : tree.save path text = (written, none)) :
    ∃ place, written.follow [] (FilePath.parts path) = .ok place ∧
      written.node? path = .ok (.file (.text text) ((tree.access? place).getD {})) := by
  obtain ⟨middle, hmade, hwritten⟩ := save_eq_none h
  obtain ⟨place, hfollow, hnode⟩ := node?_writeFile hwritten
  refine ⟨place, hfollow, ?_⟩
  rcases hmade.access? place with hsame | ⟨hnone, hnew⟩
  · rw [← hsame, hnode]
  · rw [hnone, hnode, hnew]
    rfl

theorem savedAs_of_save {tree written : FileTree} {path text : String}
    (h : tree.save path text = (written, none)) : SavedAs path text tree written := by
  obtain ⟨middle, hmade, hwritten⟩ := save_eq_none h
  obtain ⟨-, front, name, above, own, hparts, hput, -, -⟩ := writeFile_eq_ok hwritten
  have hbare := hput.bare? rfl
  refine ⟨node?_save h, ?_, ?_, ?_⟩
  · intro asked hother
    have hasked : asked ≠ above.place ++ [name] := by
      rintro rfl
      exact hother (hparts ▸ hput.follow)
    rw [content?_eq, content?_eq, hbare, if_neg hasked]
    rcases hmade.bare? asked with hsame | ⟨hnone, hnew, -⟩
    · rw [hsame]
    · rw [hnone, hnew]
      rfl
  · intro asked
    constructor
    · intro hdirectory
      rw [hasDirectory_eq, hbare] at hdirectory
      split at hdirectory
      · cases hdirectory
      · rcases hmade.bare? asked with hsame | ⟨-, -, parts, hmem, hparts⟩
        · rw [hsame, ← hasDirectory_eq] at hdirectory
          exact .inl hdirectory
        · exact .inr ⟨parts, hmem, follow_of_grows hput.grows hparts⟩
    · rintro (hbefore | ⟨parts, hmem, hasked⟩)
      · obtain ⟨before, own, hbefore⟩ := hasDirectory_iff.mp hbefore
        obtain ⟨after, hafter, -⟩ := grows_save h asked before own hbefore
        exact hasDirectory_iff.mpr ⟨after, own, hafter⟩
      · obtain ⟨entries, hat, -⟩ := hput.directory
        exact hasDirectory_of_front (follow_of_grows hput.grows hput.led)
          (hasDirectory_iff.mpr ⟨entries, _, hat⟩)
          (prefix_of_mem_ancestors hparts hput.named hmem) hasked
  · intro asked access hbefore
    refine access?_writeFile hwritten ?_
    rcases hmade.access? asked with hsame | ⟨hnone, -⟩
    · rw [hsame, hbefore]
    · rw [hnone] at hbefore
      cases hbefore

end FileTree

end SocketDocs
