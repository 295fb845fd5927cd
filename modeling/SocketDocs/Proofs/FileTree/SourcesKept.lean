import SocketDocs.FileTree.Sources
import SocketDocs.Proofs.FileTree.Changes

/-!
# Sources are kept

A file that is saved under a name without the extension `rs` is no source, and neither are the empty
directories made for it. So a search of a directory comes upon the same as before, in the same order,
also if the file lies inside it (`node?_save_of_not_source`).
-/

namespace SocketDocs

open FileNode (directory)

-- ---------------------------------------------------------------------------
-- Names
-- ---------------------------------------------------------------------------

theorem FilePath.component?_eq_name {text : List Char}
    (h : FileTree.isDots (String.ofList text) = false) :
    component? text = some (.name (String.ofList text)) := by
  unfold component?
  split
  · cases h
  · cases h
  · cases h
  · rfl

theorem FilePath.fileName?_of_parts {path name : String} {front : List String}
    (hparts : parts path = front ++ [name]) (hname : FileTree.isDots name = false) :
    fileName? path = some name := by
  obtain ⟨before, last, hsplit, -, hlast⟩ := List.map_eq_append_iff.mp hparts
  obtain ⟨text, rfl, rfl⟩ := List.map_eq_singleton_iff.mp hlast
  unfold fileName? components
  dsimp only
  rw [hsplit, List.filterMap_append, List.filterMap_cons, component?_eq_name hname]
  simp

namespace FileNode

variable {name : String} {node : FileNode} {entries : List (String × FileNode)} {access : Access}

theorem isSourceName_eq_false (h : FilePath.extension? name ≠ some "rs") :
    isSourceName name = false := by
  simp [isSourceName, h]

-- ---------------------------------------------------------------------------
-- Entries
-- ---------------------------------------------------------------------------

def entryFindings (reached : Bool) (place : List String) (name : String) (node : FileNode) :
    List (List String × Finding) :=
  if isSkipped name node then [] else findingsAt reached (place ++ [name]) name node

theorem findingsIn_cons (reached : Bool) (place : List String) (name : String) (node : FileNode)
    (rest : List (String × FileNode)) :
    findingsIn reached place ((name, node) :: rest) =
      entryFindings reached place name node ++ findingsIn reached place rest := by
  rw [findingsIn, entryFindings]

theorem entryFindings_file (h : isSourceName name = false) (reached : Bool) (place : List String)
    (content : Content) : entryFindings reached place name (.file content access) = [] := by
  simp [entryFindings, findingsAt, h]

theorem entryFindings_directory {inside inside' : List (String × FileNode)} {place : List String}
    (reached : Bool)
    (h : findingsIn access.search (place ++ [name]) inside =
      findingsIn access.search (place ++ [name]) inside') :
    entryFindings reached place name (directory inside access) =
      entryFindings reached place name (directory inside' access) := by
  simp only [entryFindings, findingsAt, h]
  rfl

theorem entryFindings_empty (place : List String) (name : String) :
    entryFindings true place name (directory []) = [] := by
  simp [entryFindings, findingsAt, findingsIn]

theorem findingsIn_setEntry {reached : Bool} {place : List String}
    (hnew : entries.lookup name = none → entryFindings reached place name node = [])
    (hold : ∀ old, entries.lookup name = some old →
      entryFindings reached place name node = entryFindings reached place name old) :
    findingsIn reached place (FileTree.setEntry name node entries) =
      findingsIn reached place entries := by
  induction entries with
  | nil => simp [FileTree.setEntry, findingsIn_cons, hnew rfl]
  | cons entry rest ih =>
    obtain ⟨other, old⟩ := entry
    by_cases hother : other = name
    · subst hother
      simp [FileTree.setEntry, findingsIn_cons, hold old (by simp)]
    · have hbeq : (name == other) = false := by simpa using Ne.symm hother
      rw [List.lookup_cons, hbeq] at hnew hold
      simp [FileTree.setEntry, hother, findingsIn_cons, ih hnew hold]

end FileNode

-- ---------------------------------------------------------------------------
-- Trees
-- ---------------------------------------------------------------------------

namespace FileTree

open FileNode (findingsIn entryFindings)

variable {node : FileNode} {name : String} {place : List String} {access own : Access}

/-- Every directory of the first tree is one of the second, and a search of it comes upon the same. -/
def SameFindings (before after : FileNode) : Prop :=
  ∀ place entries access, before.at? place = some (directory entries access) →
    ∃ entries', after.at? place = some (directory entries' access) ∧
      ∀ above, findingsIn access.search above entries' = findingsIn access.search above entries

theorem SameFindings.refl (node : FileNode) : SameFindings node node :=
  fun _ entries _ hat => ⟨entries, hat, fun _ => rfl⟩

theorem SameFindings.trans {before middle after : FileNode} (h : SameFindings before middle)
    (h' : SameFindings middle after) : SameFindings before after := by
  intro place entries access hat
  obtain ⟨entries', hat', hsame⟩ := h place entries access hat
  obtain ⟨entries'', hat'', hsame'⟩ := h' place entries' access hat'
  exact ⟨entries'', hat'', fun above => (hsame' above).trans (hsame above)⟩

theorem sameFindings_setEntry {entries : List (String × FileNode)}
    (hfindings : ∀ above, findingsIn access.search above (setEntry name node entries) =
      findingsIn access.search above entries)
    (h : ∀ old, entries.lookup name = some old → SameFindings old node) :
    SameFindings (directory entries access) (directory (setEntry name node entries) access) := by
  rintro (_ | ⟨first, rest⟩) inside own hat
  · cases hat
    exact ⟨_, rfl, hfindings⟩
  · rw [at?_setEntry]
    by_cases hfirst : first = name
    · subst hfirst
      obtain ⟨next, hnext, hrest⟩ := FileNode.at?_cons.mp hat
      rw [if_pos rfl]
      exact h next hnext rest inside own hrest
    · rw [if_neg hfirst]
      exact ⟨inside, hat, fun _ => rfl⟩

/-- Where a search comes upon nothing, and comes upon nothing in what was there, a node may be put. -/
theorem sameFindings_putIn {entries inside : List (String × FileNode)}
    (hat : (directory entries own).at? place = some (directory inside access))
    (hsearch : access.search = true)
    (hfree : ∀ lost own, inside.lookup name ≠ some (directory lost own))
    (hnode : ∀ above, entryFindings true above name node = [])
    (hold : ∀ old, inside.lookup name = some old → ∀ above, entryFindings true above name old = []) :
    SameFindings (directory entries own) (directory (putIn node (place ++ [name]) entries) own) := by
  induction place generalizing entries own with
  | nil =>
    obtain ⟨rfl, rfl⟩ : entries = inside ∧ own = access := by simpa [FileNode.at?] using hat
    refine sameFindings_setEntry ?_ ?_
    · intro above
      rw [hsearch]
      refine FileNode.findingsIn_setEntry (fun _ => hnode above) ?_
      intro old hlookup
      rw [hnode, hold old hlookup]
    · intro old hlookup place lost access hlost
      obtain ⟨inside, own, rfl⟩ := FileNode.eq_directory_of_at? hlost
      exact absurd hlookup (hfree inside own)
  | cons first rest ih =>
    obtain ⟨next, hnext, hrest⟩ := FileNode.at?_cons.mp hat
    obtain ⟨entries', own', rfl⟩ := FileNode.eq_directory_of_at? hrest
    have hsame := ih hrest
    rw [List.cons_append, putIn_cons (by simp) hnext]
    refine sameFindings_setEntry ?_ ?_
    · intro above
      obtain ⟨put, hput, hfindings⟩ := hsame [] entries' own' rfl
      cases hput
      refine FileNode.findingsIn_setEntry (by simp [hnext]) ?_
      intro old hlookup
      rw [hnext] at hlookup
      cases hlookup
      exact FileNode.entryFindings_directory _ (hfindings _)
    · intro old hlookup
      rw [hnext] at hlookup
      cases hlookup
      exact hsame

theorem Puts.sameFindings {tree after : FileTree} {front : List String} {above : FoundDirectory}
    (h : tree.Puts front name above node after)
    (hnode : ∀ above, entryFindings true above name node = [])
    (hold : ∀ old, above.entries.lookup name = some old →
      ∀ above, entryFindings true above name old = []) : SameFindings tree.top after.top :=
  h.put ▸ sameFindings_putIn h.found h.search h.free hnode hold

theorem Made.sameFindings {above : List (List String)} {before after : FileTree}
    (h : Made above before after) : SameFindings before.top after.top := by
  induction h with
  | refl => exact .refl _
  | step _ _ hstep ih =>
    obtain ⟨front, name, inside, -, hput, hfree⟩ := makeDirectory_eq_ok hstep
    refine ih.trans (hput.sameFindings (fun above => FileNode.entryFindings_empty above name) ?_)
    rw [hfree]
    exact nofun

theorem sameFindings_save {tree written : FileTree} {path text : String}
    (h : tree.save path text = (written, none))
    (hpath : (FilePath.fileName? path).bind FilePath.extension? ≠ some "rs") :
    SameFindings tree.top written.top := by
  obtain ⟨middle, hmade, hwritten⟩ := save_eq_none h
  obtain ⟨-, front, name, above, own, hparts, hput, -, -⟩ := writeFile_eq_ok hwritten
  rw [FilePath.fileName?_of_parts hparts hput.named] at hpath
  have hsource := FileNode.isSourceName_eq_false hpath
  refine hmade.sameFindings.trans (hput.sameFindings ?_ ?_)
  · exact fun above => FileNode.entryFindings_file hsource true above _
  · intro old hlookup above
    cases old with
    | file content => exact FileNode.entryFindings_file hsource true above content
    | directory lost own => exact absurd hlookup (hput.free lost own)

/-- A search of a directory comes upon the same after the file has been saved. -/
theorem node?_save_of_not_source {tree written : FileTree} {path text source : String}
    {entries : List (String × FileNode)} (h : tree.save path text = (written, none))
    (hpath : (FilePath.fileName? path).bind FilePath.extension? ≠ some "rs")
    (hsource : tree.node? source = .ok (directory entries access)) :
    ∃ entries', written.node? source = .ok (directory entries' access) ∧
      (directory entries' access).findings source = (directory entries access).findings source := by
  obtain ⟨hne, place, hfollow, hat⟩ := node?_eq_ok_iff.mp hsource
  obtain ⟨entries', hat', hfindings⟩ := sameFindings_save h hpath place entries access hat
  refine ⟨entries', node?_eq_ok_iff.mpr ⟨hne, place, follow_of_grows (grows_save h) hfollow, hat'⟩, ?_⟩
  unfold FileNode.findings
  simp only [FileNode.findingsAt, hfindings]

end FileTree

end SocketDocs
