import Mathlib.Tactic.SplitIfs
import SocketDocs.FileTree

/-!
# Saved files are found

A file that was written is found under its path, with its text and the access that it had
(`node?_writeFile`). Writing only adds to the directories of a tree, so the way to the file stays open,
through points and double points as well.
-/

namespace SocketDocs

open FileNode (directory)

namespace FileNode

def access : FileNode → Access
  | .file _ access => access
  | .directory _ access => access

theorem at?_cons {entries : List (String × FileNode)} {access : Access} {name : String}
    {rest : List String} {node : FileNode} :
    (directory entries access).at? (name :: rest) = some node ↔
      ∃ inside, entries.lookup name = some inside ∧ inside.at? rest = some node := by
  rw [at?]
  cases entries.lookup name <;> simp

theorem at?_append (node : FileNode) (front back : List String) :
    node.at? (front ++ back) = (node.at? front).bind (·.at? back) := by
  induction front generalizing node with
  | nil => rfl
  | cons name rest ih =>
    cases node with
    | file => rfl
    | directory entries access =>
      rw [List.cons_append, at?, at?]
      cases entries.lookup name with
      | none => rfl
      | some inside => exact ih inside

theorem eq_directory_of_at? {node : FileNode} {place : List String}
    {entries : List (String × FileNode)} {access : Access}
    (h : node.at? place = some (directory entries access)) :
    ∃ inside own, node = directory inside own := by
  cases node with
  | directory inside own => exact ⟨inside, own, rfl⟩
  | file => cases place <;> simp [at?] at h

end FileNode

namespace FileTree

variable {node : FileNode} {name : String} {place : List String} {access own : Access}

def access? (tree : FileTree) (place : List String) : Option Access :=
  (tree.at? place).map FileNode.access

theorem putIn_cons {first : String} {rest : List String} (hrest : rest ≠ [])
    {entries inside : List (String × FileNode)}
    (h : entries.lookup first = some (directory inside access)) :
    putIn node (first :: rest) entries =
      setEntry first (directory (putIn node rest inside) access) entries := by
  obtain ⟨second, more, rfl⟩ := List.exists_cons_of_ne_nil hrest
  rw [putIn, h]
  · rfl
  · simp

theorem at?_putIn {entries inside : List (String × FileNode)}
    (h : (directory entries own).at? place = some (directory inside access)) :
    (directory (putIn node (place ++ [name]) entries) own).at? (place ++ [name]) = some node := by
  induction place generalizing entries own with
  | nil => simp [putIn, lookup_setEntry_self, FileNode.at?]
  | cons first rest ih =>
    obtain ⟨next, hnext, hrest⟩ := FileNode.at?_cons.mp h
    obtain ⟨entries', own', rfl⟩ := FileNode.eq_directory_of_at? hrest
    rw [List.cons_append, putIn_cons (by simp) hnext, FileNode.at?_cons]
    exact ⟨_, lookup_setEntry_self .., ih hrest⟩

/-- The directories of a tree are those of another one, with as many names or more. -/
def Grows (before after : FileNode) : Prop :=
  ∀ place entries access, before.at? place = some (directory entries access) →
    ∃ entries', after.at? place = some (directory entries' access) ∧
      ∀ name, (entries.lookup name).isSome → (entries'.lookup name).isSome

theorem Grows.trans {before middle after : FileNode} (h : Grows before middle)
    (h' : Grows middle after) : Grows before after := by
  intro place entries access hat
  obtain ⟨entries', hat', hnames⟩ := h place entries access hat
  obtain ⟨entries'', hat'', hnames'⟩ := h' place entries' access hat'
  exact ⟨entries'', hat'', fun name hname => hnames' name (hnames name hname)⟩

theorem isSome_lookup_setEntry {entries : List (String × FileNode)} {asked : String}
    (h : (entries.lookup asked).isSome) : ((setEntry name node entries).lookup asked).isSome := by
  by_cases heq : asked = name
  · rw [heq, lookup_setEntry_self]
    rfl
  · rwa [lookup_setEntry_of_ne heq]

theorem grows_setEntry {entries : List (String × FileNode)}
    (h : ∀ old, entries.lookup name = some old → Grows old node) :
    Grows (directory entries access) (directory (setEntry name node entries) access) := by
  rintro (_ | ⟨first, rest⟩) inside own hat
  · cases hat
    exact ⟨_, rfl, fun _ => isSome_lookup_setEntry⟩
  · obtain ⟨next, hnext, hrest⟩ := FileNode.at?_cons.mp hat
    by_cases heq : first = name
    · subst heq
      obtain ⟨inside', hinside', hlookup⟩ := h next hnext rest inside own hrest
      exact ⟨inside', FileNode.at?_cons.mpr ⟨node, lookup_setEntry_self .., hinside'⟩, hlookup⟩
    · refine ⟨inside, FileNode.at?_cons.mpr ⟨next, ?_, hrest⟩, fun _ h => h⟩
      rwa [lookup_setEntry_of_ne heq]

theorem grows_putIn {entries inside : List (String × FileNode)}
    (h : (directory entries own).at? place = some (directory inside access))
    (hname : ∀ lost own, inside.lookup name ≠ some (directory lost own)) :
    Grows (directory entries own) (directory (putIn node (place ++ [name]) entries) own) := by
  induction place generalizing entries own with
  | nil =>
    cases h
    refine grows_setEntry ?_
    intro old hold place entries' access hat
    obtain ⟨lost, own, rfl⟩ := FileNode.eq_directory_of_at? hat
    exact absurd hold (hname lost own)
  | cons first rest ih =>
    obtain ⟨next, hnext, hrest⟩ := FileNode.at?_cons.mp h
    obtain ⟨entries', own', rfl⟩ := FileNode.eq_directory_of_at? hrest
    rw [List.cons_append, putIn_cons (by simp) hnext]
    refine grows_setEntry ?_
    intro old hold
    rw [hnext] at hold
    cases hold
    exact ih hrest

theorem follow_of_grows {before after : FileTree}
    (h : Grows before.top after.top) {parts : List String}
    {start stop : List String} (hfollow : before.follow start parts = .ok stop) :
    after.follow start parts = .ok stop := by
  induction parts generalizing start with
  | nil => exact hfollow
  | cons part rest ih =>
    unfold follow at hfollow ⊢
    cases hat : before.at? start with
    | none =>
      rw [hat] at hfollow
      cases hfollow
    | some found =>
      rw [hat] at hfollow
      cases found with
      | file => cases hfollow
      | directory entries access =>
        obtain ⟨entries', hat', hlookup⟩ := h start entries access hat
        rw [at?, hat']
        simp only at hfollow ⊢
        split_ifs at hfollow ⊢ with hempty hsearch hdot hup hfound' hfound hfound
        · exact ih hfollow
        · exact ih hfollow
        · exact ih hfollow
        · exact ih hfollow
        · exact absurd (hlookup part hfound) hfound'

theorem follow_append {tree : FileTree} {front back start middle : List String}
    (h : tree.follow start front = .ok middle) :
    tree.follow start (front ++ back) = tree.follow middle back := by
  induction front generalizing start with
  | nil =>
    cases h
    rfl
  | cons part rest ih =>
    unfold follow at h
    rw [List.cons_append, follow]
    cases hat : tree.at? start with
    | none =>
      rw [hat] at h
      cases h
    | some found =>
      rw [hat] at h
      cases found with
      | file => cases h
      | directory entries access =>
        simp only at h ⊢
        split_ifs at h ⊢
        · exact ih h
        · exact ih h
        · exact ih h
        · exact ih h

theorem at?_concat {tree : FileTree} {entries : List (String × FileNode)}
    (hat : tree.at? place = some (directory entries access)) (name : String) :
    tree.at? (place ++ [name]) = entries.lookup name := by
  rw [at?, FileNode.at?_append, ← at?, hat, Option.bind_some, FileNode.at?]
  cases entries.lookup name <;> rfl

-- ---------------------------------------------------------------------------
-- Putting
-- ---------------------------------------------------------------------------

/-- A node is put under a name that no directory has, into the directory that a path leads to. -/
structure Puts (tree : FileTree) (front : List String) (name : String) (above : FoundDirectory)
    (node : FileNode) (after : FileTree) : Prop where
  named : isDots name = false
  led : tree.follow [] front = .ok above.place
  found : tree.at? above.place = some (directory above.entries above.access)
  search : above.access.search = true
  free : ∀ lost own, above.entries.lookup name ≠ some (directory lost own)
  put : after = tree.put (above.place ++ [name]) node

namespace Puts

variable {tree after : FileTree} {front : List String} {above : FoundDirectory}

theorem grows (h : tree.Puts front name above node after) : Grows tree.top after.top :=
  h.put ▸ grows_putIn h.found h.free

theorem at? (h : tree.Puts front name above node after) :
    after.at? (above.place ++ [name]) = some node :=
  h.put ▸ at?_putIn h.found

theorem directory (h : tree.Puts front name above node after) :
    ∃ entries, after.at? above.place = some (directory entries above.access) ∧
      entries.lookup name = some node := by
  obtain ⟨entries, hat, -⟩ := h.grows _ _ _ h.found
  exact ⟨entries, hat, (at?_concat hat name).symm.trans h.at?⟩

theorem follow (h : tree.Puts front name above node after) :
    after.follow [] (front ++ [name]) = .ok (above.place ++ [name]) := by
  obtain ⟨entries, hat, hlookup⟩ := h.directory
  have hname := h.named
  simp only [isDots, Bool.or_eq_false_iff] at hname
  rw [follow_append (follow_of_grows h.grows h.led), FileTree.follow, hat]
  simp [hname, hlookup, h.search, FileTree.follow]

end Puts

-- ---------------------------------------------------------------------------
-- Files
-- ---------------------------------------------------------------------------

theorem directory?_eq_ok {tree : FileTree} {parts : List String} {found : FoundDirectory}
    (h : tree.directory? parts = .ok found) :
    tree.follow [] parts = .ok found.place ∧
      tree.at? found.place = some (directory found.entries found.access) := by
  unfold directory? at h
  cases hfollow : tree.follow [] parts with
  | error problem =>
    rw [hfollow] at h
    cases h
  | ok place =>
    rw [hfollow] at h
    dsimp only [bind, Except.bind] at h
    split at h <;> cases h
    exact ⟨rfl, ‹_›⟩

theorem searched?_eq_ok {tree : FileTree} {parts : List String} {found : FoundDirectory}
    (h : tree.searched? parts = .ok found) :
    tree.follow [] parts = .ok found.place ∧
      tree.at? found.place = some (directory found.entries found.access) ∧
      found.access.search = true := by
  unfold searched? at h
  cases hdirectory : tree.directory? parts with
  | error problem =>
    rw [hdirectory] at h
    cases h
  | ok directory =>
    rw [hdirectory] at h
    dsimp only [bind, Except.bind] at h
    split_ifs at h with hsearch
    cases h
    obtain ⟨hfollow, hat⟩ := directory?_eq_ok hdirectory
    exact ⟨hfollow, hat, hsearch⟩

theorem dropLast_concat_of_not_dots {parts : List String}
    (h : isDots (parts.getLastD "") = false) :
    parts.dropLast ++ [parts.getLastD ""] = parts := by
  have hne : parts ≠ [] := by
    rintro rfl
    cases h
  rw [List.getLastD_eq_getLast?, List.getLast?_eq_some_getLast hne, Option.getD_some,
    List.dropLast_concat_getLast hne]

theorem written?_eq_ok {above own : Access} {text : String} {old : Option FileNode}
    (h : written? above text old = .ok node) (hown : own = (old.map FileNode.access).getD {}) :
    (∀ lost own, old ≠ some (directory lost own)) ∧ node = .file (.text text) own ∧
      own.write = true := by
  subst hown
  unfold written? at h
  split at h
  · cases h
  · split_ifs at h with hwrite
    cases h
    exact ⟨by simp, rfl, hwrite⟩
  · split_ifs at h
    cases h
    exact ⟨by simp, rfl, rfl⟩

/-- What writing a file does: it puts the file, with the access of the one that was there before. -/
theorem writeFile_eq_ok {tree written : FileTree} {path text : String}
    (h : tree.writeFile path text = .ok written) :
    path.isEmpty = false ∧ ∃ front name above own, FilePath.parts path = front ++ [name] ∧
      tree.Puts front name above (.file (.text text) own) written ∧ own.write = true ∧
      own = (tree.access? (above.place ++ [name])).getD {} := by
  unfold writeFile at h
  dsimp only [bind, Except.bind] at h
  split at h
  · cases h
  rename_i hpath
  refine ⟨by simpa using hpath, ?_⟩
  split at h
  · cases h
  rename_i above hsearched
  generalize hparts : FilePath.parts path = parts at h hsearched
  split_ifs at h with hname
  simp only [Bool.or_eq_true, decide_eq_true_eq, not_or, Nat.not_lt, Bool.not_eq_true] at hname
  obtain ⟨hlength, hdots⟩ := hname
  -- no empty part was dropped at the end
  have hwhole : (parts.reverse.dropWhile (· == "")).reverse = parts := by
    have hsub : (parts.reverse.dropWhile (· == "")).reverse.Sublist parts :=
      List.reverse_sublist.mpr (List.dropWhile_sublist _) |>.trans (by simp)
    exact hsub.eq_of_length_le hlength
  rw [hwhole] at h hsearched hdots
  obtain ⟨hfollow, hat, hsearch⟩ := searched?_eq_ok hsearched
  split at h
  · cases h
  rename_i node hnode
  cases h
  obtain ⟨hfree, rfl, hwrite⟩ := written?_eq_ok hnode rfl
  refine ⟨parts.dropLast, parts.getLastD "", above, _, (dropLast_concat_of_not_dots hdots).symm,
    ⟨hdots, hfollow, hat, hsearch, hfree, rfl⟩, hwrite, ?_⟩
  rw [access?, at?_concat hat]

theorem node?_eq_ok_iff {tree : FileTree} {path : String} :
    tree.node? path = .ok node ↔ path.isEmpty = false ∧
      ∃ place, tree.follow [] (FilePath.parts path) = .ok place ∧ tree.at? place = some node := by
  unfold node?
  cases hpath : path.isEmpty with
  | true => simp [bind, Except.bind, throw, throwThe, MonadExceptOf.throw]
  | false =>
    cases hfollow : tree.follow [] (FilePath.parts path) with
    | error problem => simp [bind, Except.bind]
    | ok place =>
      cases hat : tree.at? place <;>
        simp [bind, Except.bind, pure, Except.pure, hat, throw, throwThe, MonadExceptOf.throw]

theorem node?_writeFile {tree written : FileTree} {path text : String}
    (h : tree.writeFile path text = .ok written) :
    ∃ place, written.follow [] (FilePath.parts path) = .ok place ∧
      written.node? path = .ok (.file (.text text) ((tree.access? place).getD {})) := by
  obtain ⟨hpath, front, name, above, own, hparts, hput, -, rfl⟩ := writeFile_eq_ok h
  have hfollow := hput.follow
  rw [← hparts] at hfollow
  exact ⟨_, hfollow, node?_eq_ok_iff.mpr ⟨hpath, _, hfollow, hput.at?⟩⟩

end FileTree

end SocketDocs
