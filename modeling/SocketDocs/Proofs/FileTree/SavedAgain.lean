import SocketDocs.Proofs.FileTree.Changes

/-!
# Saving again

After a file has been saved, the directories above it are there, so that saving under the same path
always succeeds and replaces the file alone (`save_of_saved`). The same text leaves the tree as it is.
-/

namespace SocketDocs

open FileNode (directory)

namespace FileTree

variable {node : FileNode} {name : String} {place : List String} {access own : Access}

-- ---------------------------------------------------------------------------
-- Nodes that are there
-- ---------------------------------------------------------------------------

theorem setEntry_self {entries : List (String × FileNode)} (h : entries.lookup name = some node) :
    setEntry name node entries = entries := by
  induction entries with
  | nil => cases h
  | cons entry rest ih =>
    obtain ⟨other, old⟩ := entry
    by_cases hother : other = name
    · subst hother
      obtain rfl : old = node := by simpa [List.lookup_cons] using h
      simp [setEntry]
    · have hbeq : (name == other) = false := by simpa using Ne.symm hother
      have hrest : rest.lookup name = some node := by simpa [List.lookup_cons, hbeq] using h
      simp [setEntry, hother, ih hrest]

theorem putIn_self {entries : List (String × FileNode)} (hplace : place ≠ [])
    (h : (directory entries access).at? place = some node) : putIn node place entries = entries := by
  induction place generalizing entries access with
  | nil => exact absurd rfl hplace
  | cons first rest ih =>
    obtain ⟨inside, hfirst, hrest⟩ := FileNode.at?_cons.mp h
    rcases rest with _ | ⟨second, more⟩
    · obtain rfl : inside = node := by simpa [FileNode.at?] using hrest
      exact setEntry_self hfirst
    · cases inside with
      | file => cases hrest
      | directory entries' own =>
        rw [putIn_cons (by simp) hfirst, ih (by simp) hrest]
        exact setEntry_self hfirst

theorem put_self {tree : FileTree} (hplace : place ≠ []) (h : tree.at? place = some node) :
    tree.put place node = tree := by
  rw [put, putIn_self hplace h]

-- ---------------------------------------------------------------------------
-- Directories that are there
-- ---------------------------------------------------------------------------

theorem exists_follow_of_append {tree : FileTree} {front back start stop : List String}
    (h : tree.follow start (front ++ back) = .ok stop) :
    ∃ middle, tree.follow start front = .ok middle := by
  induction front generalizing start with
  | nil => exact ⟨start, rfl⟩
  | cons part rest ih =>
    rw [List.cons_append] at h
    unfold follow at h ⊢
    split at h
    · split_ifs at h ⊢
      · exact ih h
      · exact ih h
      · exact ih h
      · exact ih h
    · cases h
    · cases h

theorem directory?_of_follow {tree : FileTree} {parts : List String}
    {entries : List (String × FileNode)} (hfollow : tree.follow [] parts = .ok place)
    (hat : tree.at? place = some (directory entries access)) :
    tree.directory? parts = .ok ⟨place, entries, access⟩ := by
  unfold directory?
  rw [hfollow]
  dsimp only [bind, Except.bind]
  rw [hat]
  rfl

theorem searched?_of_follow {tree : FileTree} {parts : List String}
    {entries : List (String × FileNode)} (hfollow : tree.follow [] parts = .ok place)
    (hat : tree.at? place = some (directory entries access)) :
    tree.searched? parts =
      if access.search then .ok ⟨place, entries, access⟩ else .error .noPermission := by
  unfold searched?
  rw [directory?_of_follow hfollow hat]
  rfl

/-- What a path leads to cannot be made. -/
theorem makeDirectory_of_follow {tree : FileTree} {parts : List String} (hparts : parts ≠ [])
    (h : tree.follow [] parts = .ok place) :
    tree.makeDirectory parts = .error .alreadyExists ∨
      tree.makeDirectory parts = .error .noPermission := by
  obtain ⟨front, last, rfl⟩ : ∃ front last, parts = front ++ [last] :=
    ⟨_, _, (List.dropLast_concat_getLast hparts).symm⟩
  obtain ⟨middle, hmiddle⟩ := exists_follow_of_append h
  rw [follow_append hmiddle] at h
  obtain ⟨entries, access, hat⟩ := hasDirectory_iff.mp (hasDirectory_of_follow h)
  have hthere : (isDots last || (entries.lookup last).isSome) = true := by
    unfold follow at h
    rw [hat] at h
    dsimp only at h
    split_ifs at h with hempty hsearch hdot hup hfound
    · simp_all [isDots]
    · simp_all [isDots]
    · simp_all [isDots]
    · simp [hfound]
  unfold makeDirectory
  rw [List.dropLast_concat, searched?_of_follow hmiddle hat, List.getLastD_concat]
  split_ifs with hsearch
  · refine .inl ?_
    dsimp only [bind, Except.bind]
    rw [if_pos hthere]
    rfl
  · exact .inr rfl

theorem makeDirectories_of_there {tree : FileTree} {parts : List String}
    (h : tree.follow [] parts = .ok place) (hplace : tree.hasDirectory place = true)
    (above : List (List String)) : tree.makeDirectories (parts :: above) = (tree, none) := by
  obtain ⟨entries, access, hat⟩ := hasDirectory_iff.mp hplace
  cases parts with
  | nil => rfl
  | cons part rest =>
    unfold makeDirectories
    rcases makeDirectory_of_follow (by simp) h with hmake | hmake
    · rw [hmake]
      simp [unlessThere, directory?_of_follow h hat]
    · rw [hmake]
      simp [unlessThere, directory?_of_follow h hat]

-- ---------------------------------------------------------------------------
-- Files
-- ---------------------------------------------------------------------------

theorem writeFile_of_follow {tree : FileTree} {path : String} {front : List String}
    {entries : List (String × FileNode)} {content : Content} (hpath : path.isEmpty = false)
    (hparts : FilePath.parts path = front ++ [name]) (hname : isDots name = false)
    (hfollow : tree.follow [] front = .ok place)
    (hat : tree.at? place = some (directory entries access)) (hsearch : access.search = true)
    (hfile : entries.lookup name = some (.file content own)) (hwrite : own.write = true)
    (text : String) :
    tree.writeFile path text = .ok (tree.put (place ++ [name]) (.file (.text text) own)) := by
  have hne : (name == "") = false := by
    simp only [isDots, Bool.or_eq_false_iff] at hname
    exact hname.1.1
  have hwhole : ((front ++ [name]).reverse.dropWhile (· == "")).reverse = front ++ [name] := by
    simp [hne]
  unfold writeFile
  dsimp only [bind, Except.bind]
  rw [hparts, hwhole, List.dropLast_concat, searched?_of_follow hfollow hat, if_pos hsearch]
  simp only [hpath, hname, List.getLastD_concat, Nat.lt_irrefl, decide_false, Bool.or_false,
    Bool.false_eq_true, if_false, hfile, written?, hwrite, if_true]
  rfl

/-- After a file has been saved, another text can be saved in its place, and nothing else changes. -/
theorem save_of_saved {tree written : FileTree} {path text : String}
    (h : tree.save path text = (written, none)) :
    ∃ place own, place ≠ [] ∧ written.follow [] (FilePath.parts path) = .ok place ∧
      written.at? place = some (.file (.text text) own) ∧
      ∀ other, written.save path other = (written.put place (.file (.text other) own), none) := by
  obtain ⟨middle, -, hwritten⟩ := save_eq_none h
  obtain ⟨hpath, front, name, above, own, hparts, hput, hwrite, -⟩ := writeFile_eq_ok hwritten
  have hfront : written.follow [] front = .ok above.place := follow_of_grows hput.grows hput.led
  obtain ⟨entries, hat, hfile⟩ := hput.directory
  refine ⟨above.place ++ [name], own, by simp, hparts ▸ hput.follow, hput.at?, ?_⟩
  intro other
  have hagain := writeFile_of_follow hpath hparts hput.named hfront hat hput.search hfile hwrite other
  have hmade : written.makeDirectories ((FilePath.ancestors path).drop 1) = (written, none) := by
    cases habove : (FilePath.ancestors path).drop 1 with
    | nil => rfl
    | cons parts more =>
      have hstart : parts <+: front := by
        refine prefix_of_mem_ancestors hparts hput.named ?_
        rw [habove]
        exact List.mem_cons_self ..
      obtain ⟨rest, hrest⟩ := hstart
      obtain ⟨stop, hstop⟩ := exists_follow_of_append (hrest ▸ hfront)
      exact makeDirectories_of_there hstop (hasDirectory_of_front hfront
        (hasDirectory_iff.mpr ⟨entries, _, hat⟩) ⟨rest, hrest⟩ hstop) more
  unfold save
  dsimp only
  rw [hmade]
  dsimp only
  rw [hagain]

end FileTree

end SocketDocs
