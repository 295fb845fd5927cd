import SocketDocs.Extraction.FromTree

/-!
# The first fault of an extraction

A search goes on from directory to directory in the order of their names, and the first that cannot
be listed stops the extraction before any file is opened. Otherwise the source files are read in the
order of their names, component by component, and the first that cannot be opened, read or parsed
stops it (`exists_firstFault`).
-/

namespace SocketDocs

theorem mapM_eq_error {ε α β : Type} {f : α → Except ε β} {l : List α} {e : ε}
    (h : l.mapM f = .error e) :
    ∃ front a back, l = front ++ a :: back ∧ (∀ b ∈ front, ∃ c, f b = .ok c) ∧ f a = .error e := by
  induction l with
  | nil => cases h
  | cons a l ih =>
    rw [List.mapM_cons] at h
    cases ha : f a with
    | error e' =>
      rw [ha] at h
      cases h
      exact ⟨[], a, l, rfl, by simp, ha⟩
    | ok c =>
      cases hl : l.mapM f with
      | ok cs =>
        rw [ha, hl] at h
        cases h
      | error e' =>
        rw [ha, hl] at h
        cases h
        obtain ⟨front, b, back, rfl, hfront, hb⟩ := ih hl
        exact ⟨a :: front, b, back, rfl, List.forall_mem_cons.mpr ⟨⟨c, ha⟩, hfront⟩, hb⟩

theorem mapM_of_mapM {ε α β γ : Type} {f : α → Except ε β} {l : List α} {bs : List β}
    (h : l.mapM f = .ok bs) (g : β → Except ε γ) : bs.mapM g = l.mapM fun a => f a >>= g := by
  induction l generalizing bs with
  | nil =>
    cases h
    rfl
  | cons a l ih =>
    rw [List.mapM_cons] at h
    cases ha : f a with
    | error e =>
      rw [ha] at h
      cases h
    | ok b =>
      cases hl : l.mapM f with
      | error e =>
        rw [ha, hl] at h
        cases h
      | ok rest =>
        rw [ha, hl] at h
        cases h
        rw [List.mapM_cons, List.mapM_cons, ih hl, ha]
        rfl

theorem exists_of_mapM {ε α β : Type} {f : α → Except ε β} {l : List α} {bs : List β}
    (h : l.mapM f = .ok bs) {a : α} (ha : a ∈ l) : ∃ b, f a = .ok b := by
  induction l generalizing bs with
  | nil => cases ha
  | cons c l ih =>
    rw [List.mapM_cons] at h
    cases hc : f c with
    | error e =>
      rw [hc] at h
      cases h
    | ok b =>
      cases hl : l.mapM f with
      | error e =>
        rw [hc, hl] at h
        cases h
      | ok rest =>
        rcases List.mem_cons.mp ha with rfl | ha
        · exact ⟨b, hc⟩
        · exact ih hl ha

namespace FileNode

theorem mem_findings {path : String} {node : FileNode} {found : List String × Finding} :
    found ∈ node.findings path ↔
      found ∈ findingsAt true [] ((FilePath.fileName? path).getD "") node :=
  List.mem_mergeSort

/-- Findings that are in order are not rearranged. -/
theorem findings_of_ordered {path : String} {node : FileNode} {l : List (List String × Finding)}
    (h : findingsAt true [] ((FilePath.fileName? path).getD "") node = l)
    (hl : l.Pairwise fun a b => (!decide (b.1 < a.1)) = true) : node.findings path = l := by
  rw [findings, h, List.mergeSort_of_pairwise hl]

theorem findings_ordered (path : String) (node : FileNode) :
    (node.findings path).Pairwise fun a b => ¬b.1 < a.1 := by
  have hle : ∀ a b : List String × Finding, (!decide (b.1 < a.1)) = true ↔ ¬b.1 < a.1 := by
    simp
  have htrans : ∀ a b c : List String × Finding, (!decide (b.1 < a.1)) = true →
      (!decide (c.1 < b.1)) = true → (!decide (c.1 < a.1)) = true := by
    intro a b c hab hbc
    rw [hle] at hab hbc ⊢
    exact List.not_lt.mpr (List.le_trans (List.not_lt.mp hab) (List.not_lt.mp hbc))
  have htotal : ∀ a b : List String × Finding,
      (!decide (b.1 < a.1) || !decide (a.1 < b.1)) = true := by
    intro a b
    rw [Bool.or_eq_true, hle, hle]
    exact (List.le_total a.1 b.1).imp List.not_lt.mpr List.not_lt.mpr
  exact (List.pairwise_mergeSort htrans htotal _).imp fun hab => (hle _ _).mp hab

end FileNode

namespace Extraction

open FileNode (findingsAt findings_of_ordered)

variable {source : String} {node : FileNode} {fault : Fault}

theorem search_of_ordered {l : List (List String × Finding)} {files : Except Fault (List FoundFile)}
    (h : findingsAt true [] ((FilePath.fileName? source).getD "") node = l)
    (hl : l.Pairwise fun a b => (!decide (b.1 < a.1)) = true)
    (hfiles : l.mapM (Finding.file source) = files) : search source node = files := by
  rw [search, findings_of_ordered h hl, hfiles]

theorem ofRoot_empty (source : String) : ofRoot source (.ok (.directory [])) = .ok (ofFiles []) := by
  have hsearch : search source (.directory []) = .ok [] := search_of_ordered rfl .nil rfl
  rw [ofRoot, hsearch]
  rfl

theorem exists_first_of_mapM {β : Type} {f : List String × Finding → Except Fault β}
    (h : (node.findings source).mapM f = .error fault) :
    ∃ found ∈ node.findings source, f found = .error fault ∧
      ∀ earlier ∈ node.findings source, earlier.1 < found.1 → ∃ b, f earlier = .ok b := by
  obtain ⟨front, found, back, hsplit, hfront, hfault⟩ := mapM_eq_error h
  have hsorted := node.findings_ordered source
  rw [hsplit, List.pairwise_append, List.pairwise_cons] at hsorted
  obtain ⟨-, ⟨hlater, -⟩, -⟩ := hsorted
  rw [hsplit]
  refine ⟨found, by simp, hfault, ?_⟩
  intro earlier hmem hless
  rw [List.mem_append, List.mem_cons] at hmem
  rcases hmem with hbefore | rfl | hafter
  · exact hfront earlier hbefore
  · exact absurd hless (List.lt_irrefl _)
  · exact absurd hless (hlater earlier hafter)

/-- A directory that cannot be listed, while all those before it can. -/
structure FirstUnlisted (source : String) (node : FileNode) (names : List String) (fault : Fault) :
    Prop where
  unlisted : (names, .unlisted) ∈ node.findings source
  named : fault = .unreadable (FilePath.below source names) .noPermission
  first : ∀ earlier ∈ node.findings source, earlier.1 < names → earlier.2 ≠ .unlisted

/-- A source file with a fault, while all directories can be listed and all sources before the file
can be read. -/
structure FirstFault (source : String) (node : FileNode) (names : List String) (fault : Fault) :
    Prop where
  listed : ∀ found ∈ node.findings source, found.2 ≠ .unlisted
  failed : ∃ content opens, (names, .source content opens) ∈ node.findings source ∧
    FoundFile.load ⟨FilePath.below source names, content, opens⟩ = .error fault
  /-- The file cannot be opened, is not UTF-8 or is no valid source, and the fault tells where it
  is. -/
  named : fault = .unreadable (FilePath.below source names) .noPermission ∨
    fault = .unreadable (FilePath.below source names) .notText ∨
    fault = .unparsable (FilePath.below source names)
  first : ∀ earlier ∈ node.findings source, earlier.1 < names →
    ∃ content opens file, earlier.2 = .source content opens ∧
      FoundFile.load ⟨FilePath.below source earlier.1, content, opens⟩ = .ok file

theorem fault_of_load {found : FoundFile} (h : found.load = .error fault) :
    fault = .unreadable found.path .noPermission ∨ fault = .unreadable found.path .notText ∨
      fault = .unparsable found.path := by
  unfold FoundFile.load at h
  split at h
  · split at h
    · cases h
      exact .inr (.inl rfl)
    · split at h <;> cases h
      exact .inr (.inr rfl)
  · cases h
    exact .inl rfl

theorem exists_source_of_file {found : List String × Finding} {file : FoundFile}
    (h : Finding.file source found = .ok file) :
    ∃ content opens, found.2 = .source content opens ∧
      file = ⟨FilePath.below source found.1, content, opens⟩ := by
  unfold Finding.file at h
  dsimp only at h
  split at h
  · cases h
    exact ⟨_, _, ‹_›, rfl⟩
  · cases h

theorem exists_firstUnlisted (h : search source node = .error fault) :
    ∃ names, FirstUnlisted source node names fault := by
  obtain ⟨⟨names, finding⟩, hmem, hfault, hfirst⟩ := exists_first_of_mapM h
  cases finding with
  | source content opens => cases hfault
  | unlisted =>
    cases hfault
    refine ⟨names, hmem, rfl, ?_⟩
    intro earlier hearlier hless
    obtain ⟨file, hfile⟩ := hfirst earlier hearlier hless
    obtain ⟨content, opens, hsource, -⟩ := exists_source_of_file hfile
    simp [hsource]

theorem exists_firstFault {files : List FoundFile} (hsearch : search source node = .ok files)
    (h : ofSources files = .error fault) : ∃ names, FirstFault source node names fault := by
  have hload : files.mapM FoundFile.load = .error fault := by
    unfold ofSources at h
    dsimp only [bind, Except.bind] at h
    split at h
    · cases h
      assumption
    · cases h
  have hsources : ∀ found ∈ node.findings source, ∃ content opens,
      found.2 = .source content opens ∧ Finding.file source found =
        .ok ⟨FilePath.below source found.1, content, opens⟩ := by
    intro found hfound
    obtain ⟨file, hfile⟩ := exists_of_mapM hsearch hfound
    obtain ⟨content, opens, hsource, rfl⟩ := exists_source_of_file hfile
    exact ⟨content, opens, hsource, hfile⟩
  rw [mapM_of_mapM hsearch] at hload
  obtain ⟨⟨names, finding⟩, hmem, hfault, hfirst⟩ := exists_first_of_mapM hload
  obtain ⟨content, opens, rfl, hfile⟩ := hsources _ hmem
  rw [hfile] at hfault
  refine ⟨names, ?_, ⟨content, opens, hmem, hfault⟩, fault_of_load hfault, ?_⟩
  · intro found hfound
    obtain ⟨content, opens, hsource, -⟩ := hsources found hfound
    simp [hsource]
  · intro earlier hearlier hless
    obtain ⟨content, opens, hsource, hearlierFile⟩ := hsources earlier hearlier
    obtain ⟨file, hloaded⟩ := hfirst earlier hearlier hless
    rw [hearlierFile] at hloaded
    exact ⟨content, opens, file, hsource, hloaded⟩

end Extraction

end SocketDocs
