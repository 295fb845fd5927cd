import SocketDocs.Command.Plan
import SocketDocs.Proofs.FileTree.Changes

/-!
# Runs of commands

What each command plans for what it finds, and what comes of a plan: a run that plans to write ends well
exactly if the output can be saved, and then the text is in it.
-/

namespace SocketDocs

-- ---------------------------------------------------------------------------
-- Plans
-- ---------------------------------------------------------------------------

open FileNode (directory)

theorem Extraction.ofRoot_directory {source : String} {entries : List (String × FileNode)}
    {access : Access} {sources : List FoundFile}
    (h : search source (directory entries access) = .ok sources) :
    ofRoot source (.ok (directory entries access)) = ofSources sources := by
  unfold ofRoot
  dsimp only
  rw [h]
  rfl

theorem Extraction.search_of_ofRoot {source : String} {entries : List (String × FileNode)}
    {access : Access} {extraction : Extraction}
    (h : ofRoot source (.ok (directory entries access)) = .ok extraction) :
    ∃ sources, search source (directory entries access) = .ok sources ∧
      ofSources sources = .ok extraction := by
  unfold ofRoot at h
  dsimp only at h
  cases hsearch : search source (directory entries access) with
  | error fault =>
    rw [hsearch] at h
    cases h
  | ok sources =>
    rw [hsearch] at h
    exact ⟨sources, rfl, h⟩

namespace Plan

variable {source output file text : String} {format : Format} {document : Document}
  {found : Except FileProblem FileNode}

theorem generate_directory (source output : String) (format : Format)
    (entries : List (String × FileNode)) (access : Access) :
    generate source output format (.ok (directory entries access)) =
      generateFrom source output format (Extraction.search source (directory entries access)) := rfl

theorem generate_of_ok {extraction : Extraction}
    (h : Extraction.ofRoot source found = .ok extraction) :
    (generate source output format found).ending =
      .write ⟨output, extraction.document.withDefaults.text format, summary extraction output⟩ := by
  rcases found with problem | (content | ⟨entries, access⟩)
  · cases h
  · cases h
  · obtain ⟨sources, hsearch, hsources⟩ := Extraction.search_of_ofRoot h
    rw [generate_directory, hsearch]
    unfold generateFrom
    dsimp only
    rw [hsources]

/-- There is no directory to search, one in it cannot be listed, or a source file has a fault. -/
theorem generate_of_error {fault : Fault} (h : Extraction.ofRoot source found = .error fault)
    (output : String) (format : Format) :
    ((∀ entries access, found ≠ .ok (directory entries access)) ∧
      (generate source output format found).ending = .fail (.noSourceDirectory source)) ∨
    ∃ entries access, found = .ok (directory entries access) ∧
      (Extraction.search source (directory entries access) = .error fault ∨
        ∃ sources, Extraction.search source (directory entries access) = .ok sources ∧
          Extraction.ofSources sources = .error fault) ∧
      (generate source output format found).ending = .fail (.extraction source fault) := by
  rcases found with problem | (content | ⟨entries, access⟩)
  · exact .inl ⟨by simp, rfl⟩
  · exact .inl ⟨by simp, rfl⟩
  · refine .inr ⟨entries, access, rfl, ?_⟩
    rw [generate_directory]
    cases hsearch : Extraction.search source (directory entries access) with
    | error fault' =>
      unfold Extraction.ofRoot at h
      dsimp only at h
      rw [hsearch] at h
      cases h
      exact ⟨.inl rfl, rfl⟩
    | ok sources =>
      rw [Extraction.ofRoot_directory hsearch] at h
      unfold generateFrom
      dsimp only
      rw [h]
      exact ⟨.inr ⟨sources, rfl, h⟩, rfl⟩

theorem generate_cases (source output : String) (format : Format)
    (found : Except FileProblem FileNode) :
    (∃ failure, (generate source output format found).ending = .fail failure) ∨
    ∃ extraction, Extraction.ofRoot source found = .ok extraction ∧
      (generate source output format found).ending =
        .write ⟨output, extraction.document.withDefaults.text format, summary extraction output⟩ := by
  cases h : Extraction.ofRoot source found with
  | ok extraction => exact .inr ⟨extraction, rfl, generate_of_ok h⟩
  | error fault =>
    rcases generate_of_error h output format with ⟨-, hfail⟩ | ⟨-, -, -, -, hfail⟩
    · exact .inl ⟨_, hfail⟩
    · exact .inl ⟨_, hfail⟩

theorem text?_eq_ok_iff {node : FileNode} :
    node.text? = .ok text ↔ ∃ access, node = .file (.text text) access ∧ access.read = true := by
  rcases node with ⟨(kept | bytes), access⟩ | ⟨entries, access⟩ <;>
    cases hread : access.read <;> simp [FileNode.text?, hread, and_comm]

theorem load_eq_ok_iff (h : found.bind FileNode.text? = .ok text) :
    load file found = .ok document ↔ Document.ofYaml? text = some document := by
  unfold load
  rw [h]
  dsimp only
  split <;> simp [*]

theorem load_file_iff {own : Access} (hopens : own.read = true) :
    load file (.ok (.file (.text text) own)) = .ok document ↔
      Document.ofYaml? text = some document :=
  load_eq_ok_iff (text?_eq_ok_iff.mpr ⟨own, rfl, hopens⟩)

theorem validate_of_load (h : load file found = .ok document) :
    (validate file found).ending =
      if document.problems.isEmpty then .done
      else .fail (.invalid file document.problems.length) := by
  unfold validate
  rw [h]
  cases hproblems : document.problems <;> simp [hproblems]

theorem reformat_of_load (h : load file found = .ok document) (target : Option String) :
    (reformat file target found).ending =
      .write ⟨target.getD file, document.text .yaml, [reformatLine file (target.getD file)]⟩ := by
  unfold reformat
  rw [h]

theorem reformat_of_error {fault : Fault} (h : load file found = .error fault)
    (target : Option String) :
    (reformat file target found).ending = .fail (.loading file fault) := by
  unfold reformat
  rw [h]

theorem validate_ne_write (file : String) (found : Except FileProblem FileNode)
    (writing : Writing) : (validate file found).ending ≠ .write writing := by
  unfold validate
  split
  · simp
  · split <;> simp

end Plan

-- ---------------------------------------------------------------------------
-- Runs
-- ---------------------------------------------------------------------------

namespace Command

variable {source output file : String} {format : Format} {document : Document} {tree : FileTree}

theorem run_of_fail (command : Command) {failure : Failure}
    (h : (command.plan (tree.node? command.input)).ending = .fail failure) :
    (command.run tree).tree = tree ∧ (command.run tree).failure = some failure := by
  unfold run
  dsimp only
  rw [h]
  exact ⟨rfl, rfl⟩

theorem tree_of_not_write (command : Command)
    (h : ∀ writing, (command.plan (tree.node? command.input)).ending ≠ .write writing) :
    (command.run tree).tree = tree := by
  unfold run
  dsimp only
  split
  · rfl
  · rfl
  · exact absurd ‹_› (h _)

theorem run_of_saved (command : Command) {writing : Writing} {written : FileTree}
    (h : (command.plan (tree.node? command.input)).ending = .write writing)
    (hsave : tree.save writing.path writing.text = (written, none)) :
    command.run tree = {
      tree := written
      log := (command.plan (tree.node? command.input)).log ++ writing.log
      output := (command.plan (tree.node? command.input)).output
      failure := none } := by
  unfold run
  dsimp only
  rw [h]
  dsimp only
  rw [hsave]

theorem run_of_unsaved (command : Command) {writing : Writing} {problem : String × FileProblem}
    (h : (command.plan (tree.node? command.input)).ending = .write writing)
    (hsave : (tree.save writing.path writing.text).2 = some problem) :
    (command.run tree).failure = some (.writing (.unwritable problem.1 problem.2)) := by
  unfold run
  dsimp only
  rw [h]
  dsimp only
  split
  · rename_i hnone
    rw [hnone] at hsave
    cases hsave
  · rename_i hsome
    rw [hsome] at hsave
    cases hsave
    rfl

theorem exists_save_of_run (command : Command) {writing : Writing}
    (h : (command.plan (tree.node? command.input)).ending = .write writing)
    (hdone : (command.run tree).failure = none) :
    ∃ written, tree.save writing.path writing.text = (written, none) := by
  cases hsave : tree.save writing.path writing.text with
  | mk written problem? =>
    cases problem? with
    | none => exact ⟨written, rfl⟩
    | some problem =>
      rw [run_of_unsaved command h (congrArg Prod.snd hsave)] at hdone
      cases hdone

theorem failure_of_saved (command : Command) {writing : Writing}
    (h : (command.plan (tree.node? command.input)).ending = .write writing)
    (hsave : (tree.save writing.path writing.text).2 = none) :
    (command.run tree).failure = none := by
  cases hsaved : tree.save writing.path writing.text with
  | mk written problem? =>
    obtain rfl : problem? = none := by simpa [hsaved] using hsave
    rw [run_of_saved command h hsaved]

theorem failure_generate {extraction : Extraction}
    (hroot : Extraction.ofRoot source (tree.node? source) = .ok extraction)
    (hsave : ∀ text, (tree.save output text).2 = none) :
    ((generate source output format).run tree).failure = none :=
  failure_of_saved (generate source output format) (Plan.generate_of_ok hroot) (hsave _)

theorem failure_reformat {target : Option String}
    (hload : Plan.load file (tree.node? file) = .ok document)
    (hsave : ∀ text, (tree.save (target.getD file) text).2 = none) :
    ((reformat file target).run tree).failure = none :=
  failure_of_saved (reformat file target) (Plan.reformat_of_load hload target) (hsave _)

/-- The output has the access of the file that was there before; a new one has all. -/
theorem node?_of_run (command : Command) {writing : Writing}
    (h : (command.plan (tree.node? command.input)).ending = .write writing)
    (hdone : (command.run tree).failure = none) :
    ∃ place, (command.run tree).tree.follow [] (FilePath.parts writing.path) = .ok place ∧
      (command.run tree).tree.node? writing.path =
        .ok (.file (.text writing.text) ((tree.access? place).getD {})) := by
  obtain ⟨written, hsave⟩ := exists_save_of_run command h hdone
  rw [run_of_saved command h hsave]
  exact FileTree.node?_save hsave

theorem run_generate (h : ((generate source output format).run tree).failure = none) :
    ∃ extraction place, Extraction.ofRoot source (tree.node? source) = .ok extraction ∧
      ((generate source output format).run tree).tree.follow [] (FilePath.parts output) =
        .ok place ∧
      ((generate source output format).run tree).tree.node? output =
        .ok (.file (.text (extraction.document.withDefaults.text format))
          ((tree.access? place).getD {})) := by
  let command := generate source output format
  rcases Plan.generate_cases source output format (tree.node? source) with
    ⟨failure, hfail⟩ | ⟨extraction, hextraction, hwrite⟩
  · rw [(run_of_fail command hfail).2] at h
    cases h
  · obtain ⟨place, hfollow, hnode⟩ := node?_of_run command hwrite h
    exact ⟨extraction, place, hextraction, hfollow, hnode⟩

theorem failure_validate (h : Plan.load file (tree.node? file) = .ok document) :
    ((validate file).run tree).failure =
      if document.problems.isEmpty then none
      else some (.invalid file document.problems.length) := by
  unfold run
  dsimp only [input, plan]
  rw [Plan.validate_of_load h]
  cases document.problems.isEmpty <;> rfl

end Command

end SocketDocs
