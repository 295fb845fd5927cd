import SocketDocs.Proofs.Command.Effects
import SocketDocs.Proofs.Document.Canonical
import SocketDocs.Proofs.FileTree.SavedAgain
import SocketDocs.Proofs.FileTree.SourcesKept

/-!
# Running a command again

A run that comes to the same plan has the same outcome. Generation does, as its output is no source,
and formatting does if its output is not its input. In place, formatting reads its own output: it has
the same outcome if the document has no nulls. With nulls, they are unset and the second run drops
them, and only from then on nothing changes (`Command.run_again`).
-/

namespace SocketDocs

-- ---------------------------------------------------------------------------
-- Places
-- ---------------------------------------------------------------------------

namespace FileTree

variable {tree written : FileTree} {path other text : String} {content : Content} {own : Access}

def SamePlace (tree : FileTree) (path other : String) : Prop :=
  tree.follow [] (FilePath.parts path) = tree.follow [] (FilePath.parts other)

theorem SamePlace.refl (tree : FileTree) (path : String) : tree.SamePlace path path := rfl

theorem follow_name {name : String} {place : List String} (hname : isDots name = false)
    (h : tree.follow [] [name] = .ok place) : place = [name] := by
  simp only [isDots, Bool.or_eq_false_iff] at hname
  unfold follow at h
  split at h
  · simp only [hname, Bool.false_eq_true, if_false] at h
    split at h
    · cases h
    · split at h <;> cases h
      rfl
  · cases h
  · cases h

theorem node?_save_elsewhere (h : tree.save path text = (written, none))
    (hother : tree.node? other = .ok (.file content own)) (hplace : ¬written.SamePlace other path) :
    written.node? other = .ok (.file content own) := by
  obtain ⟨hne, place, hfollow, hat⟩ := node?_eq_ok_iff.mp hother
  have hled := follow_of_grows (grows_save h) hfollow
  have hcontent : written.content? place = tree.content? place := by
    refine (savedAs_of_save h).files place ?_
    intro hpath
    exact hplace (hled.trans hpath.symm)
  have haccess : written.access? place = some own := by
    refine (savedAs_of_save h).accesses place own ?_
    rw [access?, hat]
    rfl
  refine node?_eq_ok_iff.mpr ⟨hne, place, hled, ?_⟩
  unfold content? at hcontent
  rw [hat] at hcontent
  obtain ⟨node, hnode, hfile⟩ := Option.bind_eq_some_iff.mp hcontent
  rw [access?, hnode] at haccess
  rw [hnode]
  cases node <;> cases hfile
  cases haccess
  rfl

theorem node?_save_there (h : tree.save path text = (written, none))
    (hother : tree.node? other = .ok (.file content own)) (hplace : written.SamePlace other path) :
    written.node? other = .ok (.file (.text text) own) := by
  obtain ⟨hne, place, hled, hold⟩ := node?_eq_ok_iff.mp hother
  obtain ⟨there, hthere, hfound⟩ := (savedAs_of_save h).found
  obtain ⟨-, _, hfollow, hat⟩ := node?_eq_ok_iff.mp hfound
  rw [hthere] at hfollow
  cases hfollow
  have hsame := hplace.trans hthere
  rw [follow_of_grows (grows_save h) hled] at hsame
  cases hsame
  rw [access?, hold] at hat
  exact node?_eq_ok_iff.mpr ⟨hne, place, hplace.trans hthere, hat⟩

theorem save_same (h : tree.save path text = (written, none)) :
    written.save path text = (written, none) := by
  obtain ⟨place, own, hplace, -, hat, hsave⟩ := save_of_saved h
  rw [hsave, put_self hplace hat]

end FileTree

-- ---------------------------------------------------------------------------
-- Plans
-- ---------------------------------------------------------------------------

theorem Extraction.exists_directory_of_ofRoot {source : String}
    {found : Except FileProblem FileNode} {extraction : Extraction}
    (h : ofRoot source found = .ok extraction) :
    ∃ entries access, found = .ok (.directory entries access) := by
  rcases found with problem | (content | ⟨entries, access⟩)
  · cases h
  · cases h
  · exact ⟨entries, access, rfl⟩

namespace Plan

variable {file : String} {found : Except FileProblem FileNode} {document : Document}

theorem exists_text_of_load (h : load file found = .ok document) :
    ∃ text own, found = .ok (.file (.text text) own) ∧ own.read = true ∧
      Document.ofYaml? text = some document := by
  cases htext : found.bind FileNode.text? with
  | error problem =>
    unfold load at h
    rw [htext] at h
    cases h
  | ok text =>
    have hread := (load_eq_ok_iff htext).mp h
    cases found with
    | error problem => cases htext
    | ok node =>
      obtain ⟨own, rfl, hopens⟩ := text?_eq_ok_iff.mp htext
      exact ⟨text, own, rfl, hopens, hread⟩

theorem ordered_of_load (h : load file found = .ok document) : document.Ordered := by
  obtain ⟨text, -, -, -, htext⟩ := exists_text_of_load h
  obtain ⟨tree, -, hread⟩ := Document.exists_tree_of_ofYaml? htext
  exact (Document.of_ofTree? hread).1

theorem reformat_congr {found' : Except FileProblem FileNode} (target : Option String)
    (h : load file found = load file found') :
    reformat file target found = reformat file target found' := by
  unfold reformat
  rw [h]

end Plan

-- ---------------------------------------------------------------------------
-- Runs
-- ---------------------------------------------------------------------------

namespace Command

variable {tree : FileTree} {source output file : String} {format : Format} {target : Option String}
  {document : Document}

/-- A command that comes to the same plan after a run has the same outcome again. -/
theorem run_of_same_plan (command : Command) {writing : Writing}
    (hwrite : (command.plan (tree.node? command.input)).ending = .write writing)
    (hdone : (command.run tree).failure = none)
    (hsame : command.plan ((command.run tree).tree.node? command.input) =
      command.plan (tree.node? command.input)) :
    command.run (command.run tree).tree = command.run tree := by
  obtain ⟨written, hsave⟩ := exists_save_of_run command hwrite hdone
  have hrun := run_of_saved command hwrite hsave
  rw [hrun] at hsame ⊢
  dsimp only at hsame ⊢
  rw [run_of_saved command (hsame ▸ hwrite) (FileTree.save_same hsave), hsame]

/-- A command that comes to write the same file after a run can write it. -/
theorem failure_again (command : Command) {writing again : Writing}
    (hwrite : (command.plan (tree.node? command.input)).ending = .write writing)
    (hdone : (command.run tree).failure = none)
    (hagain : (command.plan ((command.run tree).tree.node? command.input)).ending = .write again)
    (hpath : again.path = writing.path) :
    (command.run (command.run tree).tree).failure = none := by
  obtain ⟨written, hsave⟩ := exists_save_of_run command hwrite hdone
  obtain ⟨place, own, -, -, -, hresave⟩ := FileTree.save_of_saved hsave
  rw [run_of_saved command hwrite hsave] at hagain ⊢
  rw [run_of_saved command hagain (hpath ▸ hresave again.text)]

theorem run_generate_again (hdone : ((generate source output format).run tree).failure = none)
    (houtput : (FilePath.fileName? output).bind FilePath.extension? ≠ some "rs") :
    (generate source output format).run ((generate source output format).run tree).tree =
      (generate source output format).run tree := by
  let command := generate source output format
  rcases Plan.generate_cases source output format (tree.node? source) with
    ⟨failure, hfail⟩ | ⟨extraction, hroot, hwrite⟩
  · rw [(run_of_fail command hfail).2] at hdone
    cases hdone
  · obtain ⟨written, hsave⟩ := exists_save_of_run command hwrite hdone
    obtain ⟨entries, access, hentries⟩ := Extraction.exists_directory_of_ofRoot hroot
    obtain ⟨entries', hentries', hfindings⟩ :=
      FileTree.node?_save_of_not_source hsave houtput hentries
    refine run_of_same_plan command hwrite hdone ?_
    rw [run_of_saved command hwrite hsave]
    change Plan.generate source output format (written.node? source) =
      Plan.generate source output format (tree.node? source)
    rw [hentries, hentries', Plan.generate_directory, Plan.generate_directory, Extraction.search,
      hfindings, Extraction.search]

theorem exists_load_of_reformat (hdone : ((reformat file target).run tree).failure = none) :
    ∃ document, Plan.load file (tree.node? file) = .ok document := by
  cases hload : Plan.load file (tree.node? file) with
  | ok document => exact ⟨document, rfl⟩
  | error fault =>
    rw [(run_of_fail (reformat file target) (Plan.reformat_of_error hload target)).2] at hdone
    cases hdone

theorem node?_reformat_there {content : Content} {own : Access}
    (hload : Plan.load file (tree.node? file) = .ok document)
    (hdone : ((reformat file target).run tree).failure = none)
    (hnode : tree.node? file = .ok (.file content own))
    (hplace : ((reformat file target).run tree).tree.SamePlace file (target.getD file)) :
    ((reformat file target).run tree).tree.node? file =
      .ok (.file (.text (document.text .yaml)) own) := by
  let command := reformat file target
  have hwrite : (command.plan (tree.node? command.input)).ending = _ :=
    Plan.reformat_of_load hload target
  obtain ⟨written, hsave⟩ := exists_save_of_run command hwrite hdone
  rw [run_of_saved command hwrite hsave] at hplace ⊢
  exact FileTree.node?_save_there hsave hnode hplace

/-- What formatting reads when it runs again: its input as it was, or its own output. -/
theorem load_reformat_again (hload : Plan.load file (tree.node? file) = .ok document)
    (hdone : ((reformat file target).run tree).failure = none) :
    let after := ((reformat file target).run tree).tree
    (¬after.SamePlace file (target.getD file) →
      Plan.load file (after.node? file) = .ok document) ∧
    (after.SamePlace file (target.getD file) → document.TextLossless .yaml →
      Plan.load file (after.node? file) = .ok document.withoutNulls) := by
  obtain ⟨text, own, hnode, hopens, htext⟩ := Plan.exists_text_of_load hload
  refine ⟨?_, ?_⟩
  · intro hplace
    let command := reformat file target
    have hwrite : (command.plan (tree.node? command.input)).ending = _ :=
      Plan.reformat_of_load hload target
    obtain ⟨written, hsave⟩ := exists_save_of_run command hwrite hdone
    rw [run_of_saved command hwrite hsave] at hplace ⊢
    rw [FileTree.node?_save_elsewhere hsave hnode hplace, ← hnode, hload]
  · intro hplace hlossless
    rw [node?_reformat_there hload hdone hnode hplace, Plan.load_file_iff hopens]
    exact Document.ofYaml?_text (Plan.ordered_of_load hload) hlossless

theorem run_reformat_again (hload : Plan.load file (tree.node? file) = .ok document)
    (hdone : ((reformat file target).run tree).failure = none)
    (h : ¬((reformat file target).run tree).tree.SamePlace file (target.getD file) ∨
      document.NullFree ∧ document.TextLossless .yaml) :
    (reformat file target).run ((reformat file target).run tree).tree =
      (reformat file target).run tree := by
  obtain ⟨helsewhere, hthere⟩ := load_reformat_again hload hdone
  refine run_of_same_plan _ (Plan.reformat_of_load hload target) hdone
    (Plan.reformat_congr target (Eq.trans ?_ hload.symm))
  by_cases hplace : ((reformat file target).run tree).tree.SamePlace file (target.getD file)
  · obtain ⟨hfree, htext⟩ := h.resolve_left (not_not_intro hplace)
    have hagain := hthere hplace htext
    rwa [Document.withoutNulls_eq_self_iff.mpr hfree] at hagain
  · exact helsewhere hplace

theorem failure_reformat_again {reloaded : Document}
    (hload : Plan.load file (tree.node? file) = .ok document)
    (hdone : ((reformat file target).run tree).failure = none)
    (hreload : Plan.load file (((reformat file target).run tree).tree.node? file) = .ok reloaded) :
    ((reformat file target).run ((reformat file target).run tree).tree).failure = none :=
  failure_again (reformat file target) (Plan.reformat_of_load hload target) hdone
    (Plan.reformat_of_load hreload target) rfl

theorem node?_reformat (hload : Plan.load file (tree.node? file) = .ok document)
    (hdone : ((reformat file target).run tree).failure = none) :
    ∃ own, ((reformat file target).run tree).tree.node? (target.getD file) =
      .ok (.file (.text (document.text .yaml)) own) := by
  obtain ⟨place, -, hnode⟩ :=
    node?_of_run (reformat file target) (Plan.reformat_of_load hload target) hdone
  exact ⟨_, hnode⟩

/-- A command that has succeeded succeeds again and has the same outcome, tree and log: generation if
its output is no source, and formatting if it writes elsewhere or the document has no nulls. Formatted
in place, a document with nulls is changed once more, and then stays as it is. -/
theorem run_again (tree : FileTree) :
    (∀ source output format after, after = (generate source output format).run tree →
      after.failure = none → (FilePath.fileName? output).bind FilePath.extension? ≠ some "rs" →
      (generate source output format).run after.tree = after) ∧
    ∀ file target after, after = (reformat file target).run tree → after.failure = none →
      ∃ document, Plan.load file (tree.node? file) = .ok document ∧
        (¬after.tree.SamePlace file (target.getD file) ∨
            document.NullFree ∧ document.TextLossless .yaml →
          (reformat file target).run after.tree = after) ∧
        ∀ again, again = (reformat file target).run after.tree →
          after.tree.SamePlace file (target.getD file) → document.TextLossless .yaml →
          again.failure = none ∧
            (document.withoutNulls.TextLossless .yaml →
              (again.tree = after.tree ↔ document.NullFree) ∧
                (reformat file target).run again.tree = again) := by
  refine ⟨?_, ?_⟩
  · rintro source output format _ rfl hdone houtput
    exact run_generate_again hdone houtput
  · rintro file target _ rfl hdone
    obtain ⟨document, hload⟩ := exists_load_of_reformat hdone
    refine ⟨document, hload, run_reformat_again hload hdone, ?_⟩
    rintro _ rfl hplace htext
    have hreload := (load_reformat_again hload hdone).2 hplace htext
    have hdone' := failure_reformat_again hload hdone hreload
    refine ⟨hdone', ?_⟩
    intro htext'
    refine ⟨⟨?_, ?_⟩, run_reformat_again hreload hdone'
      (.inr ⟨document.nullFree_withoutNulls, htext'⟩)⟩
    · intro hsame
      -- the same file has the texts of both documents
      obtain ⟨own, hnode⟩ := node?_reformat hload hdone
      obtain ⟨own', hnode'⟩ := node?_reformat hreload hdone'
      rw [← hsame, hnode'] at hnode
      simp only [Except.ok.injEq, FileNode.file.injEq, Content.text.injEq] at hnode
      exact (Document.text_withoutNulls_iff htext htext').mp hnode.1
    · intro hfree
      rw [run_reformat_again hload hdone (.inr ⟨hfree, htext⟩)]

section

open Document (ofPayload)

def infinitePayload : FileTree :=
  { entries := [("a.yaml", .file (.text
    "sockets: [messages: [\x7btype: t, send: \x7btype: t, direction: send, payload: .inf\x7d\x7d]]"))] }

theorem node?_infinitePayload : infinitePayload.node? "a.yaml" = .ok (.file (.text
    "sockets: [messages: [\x7btype: t, send: \x7btype: t, direction: send, payload: .inf\x7d\x7d]]")) :=
  rfl

theorem load_infinitePayload :
    Plan.load "a.yaml" (infinitePayload.node? "a.yaml") = .ok (ofPayload (some .null)) := by
  rw [node?_infinitePayload, Plan.load_file_iff rfl]
  decide +kernel

theorem textLossless_ofPayload :
    (ofPayload (some .null)).TextLossless .yaml ∧ (ofPayload none).TextLossless .yaml :=
  ⟨by decide +kernel, by decide +kernel⟩

theorem not_nullFree_ofPayload : ¬(ofPayload (some .null)).NullFree := by
  intro h
  exact h .null (by simp [ofPayload, Document.values, Endpoint.values, Exchange.values,
    Message.values]) rfl

/-- Generation with its output among the sources; formatting elsewhere and in place. -/
theorem run_again_instances :
    (∃ tree after, tree.content? ["src", "a.rs"] = some (.text "fn a() \x7b\x7d") ∧
      after = (generate "src" "src/d/a.yml" .yaml).run tree ∧ after.failure = none ∧
      (generate "src" "src/d/a.yml" .yaml).run after.tree = after) ∧
    (∃ after, after = (reformat "a.yaml" (some "b.yaml")).run infinitePayload ∧
      after.failure = none ∧ (reformat "a.yaml" (some "b.yaml")).run after.tree = after) ∧
    ∃ after again, after = (reformat "a.yaml" none).run infinitePayload ∧ after.failure = none ∧
      again = (reformat "a.yaml" none).run after.tree ∧ again.failure = none ∧
      again.tree ≠ after.tree ∧ (reformat "a.yaml" none).run again.tree = again := by
  refine ⟨?_, ?_, ?_⟩
  · let entries : List (String × FileNode) := [("a.rs", .file (.text "fn a() \x7b\x7d"))]
    let tree : FileTree := { entries := [("src", .directory entries)] }
    have hnode : tree.node? "src" = .ok (.directory entries) := rfl
    have hsearch : Extraction.search "src" (.directory entries) =
        .ok [⟨"src/a.rs", .text "fn a() \x7b\x7d", true⟩] :=
      Extraction.search_of_ordered (l := [(["a.rs"], .source (.text "fn a() \x7b\x7d") true)])
        (by decide +kernel) (by decide +kernel) (by decide +kernel)
    have hgood : (SourceFile.parse? "src/a.rs" "fn a() \x7b\x7d").isSome = true := by decide +kernel
    obtain ⟨file, hfile⟩ := Option.isSome_iff_exists.mp hgood
    have hroot : Extraction.ofRoot "src" (tree.node? "src") = .ok (Extraction.ofFiles [file]) := by
      rw [hnode, Extraction.ofRoot_directory hsearch]
      simp [Extraction.ofSources, FoundFile.load, hfile]
    have hsave : ∀ text, (tree.save "src/d/a.yml" text).2 = none := fun text => rfl
    have hdone : ((generate "src" "src/d/a.yml" .yaml).run tree).failure = none :=
      failure_generate hroot hsave
    have hextension : (FilePath.fileName? "src/d/a.yml").bind FilePath.extension? = some "yml" := by
      decide +kernel
    refine ⟨tree, _, rfl, rfl, hdone, (run_again tree).1 _ _ _ _ rfl hdone ?_⟩
    rw [hextension]
    decide
  · have hdone : ((reformat "a.yaml" (some "b.yaml")).run infinitePayload).failure = none :=
      failure_reformat load_infinitePayload fun text => rfl
    obtain ⟨document, -, hagain, -⟩ := (run_again infinitePayload).2 _ _ _ rfl hdone
    refine ⟨_, rfl, hdone, hagain (.inl ?_)⟩
    intro hplace
    obtain ⟨own, hnode⟩ := node?_reformat load_infinitePayload hdone
    obtain ⟨-, place, hb, -⟩ := FileTree.node?_eq_ok_iff.mp hnode
    have ha := hplace.trans hb
    have hpartsa : FilePath.parts "a.yaml" = ["a.yaml"] := by decide +kernel
    have hpartsb : FilePath.parts "b.yaml" = ["b.yaml"] := by decide +kernel
    have hnames := (FileTree.follow_name (by decide) (hpartsa ▸ ha)).symm.trans
      (FileTree.follow_name (by decide) (hpartsb ▸ hb))
    exact absurd hnames (by decide)
  · have hdone : ((reformat "a.yaml" none).run infinitePayload).failure = none :=
      failure_reformat load_infinitePayload fun text => rfl
    obtain ⟨htext, htext'⟩ := textLossless_ofPayload
    obtain ⟨document, hload, -, hagain⟩ := (run_again infinitePayload).2 _ _ _ rfl hdone
    rw [load_infinitePayload] at hload
    cases hload
    obtain ⟨hdone', hnext⟩ := hagain _ rfl (.refl _ _) htext
    obtain ⟨hiff, hstays⟩ := hnext htext'
    exact ⟨_, _, rfl, hdone, rfl, hdone', mt hiff.mp not_nullFree_ofPayload, hstays⟩

/-- An infinite payload is formatted as null, and formatting again leaves it out. None of the texts
loses anything by itself. -/
theorem reformat_again_changes :
    ∃ after again, after = (reformat "a.yaml" none).run infinitePayload ∧ after.failure = none ∧
      again = (reformat "a.yaml" none).run after.tree ∧ again.failure = none ∧
      after.tree.node? "a.yaml" = .ok (.file (.text ((ofPayload (some .null)).text .yaml))) ∧
      again.tree.node? "a.yaml" = .ok (.file (.text ((ofPayload none).text .yaml))) ∧
      (ofPayload (some .null)).text .yaml ≠ (ofPayload none).text .yaml ∧
      (ofPayload (some .null)).TextLossless .yaml ∧ (ofPayload none).TextLossless .yaml := by
  obtain ⟨htext, htext'⟩ := textLossless_ofPayload
  have hdone : ((reformat "a.yaml" none).run infinitePayload).failure = none :=
    failure_reformat load_infinitePayload fun text => rfl
  have hreload := (load_reformat_again load_infinitePayload hdone).2 (.refl _ _) htext
  have hdone' := failure_reformat_again load_infinitePayload hdone hreload
  have hnode := node?_reformat_there load_infinitePayload hdone node?_infinitePayload (.refl _ _)
  refine ⟨_, _, rfl, hdone, rfl, hdone', hnode,
    node?_reformat_there hreload hdone' hnode (.refl _ _), ?_, htext, htext'⟩
  intro hsame
  exact not_nullFree_ofPayload ((Document.text_withoutNulls_iff htext htext').mp hsame.symm)

end

end Command

end SocketDocs
