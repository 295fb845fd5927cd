import Mathlib.Control.Monad.Basic
import SocketDocs.Proofs.Command.Running
import SocketDocs.Proofs.Extraction.Faults
import SocketDocs.Proofs.FileTree.Changes

/-!
# What commands change

A command reads everything before it writes, and it writes one file. So a command that fails before
writing leaves the tree as it was, and one that succeeds has saved its output and done nothing else
(`Command.run_changes_output_only`). What a failed attempt to write leaves behind is not described.
-/

namespace SocketDocs

open FileNode (directory)
open FileTree (SavedAs)

namespace Command

/-- A run has come to write a text under a path: it fails at that, or it has saved the text. -/
def Outcome.Wrote (after : Outcome) (path text : String) (before : FileTree) : Prop :=
  (∃ fault, after.failure = some (.writing fault)) ∨
    after.failure = none ∧ SavedAs path text before after.tree

variable {tree : FileTree}

theorem wrote_of_write (command : Command) {writing : Writing}
    (h : (command.plan (tree.node? command.input)).ending = .write writing) :
    (command.run tree).Wrote writing.path writing.text tree := by
  cases hsave : tree.save writing.path writing.text with
  | mk written problem? =>
    cases problem? with
    | some problem => exact .inl ⟨_, run_of_unsaved command h (congrArg Prod.snd hsave)⟩
    | none =>
      rw [run_of_saved command h hsave]
      exact .inr ⟨rfl, FileTree.savedAs_of_save hsave⟩

/-- Commands leave the tree as it was unless they come to write their output, and then they change
nothing else. Generation comes to that if there is a directory of sources, each directory in it can be
listed and no source has a fault. Otherwise it names the first directory that cannot be listed; if
there is none, it names the first file that cannot be opened, is not UTF-8 or is not valid. Formatting
comes to write if the file can be read and decoded, validation never does. -/
theorem run_changes_output_only (tree : FileTree) :
    (∀ source output format after, after = (generate source output format).run tree →
      (∀ fault, Extraction.ofRoot source (tree.node? source) = .error fault →
        after.tree = tree ∧
        ((∀ entries access, tree.node? source ≠ .ok (directory entries access)) ∧
            after.failure = some (.noSourceDirectory source) ∨
          ∃ entries access names, tree.node? source = .ok (directory entries access) ∧
            (Extraction.FirstUnlisted source (directory entries access) names fault ∨
              Extraction.FirstFault source (directory entries access) names fault) ∧
            after.failure = some (.extraction source fault))) ∧
      ∀ extraction, Extraction.ofRoot source (tree.node? source) = .ok extraction →
        after.Wrote output (extraction.document.withDefaults.text format) tree) ∧
    (∀ file target after, after = (reformat file target).run tree →
      (∀ fault, Plan.load file (tree.node? file) = .error fault →
        after.tree = tree ∧ after.failure = some (.loading file fault)) ∧
      ∀ document, Plan.load file (tree.node? file) = .ok document →
        after.Wrote (target.getD file) (document.text .yaml) tree) ∧
    ∀ file, ((validate file).run tree).tree = tree := by
  refine ⟨?_, ?_, fun file => tree_of_not_write (validate file) (Plan.validate_ne_write file _)⟩
  · rintro source output format _ rfl
    let command := generate source output format
    refine ⟨?_, fun extraction h => wrote_of_write command (Plan.generate_of_ok h)⟩
    intro fault h
    rcases Plan.generate_of_error h output format with
      ⟨hnone, hfail⟩ | ⟨entries, access, hentries, hfault, hfail⟩
    · obtain ⟨htree, hfailure⟩ := run_of_fail command hfail
      exact ⟨htree, .inl ⟨hnone, hfailure⟩⟩
    · obtain ⟨htree, hfailure⟩ := run_of_fail command hfail
      refine ⟨htree, .inr ⟨entries, access, ?_⟩⟩
      rcases hfault with hsearch | ⟨sources, hsearch, hload⟩
      · obtain ⟨names, hfirst⟩ := Extraction.exists_firstUnlisted hsearch
        exact ⟨names, hentries, .inl hfirst, hfailure⟩
      · obtain ⟨names, hfirst⟩ := Extraction.exists_firstFault hsearch hload
        exact ⟨names, hentries, .inr hfirst, hfailure⟩
  · rintro file target _ rfl
    let command := reformat file target
    exact ⟨fun fault h => run_of_fail command (Plan.reformat_of_error h target),
      fun document h => wrote_of_write command (Plan.reformat_of_load h target)⟩

/-- Of two files with a fault the first is named; a directory that cannot be listed is named before a
file that comes earlier; a file that cannot be opened has a fault. Nothing is written then. Without
sources there is nothing to fail, and the output is made with its directory. -/
theorem run_changes_output_only_instances :
    (∃ tree : FileTree, tree.content? ["src", "c.rs"] = some (.binary [0xFF]) ∧
      ((generate "src" "src/api.yaml" .yaml).run tree).tree = tree ∧
      ((generate "src" "src/api.yaml" .yaml).run tree).failure =
        some (.extraction "src" (.unparsable "src/b.rs"))) ∧
    (∃ tree : FileTree, tree.content? ["src", "b.rs"] = some (.text "fn (") ∧
      tree.access? ["src", "d"] = some { read := false } ∧
      ((generate "src" "src/api.yaml" .yaml).run tree).tree = tree ∧
      ((generate "src" "src/api.yaml" .yaml).run tree).failure =
        some (.extraction "src" (.unreadable "src/d" .noPermission))) ∧
    (∃ tree : FileTree, tree.access? ["src", "a.rs"] = some { read := false } ∧
      ((generate "src" "src/api.yaml" .yaml).run tree).tree = tree ∧
      ((generate "src" "src/api.yaml" .yaml).run tree).failure =
        some (.extraction "src" (.unreadable "src/a.rs" .noPermission))) ∧
    ∃ tree after : FileTree, tree.hasDirectory ["docs"] = false ∧
      SavedAs "docs/api.yaml" ((Extraction.ofFiles []).document.withDefaults.text .yaml) tree after := by
  have named : ∀ {tree : FileTree} {entries : List (String × FileNode)} {fault : Fault},
      tree.node? "src" = .ok (directory entries) →
      Extraction.ofRoot "src" (tree.node? "src") = .error fault →
        ((generate "src" "src/api.yaml" .yaml).run tree).tree = tree ∧
        ((generate "src" "src/api.yaml" .yaml).run tree).failure =
          some (.extraction "src" fault) := by
    intro tree entries fault hnode hfault
    obtain ⟨hgenerate, -, -⟩ := run_changes_output_only tree
    obtain ⟨htree, hcause⟩ := (hgenerate "src" "src/api.yaml" .yaml _ rfl).1 _ hfault
    rcases hcause with ⟨hnone, -⟩ | ⟨-, -, -, -, -, hfailure⟩
    · exact absurd hnode (hnone entries {})
    · exact ⟨htree, hfailure⟩
  refine ⟨?_, ?_, ?_, ?_⟩
  · let entries : List (String × FileNode) :=
      [("a.rs", .file (.text "fn a() \x7b\x7d")), ("b.rs", .file (.text "fn (")),
        ("c.rs", .file (.binary [0xFF]))]
    let tree : FileTree := { entries := [("src", .directory entries)] }
    have hnode : tree.node? "src" = .ok (directory entries) := rfl
    have hsearch : Extraction.search "src" (directory entries) =
        .ok [⟨"src/a.rs", .text "fn a() \x7b\x7d", true⟩, ⟨"src/b.rs", .text "fn (", true⟩,
          ⟨"src/c.rs", .binary [0xFF], true⟩] :=
      Extraction.search_of_ordered
        (l := [(["a.rs"], .source (.text "fn a() \x7b\x7d") true),
          (["b.rs"], .source (.text "fn (") true), (["c.rs"], .source (.binary [0xFF]) true)])
        (by decide +kernel) (by decide +kernel) (by decide +kernel)
    have hgood : (SourceFile.parse? "src/a.rs" "fn a() \x7b\x7d").isSome = true := by decide +kernel
    have hbad : (SourceFile.parse? "src/b.rs" "fn (").isNone = true := by decide +kernel
    obtain ⟨file, hfile⟩ := Option.isSome_iff_exists.mp hgood
    have hfault : Extraction.ofRoot "src" (tree.node? "src") = .error (.unparsable "src/b.rs") := by
      rw [hnode, Extraction.ofRoot_directory hsearch]
      simp [Extraction.ofSources, FoundFile.load, hfile, Option.isNone_iff_eq_none.mp hbad, bind,
        Except.bind]
    exact ⟨tree, rfl, named hnode hfault⟩
  · let entries : List (String × FileNode) :=
      [("b.rs", .file (.text "fn (")), ("d", .directory [] { read := false })]
    let tree : FileTree := { entries := [("src", .directory entries)] }
    have hnode : tree.node? "src" = .ok (directory entries) := rfl
    have hsearch : Extraction.search "src" (directory entries) =
        .error (.unreadable "src/d" .noPermission) :=
      Extraction.search_of_ordered
        (l := [(["b.rs"], .source (.text "fn (") true), (["d"], .unlisted)])
        (by decide +kernel) (by decide +kernel) (by decide +kernel)
    refine ⟨tree, rfl, rfl, named hnode ?_⟩
    rw [hnode, Extraction.ofRoot, hsearch]
    rfl
  · let entries : List (String × FileNode) := [("a.rs", .file (.text "") { read := false })]
    let tree : FileTree := { entries := [("src", .directory entries)] }
    have hnode : tree.node? "src" = .ok (directory entries) := rfl
    have hsearch : Extraction.search "src" (directory entries) =
        .ok [⟨"src/a.rs", .text "", false⟩] :=
      Extraction.search_of_ordered (l := [(["a.rs"], .source (.text "") false)])
        (by decide +kernel) (by decide +kernel) (by decide +kernel)
    refine ⟨tree, rfl, named hnode ?_⟩
    rw [hnode, Extraction.ofRoot_directory hsearch]
    rfl
  · let tree : FileTree := { entries := [("src", .directory [])] }
    obtain ⟨hgenerate, -, -⟩ := run_changes_output_only tree
    have hroot : Extraction.ofRoot "src" (tree.node? "src") = .ok (Extraction.ofFiles []) :=
      Extraction.ofRoot_empty "src"
    have hsave : ∀ text, (tree.save "docs/api.yaml" text).2 = none := fun text => rfl
    refine ⟨tree, ((generate "src" "docs/api.yaml" .yaml).run tree).tree, rfl, ?_⟩
    rcases (hgenerate "src" "docs/api.yaml" .yaml _ rfl).2 _ hroot with ⟨fault, hfault⟩ | ⟨-, hsaved⟩
    · rw [failure_generate hroot hsave] at hfault
      cases hfault
    · exact hsaved

end Command

end SocketDocs
