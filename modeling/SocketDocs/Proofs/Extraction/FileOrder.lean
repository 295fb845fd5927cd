import Mathlib.Data.List.Nodup
import Mathlib.Data.List.Sort
import SocketDocs.Proofs.Catalog.Lookup
import SocketDocs.Proofs.Extraction.WellFormed

/-!
# The order of files

The catalog is built from all files before any endpoint, and if no two records share a key, the
order in which they come does not show in it. So what a file adds to the document and to the
diagnostics does not depend on where it stands (`contributions_of_perm`).
-/

namespace SocketDocs

-- ---------------------------------------------------------------------------
-- Maps
-- ---------------------------------------------------------------------------

namespace Keyed

variable {α : Type}

theorem insert_perm {key : String} {value : α} {entries : List (String × α)}
    (h : key ∉ entries.map (·.1)) : (insert key value entries).Perm ((key, value) :: entries) := by
  induction entries with
  | nil => exact .refl _
  | cons entry rest ih =>
    obtain ⟨k, v⟩ := entry
    obtain ⟨hne, hrest⟩ := not_or.mp (mt List.mem_cons.mpr h)
    rw [insert]
    split
    · exact .refl _
    · exact ((ih hrest).cons (k, v)).trans (.swap ..)

theorem ofList_perm {bindings : List (String × α)} (h : (bindings.map (·.1)).Nodup) :
    (ofList bindings).Perm bindings := by
  induction bindings using List.reverseRecOn with
  | nil => exact .refl _
  | append_singleton bindings binding ih =>
    rw [List.map_append, List.nodup_append'] at h
    obtain ⟨hfront, -, hdisjoint⟩ := h
    have hkept := ih hfront
    have hnew : binding.1 ∉ (ofList bindings).map (·.1) := by
      rw [(hkept.map _).mem_iff]
      intro hmem
      exact hdisjoint hmem (by simp)
    rw [ofList_concat]
    exact (insert_perm hnew).trans ((hkept.cons binding).trans (List.perm_append_singleton binding bindings).symm)

theorem ofList_of_perm {bindings bindings' : List (String × α)} (hperm : bindings.Perm bindings')
    (h : (bindings.map (·.1)).Nodup) : ofList bindings = ofList bindings' := by
  have h' : (bindings'.map (·.1)).Nodup := (hperm.map _).nodup h
  refine ((ofList_perm h).trans (hperm.trans (ofList_perm h').symm)).eq_of_pairwise ?_
    (sorted_ofList bindings) (sorted_ofList bindings')
  intro a b _ _ hab hba
  exact absurd hba (String.lt_asymm hab)

end Keyed

-- ---------------------------------------------------------------------------
-- Catalogs
-- ---------------------------------------------------------------------------

namespace Catalog

def DistinctKeys (records : List Record) : Prop :=
  records.Pairwise fun a b => List.Disjoint a.keys b.keys

theorem nodup_bindings {records : List Record} (h : DistinctKeys records) :
    ((bindings records).map (·.1)).Nodup := by
  have hkeys : (bindings records).map (·.1) = records.flatMap Record.keys := by
    simp [bindings, List.map_flatMap, Function.comp_def]
  rw [hkeys, List.nodup_flatMap]
  exact ⟨fun record _ => record.nodup_keys, h⟩

theorem index_of_perm {records records' : List Record} (hperm : records.Perm records')
    (h : DistinctKeys records) : (ofRecords records).index = (ofRecords records').index := by
  rw [index_ofRecords, index_ofRecords]
  exact Keyed.ofList_of_perm (hperm.flatMap_right _) (nodup_bindings h)

theorem resolve?_of_index {catalog catalog' : Catalog} (h : catalog.index = catalog'.index) :
    catalog.resolve? = catalog'.resolve? := by
  funext reference
  simp only [resolve?, get?, h]

theorem resolve?_of_perm {files files' : List SourceFile} (hperm : files.Perm files')
    (h : DistinctKeys (files.flatMap Record.ofFile)) :
    (ofFiles files).resolve? = (ofFiles files').resolve? :=
  resolve?_of_index (index_of_perm (hperm.flatMap_right _) h)

end Catalog

-- ---------------------------------------------------------------------------
-- Endpoints
-- ---------------------------------------------------------------------------

section

variable {catalog catalog' : Catalog} (h : catalog.resolve? = catalog'.resolve?)
include h

theorem EndpointDraft.apply_of_resolve? (draft : EndpointDraft) (directive : Directive) :
    draft.apply catalog directive = draft.apply catalog' directive := by
  have hpayload : ∀ source, resolvePayload catalog source = resolvePayload catalog' source := by
    intro source
    cases source with
    | inline value => rfl
    | typeRef name => simp only [resolvePayload, h]
  cases directive with
  | payload source => simp only [apply, hpayload]
  | _ => rfl

/-- A block is read by what references mean, and by nothing else of the catalog. -/
theorem Endpoint.ofBlock_of_resolve? (lines : List String) :
    Endpoint.ofBlock catalog lines = Endpoint.ofBlock catalog' lines := by
  have happly : EndpointDraft.apply catalog = EndpointDraft.apply catalog' := by
    funext draft directive
    exact draft.apply_of_resolve? h directive
  simp only [Endpoint.ofBlock, happly]

end

-- ---------------------------------------------------------------------------
-- Files
-- ---------------------------------------------------------------------------

namespace Extraction

def endpointsOf (catalog : Catalog) (file : SourceFile) : List Endpoint :=
  (DocBlock.ofFile file).filterMap fun a => (Endpoint.ofBlock catalog a.lines).1

def diagnosticsOf (catalog : Catalog) (file : SourceFile) : List Diagnostic :=
  (DocBlock.ofFile file).flatMap fun a =>
    (Endpoint.ofBlock catalog a.lines).2.map fun cause =>
      ⟨cause, some ⟨file.path, a.declaration.name, a.declaration.line⟩⟩

theorem diagnostics_foldl_addAnnotated (catalog : Catalog) (path : String)
    (annotated : List AnnotatedDeclaration) (extraction : Extraction) :
    (annotated.foldl (addAnnotated catalog path) extraction).diagnostics =
      extraction.diagnostics ++ annotated.flatMap fun a =>
        (Endpoint.ofBlock catalog a.lines).2.map fun cause =>
          ⟨cause, some ⟨path, a.declaration.name, a.declaration.line⟩⟩ := by
  induction annotated generalizing extraction with
  | nil => simp
  | cons a annotated ih =>
    rw [List.foldl_cons, ih, List.flatMap_cons, ← List.append_assoc]
    rfl

theorem diagnostics_addFile (catalog : Catalog) (extraction : Extraction) (file : SourceFile) :
    (addFile catalog extraction file).diagnostics =
      extraction.diagnostics ++ diagnosticsOf catalog file :=
  diagnostics_foldl_addAnnotated catalog file.path (DocBlock.ofFile file) _

theorem diagnostics_foldl_addFile (catalog : Catalog) (files : List SourceFile)
    (extraction : Extraction) :
    (files.foldl (addFile catalog) extraction).diagnostics =
      extraction.diagnostics ++ files.flatMap (diagnosticsOf catalog) := by
  induction files generalizing extraction with
  | nil => simp
  | cons file files ih =>
    rw [List.foldl_cons, ih, diagnostics_addFile, List.flatMap_cons, List.append_assoc]

theorem diagnostics_ofFiles (files : List SourceFile) :
    (ofFiles files).diagnostics = files.flatMap (diagnosticsOf (Catalog.ofFiles files)) :=
  diagnostics_foldl_addFile (Catalog.ofFiles files) files {}

theorem contribution_of_resolve? {catalog catalog' : Catalog}
    (h : catalog.resolve? = catalog'.resolve?) :
    endpointsOf catalog = endpointsOf catalog' ∧ diagnosticsOf catalog = diagnosticsOf catalog' := by
  constructor <;> funext file
  · simp only [endpointsOf, Endpoint.ofBlock_of_resolve? h]
  · simp only [diagnosticsOf, Endpoint.ofBlock_of_resolve? h]

/-- If no two records share a key, every file adds the same endpoints and diagnostics in whatever
order the files come, and every reference means the same record. -/
theorem contributions_of_perm {files files' : List SourceFile} (hperm : files.Perm files')
    (hkeys : Catalog.DistinctKeys (files.flatMap Record.ofFile)) :
    let endpoints := endpointsOf (Catalog.ofFiles files)
    let diagnostics := diagnosticsOf (Catalog.ofFiles files)
    ((ofFiles files).document.endpoints = files.flatMap endpoints ∧
      (ofFiles files).diagnostics = files.flatMap diagnostics) ∧
    ((ofFiles files').document.endpoints = files'.flatMap endpoints ∧
      (ofFiles files').diagnostics = files'.flatMap diagnostics) ∧
    ∀ reference,
      (Catalog.ofFiles files').resolve? reference = (Catalog.ofFiles files).resolve? reference := by
  intro endpoints diagnostics
  have hresolve := Catalog.resolve?_of_perm hperm hkeys
  obtain ⟨hendpoints, hdiagnostics⟩ := contribution_of_resolve? hresolve
  refine ⟨⟨endpoints_ofFiles files, diagnostics_ofFiles files⟩, ⟨?_, ?_⟩, ?_⟩
  · rw [show endpoints = endpointsOf (Catalog.ofFiles files') from hendpoints]
    exact endpoints_ofFiles files'
  · rw [show diagnostics = diagnosticsOf (Catalog.ofFiles files') from hdiagnostics]
    exact diagnostics_ofFiles files'
  · intro reference
    rw [hresolve]

/-- A payload type may be declared in a file before or after the one that names it. -/
theorem contributions_of_perm_swapped :
    ∃ chat note : SourceFile,
      SourceFile.parse? "chat.rs" "// @WebSocket C\n// @Message m\n// @Send\n// @Payload Note\nfn c() \x7b\x7d\n" =
        some chat ∧
      SourceFile.parse? "note.rs" "struct Note \x7b id: u32 \x7d\n" = some note ∧
      Catalog.DistinctKeys ([chat, note].flatMap Record.ofFile) ∧
      (ofFiles [note, chat]).document.endpoints =
        [note, chat].flatMap (endpointsOf (Catalog.ofFiles [chat, note])) ∧
      ((Catalog.ofFiles [note, chat]).resolve? "Note").map (·.package) = some "note" := by
  have hread : (do
      let chat ← SourceFile.parse? "chat.rs"
        "// @WebSocket C\n// @Message m\n// @Send\n// @Payload Note\nfn c() \x7b\x7d\n"
      let note ← SourceFile.parse? "note.rs" "struct Note \x7b id: u32 \x7d\n"
      some ([chat, note].flatMap fun file => (Record.ofFile file).map (·.keys),
        ((Catalog.ofFiles [chat, note]).resolve? "Note").map (·.package))) =
      some ([["Note", "note.Note"]], some "note") := by
    decide +kernel
  obtain ⟨chat, hchat, hread⟩ := Option.bind_eq_some_iff.mp hread
  obtain ⟨note, hnote, hread⟩ := Option.bind_eq_some_iff.mp hread
  simp only [Option.some.injEq, Prod.mk.injEq, ← List.map_flatMap] at hread
  obtain ⟨hkeys, hresolve⟩ := hread
  have hdistinct : Catalog.DistinctKeys ([chat, note].flatMap Record.ofFile) := by
    have hpairwise : ([["Note", "note.Note"]] : List (List String)).Pairwise List.Disjoint :=
      List.pairwise_singleton _ _
    rw [← hkeys, List.pairwise_map] at hpairwise
    exact hpairwise
  obtain ⟨-, ⟨hendpoints, -⟩, hsame⟩ := contributions_of_perm (.swap note chat []) hdistinct
  refine ⟨chat, note, hchat, hnote, hdistinct, hendpoints, ?_⟩
  rw [hsame]
  exact hresolve

end Extraction

end SocketDocs
