import SocketDocs.Proofs.DocBlock.Attachment
import SocketDocs.Proofs.DocBlock.Trimmed
import SocketDocs.Proofs.Endpoint.Causes
import SocketDocs.Proofs.Extraction.FileOrder

/-!
# Endpoints without a name

A block documents an endpoint if the first word of any line is the marker, and it is read by the lines
that open with `@`. For trimmed lines these are the same, so a marked block has a marker that is read:
it gives the endpoint its name, or is reported for want of one (`Extraction.unnamed_reported`).
-/

namespace SocketDocs

-- ---------------------------------------------------------------------------
-- Markers
-- ---------------------------------------------------------------------------

namespace Directive

/-- A directive line that begins with the marker. -/
def IsMarker (line : String) : Prop :=
  opensDirective line = true ∧ (Text.words line).head? = some marker

theorem opens_of_marker {line : String} (h : Text.IsTrimmed line)
    (hmark : (Text.words line).head? = some marker) : opensDirective line = true := by
  obtain ⟨later, hwords⟩ := List.head?_eq_some_iff.mp hmark
  obtain ⟨word, more, hsplit, hword, -⟩ := List.map_eq_cons_iff.mp hwords
  have hhead := Text.head?_trimLeft_of_words hsplit
  have hat : word.head? = some '@' := by
    rw [← String.toList_ofList (l := word), hword]
    rfl
  rw [hat] at hhead
  cases hline : line.toList with
  | nil =>
    rw [hline] at hhead
    cases hhead
  | cons c rest =>
    have hvisible := Text.head?_visible h (by rw [hline]; rfl : line.toList.head? = some c)
    rw [hline, Text.trimLeft_cons_of_not_blank hvisible] at hhead
    simpa [opensDirective, hline] using hhead

theorem marksEndpoint_iff {lines : List String} (h : ∀ line ∈ lines, Text.IsTrimmed line) :
    marksEndpoint lines = true ↔ ∃ line ∈ lines, IsMarker line := by
  simp only [marksEndpoint, List.any_eq_true, beq_iff_eq]
  constructor
  · rintro ⟨line, hline, hmark⟩
    exact ⟨line, hline, opens_of_marker (h line hline) hmark, hmark⟩
  · rintro ⟨line, hline, -, hmark⟩
    exact ⟨line, hline, hmark⟩

theorem webSocket_of_ofParts {name rest endpointName : String} {arguments body : List String}
    (h : ofParts name arguments rest body = .ok (some (.webSocket endpointName))) :
    name = marker := by
  unfold ofParts at h
  dsimp only at h
  split at h
  · rfl
  · obtain ⟨a, -, hmake⟩ := map_some_eq_ok h
    cases hmake
  · obtain ⟨a, -, hmake⟩ := map_some_eq_ok h
    cases hmake
  · cases h
  · obtain ⟨a, -, hmake⟩ := map_some_eq_ok h
    cases hmake
  · obtain ⟨a, -, hmake⟩ := map_some_eq_ok h
    cases hmake
  · obtain ⟨a, -, hmake⟩ := map_some_eq_ok h
    cases hmake
  · cases h
  · cases h
  · obtain ⟨a, -, hmake⟩ := map_some_eq_ok h
    cases hmake
  · obtain ⟨a, -, hmake⟩ := map_some_eq_ok h
    cases hmake
  · obtain ⟨a, -, hmake⟩ := map_some_eq_ok h
    cases hmake
  · obtain ⟨a, -, hmake⟩ := map_some_eq_ok h
    cases hmake
  · cases h
  · cases h

theorem exists_marker_iff (lines : List String) :
    (∃ line ∈ lines, IsMarker line) ↔
      (∃ name, .webSocket name ∈ (ofBlock lines).1) ∨ .noArgument marker ∈ (ofBlock lines).2 := by
  constructor
  · rintro ⟨line, hline, hopen, hmark⟩
    obtain ⟨arguments, hwords⟩ := List.head?_eq_some_iff.mp hmark
    obtain ⟨body, hsegment⟩ := exists_segment hline hopen
    have hreading : ofLine line body ∈ readings lines :=
      List.mem_map.mpr ⟨(line, body), hsegment, rfl⟩
    rw [ofLine_of_opens hopen hwords] at hreading
    rw [ofBlock_eq]
    cases arguments with
    | nil => exact .inr (List.mem_filterMap.mpr ⟨_, hreading, rfl⟩)
    | cons name more => exact .inl ⟨name, List.mem_filterMap.mpr ⟨_, hreading, rfl⟩⟩
  · rintro (⟨name, hname⟩ | hcause)
    · rw [ofBlock_eq] at hname
      obtain ⟨reading, hreading, hfound⟩ := List.mem_filterMap.mp hname
      obtain ⟨line, first, arguments, rest, body, hmem, hopen, hwords, rfl⟩ :=
        exists_parts_of_mem_readings hreading
      rcases hparts : ofParts first arguments rest body with cause | (_ | found) <;>
        rw [hparts] at hfound <;> cases hfound
      exact ⟨line, hmem, hopen, by rw [hwords, webSocket_of_ofParts hparts]; rfl⟩
    · obtain ⟨line, first, arguments, hmem, hopen, hwords, hrefuses⟩ :=
        exists_line_of_mem_causes hcause
      obtain rfl : marker = first := hrefuses
      exact ⟨line, hmem, hopen, by rw [hwords]; rfl⟩

theorem isWord_of_webSocket {lines : List String} {name : String}
    (h : .webSocket name ∈ (ofBlock lines).1) : Text.IsWord name := by
  obtain ⟨line, first, arguments, rest, body, hwords, hstated⟩ := stated_of_mem_ofBlock h
  have hmem : name ∈ Text.words line := by
    rw [hwords]
    exact List.mem_cons_of_mem _ (List.mem_of_head? hstated)
  exact Text.isWord_of_mem_words hmem

end Directive

/-- A block documents an endpoint if it is marked, whatever else stands in it. -/
theorem Endpoint.isSome_ofBlock (catalog : Catalog) (lines : List String) :
    (Endpoint.ofBlock catalog lines).1.isSome = Directive.marksEndpoint lines := by
  unfold Endpoint.ofBlock
  split <;> simp [*]

theorem Endpoint.not_webSocket_of_unnamed {catalog : Catalog} {lines : List String}
    (h : (ofDirectives catalog (Directive.ofBlock lines).1).name = "") (name : String) :
    .webSocket name ∉ (Directive.ofBlock lines).1 := by
  intro hmem
  cases hlast : Directive.last? Directive.name? (Directive.ofBlock lines).1 with
  | none =>
    have hnone := List.filterMap_eq_nil_iff.mp (List.getLast?_eq_none_iff.mp hlast) _ hmem
    cases hnone
  | some given =>
    obtain ⟨x, hx, hgiven⟩ := List.mem_filterMap.mp (List.mem_of_getLast? hlast)
    obtain rfl : x = .webSocket given := by cases x <;> cases hgiven; rfl
    have hname : given = "" := by
      simpa [ofDirectives, header, hlast] using h
    exact (Directive.isWord_of_webSocket hx).1 hname

-- ---------------------------------------------------------------------------
-- Extractions
-- ---------------------------------------------------------------------------

theorem SourceFile.path_of_parse? {path text : String} {file : SourceFile}
    (h : parse? path text = some file) : file.path = path := by
  obtain ⟨items, -, rfl⟩ := Option.map_eq_some_iff.mp h
  rfl

namespace Extraction

open Directive (IsMarker marksEndpoint)

/-- In parsed files, the blocks that document an endpoint are those with a directive line that begins
with the marker, which are those with a marker that is read. An endpoint without a name is reported at
the function that it comes from. -/
theorem unnamed_reported {files : List SourceFile}
    (h : ∀ file ∈ files, ∃ path text, SourceFile.parse? path text = some file) :
    let catalog := Catalog.ofFiles files
    (ofFiles files).document.endpoints = files.flatMap (fun file =>
      (DocBlock.ofFile file).filterMap fun annotated =>
        (Endpoint.ofBlock catalog annotated.lines).1) ∧
    ∀ file ∈ files, ∀ annotated ∈ DocBlock.ofFile file,
      (∀ endpoint, (Endpoint.ofBlock catalog annotated.lines).1 = some endpoint →
        endpoint.name = "" →
        ∃ diagnostic ∈ (ofFiles files).diagnostics,
          diagnostic.kind = .directiveGrammar ∧
          diagnostic.message = "@WebSocket needs an argument" ∧
          diagnostic.place =
            some ⟨file.path, annotated.declaration.name, annotated.declaration.line⟩) ∧
      ((Endpoint.ofBlock catalog annotated.lines).1.isSome = true ↔
        ∃ line ∈ annotated.lines, line.toList.head? = some '@' ∧
          (Text.words line).head? = some "@WebSocket") ∧
      (marksEndpoint annotated.lines = true ↔
        (∃ name, .webSocket name ∈ (Directive.ofBlock annotated.lines).1) ∨
          .noArgument "@WebSocket" ∈ (Directive.ofBlock annotated.lines).2) := by
  intro catalog
  refine ⟨endpoints_ofFiles files, ?_⟩
  intro file hfile annotated hannotated
  obtain ⟨path, text, hparse⟩ := h file hfile
  have hmarks := Directive.marksEndpoint_iff fun line hline =>
    DocBlock.isTrimmed_of_mem_ofFile hparse hannotated hline
  have hread := Directive.exists_marker_iff annotated.lines
  refine ⟨?_, ?_, hmarks.trans hread⟩
  · intro endpoint hendpoint hname
    obtain ⟨hmarked, rfl⟩ := (Endpoint.ofBlock_eq_some_iff ..).mp hendpoint
    have hunnamed : .noArgument "@WebSocket" ∈ (Directive.ofBlock annotated.lines).2 := by
      rcases hread.mp (hmarks.mp hmarked) with ⟨name, hmem⟩ | hcause
      · exact absurd hmem (Endpoint.not_webSocket_of_unnamed hname name)
      · exact hcause
    have hcause : .noArgument "@WebSocket" ∈ (Endpoint.ofBlock catalog annotated.lines).2 := by
      rw [Endpoint.causes_ofBlock catalog hmarked]
      exact List.mem_append_left _ hunnamed
    have hmem : ⟨.noArgument "@WebSocket", some ⟨file.path, annotated.declaration.name,
        annotated.declaration.line⟩⟩ ∈ (ofFiles files).diagnostics := by
      rw [diagnostics_ofFiles]
      exact List.mem_flatMap.mpr ⟨file, hfile, List.mem_flatMap.mpr
        ⟨annotated, hannotated, List.mem_map_of_mem hcause⟩⟩
    have hmessage : (Cause.noArgument "@WebSocket").message = "@WebSocket needs an argument" := by
      change "@WebSocket" ++ " needs an argument" = _
      simp
    exact ⟨_, hmem, rfl, hmessage, rfl⟩
  · rw [Endpoint.isSome_ofBlock]
    simpa only [IsMarker, Directive.opensDirective, beq_iff_eq, Directive.marker] using hmarks

/-- A marker that stands alone still documents an endpoint, and is reported at its function. -/
theorem unnamed_reported_bare :
    ∃ file, SourceFile.parse? "a.rs" "// @WebSocket\n// @URL /a\nfn a() \x7b\x7d\n" = some file ∧
      (∃ endpoint ∈ (ofFiles [file]).document.endpoints,
        endpoint.name = "" ∧ endpoint.url = "/a") ∧
      ∃ diagnostic ∈ (ofFiles [file]).diagnostics,
        diagnostic.kind = .directiveGrammar ∧
        diagnostic.message = "@WebSocket needs an argument" ∧
        diagnostic.place = some ⟨"a.rs", "a", 3⟩ := by
  have hparse : (SourceFile.parse? "a.rs" "// @WebSocket\n// @URL /a\nfn a() \x7b\x7d\n").map
      (fun file => (Declaration.ofItems none file.items, Declaration.testRangesIn file.items,
        Comment.groups file.comments)) =
      some ([⟨"a", 3⟩], [], [⟨1, 2, ["@WebSocket", "@URL /a"]⟩]) := by
    decide +kernel
  obtain ⟨file, hfile, heq⟩ := Option.map_eq_some_iff.mp hparse
  simp only [Prod.mk.injEq] at heq
  obtain ⟨hitems, hranges, hgroups⟩ := heq
  have hpath := SourceFile.path_of_parse? hfile
  have hblocks : DocBlock.ofFile file = [⟨⟨"a", 3⟩, ["@WebSocket", "@URL /a"]⟩] := by
    rw [DocBlock.ofFile, DocBlock.ofFile_of_ordered hitems (by decide), hranges, hgroups]
    decide +kernel
  have hannotated : ⟨⟨"a", 3⟩, ["@WebSocket", "@URL /a"]⟩ ∈ DocBlock.ofFile file := by
    rw [hblocks]
    exact List.mem_cons_self
  have hread : Directive.ofBlock ["@WebSocket", "@URL /a"] =
      ([.url "/a"], [.noArgument "@WebSocket"]) := by
    decide +kernel
  have hendpoint : (Endpoint.ofBlock (Catalog.ofFiles [file]) ["@WebSocket", "@URL /a"]).1 =
      some { url := "/a" } := by
    rw [Endpoint.ofBlock_eq_some_iff, hread]
    exact ⟨by decide +kernel, rfl⟩
  have hparsed : ∀ member ∈ [file], ∃ path text, SourceFile.parse? path text = some member := by
    rintro member hmember
    obtain rfl := List.mem_singleton.mp hmember
    exact ⟨_, _, hfile⟩
  obtain ⟨hendpoints, hreported⟩ := unnamed_reported hparsed
  obtain ⟨hunnamed, -, -⟩ := hreported file List.mem_cons_self _ hannotated
  refine ⟨file, hfile, ⟨{ url := "/a" }, ?_, rfl, rfl⟩, ?_⟩
  · rw [hendpoints]
    exact List.mem_flatMap.mpr
      ⟨file, List.mem_cons_self, List.mem_filterMap.mpr ⟨_, hannotated, hendpoint⟩⟩
  · rw [← hpath]
    exact hunnamed _ hendpoint rfl

end Extraction

end SocketDocs
