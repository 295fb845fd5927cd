import SocketDocs.DocBlock
import SocketDocs.Document.InfoLines
import SocketDocs.Endpoint.Builder

/-!
# Extraction

A document is put together from the files in their order. The catalog of types is built from all of
them first, so a payload may name a type of any file.
-/

namespace SocketDocs

structure Extraction where
  document : Document := {}
  diagnostics : List Diagnostic := []
  deriving Repr

namespace Extraction

def addAnnotated (catalog : Catalog) (path : String) (extraction : Extraction)
    (annotated : AnnotatedDeclaration) : Extraction :=
  let (endpoint?, causes) := Endpoint.ofBlock catalog annotated.lines
  let place : Place := ⟨path, annotated.declaration.name, annotated.declaration.line⟩
  { document := {
      extraction.document with
      endpoints := extraction.document.endpoints ++ endpoint?.toList }
    diagnostics := extraction.diagnostics ++ causes.map fun cause => ⟨cause, some place⟩ }

def addFile (catalog : Catalog) (extraction : Extraction) (file : SourceFile) : Extraction :=
  let informed : Extraction :=
    { extraction with
      document := { extraction.document with info := extraction.document.info.applyFile file } }
  (DocBlock.ofFile file).foldl (addAnnotated catalog file.path) informed

def ofFiles (files : List SourceFile) : Extraction :=
  files.foldl (addFile (Catalog.ofFiles files)) {}

end Extraction

end SocketDocs
