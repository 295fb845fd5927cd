import SocketDocs.Document.Model

/-!
# Default information

A generated document has a title, a version and a description even if no source gives them.
-/

namespace SocketDocs

def orDefault (text default : String) : String :=
  if text.isEmpty then default else text

def Info.withDefaults (info : Info) : Info :=
  { info with
    title := orDefault info.title "WebSocket API"
    version := orDefault info.version "1.0.0"
    description := orDefault info.description "Generated by wsapi-from-source" }

def Document.withDefaults (document : Document) : Document :=
  { document with info := document.info.withDefaults }

end SocketDocs
