import SocketDocs.Document.Encoding
import SocketDocs.Document.OfYaml
import SocketDocs.Json.Writer
import SocketDocs.Yaml.Writer

/-!
# The text of a document
-/

namespace SocketDocs

inductive Format where
  | yaml
  | json
  deriving DecidableEq, Repr

def Document.text (document : Document) : Format → String
  | .yaml => Yaml.documentText document.members
  | .json => document.encode.pretty

/-- Documents with the same written form; zeros are equal whatever their sign. -/
def Document.equal (a b : Document) : Bool :=
  a.encode.equal b.encode

/-- Reads a document's own YAML text again and tells whether it has come back; `none` if the text
cannot be read. -/
def Document.survives? (document : Document) : Option Bool :=
  (Document.ofYaml? (document.text .yaml)).map document.equal

end SocketDocs
