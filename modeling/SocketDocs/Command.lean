import SocketDocs.Document.Text

/-!
# Commands
-/

namespace SocketDocs

inductive Command where
  | generate (source output : String) (format : Format)
  | validate (file : String)
  | reformat (file : String) (output : Option String)
  deriving DecidableEq, Repr

structure Invocation where
  command : Command
  verbose : Bool := false
  deriving DecidableEq, Repr

def versionText : String := "wsapi-from-source 0.1.0\n"

end SocketDocs
