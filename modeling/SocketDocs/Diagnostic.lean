import SocketDocs.Document.Model

/-!
# Diagnostics

A diagnostic is a problem that costs one directive or one message and does not stop the run. Its
cause fixes both its kind and its wording; the place is added once the block's function is known.
-/

namespace SocketDocs

inductive Cause where
  | noArgument (keyword : String)
  | unknownDirection (token : String)
  | noSample
  | noPayload
  /-- A connection parameter has fewer than its four fixed arguments. -/
  | fewArguments (count : Nat)
  | unknownLocation (parameter token : String)
  | noOpenMessage (keyword : String)
  /-- A directive after `@Message` went to the endpoint because no message is open. -/
  | appliedToEndpoint (keyword messageType : String)
  | untypedMessage (direction : Direction)
  | unknownType (typeName : String)
  deriving DecidableEq, Repr

inductive DiagnosticKind where
  | directiveGrammar
  | payloadResolutionMiss
  deriving DecidableEq, Repr

namespace Cause

def kind : Cause → DiagnosticKind
  | .unknownType _ => .payloadResolutionMiss
  | _ => .directiveGrammar

def directionKeyword : Direction → String
  | .send => "@Send"
  | .receive => "@Receive"

def message : Cause → String
  | .noArgument keyword => keyword ++ " needs an argument"
  | .unknownDirection token => "@Direction expects `send` or `receive`, got `" ++ token ++ "`"
  | .noSample => "@Example needs a value"
  | .noPayload => "@Payload needs a JSON literal or a type name"
  | .fewArguments count =>
    "@ConnectionParam expects `<name> <in> <type> <required|optional> [description]`, got " ++
      toString count ++ " arguments"
  | .unknownLocation parameter token =>
    "@ConnectionParam " ++ parameter ++ ": location must be `query` or `header`, got `" ++ token ++
      "`"
  | .noOpenMessage keyword => keyword ++ " has no open message (missing @Send or @Receive)"
  | .appliedToEndpoint keyword messageType =>
    keyword ++ " after @Message " ++ messageType ++
      " has no open message, applied to the endpoint"
  | .untypedMessage direction =>
    directionKeyword direction ++ " without a preceding @Message type, message dropped"
  | .unknownType typeName => "payload type `" ++ typeName ++ "` not found in type catalog"

end Cause

structure Place where
  path : String
  declaration : String
  line : Nat
  deriving DecidableEq, Repr

structure Diagnostic where
  cause : Cause
  place : Option Place := none
  deriving DecidableEq, Repr

namespace Diagnostic

def kind (diagnostic : Diagnostic) : DiagnosticKind :=
  diagnostic.cause.kind

def message (diagnostic : Diagnostic) : String :=
  diagnostic.cause.message

def text (diagnostic : Diagnostic) : String :=
  match diagnostic.place with
  | some place =>
    place.path ++ ":" ++ toString place.line ++ " (" ++ place.declaration ++ "): " ++
      diagnostic.message
  | none => diagnostic.message

end Diagnostic

end SocketDocs
