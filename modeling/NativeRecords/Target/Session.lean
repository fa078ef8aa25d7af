/-
# NativeRecords.Target.Session -- requests to one backend in turn

A backend can be asked for a whole file or for the pieces of one. It answers each request in the
state that the requests before it have left, whether they were answered or failed.
-/
import NativeRecords.Target.Backend

namespace NativeRecords.Target

open NativeRecords.Schema

/-- What a backend can be asked for. -/
inductive Request where
  | file (declarations : List Declaration)
  | enumSection (declaration : Declaration)
  | recordSection (declaration : Declaration)
  | field (property : RecordProperty)
  | type (type : SchemaType)
  | initial (type : SchemaType)
  | literal (value : Option RawValue)
  | identifier (name : String)
  | identifiers (names : List String)
  | knownEnums

/-- What a backend answers. -/
inductive Response where
  | text (text : String)
  | texts (texts : List String)
  | field (field : Language.Field)

/-- Answers a request. -/
def Writing.respond : Request → Writing Response
  | .file declarations => return .text (← file declarations)
  | .enumSection (.enum e) => return .text (← enumText e)
  | .enumSection (.record _) => throw .missingPart
  | .recordSection (.enum _) => throw .missingPart
  | .recordSection (.record r) => return .text (← recordText r)
  | .field property => return .field (← field property)
  | .type type => return .text (← typeText type)
  | .initial type => return .text (← defaultText type)
  | .literal value => return .text (Language.literal value)
  | .identifier name => return .text ((← get).language.identifier name)
  | .identifiers names => return .texts ((← get).language.identifiers names)
  | .knownEnums => return .texts (← get).knownEnums

namespace Backend

/-- The answer to a request, and the backend that has given it. -/
def respond (backend : Backend) (request : Request) : Except Failure Response × Backend :=
  Writing.respond request backend

/-- Answers requests in turn. -/
def answer (backend : Backend) : List Request → List (Except Failure Response)
  | [] => []
  | request :: rest =>
    let (response, backend) := backend.respond request
    response :: backend.answer rest

end Backend
end NativeRecords.Target
