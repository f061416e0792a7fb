import FilterEditor.Json.Printer
import FilterEditor.Json.Record
import FilterEditor.Suggestion

/-!
# Wire — Message

The messages between an editing client and the server that hosts the oracle.  The client asks for
suggestions or runs a query, with the text and the cursor either way; the server shows suggestions.
What crosses is a record of the suggestions, whose fields are those of the JSON.
-/

namespace FilterEditor
open Json

/-- What a client wants with a text. -/
inductive ClientRequest where
  /-- Completions at the cursor. -/
  | suggest
  /-- The query is to be run. -/
  | executeQuery
deriving DecidableEq, Repr

/-- A message from a client. -/
structure ClientMessage where
  request : ClientRequest
  text : String
  cursor : Nat
deriving DecidableEq, Repr

/-- A span, as it crosses to the client. -/
structure SpanRecord where
  start : Nat
  stop : Nat
  text : String
deriving DecidableEq, Repr

/-- Suggestions, as they cross to the client. -/
structure SuggestionsRecord where
  cursor : Nat
  spans : List SpanRecord := []
deriving DecidableEq, Repr

/-- A message from a server. -/
inductive ServerMessage where
  | showSuggestions (suggestions : SuggestionsRecord)
deriving DecidableEq, Repr

/-- The name of a request. -/
def ClientRequest.name : ClientRequest → String
  | .suggest => "suggest"
  | .executeQuery => "executeQuery"

/-- The request of a name. -/
def ClientRequest.ofName? : String → Option ClientRequest
  | "suggest" => some .suggest
  | "executeQuery" => some .executeQuery
  | _ => none

namespace ClientMessage

/-- A client's message as JSON. -/
def toJson (m : ClientMessage) : Json :=
  .obj [("type", .str m.request.name), ("text", .str m.text), ("cursor", .nat m.cursor)]

/-- The client's message of the data. -/
def ofJson? (json : Json) : Option ClientMessage := do
  let (name, rest) ← tagged? "type" json
  let request ← ClientRequest.ofName? name
  let fields ← fields? ["text", "cursor"] rest
  return {
    request
    text := ← fields.required "text" text?
    cursor := ← fields.required "cursor" offset? }

end ClientMessage

/-! ### Suggestions -/

/-- The record of a span. -/
def Span.record (s : Span) : SpanRecord where
  start := s.start
  stop := s.stop
  text := s.text

/-- The record of suggestions. -/
def Suggestions.record (s : Suggestions) : SuggestionsRecord where
  cursor := s.cursor
  spans := s.spans.map (·.record)

instance : Coe Suggestions SuggestionsRecord := ⟨Suggestions.record⟩

namespace SpanRecord

/-- The span of a record. -/
def span (s : SpanRecord) : Span where
  start := s.start
  stop := s.stop
  text := s.text

/-- The members of a span's object. -/
def members (s : SpanRecord) : List (String × Json) :=
  [("start", .nat s.start), ("end", .nat s.stop), ("text", .str s.text)]

/-- A span as JSON. -/
def toJson (s : SpanRecord) : Json :=
  .obj s.members

/-- The span of the data. -/
def ofJson? (json : Json) : Option SpanRecord := do
  let fields ← fields? ["start", "end", "text"] json
  return {
    start := ← fields.required "start" offset?
    stop := ← fields.required "end" offset?
    text := ← fields.required "text" text? }

end SpanRecord

namespace SuggestionsRecord

/-- The suggestions of a record. -/
def suggestions (s : SuggestionsRecord) : Suggestions where
  cursor := s.cursor
  spans := s.spans.map (·.span)

/-- The members of an object of suggestions. -/
def members (s : SuggestionsRecord) : List (String × Json) :=
  [("cursorPosition", .nat s.cursor), ("suggestions", .arr (s.spans.map (·.toJson)))]

/-- Suggestions as JSON. -/
def toJson (s : SuggestionsRecord) : Json :=
  .obj s.members

/-- The suggestions of the data. -/
def ofJson? (json : Json) : Option SuggestionsRecord := do
  let fields ← fields? ["cursorPosition", "suggestions"] json
  return {
    cursor := ← fields.required "cursorPosition" offset?
    spans := ← fields.required "suggestions" (list? SpanRecord.ofJson?) }

end SuggestionsRecord

namespace Suggestions

/-- Suggestions as JSON. -/
def toJson (s : Suggestions) : Json :=
  s.record.toJson

/-- The suggestions of the data. -/
def ofJson? (json : Json) : Option Suggestions :=
  (SuggestionsRecord.ofJson? json).map (·.suggestions)

end Suggestions

namespace ServerMessage

/-- A server's message as JSON. -/
def toJson : ServerMessage → Json
  | .showSuggestions s => .obj (("type", .str "showSuggestions") :: s.members)

/-- The server's message of the data. -/
def ofJson? (json : Json) : Option ServerMessage := do
  let (name, rest) ← tagged? "type" json
  if name = "showSuggestions" then return .showSuggestions (← SuggestionsRecord.ofJson? rest)
  else none

end ServerMessage
end FilterEditor
