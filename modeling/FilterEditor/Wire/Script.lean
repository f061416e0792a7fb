import FilterEditor.Json.Reader
import FilterEditor.Json.Record
import FilterEditor.Script
import FilterEditor.Timing

/-!
# Wire — Script

Scripts, timings and fields out of JSON.  A scripted verdict is a choice by its `kind`; a timing
takes its usual value wherever one is not given.
-/

namespace FilterEditor
open Json

/-- A terminal. -/
def Terminal.ofJson? (json : Json) : Option Terminal :=
  (below? UInt16.size json).map UInt16.ofNat

/-- The field of the data, its name as it is given. -/
def Field.ofJson? (json : Json) : Option Field := do
  let fields ← fields? ["name", "sub_attributes", "is_map"] json
  return {
    name := ← fields.required "name" text?
    attributes := ← fields.getD "sub_attributes" (list? text?) []
    isMap := ← fields.getD "is_map" bool? false }

namespace ScriptedVerdict

/-- The message of a verdict that has nothing else. -/
def readMessage? (json : Json) : Option String := do
  let fields ← fields? ["rawMessage"] json
  fields.required "rawMessage" text?

/-- The syntax error of the data. -/
def readSyntaxError? (json : Json) : Option ScriptedVerdict := do
  let fields ← fields? ["rawMessage", "expected"] json
  return .syntaxError
    (← fields.required "rawMessage" text?)
    (← fields.getD "expected" (optional? (list? (list? Terminal.ofJson?))) none)

/-- The scripted verdict of the data. -/
def ofJson? (json : Json) : Option ScriptedVerdict := do
  match ← tagged? "kind" json with
  | ("success", rest) => (nothing? rest).map fun _ => .success
  | ("syntaxError", rest) => readSyntaxError? rest
  | ("unsupportedField", rest) => (readMessage? rest).map .unsupportedField
  | ("malformedValue", rest) => (readMessage? rest).map .malformedValue
  | _ => none

end ScriptedVerdict

/-- The candidate of the data. -/
def Candidate.ofJson? (json : Json) : Option Candidate := do
  let fields ← fields? ["start", "end", "label", "text"] json
  return {
    start := ← fields.required "start" offset?
    stop := ← fields.required "end" offset?
    label := ← fields.getD "label" (optional? text?) none
    text := ← fields.required "text" text? }

/-- The selector of the data. -/
def SelectorToken.ofJson? (json : Json) : Option SelectorToken := do
  let fields ← fields? ["image", "begin", "end"] json
  return {
    image := ← fields.required "image" text?
    start := ← fields.required "begin" offset?
    stop := ← fields.required "end" offset? }

/-- The response of the data. -/
def Response.ofJson? (json : Json) : Option Response := do
  let fields ← fields? ["text", "outcome", "suggestions", "tokenAtCursor", "delayMs"] json
  return {
    text := ← fields.required "text" text?
    verdict := ← fields.required "outcome" ScriptedVerdict.ofJson?
    candidates := ← fields.getD "suggestions" (list? Candidate.ofJson?) []
    token := ← fields.getD "tokenAtCursor" (optional? SelectorToken.ofJson?) none
    delayMs := ← fields.getD "delayMs" offset? 0 }

/-- The timing of the data. -/
def Timing.ofJson? (json : Json) : Option Timing := do
  let fields ← fields? ["debounceMs", "maxDebounceMs", "oracleTimeoutMs", "eventBuffer"] json
  let usual : Timing := {}
  return {
    debounceMs := ← fields.getD "debounceMs" offset? usual.debounceMs
    maxDebounceMs := ← fields.getD "maxDebounceMs" offset? usual.maxDebounceMs
    oracleTimeoutMs := ← fields.getD "oracleTimeoutMs" offset? usual.oracleTimeoutMs
    eventBuffer := ← fields.getD "eventBuffer" offset? usual.eventBuffer }

/-- The responses of a script's text. -/
def Script.responses? (text : String) : Option (List Response) :=
  (parse? text).bind (list? Response.ofJson?)

end FilterEditor
