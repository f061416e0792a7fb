import FilterEditor.Oracle

/-!
# Script

A scripted oracle: canned answers, keyed by the exact text of the query, and a fallback verdict for
every other text.  A script that answers a text twice is refused (`Script.ofResponses`).
-/

namespace FilterEditor

/-- A scripted verdict. -/
inductive ScriptedVerdict where
  | success
  /-- A syntax error that lists one row of terminals per alternative, or lists none. -/
  | syntaxError (message : String) (expected : Option (List (List Terminal)))
  | unsupportedField (message : String)
  | malformedValue (message : String)
deriving DecidableEq, Repr

namespace ScriptedVerdict

/-- What a scripted syntax error is wrapped in. -/
def wrapping : String := "invalid filter query"

/-- The verdict that the script stands for. -/
def verdict : ScriptedVerdict → Verdict
  | .success => .success
  | .syntaxError message (some rows) =>
      .syntaxError message (.wrapped wrapping (.syntaxError message (.rows rows)))
  | .syntaxError message none =>
      .syntaxError message (.wrapped wrapping (.syntaxError message .missing))
  | .unsupportedField message => .unsupportedField message
  | .malformedValue message => .malformedValue message

/-- The parser's message, if the verdict is a syntax error. -/
def syntaxError? : ScriptedVerdict → Option String
  | .syntaxError message _ => some message
  | _ => none

end ScriptedVerdict

/-- A canned answer for one text. -/
structure Response where
  text : String
  verdict : ScriptedVerdict
  candidates : List Candidate := []
  token : Option SelectorToken := none
  /-- How long the validation of the text takes, in milliseconds. -/
  delayMs : Nat := 0
deriving DecidableEq, Repr

/-- Canned answers, and the verdict on every other text. -/
structure Script where
  responses : List Response
  fallback : ScriptedVerdict := .success
deriving DecidableEq, Repr

/-- A script answers this text more than once. -/
structure DuplicateText where
  text : String
deriving DecidableEq, Repr

/-- The text of the refusal. -/
def DuplicateText.message (d : DuplicateText) : String :=
  String.ofList ("the oracle script answers ".toList ++ '\x60' :: d.text.toList ++
    '\x60' :: " more than once".toList)

namespace Script

/-- The first response whose text one of the responses before it, or one of `seen`, has. -/
def firstRepeat (seen : List String) : List Response → Option Response
  | [] => none
  | r :: rs => if r.text ∈ seen then some r else firstRepeat (r.text :: seen) rs

/-- The script of the responses, unless two of them answer the same text. -/
def ofResponses (responses : List Response) (fallback : ScriptedVerdict) :
    Except DuplicateText Script :=
  match firstRepeat [] responses with
  | some r => .error ⟨r.text⟩
  | none => .ok { responses, fallback }

theorem firstRepeat_eq_none_iff {seen : List String} {responses : List Response} :
    firstRepeat seen responses = none ↔
      (responses.map (·.text)).Nodup ∧ ∀ r ∈ responses, r.text ∉ seen := by
  induction responses generalizing seen with
  | nil => simp [firstRepeat]
  | cons r rs ih =>
      rw [firstRepeat]
      split
      · simp_all
      · next hr =>
          rw [ih, List.map_cons, List.nodup_cons, List.forall_mem_cons]
          simp only [List.mem_cons, not_or, List.mem_map, not_exists, not_and]
          constructor
          · rintro ⟨hrest, hnew⟩
            exact ⟨⟨fun r hr => (hnew r hr).1, hrest⟩, hr, fun r hr => (hnew r hr).2⟩
          · rintro ⟨⟨hfirst, hrest⟩, -, hnew⟩
            exact ⟨hrest, fun r hr => ⟨hfirst r hr, hnew r hr⟩⟩

/-- Responses to distinct texts make a script. -/
theorem ofResponses_of_nodup {responses : List Response} (h : (responses.map (·.text)).Nodup)
    (fallback : ScriptedVerdict) :
    ofResponses responses fallback = .ok { responses, fallback } := by
  have hrepeat : firstRepeat [] responses = none :=
    firstRepeat_eq_none_iff.mpr ⟨h, fun _ _ => List.not_mem_nil⟩
  rw [ofResponses, hrepeat]

/-- The response to a text. -/
def response? (script : Script) (text : String) : Option Response :=
  script.responses.find? (·.text == text)

/-- The verdict on a text, its own or the fallback. -/
def verdictOn (script : Script) (text : String) : ScriptedVerdict :=
  match script.response? text with
  | some r => r.verdict
  | none => script.fallback

/-- How long the validation of a text takes, in milliseconds.  A text without a response takes no
time. -/
def delayMs (script : Script) (text : String) : Nat :=
  match script.response? text with
  | some r => r.delayMs
  | none => 0

/-- The completions of a text: those of its response, if it has one. -/
def proposal (script : Script) (text : String) (cursor : Nat) : Proposal where
  cursor := cursor
  candidates := match script.response? text with
    | some r => r.candidates
    | none => []
  syntaxError := (script.verdictOn text).syntaxError?
  token := (script.response? text).bind (·.token)

/-- The oracle that follows the script.  What it was asked is on record in the journal of its session,
and how long it takes is for the session to say. -/
def oracle (script : Script) : Oracle where
  validate text := .ok (script.verdictOn text).verdict
  propose text cursor := .ok (script.proposal text cursor)

end Script
end FilterEditor
