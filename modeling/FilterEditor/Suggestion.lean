import FilterEditor.Fault
import FilterEditor.Text.Ascii
import FilterEditor.Text.Cut

/-!
# Suggestion

Completions of a query.  An oracle proposes candidates, each replacing a range of code points by a
text, and may label a candidate with what the user typed; the suggestions shown are the candidates
that agree with their labels, in order, at the cursor the oracle was asked for
(`Proposal.suggestions`).
-/

namespace FilterEditor
open Text

/-- A replacement the oracle proposes for the code points from `start` up to `stop`. -/
structure Candidate where
  start : Nat
  stop : Nat
  /-- What is being completed. -/
  label : Option String := none
  text : String
deriving DecidableEq, Repr

/-- The selector the parser stopped on. -/
structure SelectorToken where
  image : String
  start : Nat
  stop : Nat
deriving DecidableEq, Repr

/-- An oracle's completions at a cursor. -/
structure Proposal where
  cursor : Nat
  candidates : List Candidate := []
  /-- The parser's message, when the text does not parse. -/
  syntaxError : Option String := none
  /-- Set when the parser stopped on a field selector. -/
  token : Option SelectorToken := none
deriving DecidableEq, Repr

/-- A proposed edit: the text takes the place of the code points from `start` up to `stop`. -/
structure Span where
  start : Nat
  stop : Nat
  text : String
deriving DecidableEq, Repr

/-- The edits shown at a cursor. -/
structure Suggestions where
  cursor : Nat
  spans : List Span := []
deriving DecidableEq, Repr

/-- A labelled candidate has to contain its label, up to ASCII case. -/
def Candidate.extendsLabel (c : Candidate) : Bool :=
  c.label.all fun label => occursIn (asciiLower label.toList) (asciiLower c.text.toList)

/-- The edit a candidate stands for. -/
def Candidate.span (c : Candidate) : Span where
  start := c.start
  stop := c.stop
  text := c.text

/-- The suggestions of a proposal. -/
def Proposal.suggestions (p : Proposal) : Suggestions where
  cursor := p.cursor
  spans := (p.candidates.filter (·.extendsLabel)).map (·.span)

@[simp] theorem Proposal.cursor_suggestions (p : Proposal) : p.suggestions.cursor = p.cursor := rfl

end FilterEditor
