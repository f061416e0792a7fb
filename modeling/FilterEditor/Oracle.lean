import FilterEditor.Completion.Operator
import FilterEditor.Completion.Selector
import FilterEditor.Diagnostic.Formatter

/-!
# Oracle

The outside service that parses queries.  It is a pair of functions, one for verdicts and one for
completions, and either may fail.  `completing` adds what the schema knows to an oracle's own
completions, and leaves its verdicts alone; `Oracle.evaluate` is one round trip, a verdict and then
the completions at the cursor.
-/

namespace FilterEditor

/-- A service that validates queries and completes them. -/
structure Oracle where
  validate : String → Except Fault Verdict
  propose : String → Nat → Except Fault Proposal

/-- What one round trip to the oracle yields. -/
structure Evaluation where
  diagnostic : Diagnostic
  suggestions : Suggestions
deriving DecidableEq, Repr

namespace Oracle

/-- A proposal with the completions that the schema adds to it.  A text that parses gets logical
operators after its own candidates; one that does not gets field names in place of them, when the
parser stopped on an incomplete selector, and comparisons when it has no others. -/
def enrich (schema : Schema) (text : String) (p : Proposal) : Except Fault Proposal :=
  match p.syntaxError with
  | none => do return { p with candidates := p.candidates ++ (← Completion.logical text) }
  | some _ => do
      let named ← match p.token with
        | some token => Completion.selector schema token
        | none => .ok none
      match named with
      | some candidates => return { p with candidates }
      | none =>
          if p.candidates.isEmpty then
            return { p with candidates := ← Completion.comparison schema text }
          else return p

/-- The oracle, with completions from the schema added to its own. -/
def completing (schema : Schema) (oracle : Oracle) : Oracle where
  validate := oracle.validate
  propose text cursor := do enrich schema text (← oracle.propose text cursor)

/-- One round trip: the diagnostic of a text, and its suggestions at the cursor. -/
def evaluate (oracle : Oracle) (formatter : Formatter) (text : String) (cursor : Nat) :
    Except Fault Evaluation := do
  let verdict ← oracle.validate text
  let proposal ← oracle.propose text cursor
  return { diagnostic := formatter.diagnose verdict, suggestions := proposal.suggestions }

end Oracle
end FilterEditor
