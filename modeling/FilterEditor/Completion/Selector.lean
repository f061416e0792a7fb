import FilterEditor.Schema
import FilterEditor.Suggestion

/-!
# Completion — Selector

Completions of the field selector a parser stopped on.

* A name that has attributes or keys below it is followed by a dot.
* An unknown name is completed with every field, labelled with what was typed.
* A path below a field is completed with the attributes of the field, labelled with what was typed
  of them, if anything.

A selector that is already complete, and any key below a map, has no completions of this kind
(`none`), so that the grammar's own stand.
-/

namespace FilterEditor.Completion
open Text

/-- The completions of a name without a dot. -/
def nameCandidates (schema : Schema) (token : SelectorToken) : Option (List Candidate) :=
  if schema.hasAttributes token.image || schema.isMap token.image then
    some [{ start := token.stop, stop := token.stop, text := "." }]
  else if schema.containsPath token.image then none
  else
    some (schema.names.map fun name =>
      { start := token.start, stop := token.stop, label := some token.image, text := name })

/-- The completions of `sub` below `field`, where `sub` starts at `start` and ends at `stop`. -/
def attributeCandidates (field : Field) (sub : String) (start stop : Nat) : List Candidate :=
  let label := if sub.isEmpty then none else some sub
  field.attributes.map fun name => { start, stop, label, text := name }

/-- The completions of the selector, unless it is complete. -/
def selector (schema : Schema) (token : SelectorToken) : Except Fault (Option (List Candidate)) :=
  match splitFirst '.' token.image.toList with
  | none => .ok (nameCandidates schema token)
  | some (top, sub) =>
      if schema.containsPath token.image then .ok none
      else
        match schema.get? (String.ofList top) with
        | none => .ok none
        | some field =>
            if field.isMap then .ok none
            else do
              let start ← addOffset token.start (top.length + 1)
              return some (attributeCandidates field (String.ofList sub) start token.stop)

end FilterEditor.Completion
