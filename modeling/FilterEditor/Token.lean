import FilterEditor.Fault

/-!
# Token

A grammar numbers its terminals, and a token table gives each number its readable literal.  One
terminal marks the end of the input and is never shown; two others, reported together, mean that
the grammar waits for a field selector.
-/

namespace FilterEditor

/-- The number a grammar gives to one of its terminals. -/
abbrev Terminal := UInt16

/-- A terminal as it is written in messages. -/
def Terminal.label (t : Terminal) : String :=
  "#" ++ t.toNat.repr

/-- The literals of a grammar's terminals, by number. -/
structure TokenTable where
  literals : List String
  endOfInput : Terminal
  /-- What the grammar reports, together, when it waits for a field selector. -/
  selectorPair : Terminal × Terminal
deriving Repr

namespace TokenTable

/-- The number of literals. -/
def size (table : TokenTable) : Nat :=
  table.literals.length

/-- The literal of a terminal, if the table holds it. -/
def literal? (table : TokenTable) (t : Terminal) : Option String :=
  table.literals[t.toNat]?

/-- The literal of a terminal that ought to be in the table. -/
def literal (table : TokenTable) (t : Terminal) : Except Fault String :=
  match table.literal? t with
  | some text => .ok text
  | none => .error (.unknownTerminal t.toNat table.size)

/-- Every literal with its terminal, in order. -/
def entries (table : TokenTable) : List (Terminal × String) :=
  table.literals.mapIdx fun i text => (UInt16.ofNat i, text)

/-- The terminals are the selector pair, in any order and any number of times. -/
def isSelectorPair (table : TokenTable) (ids : List Terminal) : Bool :=
  let distinct := ids.eraseDups
  distinct.length == 2 && distinct.contains table.selectorPair.1 &&
    distinct.contains table.selectorPair.2

/-- The terminals of the RSQL grammar.  Letters and unquoted values, 5 and 7, start a selector. -/
def rsql : TokenTable where
  literals := [
    "end of input", "space", "tab", "carriage return", "line feed", "letter", "escaped character",
    "unquoted value", "single-quoted value", "double-quoted value", "AND", "OR", "(", ")",
    "comparison operator", "alternative comparison operator"]
  endOfInput := 0
  selectorPair := (5, 7)

theorem literal?_eq_none_iff {table : TokenTable} {t : Terminal} :
    table.literal? t = none ↔ table.size ≤ t.toNat := by
  simp [literal?, size]

theorem literal_eq_ok_iff {table : TokenTable} {t : Terminal} {text : String} :
    table.literal t = .ok text ↔ table.literal? t = some text := by
  unfold literal
  split <;> simp_all

/-- Numbers of 16 bits start again after 2^16 literals. -/
theorem literal?_ofNat (table : TokenTable) (i : Nat) :
    table.literal? (.ofNat i) = table.literals[i % UInt16.size]? := by
  rw [literal?, UInt16.toNat_ofNat']

theorem length_entries (table : TokenTable) : table.entries.length = table.size :=
  List.length_mapIdx

theorem map_snd_entries (table : TokenTable) : table.entries.map (·.2) = table.literals := by
  rw [entries, List.mapIdx_eq_zipIdx_map, List.map_map]
  exact List.zipIdx_map_fst 0 table.literals

theorem mem_entries_iff {table : TokenTable} {t : Terminal} {text : String} :
    (t, text) ∈ table.entries ↔ ∃ i, table.literals[i]? = some text ∧ UInt16.ofNat i = t := by
  simp [entries, List.mem_iff_getElem?]

end TokenTable
end FilterEditor
