import FilterEditor.Proofs.ReadBack
import FilterEditor.Wire.Diagnostic
import FilterEditor.Wire.Message

/-!
# Proofs — Round trips

What crosses the wire arrives as it was sent (`round_trips`): a server's message, a diagnostic and the
suggestions of a proposal are got back from the text of their JSON, and so no two of a kind have the
same text.

* `Arrives`: the text of a value is read back as the value.  It follows from the data being plain,
  for which the offsets must have 64 bits (`Fits`), and from the decoder undoing the encoder on data
  (`ofJson?_toJson`).
* `Arrives.injective`: two values that arrive have different texts unless they are the same.
-/

namespace FilterEditor
open Json

/-! ### Texts of values -/

/-- The value is read back from the text of its data. -/
def Arrives {α : Type} (encode : α → Json) (decode : Decoder α) (a : α) : Prop :=
  (parse? (encode a).compact).bind decode = some a

section
variable {α : Type} {encode : α → Json} {decode : Decoder α}

theorem Arrives.of_plain {a : α} (hplain : Plain maxLevels (encode a))
    (hdecode : decode (encode a) = some a) : Arrives encode decode a := by
  rw [Arrives, hplain.parse?_compact]
  exact hdecode

/-- The text tells which value it is the text of. -/
theorem Arrives.injective {a b : α} (ha : Arrives encode decode a) (hb : Arrives encode decode b)
    (h : (encode a).compact = (encode b).compact) : a = b := by
  have hread := ha
  rw [Arrives, h, hb] at hread
  exact (Option.some.inj hread).symm

theorem list?_map {as : List α} (h : ∀ a ∈ as, decode (encode a) = some a) :
    list? decode (.arr (as.map encode)) = some as := by
  rw [list?]
  induction as with
  | nil => rfl
  | cons a as ih =>
      obtain ⟨ha, has⟩ := List.forall_mem_cons.mp h
      rw [List.map_cons, List.mapM_cons, ha, ih has]
      rfl

theorem offset?_nat {n : Nat} (h : n < UInt64.size) : offset? (.nat n) = some n :=
  if_pos h

theorem Plain.ofTexts {levels : Nat} (texts : List String) :
    Plain (levels + 1) (ofTexts texts) := by
  refine .arr fun item hitem => ?_
  obtain ⟨text, -, rfl⟩ := List.mem_map.mp hitem
  exact .str text

end

/-! ### Diagnostics -/

namespace Diagnostic

theorem plain_toJson {levels : Nat} (d : Diagnostic) : Plain (levels + 2) d.toJson :=
  .obj <| List.forall_mem_cons.mpr ⟨.str _, List.forall_mem_cons.mpr ⟨.str _,
    List.forall_mem_singleton.mpr (Plain.ofTexts _)⟩⟩

theorem ofJson?_toJson (d : Diagnostic) : ofJson? d.toJson = some d := by
  have hfields : fields? ["status", "message", "expectedTokens"] d.toJson = some d.members := rfl
  have hstatus : Fields.required d.members "status"
      (fun status => (choice? status).bind Status.ofName?) = some d.status :=
    Status.ofName?_name d.status
  have hmessage : Fields.required d.members "message" text? = some d.message := rfl
  have hexpected : Fields.required d.members "expectedTokens" (list? text?) = some d.expected :=
    list?_map fun text _ => (rfl : text? (.str text) = some text)
  simp only [ofJson?, hfields, hstatus, hmessage, hexpected, Option.bind_eq_bind, Option.bind_some,
    pure]

theorem arrives (d : Diagnostic) : Arrives toJson ofJson? d :=
  .of_plain d.plain_toJson d.ofJson?_toJson

end Diagnostic

/-! ### Suggestions -/

/-- The offsets of a span have 64 bits. -/
structure SpanRecord.Fits (s : SpanRecord) : Prop where
  start : s.start < UInt64.size
  stop : s.stop < UInt64.size

/-- The cursor and the offsets of all spans have 64 bits. -/
structure SuggestionsRecord.Fits (s : SuggestionsRecord) : Prop where
  cursor : s.cursor < UInt64.size
  spans : ∀ span ∈ s.spans, span.Fits

/-- The offsets of the suggestions shown have 64 bits. -/
def ServerMessage.Fits : ServerMessage → Prop
  | .showSuggestions s => s.Fits

/-- The cursor and the offsets of all candidates have 64 bits. -/
structure Proposal.Fits (p : Proposal) : Prop where
  cursor : p.cursor < UInt64.size
  candidates : ∀ c ∈ p.candidates, c.start < UInt64.size ∧ c.stop < UInt64.size

namespace SpanRecord

theorem plain_toJson {levels : Nat} {s : SpanRecord} (h : s.Fits) : Plain (levels + 1) s.toJson :=
  .obj <| List.forall_mem_cons.mpr ⟨.nat h.start, List.forall_mem_cons.mpr ⟨.nat h.stop,
    List.forall_mem_singleton.mpr (.str _)⟩⟩

theorem ofJson?_toJson {s : SpanRecord} (h : s.Fits) : ofJson? s.toJson = some s := by
  have hfields : fields? ["start", "end", "text"] s.toJson = some s.members := rfl
  have hstart : Fields.required s.members "start" offset? = some s.start := offset?_nat h.start
  have hstop : Fields.required s.members "end" offset? = some s.stop := offset?_nat h.stop
  have htext : Fields.required s.members "text" text? = some s.text := rfl
  simp only [ofJson?, hfields, hstart, hstop, htext, Option.bind_eq_bind, Option.bind_some, pure]

end SpanRecord

namespace SuggestionsRecord
variable {s : SuggestionsRecord}

theorem plain_members {levels : Nat} (h : s.Fits) : ∀ m ∈ s.members, Plain (levels + 2) m.2 := by
  refine List.forall_mem_cons.mpr ⟨.nat h.cursor, List.forall_mem_singleton.mpr (.arr ?_)⟩
  intro item hitem
  obtain ⟨span, hspan, rfl⟩ := List.mem_map.mp hitem
  exact SpanRecord.plain_toJson (h.spans span hspan)

theorem plain_toJson {levels : Nat} (h : s.Fits) : Plain (levels + 3) s.toJson :=
  .obj (plain_members h)

theorem ofJson?_toJson (h : s.Fits) : ofJson? s.toJson = some s := by
  have hfields : fields? ["cursorPosition", "suggestions"] s.toJson = some s.members := rfl
  have hcursor : Fields.required s.members "cursorPosition" offset? = some s.cursor :=
    offset?_nat h.cursor
  have hspans : Fields.required s.members "suggestions" (list? SpanRecord.ofJson?) = some s.spans :=
    list?_map fun span hspan => SpanRecord.ofJson?_toJson (h.spans span hspan)
  simp only [ofJson?, hfields, hcursor, hspans, Option.bind_eq_bind, Option.bind_some, pure]

theorem arrives (h : s.Fits) : Arrives toJson ofJson? s :=
  .of_plain (plain_toJson h) (ofJson?_toJson h)

end SuggestionsRecord

namespace ServerMessage
variable {m : ServerMessage}

theorem plain_toJson {levels : Nat} (h : m.Fits) : Plain (levels + 3) m.toJson := by
  cases m with
  | showSuggestions s =>
      exact .obj (List.forall_mem_cons.mpr ⟨.str _, SuggestionsRecord.plain_members h⟩)

/-- The tag is taken from among the members of the payload, which are left as they were. -/
theorem ofJson?_toJson (h : m.Fits) : ofJson? m.toJson = some m := by
  have hplain : Plain maxLevels m.toJson := plain_toJson h
  have hreadable := hplain.isReadable
  cases m with
  | showSuggestions s =>
      have htag : tagged? "type" (showSuggestions s).toJson = some ("showSuggestions", s.toJson) :=
        if_pos hreadable
      have hsuggestions : SuggestionsRecord.ofJson? s.toJson = some s :=
        SuggestionsRecord.ofJson?_toJson h
      simp only [ofJson?, htag, hsuggestions, Option.bind_eq_bind, Option.bind_some, pure, if_true]

theorem arrives (h : m.Fits) : Arrives toJson ofJson? m :=
  .of_plain (plain_toJson h) (ofJson?_toJson h)

end ServerMessage

/-! ### The suggestions of a proposal -/

theorem Suggestions.suggestions_record (s : Suggestions) : s.record.suggestions = s := by
  have hspan : (fun span : Span => span.record.span) = id := rfl
  simp [Suggestions.record, SuggestionsRecord.suggestions, Function.comp_def, hspan]

theorem Proposal.Fits.record {p : Proposal} (h : p.Fits) : p.suggestions.record.Fits := by
  refine ⟨h.cursor, fun span hspan => ?_⟩
  simp only [Suggestions.record, Proposal.suggestions, List.map_map, List.mem_map] at hspan
  obtain ⟨c, hc, rfl⟩ := hspan
  obtain ⟨hstart, hstop⟩ := h.candidates c (List.mem_filter.mp hc).1
  exact ⟨hstart, hstop⟩

/-- **What crosses the wire arrives as it was sent.**  Every server's message and every diagnostic is
read back from its text, and the suggestions of every proposal are got back through their record and
its text; and no two values of a kind have the same text. -/
theorem round_trips :
    (∀ m : ServerMessage, m.Fits →
      (parse? m.toJson.compact).bind ServerMessage.ofJson? = some m) ∧
    (∀ d : Diagnostic, (parse? d.toJson.compact).bind Diagnostic.ofJson? = some d) ∧
    (∀ p : Proposal, p.Fits →
      ((parse? p.suggestions.record.toJson.compact).bind SuggestionsRecord.ofJson?).map
        (·.suggestions) = some p.suggestions) ∧
    (∀ m n : ServerMessage, m.Fits → n.Fits → m.toJson.compact = n.toJson.compact → m = n) ∧
    (∀ d e : Diagnostic, d.toJson.compact = e.toJson.compact → d = e) ∧
    (∀ p q : Proposal, p.Fits → q.Fits →
      p.suggestions.record.toJson.compact = q.suggestions.record.toJson.compact →
      p.suggestions = q.suggestions) := by
  refine ⟨fun m hm => ServerMessage.arrives hm, fun d => d.arrives, fun p hp => ?_,
    fun m n hm hn => (ServerMessage.arrives hm).injective (ServerMessage.arrives hn),
    fun d e => d.arrives.injective e.arrives, fun p q hp hq htext => ?_⟩
  · have hrecord := SuggestionsRecord.arrives hp.record
    rw [Arrives] at hrecord
    rw [hrecord, Option.map_some, Suggestions.suggestions_record]
  · have hrecord := (SuggestionsRecord.arrives hp.record).injective
      (SuggestionsRecord.arrives hq.record) htext
    rw [← p.suggestions.suggestions_record, hrecord, Suggestions.suggestions_record]

/-- A candidate with the largest offset there is, and characters of each kind that a text escapes,
and one that its label does not agree with. -/
def escapedProposal : Proposal where
  cursor := UInt64.size - 1
  candidates := [
    { start := 0, stop := UInt64.size - 1, label := some "Q", text := "\"q\" \\ \n \u0001 é 𝄞" },
    { start := 3, stop := 1, label := some "x", text := "name" }]

theorem round_trips_escaped :
    let shown := escapedProposal.suggestions
    let d : Diagnostic := ⟨.semanticError, "\t\u007f\r", ["", "\x08\x0c"]⟩
    escapedProposal.Fits ∧ (ServerMessage.showSuggestions shown).Fits ∧
    (parse? (ServerMessage.showSuggestions shown).toJson.compact).bind ServerMessage.ofJson? =
      some (.showSuggestions shown) ∧
    (parse? d.toJson.compact).bind Diagnostic.ofJson? = some d ∧
    ((parse? shown.record.toJson.compact).bind SuggestionsRecord.ofJson?).map (·.suggestions) =
      some shown ∧
    (ServerMessage.showSuggestions shown).toJson.compact ≠
      (ServerMessage.showSuggestions { cursor := 0 }).toJson.compact ∧
    d.toJson.compact ≠ Diagnostic.accepted.toJson.compact ∧
    shown.record.toJson.compact ≠ ({ cursor := 0 } : Proposal).suggestions.record.toJson.compact := by
  have hfits : escapedProposal.Fits := ⟨by decide, by decide⟩
  have hempty : (ServerMessage.showSuggestions { cursor := 0 }).Fits := ⟨by decide, nofun⟩
  obtain ⟨hmessage, hdiagnostic, hproposal, hmessages, hdiagnostics, hproposals⟩ := round_trips
  refine ⟨hfits, hfits.record, hmessage _ hfits.record, hdiagnostic _, hproposal _ hfits, ?_, ?_, ?_⟩
  · exact fun h => absurd (hmessages _ _ hfits.record hempty h) (by decide)
  · exact fun h => absurd (hdiagnostics _ _ h) (by decide)
  · exact fun h => absurd (hproposals _ _ hfits ⟨by decide, by decide⟩ h) (by decide)

end FilterEditor
