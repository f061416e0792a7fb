import FilterEditor.Oracle
import FilterEditor.Proofs.Selectors

/-!
# Proofs — Enrichment

What the schema adds to an oracle's own completions.

There are five things that can become of a proposal (`Oracle.Enriched`, `enrich_enriched`).  In none
of them do its cursor, error and token change (`Enriched.frame`).

* `shown_for_selector`: while a selector is typed, what is shown is given in full by the schema and
  what was typed, whatever the oracle itself proposed.
* `candidates_lost_iff`: the oracle's own candidates are lost without a replacement in one case
  only, that of a path below a field with nothing below it (`Schema.IsDeadEnd`).
-/

namespace FilterEditor
open Text

/-- The text contains what was typed, up to ASCII case. -/
def Contains (text typed : String) : Prop :=
  asciiLower typed.toList <:+: asciiLower text.toList

instance (text typed : String) : Decidable (Contains text typed) :=
  decidable_of_iff _ occursIn_iff

/-! ### Labels -/

theorem Candidate.extendsLabel_iff {c : Candidate} :
    c.extendsLabel ↔ ∀ typed ∈ c.label, Contains c.text typed := by
  unfold extendsLabel Contains
  cases c.label <;> simp [occursIn_iff]

theorem contains_empty (text : String) : Contains text "" :=
  List.nil_infix

/-- Of a list of names, those are shown that contain what was typed. -/
theorem spans_labelled {label : Option String} {typed : String}
    (h : label = some typed ∨ label = none ∧ typed = "") (names : List String) (start stop : Nat) :
    ((names.map fun name => { start, stop, label, text := name : Candidate }).filter
        (·.extendsLabel)).map (·.span) =
      (names.filter (Contains · typed)).map fun name => { start, stop, text := name } := by
  have hlabel : ∀ name, ({ start, stop, label, text := name } : Candidate).extendsLabel =
      decide (Contains name typed) := by
    intro name
    rw [Bool.eq_iff_iff, Candidate.extendsLabel_iff, decide_eq_true_iff]
    rcases h with rfl | ⟨rfl, rfl⟩
    · simp
    · simp [contains_empty]
  rw [List.filter_map, List.map_map]
  simp only [Function.comp_def, hlabel, Candidate.span]

/-! ### What becomes of a proposal -/

/-- Everything that the schema can make of a proposal. -/
inductive Oracle.Enriched (schema : Schema) (text : String) (p : Proposal) :
    Except Fault Proposal → Prop where
  | parsed (herror : p.syntaxError = none) : Enriched schema text p
      ((Completion.logical text).map fun more => { p with candidates := p.candidates ++ more })
  | named (herror : p.syntaxError ≠ none) {token : SelectorToken} (htoken : p.token = some token)
      {candidates : List Candidate}
      (hselector : Completion.selector schema token = .ok (some candidates)) :
      Enriched schema text p (.ok { p with candidates })
  | kept (herror : p.syntaxError ≠ none)
      (hunnamed : ∀ token ∈ p.token, Completion.selector schema token = .ok none)
      (hcandidates : p.candidates ≠ []) : Enriched schema text p (.ok p)
  | compared (herror : p.syntaxError ≠ none)
      (hunnamed : ∀ token ∈ p.token, Completion.selector schema token = .ok none)
      (hcandidates : p.candidates = []) : Enriched schema text p
        ((Completion.comparison schema text).map fun candidates => { p with candidates })
  | fault (herror : p.syntaxError ≠ none) {token : SelectorToken} (htoken : p.token = some token)
      {fault : Fault} (hselector : Completion.selector schema token = .error fault) :
      Enriched schema text p (.error fault)

section
variable {schema : Schema} {oracle : Oracle} {text : String} {cursor : Nat} {p q : Proposal}
  {token : SelectorToken} {candidates : List Candidate}

theorem enrich_parsed (herror : p.syntaxError = none) :
    Oracle.enrich schema text p =
      (Completion.logical text).map fun more => { p with candidates := p.candidates ++ more } := by
  rw [Oracle.enrich, herror]
  rfl

theorem enrich_named (herror : p.syntaxError ≠ none) (htoken : p.token = some token)
    (hselector : Completion.selector schema token = .ok (some candidates)) :
    Oracle.enrich schema text p = .ok { p with candidates } := by
  obtain ⟨message, hmessage⟩ := Option.ne_none_iff_exists'.mp herror
  rw [Oracle.enrich, hmessage, htoken]
  simp only [hselector]
  rfl

theorem enrich_fault {fault : Fault} (herror : p.syntaxError ≠ none) (htoken : p.token = some token)
    (hselector : Completion.selector schema token = .error fault) :
    Oracle.enrich schema text p = .error fault := by
  obtain ⟨message, hmessage⟩ := Option.ne_none_iff_exists'.mp herror
  rw [Oracle.enrich, hmessage, htoken]
  simp only [hselector]
  rfl

theorem enrich_unnamed (herror : p.syntaxError ≠ none)
    (hunnamed : ∀ token ∈ p.token, Completion.selector schema token = .ok none) :
    Oracle.enrich schema text p =
      if p.candidates = [] then
        (Completion.comparison schema text).map fun candidates => { p with candidates }
      else .ok p := by
  obtain ⟨message, hmessage⟩ := Option.ne_none_iff_exists'.mp herror
  rw [Oracle.enrich, hmessage]
  cases htoken : p.token with
  | none => by_cases h : p.candidates = [] <;> simp [h] <;> rfl
  | some token =>
      simp only [hunnamed token htoken]
      by_cases h : p.candidates = [] <;> simp [h] <;> rfl

theorem enrich_enriched (schema : Schema) (text : String) (p : Proposal) :
    Oracle.Enriched schema text p (Oracle.enrich schema text p) := by
  by_cases herror : p.syntaxError = none
  · rw [enrich_parsed herror]
    exact .parsed herror
  by_cases hunnamed : ∀ token ∈ p.token, Completion.selector schema token = .ok none
  · rw [enrich_unnamed herror hunnamed]
    split
    · next hcandidates => exact .compared herror hunnamed hcandidates
    · next hcandidates => exact .kept herror hunnamed hcandidates
  · obtain ⟨token, hselector⟩ := Classical.not_forall.mp hunnamed
    obtain ⟨htoken, hselector⟩ := Classical.not_imp.mp hselector
    cases hnamed : Completion.selector schema token with
    | ok offered =>
        cases offered with
        | none => exact absurd hnamed hselector
        | some candidates =>
            rw [enrich_named herror htoken hnamed]
            exact .named herror htoken hnamed
    | error fault =>
        rw [enrich_fault herror htoken hnamed]
        exact .fault herror htoken hnamed

/-- Only the candidates change. -/
theorem Oracle.Enriched.frame {r : Except Fault Proposal} (h : Oracle.Enriched schema text p r)
    (hq : r = .ok q) : q.cursor = p.cursor ∧ q.syntaxError = p.syntaxError ∧ q.token = p.token := by
  cases h with
  | parsed =>
      obtain ⟨more, -, rfl⟩ := map_eq_ok.mp hq
      exact ⟨rfl, rfl, rfl⟩
  | compared =>
      obtain ⟨more, -, rfl⟩ := map_eq_ok.mp hq
      exact ⟨rfl, rfl, rfl⟩
  | named | kept =>
      cases hq
      exact ⟨rfl, rfl, rfl⟩
  | fault => cases hq

/-- There is no fault if the token ends at an offset, and the text is one that there can be. -/
theorem enrich_ok (schema : Schema) (htext : text.length < offsetLimit / 2)
    (htokens : ∀ token ∈ p.token, token.start + token.image.length < offsetLimit) :
    ∃ q, Oracle.enrich schema text p = .ok q := by
  have hroom : text.length + 5 < offsetLimit := by
    unfold offsetLimit at *
    simp only [UInt64.size] at *
    omega
  have henriched := enrich_enriched schema text p
  generalize Oracle.enrich schema text p = r at henriched ⊢
  cases henriched with
  | parsed =>
      obtain ⟨more, hmore⟩ := Completion.logical_ok (by omega : text.length + 3 < offsetLimit)
      exact ⟨_, map_eq_ok.mpr ⟨more, hmore, rfl⟩⟩
  | compared =>
      obtain ⟨more, hmore⟩ := Completion.comparison_ok schema hroom
      exact ⟨_, map_eq_ok.mpr ⟨more, hmore, rfl⟩⟩
  | named | kept => exact ⟨_, rfl⟩
  | fault _ htoken hselector =>
      obtain ⟨offered, hoffered⟩ := selector_ok schema (htokens _ htoken)
      rw [hselector] at hoffered
      cases hoffered

/-! ### What is shown -/

/-- What is shown of an oracle's completions. -/
def Oracle.shown (oracle : Oracle) (text : String) (cursor : Nat) : Except Fault Suggestions :=
  (oracle.propose text cursor).map (·.suggestions)

theorem propose_completing (hp : oracle.propose text cursor = .ok p) :
    (oracle.completing schema).propose text cursor = Oracle.enrich schema text p := by
  unfold Oracle.completing
  simp only [hp]
  rfl

/-- What is offered for the selector takes the place of the oracle's own candidates. -/
theorem shown_named (hp : oracle.propose text cursor = .ok p) (herror : p.syntaxError ≠ none)
    (htoken : p.token = some token)
    (hselector : Completion.selector schema token = .ok (some candidates)) :
    (oracle.completing schema).shown text cursor =
      .ok { cursor := p.cursor, spans := (candidates.filter (·.extendsLabel)).map (·.span) } := by
  rw [Oracle.shown, propose_completing hp, enrich_named herror htoken hselector]
  rfl

/-- **What is shown while a selector is typed.**  The cursor is the one that the oracle gave, for
any text of fewer than 2^63 characters.  For a name that is not that of a field, each field is shown
whose name contains it, in place of the name.  For a path below a field that has attributes and is
no map, each attribute is shown that contains the rest of the path, in place of that rest, unless
the path is known.  After the name of a field with something below it a dot is shown. -/
theorem shown_for_selector (schema : Schema) (oracle : Oracle) (text : String) (cursor : Nat)
    {p : Proposal} {token : SelectorToken} (hp : oracle.propose text cursor = .ok p)
    (herror : p.syntaxError ≠ none) (htoken : p.token = some token)
    (hlimit : token.start + token.image.length < offsetLimit) :
    let shown := (oracle.completing schema).shown text cursor
    (text.length < offsetLimit / 2 → ∃ s, shown = .ok s ∧ s.cursor = p.cursor) ∧
      ('.' ∉ token.image.toList → lowercase token.image ∉ schema.names →
        shown = .ok
          { cursor := p.cursor
            spans := (schema.names.filter (Contains · token.image)).map fun name =>
              { start := token.start, stop := token.stop, text := name } }) ∧
      (∀ top sub field, token.image = top ++ "." ++ sub → '.' ∉ top.toList →
        schema.get? top = some field → ¬ field.isMap → field.attributes ≠ [] →
        ¬ schema.containsPath token.image →
          shown = .ok
            { cursor := p.cursor
              spans := (field.attributes.filter (Contains · sub)).map fun name =>
                { start := token.start + top.length + 1, stop := token.stop, text := name } } ∧
          (sub = "" → field.attributes.filter (Contains · sub) = field.attributes)) ∧
      (∀ field, '.' ∉ token.image.toList → schema.get? token.image = some field → field.HasParts →
        shown = .ok
          { cursor := p.cursor
            spans := [{ start := token.stop, stop := token.stop, text := "." }] }) := by
  intro shown
  refine ⟨fun htext => ?_, fun hname hunknown => ?_,
    fun top sub field himage htop hfield hmap _ hunknown => ⟨?_, ?_⟩,
    fun field hname hfield hparts => ?_⟩
  · have htokens : ∀ t ∈ p.token, t.start + t.image.length < offsetLimit := by
      intro t ht
      obtain rfl : token = t := Option.some.inj (htoken.symm.trans ht)
      exact hlimit
    obtain ⟨q, hq⟩ := enrich_ok schema htext htokens
    obtain ⟨hcursor, -, -⟩ := (enrich_enriched schema text p).frame hq
    refine ⟨q.suggestions, ?_, hcursor⟩
    simp only [shown, Oracle.shown, propose_completing hp, hq, Except.map]
  · have hselector := Completion.selector_unknown hname (Schema.get?_eq_none_iff.mpr hunknown)
    rw [← spans_labelled (.inl rfl)]
    exact shown_named hp herror htoken hselector
  · have hselector := Completion.selector_below himage htop hfield hmap hunknown
    -- The rest of the path starts at an offset, since it starts no later than the token ends.
    rw [addOffset_of_lt (Nat.lt_of_le_of_lt (below_le himage) hlimit)] at hselector
    have hlabel : (if sub.isEmpty then none else some sub) = some sub ∨
        (if sub.isEmpty then none else some sub) = none ∧ sub = "" := by
      by_cases hsub : sub = "" <;> simp [hsub]
    rw [← spans_labelled hlabel]
    exact shown_named hp herror htoken hselector
  · rintro rfl
    simp [contains_empty]
  · exact shown_named hp herror htoken (Completion.selector_parted hname hfield hparts)

end

/-- An oracle whose parser stops on the token.  It proposes a parenthesis in front. -/
def Oracle.stoppedAt (token : SelectorToken) : Oracle where
  validate _ := .ok (.syntaxError "Encountered" (.syntaxError "Encountered" .missing))
  propose _ _ := .ok
    { cursor := token.stop
      candidates := [{ start := token.start, stop := token.start, text := "(" }]
      syntaxError := some "Encountered"
      token := some token }

/-- A part of a name, a path and a map, with capitals in each. -/
theorem shown_for_selector_typed :
    let schema := Schema.ofFields kindsOfFields
    let name : SelectorToken := { image := "S", start := 4, stop := 5 }
    let path : SelectorToken := { image := "dS.", start := 4, stop := 7 }
    let map : SelectorToken := { image := "aT", start := 4, stop := 6 }
    (lowercase name.image ∉ schema.names ∧
        ((Oracle.stoppedAt name).completing schema).shown "not S" 5 =
          .ok { cursor := 5, spans := [{ start := 4, stop := 5, text := "ds" }] }) ∧
      (¬ schema.containsPath path.image ∧
        ((Oracle.stoppedAt path).completing schema).shown "not dS." 7 =
          .ok { cursor := 7, spans := [⟨7, 7, "k"⟩, ⟨7, 7, "v"⟩] }) ∧
      (schema.isMap map.image ∧
        ((Oracle.stoppedAt map).completing schema).shown "not aT" 6 =
          .ok { cursor := 6, spans := [{ start := 6, stop := 6, text := "." }] }) := by
  intro schema name path map
  obtain ⟨-, hname, -, -⟩ :=
    shown_for_selector schema (.stoppedAt name) "not S" 5 rfl (by decide) rfl (by decide)
  obtain ⟨-, -, hpath, -⟩ :=
    shown_for_selector schema (.stoppedAt path) "not dS." 7 rfl (by decide) rfl (by decide)
  obtain ⟨-, -, -, hmap⟩ :=
    shown_for_selector schema (.stoppedAt map) "not aT" 6 rfl (by decide) rfl (by decide)
  have hunknown : lowercase name.image ∉ schema.names := by decide +kernel
  have hds : schema.names.filter (Contains · "S") = ["ds"] := by decide +kernel
  have hname := hname (by decide) hunknown
  rw [hds] at hname
  have hfield : schema.get? "dS" = some { name := "ds", attributes := ["k", "v"] } := by
    decide +kernel
  have hpartial : ¬ schema.containsPath path.image := by decide +kernel
  obtain ⟨hpath, hall⟩ :=
    hpath "dS" "" _ (by decide) (by decide) hfield (by decide) (by decide) hpartial
  rw [hall rfl] at hpath
  have hfield : schema.get? "aT" = some { name := "at", isMap := true } := by decide +kernel
  have hmap := hmap _ (by decide) hfield (.inl rfl)
  have hisMap : schema.isMap map.image := by simp [Schema.isMap, map, hfield]
  exact ⟨⟨hunknown, hname⟩, ⟨hpartial, hpath⟩, hisMap, hmap⟩

/-- The name of a field is cut at a dot that it holds, so that what the oracle itself proposed is
shown. -/
theorem dotted_name_cut :
    let schema := Schema.ofFields [.reference "a.b" ["c"]]
    let token : SelectorToken := { image := "a.b" ++ "." ++ "", start := 0, stop := 4 }
    let shown := ((Oracle.stoppedAt token).completing schema).shown "a.b." 4
    (∃ field, schema.get? "a.b" = some field ∧ ¬ field.isMap ∧ field.attributes = ["c"]) ∧
      ¬ schema.containsPath token.image ∧
      shown = .ok { cursor := 4, spans := [{ start := 0, stop := 0, text := "(" }] } ∧
      shown ≠ .ok { cursor := 4, spans := [{ start := 4, stop := 4, text := "c" }] } := by
  intro schema token shown
  have hfield : schema.get? "a.b" = some { name := "a.b", attributes := ["c"] } := by decide +kernel
  have hcut : Completion.selector schema token = .ok none := by
    have hnone : schema.get? "a" = none := by decide +kernel
    have himage : token.image = "a" ++ "." ++ "b." := by decide
    exact Completion.selector_free himage (by decide) (by simp [hnone])
  have hshown : shown = .ok { cursor := 4, spans := [{ start := 0, stop := 0, text := "(" }] } := by
    simp only [shown, Oracle.shown]
    rw [propose_completing rfl, enrich_unnamed (by decide) (by simpa [Oracle.stoppedAt] using hcut)]
    rfl
  refine ⟨⟨_, hfield, by decide, rfl⟩, by decide +kernel, hshown, ?_⟩
  rw [hshown, ne_eq, Except.ok.injEq]
  decide

/-! ### Candidates that are lost -/

/-- The selector goes on below a field with nothing below it. -/
def Schema.IsDeadEnd (schema : Schema) (token : SelectorToken) : Prop :=
  ∃ top sub field, token.image = top ++ "." ++ sub ∧ '.' ∉ top.toList ∧
    schema.get? top = some field ∧ ¬ field.HasParts

section
variable {schema : Schema} {oracle : Oracle} {text : String} {cursor : Nat} {p : Proposal}
  {token : SelectorToken}

/-- Where the selector is cut there is no choice. -/
theorem isDeadEnd_iff {top sub : String} (himage : token.image = top ++ "." ++ sub)
    (htop : '.' ∉ top.toList) :
    schema.IsDeadEnd token ↔ ∃ field, schema.get? top = some field ∧ ¬ field.HasParts := by
  constructor
  · rintro ⟨top', sub', field, himage', htop', hfield, hparts⟩
    have hcut := Completion.splitFirst_image himage htop
    rw [Completion.splitFirst_image himage' htop', Option.some.injEq, Prod.mk.injEq,
      String.toList_inj] at hcut
    exact ⟨field, hcut.1 ▸ hfield, hparts⟩
  · rintro ⟨field, hfield, hparts⟩
    exact ⟨top, sub, field, himage, htop, hfield, hparts⟩

/-- What is offered is empty at a dead end only. -/
theorem offered_nil_iff (hfields : schema.fields ≠ []) {offered : Option (List Candidate)}
    (h : Completion.selector schema token = .ok offered) :
    offered = some [] ↔ schema.IsDeadEnd token := by
  constructor
  · rintro rfl
    have houtcome := Completion.selector_outcome schema token
    generalize Completion.selector schema token = r at h houtcome
    cases houtcome with
    | unknown => exact absurd h (by simp [Schema.names, hfields])
    | parted => exact absurd h (by simp)
    | plain | known | free | overflow => exact absurd h (by simp)
    | below himage htop hfield hmap =>
        have hattributes : _ = [] := List.map_eq_nil_iff.mp (Option.some.inj (Except.ok.inj h))
        exact ⟨_, _, _, himage, htop, hfield, not_or.mpr ⟨hmap, fun hne => hne hattributes⟩⟩
  · rintro ⟨top, sub, field, himage, htop, hfield, hparts⟩
    obtain ⟨hmap, hattributes⟩ := not_or.mp hparts
    rw [ne_eq, Decidable.not_not] at hattributes
    have hunknown : ¬ schema.containsPath token.image := by
      rw [himage, Schema.containsPath_path htop]
      rintro ⟨g, hg, -, a, ha, -⟩
      rw [hfield, Option.some.injEq] at hg
      rw [← hg, hattributes] at ha
      cases ha
    rw [Completion.selector_below himage htop hfield hmap hunknown] at h
    obtain ⟨start, -, rfl⟩ := map_eq_ok.mp h
    simp [Completion.attributeCandidates, hattributes]

/-- **Where candidates are lost.**  An oracle proposes something.  With the schema's completions, if
the token ends at an offset and the text has fewer than 2^63 characters, there is a proposal too, of
the same cursor, error and token.  It has no candidates just if the parser stopped on a path below a
field that has nothing below it. -/
theorem candidates_lost_iff (oracle : Oracle) (text : String) (cursor : Nat)
    (hfields : schema.fields ≠ []) (hp : oracle.propose text cursor = .ok p)
    (hcandidates : p.candidates ≠ []) :
    (text.length < offsetLimit / 2 →
        (∀ token ∈ p.token, token.start + token.image.length < offsetLimit) →
          ∃ q, (oracle.completing schema).propose text cursor = .ok q) ∧
      ∀ q, (oracle.completing schema).propose text cursor = .ok q →
        (q.cursor = p.cursor ∧ q.syntaxError = p.syntaxError ∧ q.token = p.token) ∧
          (q.candidates = [] ↔
            p.syntaxError ≠ none ∧ ∃ token, p.token = some token ∧ schema.IsDeadEnd token) := by
  rw [propose_completing hp]
  refine ⟨enrich_ok schema, fun q hq => ?_⟩
  have henriched := enrich_enriched schema text p
  refine ⟨henriched.frame hq, ?_⟩
  generalize Oracle.enrich schema text p = r at henriched hq
  cases henriched with
  | parsed herror =>
      obtain ⟨more, -, rfl⟩ := map_eq_ok.mp hq
      simp [herror, hcandidates]
  | named herror htoken hselector =>
      cases hq
      have hnil := offered_nil_iff hfields hselector
      simp [herror, htoken, ← hnil]
  | kept herror hunnamed =>
      cases hq
      simp only [hcandidates, false_iff]
      rintro ⟨-, token, htoken, hdead⟩
      cases (offered_nil_iff hfields (hunnamed token htoken)).mpr hdead
  | compared _ _ hnone => exact absurd hnone hcandidates
  | fault => cases hq

end

/-- A path below an unknown name leaves the parenthesis. -/
theorem candidates_lost_iff_unknown :
    let schema := Schema.ofNames ["id"]
    let oracle := Oracle.stoppedAt { image := "no.x", start := 4, stop := 8 }
    schema.fields ≠ [] ∧ ∃ q, (oracle.completing schema).propose "not no.x" 8 = .ok q ∧
      q.cursor = 8 ∧ q.candidates ≠ [] := by
  intro schema oracle
  have hfields : schema.fields ≠ [] := by decide +kernel
  obtain ⟨hok, hq⟩ := candidates_lost_iff oracle "not no.x" 8 hfields rfl (by decide)
  obtain ⟨q, hpropose⟩ := hok (by decide) fun token htoken => by
    obtain rfl := Option.some.inj htoken
    decide
  obtain ⟨⟨hcursor, -⟩, hnil⟩ := hq q hpropose
  refine ⟨hfields, q, hpropose, hcursor, fun hlost => ?_⟩
  obtain ⟨-, token, htoken, hdead⟩ := hnil.mp hlost
  obtain rfl := Option.some.inj htoken
  have himage : "no.x" = "no" ++ "." ++ "x" := by decide
  have hnone : schema.get? "no" = none := by decide +kernel
  obtain ⟨field, hfield, -⟩ := (isDeadEnd_iff himage (by decide)).mp hdead
  rw [hnone] at hfield
  cases hfield

/-- A path below a plain field takes the parenthesis away, and puts nothing in its place. -/
theorem candidates_lost_plain :
    let schema := Schema.ofNames ["id"]
    let oracle := Oracle.stoppedAt { image := "id.x", start := 0, stop := 4 }
    schema.fields ≠ [] ∧ ∃ p q, oracle.propose "id.x" 4 = .ok p ∧ p.candidates ≠ [] ∧
      (oracle.completing schema).propose "id.x" 4 = .ok q ∧ q.candidates = [] := by
  intro schema oracle
  have hfield : schema.get? "id" = some { name := "id" } := by decide +kernel
  have hselector : Completion.selector schema { image := "id.x", start := 0, stop := 4 } =
      .ok (some []) := by
    have himage : "id.x" = "id" ++ "." ++ "x" := by decide
    rw [Completion.selector_below himage (by decide) hfield (by decide) (by decide +kernel)]
    rfl
  exact ⟨by decide +kernel, _, _, rfl, by decide,
    (propose_completing rfl).trans (enrich_named (by decide) rfl hselector), rfl⟩

end FilterEditor
