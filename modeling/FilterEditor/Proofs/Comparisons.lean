import FilterEditor.Completion.Operator
import FilterEditor.Proofs.Fields
import FilterEditor.Text.Pattern

/-!
# Proofs — Comparisons

Where comparisons are offered (`comparisons_offered`).

A query that ends in the key of a map and a sign is a `KeyedQuery`.  It can be taken apart in one
way only (`KeyedQuery.text_injective`), and that is how its map is read backwards from the end
(`comparedMap?_eq_some_iff`).  The same map is found from the front, as what is kept by the leftmost
match of the pattern `keyAndSign`: the name of the map is a whole word, and the first place where
the pattern matches is where this word starts (`exists_of_search`).
-/

namespace FilterEditor
open Text

/-- One or more word characters. -/
def IsWord (cs : List Char) : Prop :=
  cs ≠ [] ∧ ∀ c ∈ cs, isWordChar c

instance (cs : List Char) : Decidable (IsWord cs) :=
  decidable_of_iff (cs.isEmpty = false ∧ cs.all isWordChar) (by simp [IsWord])

/-- A query that ends in the name of a map, a dot, a key, and the sign that starts a comparison. -/
structure KeyedQuery where
  front : String
  map : String
  key : String
  sign : Char
  isWord_map : IsWord map.toList
  isWord_key : IsWord key.toList
  sign_eq : sign = '=' ∨ sign = '!'
  /-- The name of the map is a whole word. -/
  not_isWordChar : ∀ c ∈ front.toList.getLast?, ¬ isWordChar c

/-- What stands for the end of such a query: the name, which is kept, the dot, the key and the sign.
-/
def keyAndSign : Pattern :=
  .seq (.keep (.run isWordChar)) <| .seq (.one (· == '.')) <| .seq (.run isWordChar) <|
    .seq (.one Completion.isSign) .finish

/-! ### Words -/

section
variable {p : Char → Bool} {word word' back back' : List Char}

theorem takeWhile_word (hword : ∀ c ∈ word, p c) (hback : ∀ c ∈ back.head?, ¬ p c) :
    (word ++ back).takeWhile p = word := by
  rw [List.takeWhile_append_of_pos hword]
  cases back with
  | nil => simp
  | cons c cs => simp [hback c rfl]

theorem dropWhile_word (hword : ∀ c ∈ word, p c) (hback : ∀ c ∈ back.head?, ¬ p c) :
    (word ++ back).dropWhile p = back := by
  rw [List.dropWhile_append_of_pos hword]
  cases back with
  | nil => rfl
  | cons c cs => simp [hback c rfl]

/-- A whole word at the front of a text is told apart from what follows it. -/
theorem append_inj_of_word (hword : ∀ c ∈ word, p c) (hword' : ∀ c ∈ word', p c)
    (hback : ∀ c ∈ back.head?, ¬ p c) (hback' : ∀ c ∈ back'.head?, ¬ p c)
    (h : word ++ back = word' ++ back') : word = word' ∧ back = back' := by
  constructor
  · rw [← takeWhile_word hword hback, h, takeWhile_word hword' hback']
  · rw [← dropWhile_word hword hback, h, dropWhile_word hword' hback']

end

theorem Completion.isSign_iff {c : Char} : isSign c ↔ c = '=' ∨ c = '!' := by
  simp [isSign]

theorem isWord_takeWhile {cs : List Char} (h : cs.takeWhile isWordChar ≠ []) :
    IsWord (cs.takeWhile isWordChar).reverse := by
  refine ⟨mt List.reverse_eq_nil_iff.mp h, fun c hc => ?_⟩
  exact List.all_eq_true.mp List.all_takeWhile c (List.mem_reverse.mp hc)

/-! ### One way to take a query apart -/

namespace KeyedQuery

/-- The query. -/
def text (q : KeyedQuery) : String :=
  q.front ++ q.map ++ "." ++ q.key ++ String.singleton q.sign

/-- The query from its end. -/
theorem reverse_text (q : KeyedQuery) :
    q.text.toList.reverse = q.sign :: (q.key.toList.reverse ++
      '.' :: (q.map.toList.reverse ++ q.front.toList.reverse)) := by
  simp [text]

theorem reverse_key (q : KeyedQuery) : ∀ c ∈ q.key.toList.reverse, isWordChar c :=
  fun c hc => q.isWord_key.2 c (List.mem_reverse.mp hc)

theorem reverse_map (q : KeyedQuery) : ∀ c ∈ q.map.toList.reverse, isWordChar c :=
  fun c hc => q.isWord_map.2 c (List.mem_reverse.mp hc)

theorem head_front (q : KeyedQuery) : ∀ c ∈ q.front.toList.reverse.head?, ¬ isWordChar c := by
  rw [List.head?_reverse]
  exact q.not_isWordChar

theorem head_dot {cs : List Char} : ∀ c ∈ ('.' :: cs).head?, ¬ isWordChar c := by
  simp [isWordChar]

theorem text_injective : Function.Injective text := by
  intro q q' h
  have hreverse := congrArg (·.toList.reverse) h
  simp only [reverse_text, List.cons.injEq] at hreverse
  obtain ⟨hsign, hkeyed⟩ := hreverse
  obtain ⟨hkey, hnamed⟩ := append_inj_of_word q.reverse_key q'.reverse_key head_dot head_dot hkeyed
  obtain ⟨hmap, hfront⟩ := append_inj_of_word q.reverse_map q'.reverse_map q.head_front
    q'.head_front (List.cons.inj hnamed).2
  simp only [List.reverse_inj, String.toList_inj] at hkey hmap hfront
  cases q
  cases q'
  simp_all

/-- Parts of the right kind make a query. -/
theorem exists_of_parts {front map key : List Char} {sign : Char} (hmap : IsWord map)
    (hkey : IsWord key) (hsign : Completion.isSign sign)
    (hfront : ∀ c ∈ front.getLast?, ¬ isWordChar c) :
    ∃ q : KeyedQuery, q.text.toList = front ++ (map ++ '.' :: (key ++ [sign])) ∧
      q.map = String.ofList map := by
  refine ⟨{ front := String.ofList front
            map := String.ofList map
            key := String.ofList key
            sign
            isWord_map := by rwa [String.toList_ofList]
            isWord_key := by rwa [String.toList_ofList]
            sign_eq := Completion.isSign_iff.mp hsign
            not_isWordChar := by rwa [String.toList_ofList] }, ?_, rfl⟩
  simp [text]

/-! ### From the end -/

theorem comparedMap?_text (q : KeyedQuery) : Completion.comparedMap? q.text = some q.map := by
  have hkey : q.key.toList ≠ [] := q.isWord_key.1
  have hmap : q.map.toList ≠ [] := q.isWord_map.1
  have hsign : Completion.isSign q.sign := Completion.isSign_iff.mpr q.sign_eq
  simp only [Completion.comparedMap?, reverse_text, takeWhile_word q.reverse_key head_dot,
    dropWhile_word q.reverse_key head_dot, takeWhile_word q.reverse_map q.head_front]
  simp [hsign, hkey, hmap]

end KeyedQuery

theorem Completion.comparedMap?_eq_some_iff {query map : String} :
    comparedMap? query = some map ↔ ∃ q : KeyedQuery, q.text = query ∧ q.map = map := by
  constructor
  · intro h
    unfold comparedMap? at h
    split at h
    · cases h
    next sign back hquery =>
      split at h
      next front hback =>
        dsimp only at h
        split at h
        next hparts =>
          simp only [Bool.and_eq_true, Bool.not_eq_true', List.isEmpty_eq_false_iff] at hparts
          obtain ⟨⟨hsign, hkey⟩, hmap⟩ := hparts
          have hfront : ∀ c ∈ (front.dropWhile isWordChar).reverse.getLast?, ¬ isWordChar c := by
            intro c hc
            have hrest := List.head?_dropWhile_not isWordChar front
            rw [List.getLast?_reverse, Option.mem_def] at hc
            rw [hc] at hrest
            simpa using hrest
          obtain ⟨q, htext, hname⟩ := KeyedQuery.exists_of_parts (isWord_takeWhile hmap)
            (isWord_takeWhile hkey) hsign hfront
          refine ⟨q, ?_, hname.trans (Option.some.inj h)⟩
          rw [← String.toList_inj, htext, ← List.reverse_inj, hquery]
          simp [← hback]
        · cases h
      · cases h
  · rintro ⟨q, rfl, rfl⟩
    exact q.comparedMap?_text

-- Of a chain of words the last two count.
example : Completion.comparedMap? "a.map.key=" = some "map" := by decide +kernel

/-! ### From the front -/

theorem mem_ways_keyAndSign {text : List Char} {m : Match} :
    m ∈ keyAndSign.ways text ↔
      ∃ map key sign, IsWord map ∧ IsWord key ∧ Completion.isSign sign ∧
        text = map ++ '.' :: (key ++ [sign]) ∧
        m = { matched := text, kept := [map], rest := [] } := by
  simp only [keyAndSign, Pattern.mem_ways_seq, Pattern.mem_ways_keep, Pattern.mem_ways_run,
    Pattern.mem_ways_one, Pattern.mem_ways_finish]
  constructor
  · rintro ⟨_, ⟨_, ⟨map, _, hmap, hmapWord, rfl, rfl⟩, rfl⟩, _,
      ⟨_, ⟨dot, _, hdot, rfl, rfl⟩, _, ⟨_, ⟨key, _, hkey, hkeyWord, rfl, rfl⟩, _,
        ⟨_, ⟨sign, _, hsign, rfl, rfl⟩, _, ⟨rfl, rfl⟩, rfl⟩, rfl⟩, rfl⟩, rfl⟩
    obtain rfl : dot = '.' := by simpa using hdot
    exact ⟨map, key, sign, ⟨hmap, hmapWord⟩, ⟨hkey, hkeyWord⟩, hsign, rfl, rfl⟩
  · rintro ⟨map, key, sign, ⟨hmap, hmapWord⟩, ⟨hkey, hkeyWord⟩, hsign, rfl, rfl⟩
    exact ⟨_, ⟨_, ⟨map, _, hmap, hmapWord, rfl, rfl⟩, rfl⟩, _,
      ⟨_, ⟨'.', _, rfl, rfl, rfl⟩, _, ⟨_, ⟨key, _, hkey, hkeyWord, rfl, rfl⟩, _,
        ⟨_, ⟨sign, _, hsign, rfl, rfl⟩, _, ⟨rfl, rfl⟩, rfl⟩, rfl⟩, rfl⟩, rfl⟩

/-- The leftmost match is at the end of a query, and keeps its map. -/
theorem exists_of_search {query : String} {m : Match}
    (h : keyAndSign.search query.toList = some m) :
    ∃ q : KeyedQuery, q.text = query ∧ m.kept = [q.map.toList] := by
  obtain ⟨front, back, hquery, hway, hleast⟩ := Pattern.leftmost_of_search h
  obtain ⟨map, key, sign, hmap, hkey, hsign, hback, rfl⟩ :=
    mem_ways_keyAndSign.mp (List.mem_of_head? hway)
  have hfront : ∀ c ∈ front.getLast?, ¬ isWordChar c := by
    -- A word character in front of the map could start a match one place further left.
    intro c hc hword
    obtain ⟨init, rfl⟩ := List.getLast?_eq_some_iff.mp hc
    have hearlier : keyAndSign.ways (c :: back) ≠ [] := by
      refine List.ne_nil_of_mem (mem_ways_keyAndSign.mpr ⟨c :: map, key, sign,
        ⟨List.cons_ne_nil c map, List.forall_mem_cons.mpr ⟨hword, hmap.2⟩⟩, hkey, hsign, ?_, rfl⟩)
      rw [hback, List.cons_append]
    have hle := hleast init (c :: back) (by simpa using hquery) hearlier
    rw [List.length_append] at hle
    exact Nat.not_succ_le_self _ hle
  obtain ⟨q, htext, hname⟩ := KeyedQuery.exists_of_parts hmap hkey hsign hfront
  refine ⟨q, ?_, by rw [hname, String.toList_ofList]⟩
  rw [← String.toList_inj, htext, hquery, hback]

namespace KeyedQuery

theorem search_text (q : KeyedQuery) :
    ∃ m, keyAndSign.search q.text.toList = some m ∧ m.kept = [q.map.toList] := by
  cases hsearch : keyAndSign.search q.text.toList with
  | none =>
      have htext : q.text.toList =
          q.front.toList ++ (q.map.toList ++ '.' :: (q.key.toList ++ [q.sign])) := by
        simp [text]
      have hnone := Pattern.search_eq_none_iff.mp hsearch _ _ htext
      have hway := mem_ways_keyAndSign.mpr ⟨q.map.toList, q.key.toList, q.sign, q.isWord_map,
        q.isWord_key, Completion.isSign_iff.mpr q.sign_eq, rfl, rfl⟩
      rw [hnone] at hway
      cases hway
  | some m =>
      obtain ⟨q', htext, hkept⟩ := exists_of_search hsearch
      obtain rfl := text_injective htext
      exact ⟨m, rfl, hkept⟩

end KeyedQuery

/-- The map is what the search for the pattern keeps. -/
theorem Completion.comparedMap?_eq_search (query : String) :
    comparedMap? query =
      (keyAndSign.search query.toList).bind (·.kept.head?.map String.ofList) := by
  cases hsearch : keyAndSign.search query.toList with
  | none =>
      cases hmap : comparedMap? query with
      | none => rfl
      | some map =>
          obtain ⟨q, rfl, -⟩ := comparedMap?_eq_some_iff.mp hmap
          obtain ⟨m, hm, -⟩ := q.search_text
          rw [hsearch] at hm
          cases hm
  | some m =>
      obtain ⟨q, rfl, hkept⟩ := exists_of_search hsearch
      simp [q.comparedMap?_text, hkept]

/-! ### Where comparisons are offered -/

/-- **Where comparisons are offered.**  For every query with room for an operator there is no fault.
Comparisons are offered just if the query ends in a map of the schema, a dot, a key and a sign.  It
can be taken apart so in one way only, and the map that is looked up is this one: it is what the
leftmost match of the pattern keeps. -/
theorem comparisons_offered (fields : List Field) (query : String) :
    let schema := Schema.ofFields fields
    let offered := Completion.comparison schema query
    (query.length + 6 < offsetLimit → ∃ candidates, offered = .ok candidates) ∧
      (∀ candidates, offered = .ok candidates →
        (candidates ≠ [] ↔
          ∃ q : KeyedQuery, q.text = query ∧
            ∃ field ∈ schema.fields, field.isMap ∧ field.name = lowercase q.map)) ∧
      (∀ q q' : KeyedQuery, q.text = query → q'.text = query → q = q') ∧
      (∀ map, Completion.comparedMap? query = some map ↔
        ∃ q : KeyedQuery, q.text = query ∧ q.map = map) ∧
      Completion.comparedMap? query =
        (keyAndSign.search query.toList).bind (·.kept.head?.map String.ofList) := by
  intro schema offered
  refine ⟨fun hroom => Completion.comparison_ok schema (by omega), fun candidates h => ?_,
    fun q q' hq hq' => KeyedQuery.text_injective (hq.trans hq'.symm),
    fun map => Completion.comparedMap?_eq_some_iff, Completion.comparedMap?_eq_search query⟩
  have hmaps : ∀ name, schema.isMap name ↔
      ∃ field ∈ schema.fields, field.isMap ∧ field.name = lowercase name :=
    fun name => Schema.isMap_ofFields_iff
  simp only [← hmaps]
  rcases Completion.comparison_eq_ok h with ⟨hnone, rfl⟩ | ⟨⟨map, hmap, hisMap⟩, hoffered⟩
  · simp only [ne_eq, not_true_eq_false, false_iff]
    rintro ⟨q, rfl, hisMap⟩
    exact hnone q.map q.comparedMap?_text hisMap
  · obtain ⟨-, rfl⟩ := Completion.operatorsAt_eq_ok_iff.mp hoffered
    obtain ⟨q, hq, rfl⟩ := Completion.comparedMap?_eq_some_iff.mp hmap
    exact iff_of_true (by simp [Completion.comparisonOperators]) ⟨q, hq, hisMap⟩

/-- A map after a dot, which stands after a letter outside ASCII. -/
theorem comparisons_offered_dotted :
    let schema := Schema.ofFields [.map "Map"]
    let query := "id==a or é.mAP.key_2!"
    query.length + 6 < offsetLimit ∧
      (∃ q : KeyedQuery, q.text = query ∧
        ∃ field ∈ schema.fields, field.isMap ∧ field.name = lowercase q.map) ∧
      Completion.comparedMap? query = some "mAP" ∧
      ∃ candidates, Completion.comparison schema query = .ok candidates ∧ candidates ≠ [] := by
  intro schema query
  have hroom : query.length + 6 < offsetLimit := by decide
  let q : KeyedQuery :=
    { front := "id==a or é."
      map := "mAP"
      key := "key_2"
      sign := '!'
      isWord_map := by decide
      isWord_key := by decide
      sign_eq := .inr rfl
      not_isWordChar := fun c hc => by
        obtain rfl : '.' = c := Option.some.inj hc
        decide }
  have hq : q.text = query := by decide
  have hfield : ∃ field ∈ schema.fields, field.isMap ∧ field.name = lowercase q.map := by
    decide +kernel
  obtain ⟨hok, hiff, -, hmap, -⟩ := comparisons_offered [.map "Map"] query
  obtain ⟨candidates, hcandidates⟩ := hok hroom
  exact ⟨hroom, ⟨q, hq, hfield⟩, (hmap "mAP").mpr ⟨q, hq, rfl⟩, candidates, hcandidates,
    (hiff candidates hcandidates).mpr ⟨q, hq, hfield⟩⟩

end FilterEditor
