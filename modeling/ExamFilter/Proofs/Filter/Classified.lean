import ExamFilter.Filter.Predicate
import ExamFilter.Proofs.Ranking
import ExamFilter.Proofs.Text.Blank

/-!
# Classified values

A container is classified by its entries, whatever kind of container it is, and any other value by
what it is itself. A selection that came out of this is classified as itself.
-/
namespace ExamFilter.Selection
open ExamFilter.Filter

/-- The entry is not null, and its text is not blank. -/
def Counts (e : Value) : Prop := e ≠ .null ∧ Text.trim e.asText ≠ ""

/-- There are entries that count, and all of them are markers. -/
def AreMarkers (es : List Value) : Prop :=
  (∃ e ∈ es, Counts e) ∧ ∀ e ∈ es, Counts e → Text.trim e.asText = allMarker

/-- The entries of a container in the order in which they are selected. Texts, bytes and
dictionaries are single values and no containers. -/
def entries? : Value → Option (List Value)
  | .list es | .tuple es | .selection (.many es) => some es
  | .set es | .frozenSet es => some (byText es)
  | .byteArray octets => some (octets.map fun b => .int b.toNat)
  | .range start stop step => some ((rangeItems start stop step).map .int)
  | _ => none

/-- The value is no container, no selection and none of the two words for everything. -/
def IsPlain (v : Value) : Prop :=
  entries? v = none ∧ (∀ s, v ≠ .selection s) ∧ v ≠ .text allLabel ∧ v ≠ .text allMarker

/-- What a value is classified as, said by cases of the value. -/
inductive Classified : Value → Selection Value → Prop where
  | kept {s : Selection Value} (hs : ∀ es, s ≠ .many es) : Classified (.selection s) s
  | label : Classified (.text allLabel) (.wildcard allLabel)
  | marker : Classified (.text allMarker) (.wildcard allMarker)
  | markers {v : Value} {es : List Value} (hentries : entries? v = some es)
      (hmarkers : AreMarkers es) : Classified v (.wildcard allMarker)
  | many {v : Value} {es : List Value} (hentries : entries? v = some es)
      (hmarkers : ¬AreMarkers es) : Classified v (.many es)
  | single {v : Value} (hplain : IsPlain v) (hgiven : v.isGiven = true) : Classified v (.single v)
  | absent {v : Value} (hplain : IsPlain v) (hgiven : v.isGiven = false) : Classified v .noFilter

section Entries
variable {v e : Value} {es xs ys : List Value} {s : String}

theorem isNull_eq_false_iff : isNull e = false ↔ e ≠ .null := by
  cases e <;> simp [isNull]

theorem counts_text (h : Text.trim s ≠ "") : Counts (.text s) := ⟨by simp, h⟩

/-- The text of a null is no marker. -/
theorem counts_of_marker (h : Text.trim e.asText = allMarker) : Counts e := by
  constructor
  · rintro rfl
    exact absurd (Text.trim_eq_iff.1 h) (by decide)
  · rw [h]
    decide

theorem mem_entryTexts_iff :
    s ∈ entryTexts es ↔ ∃ e ∈ es, Counts e ∧ Text.trim e.asText = s := by
  simp only [entryTexts, List.mem_filter, List.mem_map, decide_eq_true_eq, Bool.not_eq_true',
    isNull_eq_false_iff]
  constructor
  · rintro ⟨⟨e, ⟨he, hnull⟩, rfl⟩, hblank⟩
    exact ⟨e, he, ⟨hnull, hblank⟩, rfl⟩
  · rintro ⟨e, he, ⟨hnull, hblank⟩, rfl⟩
    exact ⟨⟨e, ⟨he, hnull⟩, rfl⟩, hblank⟩

theorem onlyMarkers_iff_areMarkers : onlyMarkers es = true ↔ AreMarkers es := by
  rw [onlyMarkers, Bool.and_eq_true, Bool.not_eq_true', List.isEmpty_eq_false_iff, List.all_eq_true]
  refine and_congr ⟨fun hne => ?_, fun ⟨e, he, hcounts⟩ => ?_⟩
    ⟨fun hall e he hcounts => ?_, fun hall t ht => ?_⟩
  · obtain ⟨t, ht⟩ := List.exists_mem_of_ne_nil _ hne
    obtain ⟨e, he, hcounts, -⟩ := mem_entryTexts_iff.1 ht
    exact ⟨e, he, hcounts⟩
  · exact List.ne_nil_of_mem (mem_entryTexts_iff.2 ⟨e, he, hcounts, rfl⟩)
  · simpa using hall _ (mem_entryTexts_iff.2 ⟨e, he, hcounts, rfl⟩)
  · obtain ⟨e, he, hcounts, rfl⟩ := mem_entryTexts_iff.1 ht
    simpa using hall e he hcounts

theorem onlyMarkers_eq_false_of_mem (he : e ∈ es) (hcounts : Counts e)
    (hmarker : Text.trim e.asText ≠ allMarker) : onlyMarkers es = false := by
  have hnot : ¬AreMarkers es := fun h => hmarker (h.2 e he hcounts)
  simpa using mt onlyMarkers_iff_areMarkers.1 hnot

theorem ofMany_of_areMarkers (h : AreMarkers es) : ofMany es = .wildcard allMarker :=
  if_pos (onlyMarkers_iff_areMarkers.2 h)

theorem ofMany_of_not_areMarkers (h : ¬AreMarkers es) : ofMany es = .many es :=
  if_neg (mt onlyMarkers_iff_areMarkers.1 h)

theorem ofValue_of_entries? (h : entries? v = some es) : ofValue v = ofMany es := by
  cases v with
  | list | tuple | set | frozenSet | byteArray | range =>
    cases h
    rfl
  | selection s =>
    cases s with
    | many =>
      cases h
      rfl
    | _ => cases h
  | _ => cases h

theorem ofValue_of_isPlain (h : IsPlain v) :
    ofValue v = if v.isGiven then .single v else .noFilter := by
  obtain ⟨hentries, hselection, hlabel, hmarker⟩ := h
  cases v with
  | text s =>
    have hword : (s = allLabel || s = allMarker) = false := by
      simpa using ⟨fun h => hlabel (h ▸ rfl), fun h => hmarker (h ▸ rfl)⟩
    by_cases hs : s = ""
    · subst hs
      rfl
    · simp [ofValue, hword, hs, Value.isGiven]
  | selection s => exact absurd rfl (hselection s)
  | list | tuple | set | frozenSet | byteArray | range => cases hentries
  | _ => rfl

/-- The order of the items of a set is the one of their texts. -/
theorem byText_eq_of_perm (hperm : xs.Perm ys) (hnodup : (xs.map Value.asText).Nodup) :
    byText xs = byText ys :=
  Ranking.mergeSort_text_eq_of_perm hperm hnodup

end Entries

section Cases
variable {v : Value} {s : Selection Value}

theorem classified_ofValue (v : Value) : Classified v (ofValue v) := by
  cases hentries : entries? v with
  | some es =>
    rw [ofValue_of_entries? hentries]
    by_cases hmarkers : AreMarkers es
    · rw [ofMany_of_areMarkers hmarkers]
      exact .markers hentries hmarkers
    · rw [ofMany_of_not_areMarkers hmarkers]
      exact .many hentries hmarkers
  | none =>
    by_cases hselection : ∃ s, v = .selection s
    · obtain ⟨s, rfl⟩ := hselection
      -- A selection of several values is a container, so that any other one is left here.
      cases s with
      | many es => cases hentries
      | _ => exact .kept nofun
    by_cases hlabel : v = .text allLabel
    · exact hlabel ▸ .label
    by_cases hmarker : v = .text allMarker
    · exact hmarker ▸ .marker
    have hplain : IsPlain v := ⟨hentries, fun s hs => hselection ⟨s, hs⟩, hlabel, hmarker⟩
    rw [ofValue_of_isPlain hplain]
    split
    · next hgiven => exact .single hplain hgiven
    · next hgiven => exact .absent hplain (by simpa using hgiven)

theorem Classified.ofValue_eq (h : Classified v s) : ofValue v = s := by
  cases h with
  | kept hs =>
    cases s with
    | many es => exact absurd rfl (hs es)
    | _ => rfl
  | label | marker => rfl
  | markers hentries hmarkers =>
    rw [ofValue_of_entries? hentries, ofMany_of_areMarkers hmarkers]
  | many hentries hmarkers =>
    rw [ofValue_of_entries? hentries, ofMany_of_not_areMarkers hmarkers]
  | single hplain hgiven => rw [ofValue_of_isPlain hplain, if_pos hgiven]
  | absent hplain hgiven =>
    rw [ofValue_of_isPlain hplain, if_neg (by simp [hgiven])]

/-- What a value is classified as is classified as itself. -/
theorem Classified.again (h : Classified v s) : Classified (.selection s) s := by
  cases h with
  | kept hs => exact .kept hs
  | many _ hmarkers => exact .many rfl hmarkers
  | _ => exact .kept nofun

theorem ofValue_ofValue (v : Value) : ofValue (.selection (ofValue v)) = ofValue v :=
  (classified_ofValue v).again.ofValue_eq

theorem exists_wildcard_iff :
    (∃ word, ofValue v = .wildcard word) ↔
      (∃ word, v = .selection (.wildcard word)) ∨ v = .text allLabel ∨ v = .text allMarker ∨
        ∃ es, entries? v = some es ∧ AreMarkers es := by
  constructor
  · rintro ⟨word, hword⟩
    have hclassified := classified_ofValue v
    rw [hword] at hclassified
    cases hclassified with
    | kept => exact .inl ⟨word, rfl⟩
    | label => exact .inr (.inl rfl)
    | marker => exact .inr (.inr (.inl rfl))
    | markers hentries hmarkers => exact .inr (.inr (.inr ⟨_, hentries, hmarkers⟩))
  · rintro (⟨word, rfl⟩ | rfl | rfl | ⟨es, hentries, hmarkers⟩)
    · exact ⟨word, rfl⟩
    · exact ⟨_, rfl⟩
    · exact ⟨_, rfl⟩
    · exact ⟨_, (Classified.markers hentries hmarkers).ofValue_eq⟩

end Cases

/-- To classify a value twice is to classify it once, and a compiled predicate does not tell whether
this has been done. Of a container only the entries count: a list, a tuple and a selection of the
same values are classified alike, as is a set however its items are arranged, provided that these
have different texts. A value selects everything if, and only if, it is a selection that does, one
of the words `All` and `__ALL__`, or a container of markers. -/
theorem classified_by_entries (v : Value) :
    ofValue (.selection (ofValue v)) = ofValue v ∧
      (∀ (r : Rules) (dimension : String),
        r.compile dimension (.selection (ofValue v)) = r.compile dimension v) ∧
      (∀ es, entries? v = some es → ofValue v = ofValue (.list es) ∧
        (ofValue v = .many es ∨ ofValue v = .wildcard allMarker)) ∧
      (∀ es, ofValue (.tuple es) = ofValue (.list es) ∧
        ofValue (.selection (.many es)) = ofValue (.list es)) ∧
      (∀ xs ys : List Value, xs.Perm ys → (xs.map Value.asText).Nodup →
        ofValue (.set xs) = ofValue (.set ys) ∧
          ofValue (.frozenSet xs) = ofValue (.frozenSet ys)) ∧
      ((∃ word, ofValue v = .wildcard word) ↔
        (∃ word, v = .selection (.wildcard word)) ∨ v = .text "All" ∨ v = .text "__ALL__" ∨
          ∃ es, entries? v = some es ∧ AreMarkers es) := by
  refine ⟨ofValue_ofValue v, fun r dimension => ?_, fun es hentries => ?_, fun es => ⟨rfl, rfl⟩,
    fun xs ys hperm hnodup => ?_, exists_wildcard_iff⟩
  · rw [Rules.compile, ofValue_ofValue, Rules.compile]
  · have hlist : ofValue v = ofValue (.list es) := ofValue_of_entries? hentries
    by_cases hmarkers : AreMarkers es
    · exact ⟨hlist, .inr (Classified.markers hentries hmarkers).ofValue_eq⟩
    · exact ⟨hlist, .inl (Classified.many hentries hmarkers).ofValue_eq⟩
  · have hsorted := byText_eq_of_perm hperm hnodup
    rw [ofValue, ofValue, ofValue, ofValue, hsorted]
    exact ⟨rfl, rfl⟩

/-- A tuple of a padded marker and a null, and a set in two arrangements. -/
theorem classified_by_entries_padded :
    let es : List Value := [.text " __ALL__ ", .null]
    let xs : List Value := [.text "B", .null, .text "A"]
    let ys : List Value := [.null, .text "B", .text "A"]
    entries? (.tuple es) = some es ∧ AreMarkers es ∧
      (∃ word, ofValue (.tuple es) = .wildcard word) ∧
      xs.Perm ys ∧ (xs.map Value.asText).Nodup ∧ ofValue (.set xs) = ofValue (.set ys) := by
  intro es xs ys
  have htrim : Text.trim " __ALL__ " = allMarker := Text.trim_eq_iff.2 (by decide)
  have hmarkers : AreMarkers es := by
    refine ⟨⟨_, .head _, counts_of_marker htrim⟩, fun e he hcounts => ?_⟩
    simp only [es, List.mem_cons, List.not_mem_nil, or_false] at he
    rcases he with rfl | rfl
    · exact htrim
    · exact absurd rfl hcounts.1
  have hperm : xs.Perm ys := .swap _ _ _
  have hnodup : (xs.map Value.asText).Nodup := by decide
  obtain ⟨-, -, -, -, hsets, hwildcard⟩ := classified_by_entries (.tuple es)
  exact ⟨rfl, hmarkers, hwildcard.2 (.inr (.inr (.inr ⟨es, rfl, hmarkers⟩))), hperm, hnodup,
    (hsets xs ys hperm hnodup).1⟩

end ExamFilter.Selection
