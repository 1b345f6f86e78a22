import ExamFilter.Proofs.Filter.Compiled
import ExamFilter.Proofs.Text.Blank
import ExamFilter.Proofs.Text.Doubled
import Mathlib.Data.List.Nodup

/-!
# The texts of a predicate

A predicate lists the trimmed texts of the selected values and of all members of the groups that
they name, each text once. While the members are gathered those that are selected already are passed
over; what is listed in the end does not depend on it.
-/
namespace ExamFilter.Filter

theorem firsts_filter (p : String → Bool) (l : List String) :
    firsts (l.filter p) = (firsts l).filter p := by
  induction l with
  | nil => rfl
  | cons s rest ih =>
    by_cases hp : p s = true
    · rw [List.filter_cons_of_pos hp, firsts, firsts, List.filter_cons_of_pos hp, ih,
        List.filter_comm]
    · have hskip : ∀ t ∈ firsts rest, p t = true → t ≠ s := fun t _ ht hts => hp (hts ▸ ht)
      rw [List.filter_cons_of_neg hp, firsts, List.filter_cons_of_neg hp, ih, List.filter_filter]
      refine List.filter_congr fun t ht => ?_
      by_cases hpt : p t = true
      · simp [hpt, hskip t ht hpt]
      · simp [hpt]

theorem firsts_eq_eraseDups : ∀ l : List String, firsts l = l.eraseDups
  | [] => rfl
  | s :: rest => by
    have hfilter : rest.filter (· ≠ s) = rest.filter fun t => !t == s :=
      List.filter_congr fun t _ => by simp [beq_eq_decide]
    rw [firsts, ← firsts_filter, firsts_eq_eraseDups (rest.filter (· ≠ s)), List.eraseDups_cons,
      hfilter]
termination_by l => l.length
decreasing_by
  exact Nat.lt_succ_of_le (List.length_filter_le _ _)

theorem nodup_firsts (l : List String) : (firsts l).Nodup := by
  induction l with
  | nil => exact List.nodup_nil
  | cons s rest ih =>
    rw [firsts, List.nodup_cons]
    exact ⟨by simp, ih.filter _⟩

/-- A text that a predicate can list. -/
def isUsable (s : String) : Bool := s ≠ "" && s ≠ Selection.allMarker

/-- The usable texts of values, each at the place of its first occurrence. -/
def usableTexts (values : List Value) : List String :=
  ((values.map clean).filter isUsable).eraseDups

theorem sanitize_eq_usableTexts (values : List Value) : sanitize values = usableTexts values :=
  firsts_eq_eraseDups _

theorem nodup_usableTexts (values : List Value) : (usableTexts values).Nodup := by
  rw [← sanitize_eq_usableTexts]
  exact nodup_firsts _

theorem mem_usableTexts {values : List Value} {s : String} :
    s ∈ usableTexts values ↔ (∃ v ∈ values, clean v = s) ∧ isUsable s = true := by
  rw [usableTexts, List.mem_eraseDups, List.mem_filter, List.mem_map]

theorem usableTexts_append (xs ys : List Value) :
    usableTexts (xs ++ ys) =
      usableTexts xs ++ (((ys.map clean).filter isUsable).removeAll
        ((xs.map clean).filter isUsable)).eraseDups := by
  rw [usableTexts, List.map_append, List.filter_append, List.eraseDups_append, usableTexts]

theorem removeAll_congr {removed removed' : List String} (h : ∀ s, s ∈ removed ↔ s ∈ removed')
    (l : List String) : l.removeAll removed = l.removeAll removed' := by
  unfold List.removeAll
  exact List.filter_congr fun s _ => by simp [h s]

theorem usableTexts_append_congr {xs ys : List Value} (h : usableTexts xs = usableTexts ys)
    (zs : List Value) : usableTexts (xs ++ zs) = usableTexts (ys ++ zs) := by
  have hmem : ∀ s, s ∈ usableTexts xs ↔ s ∈ usableTexts ys := fun s => by rw [h]
  simp only [usableTexts, List.mem_eraseDups] at hmem
  rw [usableTexts_append, usableTexts_append, h, removeAll_congr hmem]

/-- A value whose text comes earlier adds nothing. -/
theorem usableTexts_append_of_mem {xs : List Value} {v : Value} (h : v ∈ xs) :
    usableTexts (xs ++ [v]) = usableTexts xs := by
  have hnone : ((([v].map clean).filter isUsable).removeAll ((xs.map clean).filter isUsable)) =
      [] := by
    unfold List.removeAll
    rw [List.filter_eq_nil_iff]
    intro s hs
    obtain ⟨hv, husable⟩ := List.mem_filter.1 hs
    obtain rfl : s = clean v := by simpa using hv
    have hmem : clean v ∈ (xs.map clean).filter isUsable :=
      List.mem_filter.2 ⟨List.mem_map_of_mem h, husable⟩
    simpa using hmem
  rw [usableTexts_append, hnone]
  simp

/-- If every step of a loop adds given values as far as the texts are concerned, then so does the
whole loop. -/
theorem usableTexts_foldl {β : Type} {step : List Value → β → List Value} {added : β → List Value}
    (hstep : ∀ selected b, usableTexts (step selected b) = usableTexts (selected ++ added b))
    (bs : List β) (selected : List Value) :
    usableTexts (bs.foldl step selected) = usableTexts (selected ++ bs.flatMap added) := by
  induction bs generalizing selected with
  | nil => simp
  | cons b bs ih =>
    rw [List.foldl_cons, ih, List.flatMap_cons, ← List.append_assoc]
    exact usableTexts_append_congr (hstep selected b) _

theorem any_isText_iff {selected : List Value} {s : String} :
    selected.any (isText s) = true ↔ Value.text s ∈ selected := by
  rw [List.any_eq_true]
  constructor
  · rintro ⟨v, hv, hs⟩
    cases v with
    | text t =>
      obtain rfl : t = s := by simpa [isText] using hs
      exact hv
    | _ => cases hs
  · intro h
    exact ⟨_, h, by simp [isText]⟩

/-- It makes no difference that a member is passed over when it is selected already. -/
theorem usableTexts_addMember (selected : List Value) (member : String) :
    usableTexts (addMember selected member) = usableTexts (selected ++ [.text member]) := by
  unfold addMember
  split
  · next h => rw [usableTexts_append_of_mem (any_isText_iff.1 h)]
  · rfl

/-- All members of the group that a value names. -/
def membersOf (groups : Groups) (v : Value) : List Value :=
  ((Table.get? groups (clean v)).getD []).map .text

theorem usableTexts_addGroup (groups : Groups) (selected : List Value) (v : Value) :
    usableTexts (addGroup groups selected v) = usableTexts (selected ++ membersOf groups v) := by
  rw [addGroup, usableTexts_foldl usableTexts_addMember, membersOf, List.map_eq_flatMap]

/-- The selected values, followed by all members of the groups that they name, from value to
value. -/
def withMembers (groups : Groups) (values : List Value) : List Value :=
  values ++ values.flatMap (membersOf groups)

theorem usableTexts_expand (groups : Groups) (values : List Value) :
    usableTexts (expand groups values) = usableTexts (withMembers groups values) :=
  usableTexts_foldl (usableTexts_addGroup groups) values values

/-- The values of a selection that has values. -/
def selectedValues? : Selection Value → Option (List Value)
  | .single v => some [v]
  | .many vs => some vs
  | .noFilter | .wildcard _ => none

/-- The texts that the predicate of selected values has to list. -/
def Rules.texts (r : Rules) (dimension : String) (values : List Value) : List String :=
  usableTexts (withMembers (r.groups.groupsFor dimension) values)

theorem clean_text (s : String) : clean (.text s) = Text.trim s := by
  by_cases hs : s = ""
  · subst hs
    rfl
  · simp [clean, Value.isGiven, Value.asText, hs]

theorem trim_asText_of_clean {v : Value} {s : String} (h : clean v = s) (hs : s ≠ "") :
    Text.trim v.asText = s := by
  unfold clean at h
  split at h
  · exact h
  · exact absurd h.symm hs

theorem mem_membersOf_iff {groups : Groups} {v w : Value} :
    w ∈ membersOf groups v ↔
      ∃ members, Table.get? groups (clean v) = some members ∧ ∃ m ∈ members, .text m = w := by
  unfold membersOf
  cases Table.get? groups (clean v) <;> simp

theorem mem_texts_iff {r : Rules} {dimension : String} {selected : List Value} {s : String} :
    s ∈ r.texts dimension selected ↔
      isUsable s = true ∧ ((∃ v ∈ selected, clean v = s) ∨ ∃ v ∈ selected, ∃ members,
        Table.get? (r.groups.groupsFor dimension) (clean v) = some members ∧
          ∃ m ∈ members, Text.trim m = s) := by
  rw [Rules.texts, mem_usableTexts, and_comm]
  refine and_congr_right fun _ => ?_
  simp only [withMembers, List.mem_append, List.mem_flatMap, mem_membersOf_iff, or_and_right,
    exists_or]
  refine or_congr_right ?_
  constructor
  · rintro ⟨_, ⟨v, hv, members, hmembers, m, hm, rfl⟩, hs⟩
    exact ⟨v, hv, members, hmembers, m, hm, (clean_text m).symm.trans hs⟩
  · rintro ⟨v, hv, members, hmembers, m, hm, hs⟩
    exact ⟨_, ⟨v, hv, members, hmembers, m, hm, rfl⟩, (clean_text m).trans hs⟩

theorem sanitize_expand (r : Rules) (dimension : String) (values : List Value) :
    sanitize (expand (r.groups.groupsFor dimension) values) = r.texts dimension values := by
  rw [sanitize_eq_usableTexts, usableTexts_expand, Rules.texts]

theorem compile_of_selectedValues? {r : Rules} {dimension : String} {v : Value} {vs : List Value}
    (h : selectedValues? (Selection.ofValue v) = some vs) :
    r.compile dimension v = r.compileValues dimension vs := by
  unfold Rules.compile
  cases hs : Selection.ofValue v <;> rw [hs] at h <;> cases h <;> rfl

theorem compileValues_eq_oneOf_iff {r : Rules} {dimension : String} {vs : List Value}
    {m : Membership} :
    r.compileValues dimension vs = some (.oneOf m) ↔
      r.texts dimension vs ≠ [] ∧ m.dimension = dimension ∧
        m.bindValues = r.texts dimension vs ∧
        m.values = (r.texts dimension vs).map escapeLiteral := by
  unfold Rules.compileValues
  rw [← sanitize_expand]
  dsimp only
  constructor
  · intro h
    split at h
    · next hne =>
      cases h
      exact ⟨hne, rfl, rfl, rfl⟩
    · split at h <;> cases h
  · rintro ⟨hne, hdimension, hbind, hvalues⟩
    rw [dif_pos hne]
    obtain ⟨d, values, bindValues, hm⟩ := m
    simp only at hdimension hbind hvalues
    subst hdimension hbind hvalues
    rfl

theorem escapeLiteral_injective : Function.Injective escapeLiteral :=
  Text.double_injective '\''

theorem trim_of_mem_usableTexts {values : List Value} {s : String} (h : s ∈ usableTexts values) :
    Text.trim s = s := by
  obtain ⟨⟨v, -, rfl⟩, -⟩ := mem_usableTexts.1 h
  unfold clean
  split
  · exact Text.trim_trim _
  · rfl

/-- The two lists of a predicate are as long as each other and hold something, nothing twice, and
no text with white space at its ends, no empty text and no marker. -/
structure Membership.Proper (m : Membership) : Prop where
  bindValues_ne : m.bindValues ≠ []
  values_ne : m.values ≠ []
  length_eq : m.values.length = m.bindValues.length
  nodup_bindValues : m.bindValues.Nodup
  nodup_values : m.values.Nodup
  trimmed : ∀ s ∈ m.bindValues, Text.trim s = s
  ne_empty : ∀ s ∈ m.bindValues, s ≠ ""
  ne_marker : ∀ s ∈ m.bindValues, s ≠ Selection.allMarker

theorem proper_of_eq {m : Membership} {values : List Value} (hne : usableTexts values ≠ [])
    (hbind : m.bindValues = usableTexts values)
    (hvalues : m.values = (usableTexts values).map escapeLiteral) : m.Proper := by
  have husable : ∀ s ∈ usableTexts values, s ≠ "" ∧ s ≠ Selection.allMarker := by
    intro s hs
    simpa [isUsable] using (mem_usableTexts.1 hs).2
  have hnodup := nodup_usableTexts values
  rw [← hbind] at hne husable hnodup hvalues
  refine ⟨hne, by simp [hvalues, hne], by simp [hvalues], hnodup, ?_, ?_, ?_, ?_⟩
  · rw [hvalues]
    exact hnodup.map escapeLiteral_injective
  · rw [hbind]
    exact fun s hs => trim_of_mem_usableTexts hs
  · exact fun s hs => (husable s hs).1
  · exact fun s hs => (husable s hs).2

/-- A selection with values is compiled into a predicate that lists the usable texts of the values
and of all members of the groups that they name, if there is one at all. To pass over members that
are selected already, as the expansion does, makes no difference. -/
theorem compile_lists_texts (r : Rules) (dimension : String) (v : Value) (vs : List Value)
    (h : selectedValues? (Selection.ofValue v) = some vs) :
    ((∃ m, r.compile dimension v = some (.oneOf m)) ↔ r.texts dimension vs ≠ []) ∧
      (∀ m, r.compile dimension v = some (.oneOf m) →
        m.dimension = dimension ∧ m.bindValues = r.texts dimension vs ∧
          m.values = (r.texts dimension vs).map escapeLiteral ∧ m.Proper) ∧
      sanitize (expand (r.groups.groupsFor dimension) vs) =
        sanitize (withMembers (r.groups.groupsFor dimension) vs) := by
  rw [compile_of_selectedValues? h]
  refine ⟨?_, fun m hm => ?_, ?_⟩
  · constructor
    · rintro ⟨m, hm⟩
      exact (compileValues_eq_oneOf_iff.1 hm).1
    · intro hne
      exact ⟨⟨dimension, (r.texts dimension vs).map escapeLiteral, r.texts dimension vs,
        by simpa using hne⟩, compileValues_eq_oneOf_iff.2 ⟨hne, rfl, rfl, rfl⟩⟩
  · obtain ⟨hne, hdimension, hbind, hvalues⟩ := compileValues_eq_oneOf_iff.1 hm
    exact ⟨hdimension, hbind, hvalues, proper_of_eq hne hbind hvalues⟩
  · rw [sanitize_expand, sanitize_eq_usableTexts, Rules.texts]

/-- A group, a number, a marker and a member that is selected on its own. -/
theorem compile_lists_texts_streams :
    let vs : List Value :=
      [.text " SR ELITE ", .int 7, .text "__ALL__", .text "SR_ELITE_SET_02 ", .null]
    selectedValues? (Selection.ofValue (.list vs)) = some vs ∧
      ∃ m, Rules.compile {} "Stream" (.list vs) = some (.oneOf m) ∧
        m.bindValues = ["SR ELITE", "7", "SR_ELITE_SET_02", "SR_ELITE_SET_01"] ∧ m.Proper := by
  intro vs
  have h : selectedValues? (Selection.ofValue (.list vs)) = some vs := rfl
  have htexts : Rules.texts {} "Stream" vs =
      ["SR ELITE", "7", "SR_ELITE_SET_02", "SR_ELITE_SET_01"] := rfl
  obtain ⟨hiff, hlists, -⟩ := compile_lists_texts {} "Stream" (.list vs) vs h
  obtain ⟨m, hm⟩ := hiff.2 (by simp [htexts])
  obtain ⟨-, hbind, -, hproper⟩ := hlists m hm
  exact ⟨h, m, hm, hbind.trans htexts, hproper⟩

end ExamFilter.Filter
