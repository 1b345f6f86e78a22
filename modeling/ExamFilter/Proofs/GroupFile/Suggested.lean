import ExamFilter.GroupFile.Audit
import ExamFilter.Proofs.Ranking

/-!
# Suggestions and containment

A candidate that contains the unknown name, or is contained in it, is at distance zero. The distance
of any other candidate counts the characters of the name that occur in the candidate, each as often
as it stands in the name, and can be zero or less as well: such a candidate comes before a match.
-/
namespace ExamFilter.GroupFile
open Ranking

/-- Regardless of case, one of the two names contains the other. -/
def Matches (name candidate : String) : Prop :=
  (Text.lower name).toList <:+: (Text.lower candidate).toList ∨
    (Text.lower candidate).toList <:+: (Text.lower name).toList

theorem occursIn_or_iff {name candidate : String} :
    (Text.occursIn (Text.lower name).toList (Text.lower candidate).toList ||
      Text.occursIn (Text.lower candidate).toList (Text.lower name).toList) = true ↔
        Matches name candidate := by
  rw [Bool.or_eq_true, Text.occursIn_iff, Text.occursIn_iff, Matches]

instance (name candidate : String) : Decidable (Matches name candidate) :=
  decidable_of_iff _ occursIn_or_iff

/-- The names are the beginning of an order of the candidates in which the matches come first, in
the order in which they were given. -/
def ListsMatchesFirst (name : String) (candidates shown : List String) : Prop :=
  ∃ order : List String, order.Perm candidates ∧
    order.Pairwise (fun a b => Matches name b → Matches name a) ∧
    order.filter (Matches name ·) = candidates.filter (Matches name ·) ∧
    shown = order.take maxSuggestions

/-- How many characters of the name occur in the candidate, regardless of case; a character counts
as often as it stands in the name. -/
def shared (name candidate : String) : Nat :=
  (Text.lower name).toList.countP fun c => c ∈ (Text.lower candidate).toList

variable {name : String} {candidates : List String}

theorem distance_of_matches {candidate : String} (h : Matches name candidate) :
    distance name candidate = 0 :=
  if_pos (occursIn_or_iff.2 h)

theorem distance_of_not_matches {candidate : String} (h : ¬ Matches name candidate) :
    distance name candidate = name.length + candidate.length - 2 * shared name candidate := by
  have hshared : shared name candidate =
      ((Text.lower name).toList.filter (Text.lower candidate).toList.contains).length := by
    rw [shared, List.countP_eq_length_filter]
    exact congrArg List.length (List.filter_congr fun c _ => by simp)
  rw [hshared]
  exact if_neg fun hor => h (occursIn_or_iff.1 hor)

theorem suggestions_eq_take (name : String) (candidates : List String) :
    suggestions name candidates = (sortBy (distance name) candidates).take maxSuggestions :=
  rfl

theorem listsMatchesFirst_iff_exists {shown : List String} :
    ListsMatchesFirst name candidates shown ↔
      ∃ others : List String, others.Perm (candidates.filter fun c => !decide (Matches name c)) ∧
        shown = (candidates.filter (Matches name ·) ++ others).take maxSuggestions := by
  constructor
  · rintro ⟨order, hperm, hfirst, hmatches, rfl⟩
    refine ⟨_, hperm.filter _, ?_⟩
    have hsplit := eq_filter_append_filter (p := fun c => decide (Matches name c))
      (hfirst.imp fun {a b} hab => by simpa using hab)
    rw [← hmatches, ← hsplit]
  · rintro ⟨others, hothers, rfl⟩
    have hnone : ∀ c ∈ others, ¬ Matches name c := fun c hc => by
      simpa using (List.mem_filter.1 (hothers.mem_iff.1 hc)).2
    refine ⟨_, (hothers.append_left _).trans (List.filter_append_perm _ _), ?_, ?_, rfl⟩
    · refine List.pairwise_append.2 ⟨?_, ?_, ?_⟩
      · exact List.pairwise_of_forall_mem_list fun a ha b _ _ => by
          simpa using (List.mem_filter.1 ha).2
      · exact List.pairwise_of_forall_mem_list fun a _ b hb hmatch => absurd hmatch (hnone b hb)
      · exact fun a ha b _ _ => by simpa using (List.mem_filter.1 ha).2
    · have hnil : others.filter (Matches name ·) = [] :=
        List.filter_eq_nil_iff.2 fun c hc => by simpa using hnone c hc
      rw [List.filter_append, hnil, List.append_nil, List.filter_filter]
      simp only [Bool.and_self]

/-- The matches come first as long as no candidate is at a distance below zero and, of those at
distance zero, the first ones are matches, as many as there are or can be shown. -/
def HasNoRival (name : String) (candidates : List String) : Prop :=
  ((∃ c ∈ candidates, Matches name c) → ∀ c ∈ candidates, 0 ≤ distance name c) ∧
    ∀ c ∈ (candidates.filter (distance name · = 0)).take
      (min maxSuggestions (candidates.countP (Matches name ·))), Matches name c

theorem listsMatchesFirst_suggestions_iff :
    ListsMatchesFirst name candidates (suggestions name candidates) ↔
      HasNoRival name candidates := by
  have hzero : ∀ c, decide (Matches name c) = true → distance name c = 0 :=
    fun c hc => distance_of_matches (by simpa using hc)
  have hperm : (sortBy (distance name) candidates).Perm candidates := sortBy_perm
  have hothers := hperm.filter fun c => !decide (Matches name c)
  have hfirst := exists_first_iff (p := fun c => decide (Matches name c))
    (l := sortBy (distance name) candidates) (n := maxSuggestions)
  have hrank := forall_take_sortBy_iff hzero (l := candidates) (n := maxSuggestions) (by decide)
  rw [filter_sortBy hzero, hperm.countP_eq, hrank] at hfirst
  rw [listsMatchesFirst_iff_exists, suggestions_eq_take, HasNoRival]
  simp only [decide_eq_true_eq] at hfirst
  rw [← hfirst]
  exact exists_congr fun others =>
    and_congr_left' ⟨fun h => h.trans hothers.symm, fun h => h.trans hothers⟩

/-- The suggestions are the beginning of an order by distance: first the candidates at a distance
below zero, then those at distance zero as they were given, among which are the matches, then the
others. So matches come first if, and only if, they have no rival. -/
theorem matches_first_iff (name : String) (candidates : List String) :
    (∃ ahead behind : List String, ahead.Perm (candidates.filter (distance name · < 0)) ∧
      behind.Perm (candidates.filter (0 < distance name ·)) ∧
      suggestions name candidates =
        (ahead ++ candidates.filter (distance name · = 0) ++ behind).take maxSuggestions) ∧
    (∀ c, distance name c = if Matches name c then 0
      else name.length + c.length - 2 * (shared name c : Int)) ∧
    (ListsMatchesFirst name candidates (suggestions name candidates) ↔
      HasNoRival name candidates) := by
  have hperm : (sortBy (distance name) candidates).Perm candidates := sortBy_perm
  refine ⟨⟨_, _, hperm.filter _, hperm.filter _, ?_⟩, fun c => ?_, listsMatchesFirst_suggestions_iff⟩
  · rw [← sortBy_eq_append]
    rfl
  · split
    · next h => exact distance_of_matches h
    · next h => exact distance_of_not_matches h

/-- All characters of the name occur in a candidate that has half as many, which therefore comes
before the one that is contained in the name. -/
theorem match_comes_second :
    suggestions "BANANA" ["BAN", "NAB"] = ["NAB", "BAN"] ∧
      ¬ ListsMatchesFirst "BANANA" ["BAN", "NAB"] (suggestions "BANANA" ["BAN", "NAB"]) := by
  have hmatch : Matches "BANANA" "BAN" := by decide +kernel
  have hmatch' : distance "BANANA" "BAN" = 0 := distance_of_matches hmatch
  have hrival : distance "BANANA" "NAB" = -3 := by decide +kernel
  constructor
  · simp [suggestions, List.mergeSort, List.MergeSort.Internal.splitInTwo, hmatch', hrival,
      maxSuggestions]
  · rw [listsMatchesFirst_suggestions_iff]
    intro h
    have hnonneg := h.1 ⟨"BAN", by simp, hmatch⟩ "NAB" (by simp)
    rw [hrival] at hnonneg
    exact absurd hnonneg (by decide)

end ExamFilter.GroupFile
