import Mathlib.Data.List.Basic
import Mathlib.Data.List.Nodup
import Mathlib.Data.List.Sort
import Mathlib.Data.String.Basic

/-!
# Orders by score and by text

A list is put in the order of scores, and things with one score keep their places. What has a
property that implies score zero begins that order unless something has a lower score or the same
one and an earlier place. In the order of texts, things that have different texts stand in the same
places however they were arranged before.
-/
namespace ExamFilter.Ranking
variable {α : Type}

/-- A list in which whatever has the property comes before whatever has not is made of these
parts. -/
theorem eq_filter_append_filter {p : α → Bool} {l : List α}
    (h : l.Pairwise fun a b => p b = true → p a = true) :
    l = l.filter p ++ l.filter fun x => !p x := by
  induction l with
  | nil => rfl
  | cons a rest ih =>
    obtain ⟨hfirst, hrest⟩ := List.pairwise_cons.1 h
    by_cases ha : p a = true
    · simpa [ha] using ih hrest
    · have hnone : rest.filter p = [] := List.filter_eq_nil_iff.2 fun b hb hp => ha (hfirst b hb hp)
      have hall : (rest.filter fun x => !p x) = rest :=
        List.filter_eq_self.2 fun b hb => by simpa using fun hp => ha (hfirst b hb hp)
      simp [ha, hnone, hall]

/-- First items that have the property are kept in their places. -/
theorem filter_eq_take_append {p : α → Bool} {l : List α} {m : Nat}
    (h : ∀ x ∈ l.take m, p x = true) : l.filter p = l.take m ++ (l.drop m).filter p := by
  conv_lhs => rw [← List.take_append_drop m l, List.filter_append, List.filter_eq_self.2 h]

/-- If as many first items as have the property do have it, then no others do. -/
theorem filter_drop_countP {p : α → Bool} {l : List α}
    (h : ∀ x ∈ l.take (l.countP p), p x = true) : (l.drop (l.countP p)).filter p = [] := by
  have hlength := congrArg List.length (filter_eq_take_append h)
  have hle : l.countP p ≤ l.length := List.countP_le_length
  rw [← List.countP_eq_length_filter, List.length_append, List.length_take] at hlength
  exact List.length_eq_zero_iff.1 (by omega)

/-- The beginning of a list can be continued so that all that has the property comes first if, and
only if, it begins with as much of that as there is room for. -/
theorem exists_first_iff {p : α → Bool} {l : List α} {n : Nat} :
    (∃ others : List α, others.Perm (l.filter fun x => !p x) ∧
        l.take n = (l.filter p ++ others).take n) ↔
      ∀ x ∈ l.take (min n (l.countP p)), p x = true := by
  constructor
  · rintro ⟨others, -, htake⟩ x hx
    have hcount : l.countP p = (l.filter p).length := List.countP_eq_length_filter
    have hfirst : l.take (min n (l.countP p)) = (l.filter p).take (min n (l.countP p)) := by
      have hboth := congrArg (List.take (l.countP p)) htake
      rw [List.take_take, List.take_take, Nat.min_comm] at hboth
      rw [hboth, List.take_append_of_le_length (by omega)]
    rw [hfirst] at hx
    exact (List.mem_filter.1 (List.mem_of_mem_take hx)).2
  · intro hall
    refine ⟨_, .refl _, ?_⟩
    rcases Nat.le_total n (l.countP p) with hn | hn
    · rw [Nat.min_eq_left hn] at hall
      have hle : l.countP p ≤ l.length := List.countP_le_length
      have hlength : n ≤ (l.take n).length := by
        rw [List.length_take]
        omega
      rw [filter_eq_take_append hall, List.append_assoc, List.take_append_of_le_length hlength,
        List.take_take, Nat.min_self]
    · -- There is room for everything with the property, so that nothing of it is left over.
      rw [Nat.min_eq_right hn] at hall
      have hnone := filter_drop_countP hall
      have hothers : (l.filter fun x => !p x) = l.drop (l.countP p) := by
        conv_lhs => rw [← List.take_append_drop (l.countP p) l, List.filter_append]
        rw [List.filter_eq_nil_iff.2 fun x hx => by simp [hall x hx], List.nil_append]
        refine List.filter_eq_self.2 fun x hx => ?_
        simpa using List.filter_eq_nil_iff.1 hnone x hx
      rw [filter_eq_take_append hall, hnone, List.append_nil, hothers, List.take_append_drop]

variable (f : α → Int)

/-- The order by a score, in which equals keep their places. -/
def sortBy (l : List α) : List α := l.mergeSort fun a b => f a ≤ f b

variable {f} {l : List α}

theorem score_trans (a b c : α) (hab : decide (f a ≤ f b) = true) (hbc : decide (f b ≤ f c) = true) :
    decide (f a ≤ f c) = true := by
  simp only [decide_eq_true_eq] at *
  omega

theorem score_total (a b : α) : (decide (f a ≤ f b) || decide (f b ≤ f a)) = true := by
  simp only [Bool.or_eq_true, decide_eq_true_eq]
  omega

theorem sortBy_perm : (sortBy f l).Perm l := List.mergeSort_perm _ _

theorem pairwise_sortBy : (sortBy f l).Pairwise fun a b => f a ≤ f b := by
  have hsorted : (sortBy f l).Pairwise fun a b => decide (f a ≤ f b) = true :=
    List.pairwise_mergeSort score_trans score_total l
  exact hsorted.imp fun {a b} hab => by simpa using hab

/-- Things with one score keep their order. -/
theorem filter_sortBy {p : α → Bool} {k : Int} (hp : ∀ x, p x = true → f x = k) :
    (sortBy f l).filter p = l.filter p := by
  have hequal : (l.filter p).Pairwise fun a b => decide (f a ≤ f b) = true := by
    refine List.pairwise_of_forall_mem_list fun a ha b hb => ?_
    rw [hp a (List.mem_filter.1 ha).2, hp b (List.mem_filter.1 hb).2]
    simp
  have hsub : (l.filter p).Sublist (sortBy f l) :=
    List.sublist_mergeSort score_trans score_total hequal List.filter_sublist
  have hfiltered := hsub.filter p
  rw [List.filter_filter] at hfiltered
  simp only [Bool.and_self] at hfiltered
  exact (hfiltered.eq_of_length ((sortBy_perm.filter p).length_eq).symm).symm

/-- What has a score below zero, what has zero, and the rest. -/
theorem eq_append_of_pairwise (h : l.Pairwise fun a b => f a ≤ f b) :
    l = l.filter (f · < 0) ++ l.filter (f · = 0) ++ l.filter (0 < f ·) := by
  induction l with
  | nil => rfl
  | cons a rest ih =>
    obtain ⟨hfirst, hrest⟩ := List.pairwise_cons.1 h
    have hbelow : 0 ≤ f a → rest.filter (f · < 0) = [] := fun ha =>
      List.filter_eq_nil_iff.2 fun b hb => by
        have hab := hfirst b hb
        simp only [decide_eq_true_eq]
        omega
    have hzero : 0 < f a → rest.filter (f · = 0) = [] := fun ha =>
      List.filter_eq_nil_iff.2 fun b hb => by
        have hab := hfirst b hb
        simp only [decide_eq_true_eq]
        omega
    rcases Int.lt_trichotomy (f a) 0 with ha | ha | ha
    · have hne : f a ≠ 0 := by omega
      have hpos : ¬ 0 < f a := by omega
      simpa [ha, hne, hpos] using ih hrest
    · have hrest' := ih hrest
      rw [hbelow (by omega), List.nil_append] at hrest'
      simpa [ha, hbelow (by omega)] using hrest'
    · have hrest' := ih hrest
      rw [hbelow (by omega), hzero ha, List.nil_append, List.nil_append] at hrest'
      have hneg : ¬ f a < 0 := by omega
      have hne : f a ≠ 0 := by omega
      simpa [ha, hneg, hne, hbelow (by omega), hzero ha] using hrest'

theorem sortBy_eq_append :
    sortBy f l = (sortBy f l).filter (f · < 0) ++ l.filter (f · = 0) ++
      (sortBy f l).filter (0 < f ·) := by
  have hlevel : (sortBy f l).filter (f · = 0) = l.filter (f · = 0) :=
    filter_sortBy (k := 0) fun x hx => by simpa using hx
  rw [← hlevel]
  exact eq_append_of_pairwise pairwise_sortBy

theorem score_le_of_sortBy_eq_cons {first : α} {rest : List α} (h : sortBy f l = first :: rest) :
    ∀ x ∈ l, f first ≤ f x := by
  intro x hx
  have hpairwise := pairwise_sortBy (f := f) (l := l)
  rw [h, List.pairwise_cons] at hpairwise
  rw [← sortBy_perm.mem_iff, h, List.mem_cons] at hx
  rcases hx with rfl | hx
  · exact le_rfl
  · exact hpairwise.1 x hx

variable {p : α → Bool}

/-- If no score is below zero, then the order begins with what has score zero. -/
theorem take_sortBy (hp : ∀ x, p x = true → f x = 0) (hzero : ∀ x ∈ l, 0 ≤ f x) {m : Nat}
    (hm : m ≤ l.countP p) : (sortBy f l).take m = (l.filter (f · = 0)).take m := by
  have hnone : (sortBy f l).filter (f · < 0) = [] := List.filter_eq_nil_iff.2 fun x hx => by
    simpa using hzero x (sortBy_perm.mem_iff.1 hx)
  have hle : l.countP p ≤ (l.filter (f · = 0)).length := by
    rw [← List.countP_eq_length_filter]
    exact List.countP_mono_left fun x _ hx => by simpa using hp x hx
  rw [sortBy_eq_append, hnone, List.nil_append, List.take_append_of_le_length (hm.trans hle)]

/-- What has a property that implies score zero begins the order if, and only if, nothing has a
score below zero and it begins what has score zero. -/
theorem forall_take_sortBy_iff (hp : ∀ x, p x = true → f x = 0) {n : Nat} (hn : 0 < n) :
    (∀ x ∈ (sortBy f l).take (min n (l.countP p)), p x = true) ↔
      ((∃ x ∈ l, p x = true) → ∀ x ∈ l, 0 ≤ f x) ∧
        ∀ x ∈ (l.filter (f · = 0)).take (min n (l.countP p)), p x = true := by
  by_cases hsome : ∃ x ∈ l, p x = true
  · have hcount : 0 < l.countP p := List.countP_pos_iff.2 hsome
    constructor
    · intro hall
      have hzero : ∀ x ∈ l, 0 ≤ f x := by
        intro x hx
        cases hsorted : sortBy f l with
        | nil =>
          rw [← sortBy_perm.mem_iff, hsorted] at hx
          cases hx
        | cons first rest =>
          have hmem : first ∈ (sortBy f l).take (min n (l.countP p)) := by
            obtain ⟨m, hm⟩ := Nat.exists_eq_succ_of_ne_zero (n := min n (l.countP p)) (by omega)
            rw [hsorted, hm]
            exact .head _
          rw [← hp first (hall first hmem)]
          exact score_le_of_sortBy_eq_cons hsorted x hx
      exact ⟨fun _ => hzero, take_sortBy hp hzero (Nat.min_le_right _ _) ▸ hall⟩
    · rintro ⟨hzero, hall⟩
      rw [take_sortBy hp (hzero hsome) (Nat.min_le_right _ _)]
      exact hall
  · have hcount : l.countP p = 0 := List.countP_eq_zero.2 fun x hx hpx => hsome ⟨x, hx, hpx⟩
    simp [hcount, hsome]

section Texts
variable {g : α → String} {l l' : List α}

theorem pairwise_mergeSort_text :
    (l.mergeSort fun a b => !(g b < g a)).Pairwise fun a b => g a ≤ g b := by
  have hle (a b : α) : (!decide (g b < g a)) = true ↔ g a ≤ g b := by
    rw [Bool.not_eq_true', decide_eq_false_iff_not, not_lt]
  have hsorted : (l.mergeSort fun a b => !(g b < g a)).Pairwise
      fun a b => (!decide (g b < g a)) = true := by
    apply List.pairwise_mergeSort
    · intro a b c hab hbc
      rw [hle] at hab hbc ⊢
      exact hab.trans hbc
    · intro a b
      rw [Bool.or_eq_true, hle, hle]
      exact le_total (g a) (g b)
  exact hsorted.imp fun {a b} hab => (hle a b).1 hab

theorem mergeSort_text_eq_of_perm (hperm : l.Perm l') (hnodup : (l.map g).Nodup) :
    (l.mergeSort fun a b => !(g b < g a)) = l'.mergeSort fun a b => !(g b < g a) := by
  have hsame := ((List.mergeSort_perm l fun a b => !(g b < g a)).trans hperm).trans
    (List.mergeSort_perm l' fun a b => !(g b < g a)).symm
  refine hsame.eq_of_pairwise ?_ pairwise_mergeSort_text pairwise_mergeSort_text
  -- Of things in both orders each is before the other by its text, and no text occurs twice.
  intro a b ha hb hab hba
  have ha' : a ∈ l := List.mem_mergeSort.1 ha
  have hb' : b ∈ l := hperm.mem_iff.2 (List.mem_mergeSort.1 hb)
  exact List.inj_on_of_nodup_map hnodup ha' hb' (le_antisymm hab hba)

end Texts

end ExamFilter.Ranking
