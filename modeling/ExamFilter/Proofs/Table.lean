import ExamFilter.Table
import Mathlib.Data.List.Induction

/-!
# Tables after many entries have been put
-/
namespace ExamFilter.Table
variable {α β : Type} [DecidableEq α]

theorem mem_keys_iff {t : Table α β} {key : α} :
    key ∈ keys t ↔ ∃ value, get? t key = some value := by
  induction t with
  | nil => simp [keys, get?]
  | cons p rest ih =>
    obtain ⟨a, v⟩ := p
    by_cases ha : a = key
    · simp [keys, get?, ha]
    · have hne : key ≠ a := fun h => ha h.symm
      simpa [keys, get?, ha, hne] using ih

theorem mem_of_get?_eq_some {t : Table α β} {key : α} {value : β} (h : get? t key = some value) :
    (key, value) ∈ t := by
  induction t with
  | nil => cases h
  | cons p rest ih =>
    obtain ⟨a, v⟩ := p
    by_cases ha : a = key
    · obtain rfl : v = value := by simpa [get?, ha] using h
      simp [ha]
    · exact List.mem_cons_of_mem _ (ih (by simpa [get?, ha] using h))

/-- Of the entries put under a key the last one counts. -/
theorem get?_foldl_put {γ : Type} (key : γ → α) (value : γ → β) (xs : List γ) (t : Table α β)
    (k : α) :
    get? (xs.foldl (fun t x => put t (key x) (value x)) t) k =
      ((xs.filter fun x => key x = k).getLast?.map value).or (get? t k) := by
  induction xs using List.reverseRecOn with
  | nil => simp
  | append_singleton xs x ih =>
    rw [List.foldl_append, List.foldl_cons, List.foldl_nil, get?_put, ih, List.filter_append]
    by_cases hx : key x = k
    · simp [hx]
    · simp [hx]

theorem get?_ofPairs_of_forall {pairs : List (α × β)} {k : α} {v? : Option β}
    (h : ∀ v, (k, v) ∈ pairs ↔ v? = some v) : get? (ofPairs pairs) k = v? := by
  rw [ofPairs, get?_foldl_put Prod.fst Prod.snd, get?, Option.or_none]
  cases hlast : (pairs.filter fun p => p.1 = k).getLast? with
  | none =>
    have hnil := List.getLast?_eq_none_iff.1 hlast
    cases v? with
    | none => rfl
    | some v =>
      have hmem : (k, v) ∈ pairs.filter fun p => p.1 = k := List.mem_filter.2 ⟨(h v).2 rfl, by simp⟩
      rw [hnil] at hmem
      cases hmem
  | some p =>
    obtain ⟨hp, hk⟩ := List.mem_filter.1 (List.mem_of_getLast? hlast)
    obtain rfl : p.1 = k := by simpa using hk
    exact ((h p.2).1 hp).symm

theorem mem_of_mem_put {t : Table α β} {key : α} {value : β} {p : α × β}
    (h : p ∈ put t key value) : p = (key, value) ∨ p ∈ t := by
  induction t with
  | nil => simpa [put] using h
  | cons q rest ih =>
    obtain ⟨k, v⟩ := q
    rw [put] at h
    split at h
    · next hk =>
      rcases List.mem_cons.1 h with rfl | hrest
      · exact .inl (by rw [hk])
      · exact .inr (.tail _ hrest)
    · rcases List.mem_cons.1 h with rfl | hrest
      · exact .inr (.head _)
      · exact (ih hrest).imp id (.tail _)

theorem mem_of_mem_ofPairs {pairs : List (α × β)} {p : α × β} (h : p ∈ ofPairs pairs) :
    p ∈ pairs := by
  unfold ofPairs at h
  induction pairs using List.reverseRecOn with
  | nil => exact h
  | append_singleton pairs q ih =>
    rw [List.foldl_append, List.foldl_cons, List.foldl_nil] at h
    rcases mem_of_mem_put h with rfl | hbefore
    · simp
    · exact List.mem_append_left _ (ih hbefore)

end ExamFilter.Table
