/-!
# Tables in order of insertion

A table holds at most one value for a key and lists its entries in the order in which their keys
were first put. Putting a value under a key that is there already replaces the value and keeps
the place.
-/
namespace ExamFilter

abbrev Table (α β : Type) := List (α × β)

namespace Table
variable {α β : Type} [DecidableEq α]

def get? : Table α β → α → Option β
  | [], _ => none
  | (k, v) :: rest, key => if k = key then some v else get? rest key

def put : Table α β → α → β → Table α β
  | [], key, value => [(key, value)]
  | (k, v) :: rest, key, value =>
    if k = key then (k, value) :: rest else (k, v) :: put rest key value

def ofPairs (pairs : List (α × β)) : Table α β :=
  pairs.foldl (fun t p => put t p.1 p.2) []

def keys (t : Table α β) : List α := t.map (·.1)

def values (t : Table α β) : List β := t.map (·.2)

theorem get?_put (t : Table α β) (key k : α) (value : β) :
    get? (put t key value) k = if key = k then some value else get? t k := by
  induction t with
  | nil => simp [put, get?]
  | cons p rest ih =>
    obtain ⟨a, v⟩ := p
    by_cases ha : a = key
    · subst ha
      by_cases hk : a = k <;> simp [put, get?, hk]
    · by_cases hk : a = k
      · subst hk
        simp [put, get?, ha, Ne.symm ha]
      · simp [put, get?, ha, hk, ih]

theorem keys_put (t : Table α β) (key : α) (value : β) :
    keys (put t key value) = if key ∈ keys t then keys t else keys t ++ [key] := by
  induction t with
  | nil => simp [put, keys]
  | cons p rest ih =>
    obtain ⟨a, v⟩ := p
    by_cases ha : a = key
    · subst ha
      simp [put, keys]
    · simp only [keys, put, ha, if_false, List.map_cons] at ih ⊢
      rw [ih]
      by_cases hm : key ∈ rest.map (·.1) <;> simp [hm, Ne.symm ha]

/-- A new key is put at the end. -/
theorem put_of_notMem {t : Table α β} {key : α} (h : key ∉ keys t) (value : β) :
    put t key value = t ++ [(key, value)] := by
  induction t with
  | nil => rfl
  | cons p rest ih =>
    obtain ⟨a, v⟩ := p
    simp only [keys, List.map_cons, List.mem_cons, not_or] at h
    simp [put, Ne.symm h.1, ih h.2]

theorem mem_iff_get?_eq_some {t : Table α β} (h : (keys t).Nodup) {key : α} {value : β} :
    (key, value) ∈ t ↔ get? t key = some value := by
  induction t with
  | nil => simp [get?]
  | cons p rest ih =>
    obtain ⟨a, v⟩ := p
    simp only [keys, List.map_cons, List.nodup_cons] at h
    have hrest := ih h.2
    by_cases ha : a = key
    · subst ha
      have hnew : (a, value) ∉ rest := fun hm => h.1 (List.mem_map_of_mem hm)
      simp [get?, hnew, eq_comm]
    · simp [get?, ha, Ne.symm ha, hrest]

theorem nodup_keys_put {t : Table α β} (h : (keys t).Nodup) (key : α) (value : β) :
    (keys (put t key value)).Nodup := by
  rw [keys_put]
  split
  · exact h
  · next hk =>
    refine List.nodup_append.2 ⟨h, by simp, fun a ha b hb hab => hk ?_⟩
    rwa [← List.mem_singleton.1 hb, ← hab]

private theorem foldl_put_eq_append (pairs : List (α × β)) (t : Table α β)
    (h : (keys (t ++ pairs)).Nodup) : pairs.foldl (fun t p => put t p.1 p.2) t = t ++ pairs := by
  induction pairs generalizing t with
  | nil => simp
  | cons p rest ih =>
    have hsplit : t ++ p :: rest = t ++ [p] ++ rest := by simp
    have hnew : p.1 ∉ keys t := by
      intro hm
      simp only [keys, List.map_append, List.map_cons, List.nodup_append] at h
      exact h.2.2 p.1 hm p.1 (by simp) rfl
    rw [List.foldl_cons, put_of_notMem hnew, hsplit]
    exact ih _ (hsplit ▸ h)

/-- Pairs with different keys are a table as they are. -/
theorem ofPairs_eq_self {pairs : List (α × β)} (h : (keys pairs).Nodup) : ofPairs pairs = pairs :=
  foldl_put_eq_append pairs [] h

end Table

end ExamFilter
