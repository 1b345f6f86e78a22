import Mathlib.Data.List.Induction
import Mathlib.Data.List.Lex
import Mathlib.Data.List.Nodup

/-!
# Enumerations by address

An address is a list of numbers, of which the first one counts the items of a list, the next one
what belongs to that item, and so on. A list enumerates a relation if it holds what is related to
the addresses, each pair once and in the order of the addresses; there is only one such list.
-/
namespace ExamFilter
variable {α β : Type}

/-- The list holds what is related to any address: the same address never has two entries, and the
entries follow their addresses. -/
def Enumerates (R : List Nat → β → Prop) (ys : List β) : Prop :=
  ∃ placed : List (List Nat × β), placed.map (·.2) = ys ∧
    placed.Pairwise (fun p q => List.Lex (· < ·) p.1 q.1) ∧ ∀ s y, (s, y) ∈ placed ↔ R s y

variable {R : List Nat → β → Prop}

theorem enumerates_nil (h : ∀ s y, ¬ R s y) : Enumerates R [] :=
  ⟨[], rfl, .nil, fun s y => by simpa using h s y⟩

theorem enumerates_singleton {s : List Nat} {y : β} (h : ∀ s' y', R s' y' ↔ s' = s ∧ y' = y) :
    Enumerates R [y] :=
  ⟨[(s, y)], rfl, List.pairwise_singleton _ _, fun s' y' => by simp [h]⟩

theorem Enumerates.congr {R' : List Nat → β → Prop} {ys : List β} (h : Enumerates R ys)
    (hiff : ∀ s y, R s y ↔ R' s y) : Enumerates R' ys := by
  obtain ⟨placed, hmap, hsorted, hmem⟩ := h
  exact ⟨placed, hmap, hsorted, fun s y => (hmem s y).trans (hiff s y)⟩

/-- There is no other list like that. -/
theorem Enumerates.iff_eq {ys zs : List β} (h : Enumerates R ys) :
    Enumerates R zs ↔ zs = ys := by
  refine ⟨fun h' => ?_, fun heq => heq ▸ h⟩
  obtain ⟨placed, rfl, hsorted, hmem⟩ := h
  obtain ⟨placed', rfl, hsorted', hmem'⟩ := h'
  have hirrefl : ∀ s : List Nat, ¬ List.Lex (· < ·) s s := fun s hs => asymm hs hs
  have hnodup := hsorted.imp fun {p q} hlex (heq : p = q) => hirrefl q.1 (heq ▸ hlex)
  have hnodup' := hsorted'.imp fun {p q} hlex (heq : p = q) => hirrefl q.1 (heq ▸ hlex)
  have hperm : placed'.Perm placed :=
    (List.perm_ext_iff_of_nodup hnodup' hnodup).2 fun p => (hmem' p.1 p.2).trans (hmem p.1 p.2).symm
  rw [hperm.eq_of_pairwise (fun p q _ _ hpq hqp => absurd hqp (asymm hpq)) hsorted' hsorted]

/-- What belongs to an item of a list. -/
def AtItem (xs : List α) (R : α → Nat → List Nat → β → Prop) (s : List Nat) (y : β) : Prop :=
  ∃ i x s', s = i :: s' ∧ xs[i]? = some x ∧ R x i s' y

theorem getElem?_append_singleton {xs : List α} {x y : α} {i : Nat} :
    (xs ++ [x])[i]? = some y ↔ xs[i]? = some y ∨ i = xs.length ∧ x = y := by
  rcases Nat.lt_trichotomy i xs.length with hlt | rfl | hgt
  · rw [List.getElem?_append_left hlt]
    have hne : i ≠ xs.length := hlt.ne
    simp [hne]
  · simp
  · have hne : i ≠ xs.length := hgt.ne'
    have hnone : xs[i]? = none := List.getElem?_eq_none hgt.le
    rw [List.getElem?_append_right hgt.le, hnone, List.getElem?_singleton]
    simp [hne, Nat.sub_ne_zero_of_lt hgt]

theorem enumerates_zipIdx {xs : List α} {f : α × Nat → List β} {R : α → Nat → List Nat → β → Prop}
    (h : ∀ i x, xs[i]? = some x → Enumerates (R x i) (f (x, i))) :
    Enumerates (AtItem xs R) (xs.zipIdx.flatMap f) := by
  induction xs using List.reverseRecOn with
  | nil => exact enumerates_nil fun s y ⟨i, x, s', _, hx, _⟩ => by simp at hx
  | append_singleton xs x ih =>
    have hitem : (xs ++ [x])[xs.length]? = some x := getElem?_append_singleton.2 (.inr ⟨rfl, rfl⟩)
    obtain ⟨before, hbefore, hsorted, hmem⟩ :=
      ih fun i z hz => h i z (getElem?_append_singleton.2 (.inl hz))
    obtain ⟨own, hown, hsorted', hmem'⟩ := h xs.length x hitem
    refine ⟨before ++ own.map fun p => (xs.length :: p.1, p.2), ?_, ?_, fun s y => ?_⟩
    · simp [List.zipIdx_append, hbefore, ← hown, Function.comp_def]
    · refine List.pairwise_append.2 ⟨hsorted, ?_, ?_⟩
      · exact List.pairwise_map.2 (hsorted'.imp fun hlex => .cons hlex)
      · rintro ⟨s, y⟩ hs q hq
        obtain ⟨i, z, s', rfl, hz, -⟩ := (hmem s y).1 hs
        obtain ⟨p, -, rfl⟩ := List.mem_map.1 hq
        exact .rel (List.getElem?_eq_some_iff.1 hz).1
    · rw [List.mem_append, hmem, List.mem_map]
      constructor
      · rintro (⟨i, z, s', rfl, hz, hR⟩ | ⟨⟨s', z⟩, hp, heq⟩)
        · exact ⟨i, z, s', rfl, getElem?_append_singleton.2 (.inl hz), hR⟩
        · cases heq
          exact ⟨_, x, s', rfl, hitem, (hmem' s' _).1 hp⟩
      · rintro ⟨i, z, s', rfl, hz, hR⟩
        rcases getElem?_append_singleton.1 hz with hz | ⟨rfl, rfl⟩
        · exact .inl ⟨i, z, s', rfl, hz, hR⟩
        · exact .inr ⟨(s', y), (hmem' s' y).2 hR, rfl⟩

theorem enumerates_flatMap (xs : List α) {f : α → List β} {R : α → List Nat → β → Prop}
    (h : ∀ x ∈ xs, Enumerates (R x) (f x)) :
    Enumerates (AtItem xs fun x _ => R x) (xs.flatMap f) := by
  have hzip : xs.flatMap f = xs.zipIdx.flatMap fun p => f p.1 := by
    conv_lhs => rw [← List.zipIdx_map_fst 0 xs, List.flatMap_map]
  rw [hzip]
  exact enumerates_zipIdx fun i x hx => h x (List.mem_of_getElem? hx)

end ExamFilter
