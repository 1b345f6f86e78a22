import ExamFilter.Text.Blank
import Mathlib.Data.List.DropRight

/-!
# White space at the ends of a text

A trimmed text has no white space at its ends, so that it is not changed by trimming it again.
-/
namespace ExamFilter.Text

theorem dropBlank_eq_self {cs : List Char} (h : ∀ c, cs.head? = some c → isBlank c = false) :
    dropBlank cs = cs := by
  cases cs with
  | nil => rfl
  | cons c cs =>
    have hc := h c rfl
    simp [dropBlank, hc]

theorem trimChars_eq_rdropWhile (cs : List Char) :
    trimChars cs = (dropBlank cs).rdropWhile isBlank := rfl

/-- What is left of a text begins as the text does without the white space before it. -/
theorem dropBlank_trimChars (cs : List Char) : dropBlank (trimChars cs) = trimChars cs := by
  refine dropBlank_eq_self fun c hc => ?_
  have hprefix : trimChars cs <+: dropBlank cs := List.rdropWhile_prefix isBlank _
  obtain ⟨rest, hrest⟩ := hprefix
  have hhead : (dropBlank cs).head? = some c := by
    rw [← hrest, List.head?_append, hc]
    rfl
  exact head?_dropBlank hhead

theorem trimChars_trimChars (cs : List Char) : trimChars (trimChars cs) = trimChars cs := by
  rw [trimChars_eq_rdropWhile (trimChars cs), dropBlank_trimChars, trimChars_eq_rdropWhile,
    List.rdropWhile_idempotent]

/-- What is dropped at the end of a text does not reach beyond a part that ends with another
character. -/
theorem rdropWhile_append {p : Char → Bool} {core : List Char} (hcore : core ≠ [])
    (hlast : p (core.getLast hcore) = false) (after : List Char) :
    (core ++ after).rdropWhile p = core ++ after.rdropWhile p := by
  induction after using List.reverseRecOn with
  | nil =>
    rw [List.append_nil, List.rdropWhile_nil, List.append_nil, List.rdropWhile_eq_self_iff]
    exact fun _ => by simp [hlast]
  | append_singleton after c ih =>
    rw [← List.append_assoc]
    by_cases hc : p c = true
    · rw [List.rdropWhile_concat_pos _ _ _ hc, List.rdropWhile_concat_pos _ _ _ hc, ih]
    · rw [List.rdropWhile_concat_neg _ _ _ hc, List.rdropWhile_concat_neg _ _ _ hc,
        List.append_assoc]

/-- Of a text the white space before a part that begins and ends with other characters is dropped,
and of what follows that part only an end. -/
theorem trimChars_append {before core : List Char} (hbefore : ∀ c ∈ before, isBlank c = true)
    (hcore : core ≠ []) (hhead : isBlank (core.head hcore) = false)
    (hlast : isBlank (core.getLast hcore) = false) (after : List Char) :
    ∃ rest, rest <+: after ∧ trimChars (before ++ core ++ after) = core ++ rest := by
  have hdrop : dropBlank (before ++ core ++ after) = core ++ after := by
    rw [dropBlank, List.append_assoc, List.dropWhile_append_of_pos hbefore]
    refine dropBlank_eq_self fun c hc => ?_
    rw [List.head?_append_of_ne_nil _ hcore, List.head?_eq_some_head hcore] at hc
    cases hc
    exact hhead
  refine ⟨after.rdropWhile isBlank, List.rdropWhile_prefix isBlank _, ?_⟩
  rw [trimChars_eq_rdropWhile, hdrop, rdropWhile_append hcore hlast]

/-- The first character that is not white space is kept by trimming. -/
theorem exists_trimChars_eq_cons {c : Char} (h : isBlank c = false) (rest : List Char) :
    ∃ rest', trimChars (c :: rest) = c :: rest' := by
  have hnone : ∀ d ∈ ([] : List Char), isBlank d = true := nofun
  obtain ⟨rest', -, htrim⟩ :=
    trimChars_append hnone (List.cons_ne_nil c []) (by simpa using h) (by simpa using h) rest
  exact ⟨rest', htrim⟩

theorem trim_eq_iff {s t : String} : trim s = t ↔ trimChars s.toList = t.toList := by
  rw [← String.toList_inj, toList_trim]

theorem trim_trim (s : String) : trim (trim s) = trim s := by
  rw [trim_eq_iff, toList_trim, trimChars_trimChars]

end ExamFilter.Text
