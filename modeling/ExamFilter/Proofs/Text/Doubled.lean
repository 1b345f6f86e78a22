import ExamFilter.Text.Basic
import Mathlib.Logic.Function.Basic

/-!
# Doubled characters are told apart
-/
namespace ExamFilter.Text

theorem head?_doubleChars (q : Char) (cs : List Char) : (doubleChars q cs).head? = cs.head? := by
  cases cs with
  | nil => rfl
  | cons c cs => by_cases hc : c = q <;> simp [doubleChars, hc]

theorem mem_doubleChars {q c : Char} {cs : List Char} : c ∈ doubleChars q cs ↔ c ∈ cs := by
  induction cs with
  | nil => rfl
  | cons d cs ih => by_cases hd : d = q <;> simp [doubleChars, hd, ih]

/-- Two characters can be doubled in either order. -/
theorem doubleChars_comm {p q : Char} (h : p ≠ q) (cs : List Char) :
    doubleChars p (doubleChars q cs) = doubleChars q (doubleChars p cs) := by
  induction cs with
  | nil => rfl
  | cons c cs ih =>
    by_cases hp : c = p
    · subst hp
      simp [doubleChars, h, ih]
    · by_cases hq : c = q
      · subst hq
        simp [doubleChars, hp, ih]
      · simp [doubleChars, hp, hq, ih]

theorem doubleChars_injective (q : Char) : Function.Injective (doubleChars q) := by
  intro xs
  induction xs with
  | nil =>
    intro ys h
    have hhead := congrArg List.head? h
    rw [head?_doubleChars, head?_doubleChars] at hhead
    exact (List.head?_eq_none_iff.1 hhead.symm).symm
  | cons c cs ih =>
    intro ys h
    have hhead := congrArg List.head? h
    rw [head?_doubleChars, head?_doubleChars] at hhead
    obtain ⟨ds, rfl⟩ := List.head?_eq_some_iff.1 hhead.symm
    have htail : doubleChars q cs = doubleChars q ds := by
      by_cases hc : c = q <;> simpa [doubleChars, hc] using h
    rw [ih htail]

theorem double_comm {p q : Char} (h : p ≠ q) (s : String) :
    double p (double q s) = double q (double p s) := by
  apply String.toList_injective
  simp only [toList_double, doubleChars_comm h]

theorem double_injective (q : Char) : Function.Injective (double q) := by
  intro s t h
  have hchars := congrArg String.toList h
  rw [toList_double, toList_double] at hchars
  exact String.toList_injective (doubleChars_injective q hchars)

end ExamFilter.Text
