import ExamFilter.GroupFile.Places
import Mathlib.Data.List.TakeWhile

/-!
# Paths of nodes

A path is written step by step, a point before a key and an opening bracket before the position of
an item. If no key is empty or holds one of these two signs, then the steps can be told from the
path.
-/
namespace ExamFilter.GroupFile

inductive Step where
  | key (text : String)
  | item (i : Nat)
  deriving DecidableEq

namespace Step

/-- The path of a node, given that of the node above it. -/
def path (above : String) : Step → String
  | key text => keyPath above text
  | item i => itemPath above i

def isSign (c : Char) : Bool := c = '.' || c = '['

def sign : Step → Char
  | key _ => '.'
  | item _ => '['

/-- What is written after the sign. -/
def label : Step → List Char
  | key text => text.toList
  | item i => Nat.toDigits 10 i ++ [']']

def isPlain : Step → Bool
  | key text => text ≠ "" && text.toList.all fun c => !isSign c
  | item _ => true

theorem isSign_sign (s : Step) : isSign s.sign = true := by
  cases s <;> rfl

theorem isSign_label {s : Step} (h : s.isPlain = true) {c : Char} (hc : c ∈ s.label) :
    isSign c = false := by
  cases s with
  | key text =>
    simp only [isPlain, Bool.and_eq_true, List.all_eq_true] at h
    simpa using h.2 c hc
  | item i =>
    simp only [label, List.mem_append, List.mem_singleton] at hc
    rcases hc with hdigit | rfl
    · have hd : c.isDigit = true := Nat.isDigit_of_mem_toDigits (by decide) (by decide) hdigit
      have hpoint : c ≠ '.' := by rintro rfl; cases hd
      have hbracket : c ≠ '[' := by rintro rfl; cases hd
      simp [isSign, hpoint, hbracket]
    · rfl

theorem eq_of_sign_of_label {s s' : Step} (hsign : s.sign = s'.sign) (hlabel : s.label = s'.label) :
    s = s' := by
  cases s with
  | key text =>
    cases s' with
    | key text' => rw [String.toList_injective hlabel]
    | item i => simp [sign] at hsign
  | item i =>
    cases s' with
    | key text => simp [sign] at hsign
    | item j =>
      have hdigits : Nat.toDigits 10 i = Nat.toDigits 10 j := List.append_cancel_right hlabel
      have hij := congrArg (fun ds => Nat.ofDigitChars 10 ds 0) hdigits
      simp only [Nat.ofDigitChars_ten_toDigits] at hij
      rw [hij]

theorem toList_path_key {above : String} (h : above ≠ "") (text : String) :
    ((key text).path above).toList = above.toList ++ '.' :: text.toList := by
  have hpath : (key text).path above = above ++ "." ++ text := if_neg h
  simp [hpath]

theorem toList_path_item (above : String) (i : Nat) :
    ((item i).path above).toList = above.toList ++ '[' :: (Nat.toDigits 10 i ++ [']']) := by
  have hpath : (item i).path above = above ++ "[" ++ toString i ++ "]" := rfl
  simp [hpath]

theorem toList_path {above : String} (h : above ≠ "") (s : Step) :
    (s.path above).toList = above.toList ++ s.sign :: s.label := by
  cases s with
  | key text => exact toList_path_key h text
  | item i => exact toList_path_item above i

end Step

/-- The steps that lead to a node from the root. -/
abbrev Address := List Step

namespace Address

def path (a : Address) : String := a.foldl Step.path ""

theorem path_append_singleton (a : Address) (s : Step) : path (a ++ [s]) = s.path a.path := by
  simp [path]

def isPlain (a : Address) : Bool := a.all Step.isPlain

/-- The steps with their signs, the first one included. -/
def written (a : Address) : List Char := a.flatMap fun s => s.sign :: s.label

theorem toList_foldl_path {above : String} (h : above ≠ "") (a : Address) :
    (a.foldl Step.path above).toList = above.toList ++ written a := by
  induction a generalizing above with
  | nil => simp [written]
  | cons s a ih =>
    have hs := Step.toList_path h s
    have hne : s.path above ≠ "" := by
      rintro hempty
      rw [hempty] at hs
      simp at hs
    rw [List.foldl_cons, ih hne, hs]
    simp [written]

/-- There is no point before a key at the root. -/
theorem written_key {text : String} (h : text ≠ "") (a : Address) :
    written (.key text :: a) = '.' :: (path (.key text :: a)).toList := by
  have hpath : path (.key text :: a) = a.foldl Step.path text := rfl
  rw [hpath, toList_foldl_path h]
  rfl

theorem written_item (i : Nat) (a : Address) :
    written (.item i :: a) = (path (.item i :: a)).toList := by
  have hfirst := Step.toList_path_item "" i
  have hne : (Step.item i).path "" ≠ "" := by
    intro hempty
    rw [hempty] at hfirst
    cases hfirst
  rw [path, List.foldl_cons, toList_foldl_path hne, hfirst]
  rfl

/-- A step ends where the sign of the next one stands. -/
theorem takeWhile_label {s : Step} (h : s.isPlain = true) (a : Address) :
    (s.label ++ written a).takeWhile (fun c => !Step.isSign c) = s.label := by
  have hlabel : ∀ c ∈ s.label, (!Step.isSign c) = true := by
    intro c hc
    simp [Step.isSign_label h hc]
  rw [List.takeWhile_append_of_pos hlabel]
  cases a with
  | nil => simp [written]
  | cons t a => simp [written, Step.isSign_sign]

theorem written_injective {a b : Address} (ha : a.isPlain = true) (hb : b.isPlain = true)
    (h : written a = written b) : a = b := by
  induction a generalizing b with
  | nil =>
    cases b with
    | nil => rfl
    | cons t b => simp [written] at h
  | cons s a ih =>
    cases b with
    | nil => simp [written] at h
    | cons t b =>
      simp only [isPlain, List.all_cons, Bool.and_eq_true] at ha hb
      obtain ⟨hsign, hrest⟩ : s.sign = t.sign ∧ s.label ++ written a = t.label ++ written b := by
        simpa [written] using h
      have hlabel : s.label = t.label := by
        rw [← takeWhile_label ha.1 a, hrest, takeWhile_label hb.1 b]
      rw [hlabel] at hrest
      rw [Step.eq_of_sign_of_label hsign hlabel, ih ha.2 hb.2 (List.append_cancel_left hrest)]

/-- A path that begins with no sign has lost a point. -/
def completed (cs : List Char) : List Char := if cs.head?.all Step.isSign then cs else '.' :: cs

theorem written_eq_completed {a : Address} (ha : a.isPlain = true) :
    written a = completed a.path.toList := by
  cases a with
  | nil => rfl
  | cons s a =>
    cases s with
    | key text =>
      simp only [isPlain, List.all_cons, Step.isPlain, Bool.and_eq_true, decide_eq_true_eq,
        List.all_eq_true, Bool.not_eq_true'] at ha
      obtain ⟨⟨hne, hplain⟩, -⟩ := ha
      obtain ⟨c, cs, hcs⟩ := List.exists_cons_of_ne_nil (mt String.toList_eq_nil_iff.1 hne)
      have hwritten := written_key hne a
      have hpath : (path (.key text :: a)).toList = c :: (cs ++ written a) := by
        rw [← (List.cons.inj hwritten).2, Step.label, hcs]
        rfl
      have hc : Step.isSign c = false := hplain c (by simp [hcs])
      rw [hwritten, hpath, completed, List.head?_cons, Option.all_some, hc]
      rfl
    | item i =>
      have hsign : (path (.item i :: a)).toList.head?.all Step.isSign = true := by
        rw [← written_item]
        rfl
      rw [written_item, completed, if_pos hsign]

theorem path_injective {a b : Address} (ha : a.isPlain = true) (hb : b.isPlain = true)
    (h : a.path = b.path) : a = b := by
  apply written_injective ha hb
  rw [written_eq_completed ha, written_eq_completed hb, h]

end Address

end ExamFilter.GroupFile
