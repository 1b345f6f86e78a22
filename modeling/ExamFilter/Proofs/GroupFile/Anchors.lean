import ExamFilter.Proofs.GroupFile.Pointers

/-!
# Texts with anchors

A text in which a name is given to a node is refused before it is read, unless the name stands right
after a bracket, a brace or a comma of a list or a mapping written in one line: nothing is looked
for there.
-/
namespace ExamFilter.GroupFile
open Yaml

/-- An ampersand and a character of a name right after it, at the beginning of the text or after a
character of the given kind. -/
def NamesNode (opens : Char → Prop) (cs : List Char) : Prop :=
  ∃ before c after, cs = before ++ '&' :: c :: after ∧ Text.isWord c = true ∧
    ∀ b ∈ before.getLast?, opens b

/-- Line breaks are blank. -/
def IsBlankOrSign (b : Char) : Prop := Text.isBlank b = true ∨ b = '-' ∨ b = ':'

/-- The characters after which a node with a name may begin. -/
def MayPrecedeNode (b : Char) : Prop := IsBlankOrSign b ∨ b = '[' ∨ b = '{' ∨ b = ','

theorem mayPrecedeAnchor_iff {b : Char} : mayPrecedeAnchor b = true ↔ IsBlankOrSign b := by
  simp [mayPrecedeAnchor, IsBlankOrSign, or_assoc]

/-- The search for an anchor that has passed some characters, of which it knows whether an anchor
may follow. -/
theorem hasAnchorFrom_iff {isOpen : Bool} {cs : List Char} :
    hasAnchorFrom isOpen cs = true ↔
      ∃ before c after, cs = before ++ '&' :: c :: after ∧ Text.isWord c = true ∧
        (before.getLast?.map mayPrecedeAnchor).getD isOpen = true := by
  induction cs generalizing isOpen with
  | nil => simp [hasAnchorFrom]
  | cons d rest ih =>
    rw [hasAnchorFrom, Bool.or_eq_true, ih]
    constructor
    · rintro (hhere | ⟨before, c, after, rfl, hc, hopen⟩)
      · simp only [Bool.and_eq_true, decide_eq_true_eq] at hhere
        obtain ⟨⟨hopen, rfl⟩, hword⟩ := hhere
        cases rest with
        | nil => cases hword
        | cons c after => exact ⟨[], c, after, rfl, hword, hopen⟩
      · refine ⟨d :: before, c, after, rfl, hc, ?_⟩
        rw [List.getLast?_cons]
        cases hlast : before.getLast? <;> simpa [hlast] using hopen
    · rintro ⟨before, c, after, hcs, hc, hopen⟩
      cases before with
      | nil =>
        cases hcs
        exact .inl (by simpa [hc] using hopen)
      | cons b before =>
        cases hcs
        refine .inr ⟨before, c, after, rfl, hc, ?_⟩
        rw [List.getLast?_cons] at hopen
        cases hlast : before.getLast? <;> simpa [hlast] using hopen

theorem hasAnchor_iff {cs : List Char} : hasAnchor cs = true ↔ NamesNode IsBlankOrSign cs := by
  rw [hasAnchor, hasAnchorFrom_iff]
  refine exists_congr fun before => exists_congr fun c => exists_congr fun after => ?_
  refine and_congr_right fun _ => and_congr_right fun _ => ?_
  cases before.getLast? <;> simp [mayPrecedeAnchor_iff]

theorem exists_checkText_error_iff {cs : List Char} :
    (∃ e, checkText cs = .error e) ↔
      maxCharacters < cs.length ∨ NamesNode IsBlankOrSign cs := by
  rw [← hasAnchor_iff, checkText]
  split
  · next hlong => simp [hlong]
  · next hlong => cases hasAnchor cs <;> simp [hlong]

theorem load_eq_loadWith (file : String) (cs : List Char) :
    load file cs = loadWith readDocument file cs :=
  rfl

theorem loadWith_of_error {read : List Char → Except Fault Tree} {file : String} {cs : List Char}
    {e : SafetyError} (h : checkText cs = .error e) :
    loadWith read file cs = .error (.safety e) := by
  rw [loadWith, h]
  rfl

/-- A text that is not refused is read, so that what the reader says about it is reported. -/
theorem loadWith_of_ok {file : String} {cs : List Char} (h : checkText cs = .ok ()) :
    loadWith (fun _ => .error .text) file cs = .error (.invalid file) := by
  rw [loadWith, h]
  rfl

/-- A text is refused for safety, and it is refused whatever reading it would give, if, and only if,
it is too long or an anchor stands at its beginning, after a blank, after a hyphen or after a
colon. -/
theorem refused_unread_iff (file : String) (cs : List Char) :
    ((∃ e, checkText cs = .error e ∧ load file cs = .error (.safety e)) ↔
      maxCharacters < cs.length ∨ NamesNode IsBlankOrSign cs) ∧
    ((∃ e, ∀ read, loadWith read file cs = .error (.safety e)) ↔
      maxCharacters < cs.length ∨ NamesNode IsBlankOrSign cs) := by
  rw [← exists_checkText_error_iff, load_eq_loadWith]
  refine ⟨exists_congr fun e => and_iff_left_of_imp loadWith_of_error, ?_⟩
  constructor
  · rintro ⟨e, hread⟩
    cases htext : checkText cs with
    | error e' => exact ⟨e', rfl⟩
    | ok =>
      have hinvalid := hread fun _ => .error .text
      rw [loadWith_of_ok htext] at hinvalid
      cases hinvalid
  · rintro ⟨e, htext⟩
    exact ⟨e, fun read => loadWith_of_error htext⟩

/-- Right after the bracket of a list an anchor is let through, and the list is loaded. -/
theorem anchor_in_list_loads :
    let text := "groups: {S: {G: [&a x]}}".toList
    NamesNode MayPrecedeNode text ∧ checkText text = .ok () ∧
      ∃ loaded, load "groups.yaml" text = .ok loaded ∧ loaded.table = [("S", [("G", ["x"])])] := by
  intro text
  have hloads : (load "groups.yaml" text).toOption.any (fun loaded =>
      loaded.table = [("S", [("G", ["x"])])]) = true := by
    decide +kernel
  obtain ⟨loaded, hload, htable⟩ := exists_ok_of_any hloads
  have hsplit : text = text.take 17 ++ '&' :: 'a' :: text.drop 19 := by decide +kernel
  have hbracket : (text.take 17).getLast? = some '[' := by decide +kernel
  refine ⟨⟨_, _, _, hsplit, by decide +kernel, fun b hb => ?_⟩, by decide +kernel, loaded, hload,
    by simpa using htable⟩
  rw [hbracket] at hb
  cases hb
  exact .inr (.inl rfl)

end ExamFilter.GroupFile
