import ExamFilter.Proofs.Report.NormalizedLimits
import ExamFilter.Web.App
import Mathlib.Data.List.Forall2

/-!
# Answers about dates

The texts of a body are answered in their order, each with what normalizing makes of it. What is
normalized keeps its meaning: it names the same date, it is not changed by normalizing it again,
and it limits the rows of a report as the text did that it was made from.
-/
namespace ExamFilter.Web
open Calendar

theorem all_readText (place : List Form.Step) (i : Nat) (items : List String) :
    Form.Checked.all (fun i item => Form.readText (place ++ [.index i]) item) i
      (items.map Value.text) = .ok items := by
  induction items generalizing i with
  | nil => rfl
  | cons s items ih =>
    rw [List.map_cons, Form.Checked.all, Form.readText_text, ih]
    rfl

theorem readTexts_texts (place : List Form.Step) (items : List String) :
    Form.readTexts place (texts items) = .ok items :=
  all_readText place 0 items

def textOf? : Value → Option String
  | .text s => some s
  | _ => none

/-- The texts that a request sends to be normalized, if it sends nothing else as its values. -/
def Request.sentTexts? (r : Request) : Option (List String) :=
  match readBody r.contentType r.body with
  | .ok (.json (.dict entries)) =>
    match Table.get? (members entries) "values" with
    | some (.list items) => items.mapM textOf?
    | _ => none
  | _ => none

theorem eq_map_text_of_mapM {vs : List Value} {items : List String}
    (h : vs.mapM textOf? = some items) : vs = items.map Value.text := by
  induction vs generalizing items with
  | nil =>
    cases h
    rfl
  | cons v vs ih =>
    rw [List.mapM_cons] at h
    simp only [bind, Option.bind_eq_some_iff] at h
    obtain ⟨s, hs, rest, hrest, heq⟩ := h
    cases heq
    cases v <;> cases hs
    rw [List.map_cons, ← ih hrest]

theorem exists_of_sentTexts? {r : Request} {items : List String} (h : r.sentTexts? = some items) :
    ∃ entries, readBody r.contentType r.body = .ok (.json (.dict entries)) ∧
      Table.get? (members entries) "values" = some (texts items) := by
  rw [Request.sentTexts?] at h
  split at h
  · next entries hbody =>
    split at h
    · next vs hvalues =>
      rw [eq_map_text_of_mapM h] at hvalues
      exact ⟨entries, hbody, hvalues⟩
    · cases h
  · cases h

/-- A body that is read without problems is answered. -/
theorem withBody_eq {r : Request} {body : Body} {given : Table String Value} {content : α}
    {read : List Form.Step → Table String Value → Form.Checked α}
    {respond : α → Except Failure Response}
    (hbody : readBody r.contentType r.body = .ok body) (hgiven : body.members = .ok given)
    (hread : read atBody given = .ok content) : App.withBody r read respond = respond content := by
  have hbind : body.members.bind (read atBody) = .ok content := by
    rw [hgiven]
    exact hread
  rw [App.withBody, hbody]
  dsimp only
  rw [hbind]

theorem eq_error_of_map_eq_error {x : Except ε α} {f : α → β} {e : ε} (h : x.map f = .error e) :
    x = .error e := by
  cases x with
  | ok a => cases h
  | error e' =>
    cases h
    rfl

/-- Either every item has a result or the first that has none decides. -/
theorem mapM_cases {f : α → Except ε β} (xs : List α) :
    (∃ ys, xs.mapM f = .ok ys ∧ List.Forall₂ (fun x y => f x = .ok y) xs ys) ∨
      ∃ x ∈ xs, ∃ e, f x = .error e ∧ xs.mapM f = .error e := by
  induction xs with
  | nil => exact .inl ⟨[], rfl, .nil⟩
  | cons x xs ih =>
    rw [List.mapM_cons]
    cases hx : f x with
    | error e => exact .inr ⟨x, List.mem_cons_self, e, hx, rfl⟩
    | ok y =>
      rcases ih with ⟨ys, hys, hall⟩ | ⟨x', hmem, e, hx', hxs⟩
      · exact .inl ⟨y :: ys, by rw [hys]; rfl, .cons hx hall⟩
      · exact .inr ⟨x', List.mem_cons_of_mem x hmem, e, hx', by rw [hxs]; rfl⟩

section General
variable (general : List Char → Except Breakdown (Option Date))

/-- What is answered for a text, given the date that it names. -/
def NormalizedDate.ofDate? (raw : String) : Option Date → NormalizedDate
  | some d => ⟨raw, d.dayFirst, true⟩
  | none => ⟨raw, raw, false⟩

/-- All values of a body, read in the given way. -/
def normalizeDatesWith (body : DatesBody) : Except Breakdown (List NormalizedDate) :=
  body.values.mapM fun raw =>
    (readDateWith general (.text raw)).map (NormalizedDate.ofDate? raw)

/-- The response to a request to normalize dates, these being read in the given way. -/
def datesResponse (r : Request) : Except Failure Response :=
  App.withBody r DatesBody.read fun body =>
    ((normalizeDatesWith general body).mapError fun b => .service (.date b)).map fun dates =>
      success [("results", .list (dates.map NormalizedDate.value))]

end General

theorem respondAt_dates (a : App) (r : Request) :
    a.respondAt r .dates = datesResponse freeForm r := rfl

section Answers
variable {general : List Char → Except Breakdown (Option Date)}

/-- What is answered for a text is its normal form, and whether the text is a date. -/
structure NormalizedDate.Answers (general : List Char → Except Breakdown (Option Date))
    (raw : String) (answer : NormalizedDate) : Prop where
  raw_eq : answer.raw = raw
  normalizes : normalizeWith general (.text raw) = .ok answer.normalized
  reads : ∃ date?, readDateWith general (.text raw) = .ok date? ∧ answer.isParsed = date?.isSome

theorem normalized_ofDate? (raw : String) (date? : Option Date) :
    (NormalizedDate.ofDate? raw date?).normalized = normalized (.text raw) date? := by
  cases date? with
  | some d => rw [NormalizedDate.ofDate?, normalized]
  | none =>
    rw [NormalizedDate.ofDate?, normalized]
    by_cases hempty : raw = ""
    · subst hempty
      rfl
    · rw [if_pos (by simpa [Value.isGiven] using hempty)]
      rfl

theorem answers_ofDate? {raw : String} {date? : Option Date}
    (h : readDateWith general (.text raw) = .ok date?) :
    (NormalizedDate.ofDate? raw date?).Answers general raw where
  raw_eq := by cases date? <;> rw [NormalizedDate.ofDate?]
  normalizes := by rw [normalized_ofDate?, normalizeWith_of_readDateWith h]
  reads := ⟨date?, h, by cases date? <;> rw [NormalizedDate.ofDate?] <;> rfl⟩

theorem datesResponse_of_sent {r : Request} {items : List String}
    (h : r.sentTexts? = some items) :
    datesResponse general r =
      ((normalizeDatesWith general ⟨items⟩).mapError fun b => .service (.date b)).map fun dates =>
        success [("results", .list (dates.map NormalizedDate.value))] := by
  obtain ⟨entries, hbody, hvalues⟩ := exists_of_sentTexts? h
  have hmembers : (Body.json (.dict entries)).members = .ok (members entries) := rfl
  refine withBody_eq hbody hmembers ?_
  rw [DatesBody.read, readMember, hvalues]
  dsimp only
  rw [readTexts_texts]
  rfl

/-- Every text of a body is answered in its place, or the reading of one breaks down. -/
theorem datesResponse_cases (general : List Char → Except Breakdown (Option Date)) {r : Request}
    {items : List String} (h : r.sentTexts? = some items) :
    (∃ answers : List NormalizedDate,
      datesResponse general r =
          .ok (success [("results", .list (answers.map NormalizedDate.value))]) ∧
        List.Forall₂ (fun raw answer => answer.Answers general raw) items answers) ∨
      ∃ raw ∈ items, ∃ b, readDateWith general (.text raw) = .error b ∧
        datesResponse general r = .error (.service (.date b)) := by
  rw [datesResponse_of_sent h, normalizeDatesWith]
  rcases mapM_cases (f := fun raw =>
      (readDateWith general (.text raw)).map (NormalizedDate.ofDate? raw)) items with
    ⟨answers, hmap, hall⟩ | ⟨raw, hmem, b, hraw, hmap⟩
  · refine .inl ⟨answers, by rw [hmap]; rfl, List.Forall₂.imp (fun raw answer hanswer => ?_) hall⟩
    obtain ⟨date?, hread⟩ | ⟨b, -, hread⟩ := readDateWith_cases general (.text raw)
    · rw [hread] at hanswer
      rw [← Except.ok.inj hanswer]
      exact answers_ofDate? hread
    · rw [hread] at hanswer
      cases hanswer
  · exact .inr ⟨raw, hmem, b, eq_error_of_map_eq_error hraw, by rw [hmap]; rfl⟩

end Answers

section Main
open Report
variable (general : List Char → Except Breakdown (Option Date))

/-- A normalized text means what it was made from, however texts are read that begin with no date
by position. It is the date with its day first or the text of the value, names the same date and
is not changed by normalizing it again, unless the reading of the text breaks down. A request whose
limits are normalized has the same limits and warnings, and the same condition if no dimension
that counts takes one of these texts as its selection. Every text that is sent to be normalized is
answered in its place with its normal form. The service itself reads the other texts word by
word. -/
theorem normalizing_keeps_meaning :
    (∀ v : Value,
      (∃ date? text, readDateWith general v = .ok date? ∧ normalizeWith general v = .ok text ∧
        (∀ d, date? = some d → text = d.dayFirst ∧ text.length = 10) ∧
        (date? = none → text = if v.isGiven then v.asText else "") ∧
        readDateWith general (.text text) = .ok date? ∧
        normalizeWith general (.text text) = .ok text) ∨
      ∃ b, general (Text.trimChars v.asText.toList) = .error b ∧
        readDateWith general v = .error b ∧ normalizeWith general v = .error b) ∧
    (∀ (rules : Filter.Rules) (d : Sql.Dialect) (l : Layout) (q : Report.Request)
        (ignore : List String) (first last : String),
      normalizeWith general (optionalText q.dateFrom) = .ok first →
      normalizeWith general (optionalText q.dateTo) = .ok last →
        DateLimits.readWith general (q.withLimits first last) = DateLimits.readWith general q ∧
        ((∀ dim ∈ l.dimensions, dim.key ∈ limitFields → dim.key ∈ ignore) →
          Where.buildWith general rules d l (q.withLimits first last) ignore =
            Where.buildWith general rules d l q ignore)) ∧
    (∀ (r : Request) (items : List String), r.sentTexts? = some items →
      (∃ answers : List NormalizedDate,
        datesResponse general r =
            .ok (success [("results", .list (answers.map NormalizedDate.value))]) ∧
          List.Forall₂ (fun raw answer => answer.Answers general raw) items answers) ∨
      ∃ raw ∈ items, ∃ b, readDateWith general (.text raw) = .error b ∧
        datesResponse general r = .error (.service (.date b))) ∧
    (∀ q, DateLimits.readWith freeForm q = DateLimits.read q) ∧
    Where.buildWith freeForm = Where.build ∧
    ∀ (a : App) (r : Request), a.respondAt r .dates = datesResponse freeForm r := by
  refine ⟨fun v => ?_, fun rules d l q ignore first last hfirst hlast => ⟨?_, fun hkeys => ?_⟩,
    fun r items h => datesResponse_cases general h, DateLimits.readWith_freeForm,
    Where.buildWith_freeForm, respondAt_dates⟩
  · obtain ⟨date?, hread⟩ | ⟨b, hgeneral, hread⟩ := readDateWith_cases general v
    · refine .inl ⟨date?, normalized v date?, hread, normalizeWith_of_readDateWith hread, ?_, ?_,
        readDateWith_normalized hread, normalizeWith_normalized hread⟩
      · rintro d rfl
        exact ⟨rfl, d.length_dayFirst⟩
      · rintro rfl
        rfl
    · refine .inr ⟨b, hgeneral, hread, ?_⟩
      rw [normalizeWith, hread]
      rfl
  · exact DateLimits.readWith_withLimits hfirst hlast
  · exact Where.buildWith_withLimits hfirst hlast rules d hkeys

/-- A dimension that takes the first day of a request as its selection selects another text. -/
theorem normalizing_changes_selection :
    ¬ ∀ (rules : Filter.Rules) (d : Sql.Dialect) (l : Layout) (q : Report.Request)
        (ignore : List String) (first last : String),
      normalize (optionalText q.dateFrom) = .ok first →
      normalize (optionalText q.dateTo) = .ok last →
        Where.build rules d l (q.withLimits first last) ignore =
          Where.build rules d l q ignore := by
  intro h
  let l : Layout := { dimensions := [⟨"date_from", "DAY"⟩] }
  let q : Report.Request := { dateFrom := some "2024-01-05" }
  have hfirst : normalize (optionalText q.dateFrom) = .ok "05/01/2024" := by
    decide +kernel
  have hbuild := h {} .mysql l q [] "05/01/2024" "" hfirst rfl
  -- the days of the two requests are the same, and so only the predicates can tell them apart
  have hpredicates := congrArg (fun w => w.toOption.map (·.predicates)) hbuild
  revert hpredicates
  decide

/-- A padded date and a text that is no date, as the limits of a request and as values that are sent
to be normalized. -/
theorem normalizing_keeps_meaning_padded :
    let q : Report.Request := { dateFrom := some " 5-1-2024", dateTo := some "soon" }
    let r : Request :=
      ⟨"POST", "/dates/normalize", "application/json",
        "\x7b\"values\": [\" 5-1-2024\", \"soon\"]\x7d"⟩
    normalize (optionalText q.dateFrom) = .ok "05/01/2024" ∧
      normalize (optionalText q.dateTo) = .ok "soon" ∧
      Where.buildWith freeForm {} .mysql {} (q.withLimits "05/01/2024" "soon") [] =
        Where.buildWith freeForm {} .mysql {} q [] ∧
      r.sentTexts? = some [" 5-1-2024", "soon"] ∧
      ∃ answers : List NormalizedDate,
        datesResponse freeForm r =
            .ok (success [("results", .list (answers.map NormalizedDate.value))]) ∧
          List.Forall₂ (fun raw answer => answer.Answers freeForm raw) [" 5-1-2024", "soon"]
            answers := by
  intro q r
  have hfirst : normalize (optionalText q.dateFrom) = .ok "05/01/2024" := by decide +kernel
  have hlast : normalize (optionalText q.dateTo) = .ok "soon" := by decide +kernel
  have hkeys : ∀ dim ∈ Dimension.builtin, dim.key ∈ limitFields → dim.key ∈ [] := by decide
  have hsent : r.sentTexts? = some [" 5-1-2024", "soon"] := by decide +kernel
  have hdates : ∀ raw ∈ [" 5-1-2024", "soon"],
      (readDate (.text raw)).toOption.isSome = true := by decide +kernel
  obtain ⟨-, hlimits, hanswers, -, -, -⟩ := normalizing_keeps_meaning freeForm
  refine ⟨hfirst, hlast, (hlimits {} .mysql {} q [] _ _ hfirst hlast).2 hkeys, hsent, ?_⟩
  rcases hanswers r _ hsent with hall | ⟨raw, hraw, b, hread, -⟩
  · exact hall
  · have hsome := hdates raw hraw
    rw [readDate, hread] at hsome
    cases hsome

end Main

end ExamFilter.Web
