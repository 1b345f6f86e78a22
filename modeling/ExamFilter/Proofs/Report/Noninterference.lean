import ExamFilter.Proofs.Report.Assembly
import ExamFilter.Proofs.Report.Dimensions
import ExamFilter.Proofs.Report.Limits
import ExamFilter.Proofs.Sql.Alike

/-!
# The texts of requests stay out of the text of the condition

Two requests that impose conditions of the same form in every part give conditions whose texts with
placeholders are equal. What the texts of a request decide are the values of the placeholders.
-/
namespace ExamFilter.Report
open Sql ExamFilter.Filter

/-- What is left of a part of a request when its texts are taken out. -/
inductive Form where
  | unconstrained
  | nothing
  | members (count : Nat)
  | text
  deriving DecidableEq, Repr

def predicateForm : Option Predicate → Form
  | none => .unconstrained
  | some (.matchNone _) => .nothing
  | some (.oneOf m) => .members m.values.length

def searchForm (rules : Rules) (l : Layout) : Search → Form
  | .none => .unconstrained
  | .text s => if Text.trim s = "" then .unconstrained else .text
  | .ids items => predicateForm (rules.compile l.idColumn (.list items))

/-- Both fields name a day, or both leave the date open. -/
def SameLimit (field field' : Option String) : Prop :=
  ((∃ day, IsLimit field day) ∧ ∃ day, IsLimit field' day) ∨ (IsOpen field ∧ IsOpen field')

/-- The requests have the same form in every part that counts. -/
structure AlikeRequests (rules : Rules) (l : Layout) (ignore : List String) (r r' : Request) :
    Prop where
  dimensions : ∀ d ∈ l.dimensions, d.key ∉ ignore →
    predicateForm (rules.compile d.column (r.selectionFor d.key)) =
      predicateForm (rules.compile d.column (r'.selectionFor d.key))
  search : searchForm rules l r.search = searchForm rules l r'.search
  dateFrom : SameLimit r.dateFrom r'.dateFrom
  dateTo : SameLimit r.dateTo r'.dateTo

variable {rules : Rules} {b : Builtin} {l : Layout} {ignore : List String} {r r' : Request}

theorem alike_predicateCondition {column : String} {p p' : Predicate} (hp : CompiledFor column p)
    (hp' : CompiledFor column p') (h : predicateForm (some p) = predicateForm (some p')) :
    Alike (predicateCondition p) (predicateCondition p') := by
  cases hp with
  | matchNone =>
    cases hp' with
    | matchNone => exact .refl _
    | oneOf => cases h
  | oneOf hdimension hvalues =>
    cases hp' with
    | matchNone => cases h
    | oneOf hdimension' hvalues' =>
      have hlength := Form.members.inj h
      rw [hvalues, hvalues', List.length_map, List.length_map] at hlength
      rw [predicateCondition, predicateCondition, hdimension, hdimension']
      exact .oneOf (.refl _) (Alike.strings hlength)

/-- What two selections of one form for a column are compiled into, as conditions. -/
theorem alike_compiled {column : String} {p? p?' : Option Predicate}
    (hp : ∀ p, p? = some p → CompiledFor column p) (hp' : ∀ p, p?' = some p → CompiledFor column p)
    (h : predicateForm p? = predicateForm p?') :
    Option.Rel (fun p p' => Alike (predicateCondition p) (predicateCondition p')) p? p?' := by
  cases p? with
  | none =>
    cases p?' with
    | none => exact .none
    | some p' => cases p' <;> cases h
  | some p =>
    cases p?' with
    | none => cases p <;> cases h
    | some p' => exact .some (alike_predicateCondition (hp p rfl) (hp' p' rfl) h)

/-- The tables hold predicates with conditions that are alike under the same columns. -/
def AlikeTables (t t' : Table String Predicate) : Prop :=
  List.Forall₂
    (fun a a' => a.1 = a'.1 ∧ Alike (predicateCondition a.2) (predicateCondition a'.2)) t t'

theorem AlikeTables.put {t t' : Table String Predicate} (h : AlikeTables t t') {p p' : Predicate}
    (hp : Alike (predicateCondition p) (predicateCondition p')) (column : String) :
    AlikeTables (Table.put t column p) (Table.put t' column p') := by
  induction h with
  | nil => exact .cons ⟨rfl, hp⟩ .nil
  | @cons a a' t t' ha htail ih =>
    obtain ⟨k, v⟩ := a
    obtain ⟨k', v'⟩ := a'
    obtain rfl : k = k' := ha.1
    by_cases hk : k = column
    · rw [Table.put, Table.put, if_pos hk, if_pos hk]
      exact .cons ⟨rfl, hp⟩ htail
    · rw [Table.put, Table.put, if_neg hk, if_neg hk]
      exact .cons ha ih

theorem alike_dimensionPredicate? (h : AlikeRequests rules l ignore r r') {d : Dimension}
    (hd : d ∈ l.dimensions) :
    Option.Rel (fun p p' => Alike (predicateCondition p) (predicateCondition p'))
      (dimensionPredicate? rules r ignore d) (dimensionPredicate? rules r' ignore d) := by
  refine alike_compiled (fun p => compiledFor_of_dimensionPredicate?)
    (fun p => compiledFor_of_dimensionPredicate?) ?_
  unfold dimensionPredicate?
  by_cases hi : d.key ∈ ignore
  · rw [if_pos (List.contains_iff_mem.2 hi), if_pos (List.contains_iff_mem.2 hi)]
  · rw [if_neg (by simpa using hi), if_neg (by simpa using hi)]
    exact h.dimensions d hd hi

/-- One more dimension keeps the tables alike, and so do all of them. -/
theorem alike_dimensionPredicates (h : AlikeRequests rules l ignore r r') :
    AlikeTables (dimensionPredicates rules l.dimensions r ignore)
      (dimensionPredicates rules l.dimensions r' ignore) := by
  rw [dimensionPredicates_eq_foldl, dimensionPredicates_eq_foldl]
  have hstep : ∀ d ∈ l.dimensions, ∀ t t', AlikeTables t t' →
      AlikeTables (addDimension rules r ignore t d) (addDimension rules r' ignore t' d) := by
    intro d hd t t' ht
    have hrel := alike_dimensionPredicate? h hd
    unfold addDimension
    generalize dimensionPredicate? rules r ignore d = p? at hrel
    generalize dimensionPredicate? rules r' ignore d = p?' at hrel
    cases hrel with
    | none => exact ht
    | some hp => exact ht.put hp d.column
  generalize l.dimensions = dims at hstep
  suffices hall : ∀ t t', AlikeTables t t' →
      AlikeTables (dims.foldl (addDimension rules r ignore) t)
        (dims.foldl (addDimension rules r' ignore) t') from hall [] [] .nil
  induction dims with
  | nil => exact fun t t' ht => ht
  | cons d dims ih =>
    intro t t' ht
    exact ih (fun d' hd' => hstep d' (by simp [hd'])) _ _ (hstep d (by simp) t t' ht)

theorem alike_contains (b : Builtin) (column pattern pattern' : String) :
    Alike (b.dialect.contains (.column column) (.string pattern))
      (b.dialect.contains (.column column) (.string pattern')) := by
  cases b with
  | mysql =>
    exact .binary (.refl _)
      (.call (.cons (.refl _) (.cons (.string _ _) (.cons (.refl _) .nil))) _) _
  | postgres =>
    exact .binary (.refl _) (.binary (.binary (.refl _) (.string _ _) _) (.refl _) _) _

/-- The three kinds of search: for nothing in particular, for a text, and for a list of numbers. -/
theorem searchCondition_cases (rules : Rules) (d : Dialect) (l : Layout) (s : Search) :
    (searchForm rules l s = .unconstrained ∧ searchCondition rules d l s = none) ∨
    (searchForm rules l s = .text ∧ ∃ pattern, searchCondition rules d l s =
      some (.binary (d.contains (.column l.nameColumn) (.string pattern)) "OR"
        (d.contains (.column l.idColumn) (.string pattern)))) ∨
    ∃ p, CompiledFor l.idColumn p ∧ searchForm rules l s = predicateForm (some p) ∧
      searchCondition rules d l s = some (predicateCondition p) := by
  cases s with
  | none => exact .inl ⟨rfl, rfl⟩
  | text s =>
    by_cases hblank : Text.trim s = ""
    · exact .inl ⟨by rw [searchForm, if_pos hblank],
        by rw [searchCondition, searchPattern?, if_pos hblank]; rfl⟩
    · exact .inr (.inl ⟨by rw [searchForm, if_neg hblank], escapeLike (Text.trim s),
        by rw [searchCondition, searchPattern?, if_neg hblank]; rfl⟩)
  | ids items =>
    rw [searchForm, searchCondition]
    cases hp : rules.compile l.idColumn (.list items) with
    | none => exact .inl ⟨rfl, rfl⟩
    | some p => exact .inr (.inr ⟨p, compiledFor_of_compile hp, rfl, rfl⟩)

theorem predicateForm_some_ne (p : Predicate) :
    predicateForm (some p) ≠ .unconstrained ∧ predicateForm (some p) ≠ .text := by
  cases p <;> simp [predicateForm]

theorem alike_searchCondition {s s' : Search} (h : searchForm rules l s = searchForm rules l s') :
    Option.Rel Alike (searchCondition rules b.dialect l s)
      (searchCondition rules b.dialect l s') := by
  rcases searchCondition_cases rules b.dialect l s with
    ⟨hform, hs⟩ | ⟨hform, pattern, hs⟩ | ⟨p, hp, hform, hs⟩ <;>
  rcases searchCondition_cases rules b.dialect l s' with
    ⟨hform', hs'⟩ | ⟨hform', pattern', hs'⟩ | ⟨p', hp', hform', hs'⟩ <;>
  rw [hform, hform'] at h <;> rw [hs, hs']
  · exact .none
  · cases h
  · exact absurd h.symm (predicateForm_some_ne p').1
  · cases h
  · exact .some (.binary (alike_contains b _ _ _) (alike_contains b _ _ _) _)
  · exact absurd h.symm (predicateForm_some_ne p').2
  · exact absurd h (predicateForm_some_ne p).1
  · exact absurd h (predicateForm_some_ne p).2
  · exact .some (alike_predicateCondition hp hp' h)

theorem alike_dateCondition {limits limits' : DateLimits}
    (hfirst : limits.first.isSome = limits'.first.isSome)
    (hlast : limits.last.isSome = limits'.last.isSome) :
    Option.Rel Alike (dateCondition b.dialect l limits) (dateCondition b.dialect l limits') := by
  have hvalue : ∀ day day' : Calendar.Date,
      Alike (Dialect.dateValue day.iso) (Dialect.dateValue day'.iso) :=
    fun day day' => .cast (.string _ _) _
  unfold dateCondition
  cases hf : limits.first <;> cases hf' : limits'.first <;> rw [hf, hf'] at hfirst <;>
    cases hfirst <;> cases hl : limits.last <;> cases hl' : limits'.last <;>
    rw [hl, hl'] at hlast <;> cases hlast
  · exact .none
  · exact .some (.binary (.refl _) (hvalue _ _) _)
  · exact .some (.binary (.refl _) (hvalue _ _) _)
  · exact .some (.between (.refl _) (hvalue _ _) (hvalue _ _))

theorem alike_readLimit {field field' : Option String} (h : SameLimit field field')
    (name : String) :
    ∃ limit limit' ws ws', readLimit name field = .ok (limit, ws) ∧
      readLimit name field' = .ok (limit', ws') ∧ limit.isSome = limit'.isSome := by
  rcases h with ⟨⟨day, hday⟩, ⟨day', hday'⟩⟩ | ⟨hopen, hopen'⟩
  · exact ⟨_, _, _, _, readLimit_of_isLimit hday, readLimit_of_isLimit hday', rfl⟩
  · obtain ⟨ws, hread⟩ : ∃ ws, readLimit name field = .ok (none, ws) := readLimit_of_isOpen hopen
    obtain ⟨ws', hread'⟩ : ∃ ws, readLimit name field' = .ok (none, ws) :=
      readLimit_of_isOpen hopen'
    exact ⟨_, _, _, _, hread, hread', rfl⟩

theorem AlikeTables.conditions {t t' : Table String Predicate} (h : AlikeTables t t') :
    List.Forall₂ Alike ((Table.values t).map predicateCondition)
      ((Table.values t').map predicateCondition) := by
  rw [List.forall₂_map_left_iff, List.forall₂_map_right_iff, Table.values, Table.values,
    List.forall₂_map_left_iff, List.forall₂_map_right_iff]
  exact List.Forall₂.imp (fun _ _ ha => ha.2) h

theorem alike_toList {e? e?' : Option Expr} (h : Option.Rel Alike e? e?') :
    List.Forall₂ Alike e?.toList e?'.toList := by
  cases h with
  | none => exact .nil
  | some he => exact .cons he .nil

/-- The two conditions are put together from parts that are alike. -/
theorem alike_build (h : AlikeRequests rules l ignore r r') :
    ∃ w w', Where.build rules b.dialect l r ignore = .ok w ∧
      Where.build rules b.dialect l r' ignore = .ok w' ∧
      Option.Rel Alike w.condition w'.condition := by
  obtain ⟨first, first', before, before', hf, hf', hfirst⟩ := alike_readLimit h.dateFrom "date_from"
  obtain ⟨last, last', after, after', hl, hl', hlast⟩ := alike_readLimit h.dateTo "date_to"
  refine ⟨_, _, build_eq_ok_iff.2 ⟨_, read_eq_ok hf hl, rfl⟩,
    build_eq_ok_iff.2 ⟨_, read_eq_ok hf' hl', rfl⟩, ?_⟩
  have hdimensions := (alike_dimensionPredicates h).conditions
  have hsearch := alike_toList (alike_searchCondition (b := b) h.search)
  have hdate : List.Forall₂ Alike
      (dateCondition b.dialect l ⟨first, last, before ++ after⟩).toList
      (dateCondition b.dialect l ⟨first', last', before' ++ after'⟩).toList :=
    alike_toList (alike_dateCondition hfirst hlast)
  exact Alike.join (List.rel_append (List.rel_append hdimensions hsearch) hdate) "AND"

/-- Requests of the same form give conditions with the same text and the same placeholders. The
texts of a request decide nothing but the values of the placeholders. -/
theorem boundSql_noninterference (rules : Rules) (b : Builtin) (l : Layout) (ignore : List String)
    (r r' : Request) (h : AlikeRequests rules l ignore r r') :
    ∃ w w', Where.build rules b.dialect l r ignore = .ok w ∧
      Where.build rules b.dialect l r' ignore = .ok w' ∧
      ((w.condition = none ∧ w'.condition = none) ∨
        ∃ e e' sql bs bs', w.condition = some e ∧ w'.condition = some e' ∧
          b.dialect.boundSql e = .ok (sql, bs) ∧ b.dialect.boundSql e' = .ok (sql, bs') ∧
          Table.keys bs = Table.keys bs') := by
  obtain ⟨w, w', hw, hw', hrel⟩ := alike_build (b := b) h
  refine ⟨w, w', hw, hw', ?_⟩
  cases hc : w.condition <;> cases hc' : w'.condition <;> rw [hc, hc'] at hrel <;> cases hrel
  · exact .inl ⟨rfl, rfl⟩
  · next e e' halike =>
    have hsql := (assembled_build hw hc).boundSql
    obtain ⟨bs', hsql', hkeys⟩ := halike.boundSql hsql
    exact .inr ⟨e, e', _, _, bs', rfl, rfl, hsql, hsql', hkeys⟩

/-- A request whose texts try to be more than values. -/
theorem boundSql_noninterference_quotes :
    let r : Request := { campus := .list [.text "North"], search := .text "Rao",
                         dateFrom := some "01/02/2024", dateTo := some "next week" }
    let r' : Request := { campus := .list [.text "' OR 1 = 1 -- "], search := .text "%(p0)s",
                          dateFrom := some "31-12-2025", dateTo := some "" }
    AlikeRequests {} {} [] r r' ∧
      ∃ w w', Where.build {} Builtin.mysql.dialect {} r [] = .ok w ∧
        Where.build {} Builtin.mysql.dialect {} r' [] = .ok w' ∧
        ((w.condition = none ∧ w'.condition = none) ∨
          ∃ e e' sql bs bs', w.condition = some e ∧ w'.condition = some e' ∧
            Dialect.mysql.boundSql e = .ok (sql, bs) ∧ Dialect.mysql.boundSql e' = .ok (sql, bs') ∧
            Table.keys bs = Table.keys bs') := by
  intro r r'
  have hday : Calendar.readDate (.text "01/02/2024") = .ok (Calendar.Date.ofNumbers? 2024 2 1) :=
    rfl
  have hday' : Calendar.readDate (.text "31-12-2025") =
      .ok (Calendar.Date.ofNumbers? 2025 12 31) := rfl
  have hfrom : SameLimit r.dateFrom r'.dateFrom :=
    .inl ⟨⟨_, _, rfl, hday.trans (congrArg _ (Calendar.Date.ofNumbers?_self
        ⟨2024, 2, 1, by decide⟩))⟩,
      ⟨_, _, rfl, hday'.trans (congrArg _ (Calendar.Date.ofNumbers?_self
        ⟨2025, 12, 31, by decide⟩))⟩⟩
  have hto : SameLimit r.dateTo r'.dateTo := by
    refine .inr ⟨fun text htext => ?_, fun text htext => ?_⟩
    · cases htext
      rfl
    · cases htext
      rfl
  have hdimensions : ∀ d ∈ Dimension.builtin,
      predicateForm (Rules.compile {} d.column (r.selectionFor d.key)) =
        predicateForm (Rules.compile {} d.column (r'.selectionFor d.key)) := by
    simp only [Dimension.builtin, List.forall_mem_cons]
    exact ⟨rfl, rfl, rfl, rfl, rfl, nofun⟩
  have halike : AlikeRequests {} {} [] r r' := ⟨fun d hd _ => hdimensions d hd, rfl, hfrom, hto⟩
  exact ⟨halike, boundSql_noninterference {} .mysql {} [] r r' halike⟩

end ExamFilter.Report
