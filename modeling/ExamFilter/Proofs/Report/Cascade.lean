import ExamFilter.Proofs.Filter.Expansion
import ExamFilter.Proofs.Report.Rows
import ExamFilter.Proofs.Report.Selections
import ExamFilter.Report.Options

/-!
# The cascade of options

The query of a dimension is narrowed by the condition of the selections before it and by nothing
else. Whatever it lists can therefore be chosen without emptying the report.
-/
namespace ExamFilter.Report
open Sql ExamFilter.Filter

/-- The column holds a text that is not empty. -/
def presence (column : Expr) : Expr :=
  .binary (.isNotNull column) "AND" (.binary column "<>" (.string ""))

/-- A condition is added to another one, if there is one. -/
def narrowedBy : Option Expr → Expr → Expr
  | none, e => e
  | some narrowing, e => .binary narrowing "AND" e

theorem distinctValues_eq (table column : String) (narrowing : Option Expr) :
    distinctValues table column narrowing =
      { columns := [.column column], distinct := true, table := some table,
        condition := some (narrowedBy narrowing (presence (.column column))),
        order := [.column column] } := by
  cases narrowing <;> rfl

section Queries
variable {rules : Rules} {dims : List Dimension} {table : String} {r : Request}

theorem keys_zipIdx (query : Nat → Dimension → Select) :
    Table.keys (dims.zipIdx.map fun (d, i) => (d.key, query i d)) = dims.map (·.key) := by
  have hdims : dims.map (·.key) = (dims.zipIdx.map Prod.fst).map (·.key) := by
    rw [List.zipIdx_map_fst]
  rw [hdims, Table.keys, List.map_map, List.map_map]
  rfl

theorem options_eq (hkeys : (dims.map (·.key)).Nodup) :
    options rules dims table r =
      dims.zipIdx.map fun (d, i) => (d.key, optionQuery rules dims table r i d) := by
  refine Table.ofPairs_eq_self ?_
  rwa [keys_zipIdx]

/-- There is one query per dimension, in the order of the dimensions. -/
theorem keys_options (hkeys : (dims.map (·.key)).Nodup) :
    Table.keys (options rules dims table r) = dims.map (·.key) := by
  rw [options_eq hkeys, keys_zipIdx]

theorem options_getElem? (hkeys : (dims.map (·.key)).Nodup) {i : Nat} {dim : Dimension}
    (hdim : dims[i]? = some dim) :
    (options rules dims table r)[i]? = some (dim.key, optionQuery rules dims table r i dim) := by
  rw [options_eq hkeys, List.getElem?_map, List.getElem?_zipIdx, hdim]
  simp

end Queries

/-- The keys of the dimensions before a position, and of those from it on. -/
def keysBefore (dims : List Dimension) (i : Nat) : List String := (dims.take i).map (·.key)

def keysFrom (dims : List Dimension) (i : Nat) : List String := (dims.drop i).map (·.key)

theorem disjoint_keys {dims : List Dimension} (hkeys : (dims.map (·.key)).Nodup) {i : Nat}
    {key : String} (hbefore : key ∈ keysBefore dims i) : key ∉ keysFrom dims i := by
  have hsplit : keysBefore dims i ++ keysFrom dims i = dims.map (·.key) := by
    rw [keysBefore, keysFrom, ← List.map_append, List.take_append_drop]
  rw [← hsplit, List.nodup_append] at hkeys
  exact fun hfrom => hkeys.2.2 key hbefore key hfrom rfl

section Narrowing
variable {rules : Rules} {r r' : Request} {dims : List Dimension} {i : Nat}

theorem optionQuery_eq (table : String) (dim : Dimension) :
    optionQuery rules dims table r i dim =
      { columns := [.column dim.column], distinct := true, table := some table,
        condition := some (narrowedBy (dimensionsCondition rules dims r (keysFrom dims i))
          (presence (.column dim.column))),
        order := [.column dim.column] } :=
  distinctValues_eq _ _ _

theorem mem_take_or_mem_drop {d : Dimension} (hd : d ∈ dims) (i : Nat) :
    d ∈ dims.take i ∨ d ∈ dims.drop i := by
  rwa [← List.mem_append, List.take_append_drop]

/-- To ignore the dimensions from a position on is to keep the selections of those before it. -/
theorem dimensionPredicate?_keysFrom (hkeys : (dims.map (·.key)).Nodup)
    (hfields : ∀ d ∈ dims, d.key ∉ Request.otherFields) {d : Dimension} (hd : d ∈ dims) :
    dimensionPredicate? rules r (keysFrom dims i) d =
      dimensionPredicate? rules (r.only (keysBefore dims i)) [] d := by
  rw [dimensionPredicate?_of_notMem (List.not_mem_nil (a := d.key)),
    Request.selectionFor_only _ _ (hfields d hd)]
  rcases mem_take_or_mem_drop hd i with hbefore | hfrom
  · have hkey : d.key ∈ keysBefore dims i := List.mem_map_of_mem hbefore
    rw [dimensionPredicate?_of_notMem (disjoint_keys hkeys hkey), if_pos hkey]
  · have hkey : d.key ∈ keysFrom dims i := List.mem_map_of_mem hfrom
    rw [dimensionPredicate?_of_mem hkey, if_neg fun hbefore => disjoint_keys hkeys hbefore hkey,
      compile_null]

/-- Only the selections before a position count when the dimensions from it on are ignored. -/
theorem dimensionPredicate?_of_agree
    (hagree : ∀ before ∈ dims.take i, r'.selectionFor before.key = r.selectionFor before.key)
    {d : Dimension} (hd : d ∈ dims) :
    dimensionPredicate? rules r' (keysFrom dims i) d =
      dimensionPredicate? rules r (keysFrom dims i) d := by
  by_cases hkey : d.key ∈ keysFrom dims i
  · rw [dimensionPredicate?_of_mem hkey, dimensionPredicate?_of_mem hkey]
  · have hbefore : d ∈ dims.take i :=
      (mem_take_or_mem_drop hd i).resolve_right fun hfrom => hkey (List.mem_map_of_mem hfrom)
    rw [dimensionPredicate?_of_notMem hkey, dimensionPredicate?_of_notMem hkey, hagree d hbefore]

end Narrowing

/-- There is one query per dimension, in the order of the dimensions. It lists the distinct values
of the column that are not empty, narrowed by the condition of the request that keeps nothing but
the selections of the dimensions before it. Requests that agree on these give the same query. -/
theorem options_cascade (rules : Rules) (d : Dialect) (l : Layout) (table : String) (r : Request)
    (hkeys : (l.dimensions.map (·.key)).Nodup)
    (hfields : ∀ dim ∈ l.dimensions, dim.key ∉ Request.otherFields) :
    Table.keys (options rules l.dimensions table r) = l.dimensions.map (·.key) ∧
    ∀ i dim, l.dimensions[i]? = some dim →
      (∃ w, Where.build rules d l (r.only (keysBefore l.dimensions i)) [] = .ok w ∧
        (options rules l.dimensions table r)[i]? = some (dim.key,
          { columns := [.column dim.column], distinct := true, table := some table,
            condition := some (narrowedBy w.condition (presence (.column dim.column))),
            order := [.column dim.column] })) ∧
      ∀ r' : Request,
        (∀ before ∈ l.dimensions.take i, r'.selectionFor before.key = r.selectionFor before.key) →
        (options rules l.dimensions table r')[i]? = (options rules l.dimensions table r)[i]? := by
  refine ⟨keys_options hkeys, fun i dim hdim => ⟨?_, fun r' hagree => ?_⟩⟩
  · refine ⟨_, build_of_selections rules d l [] rfl rfl rfl, ?_⟩
    rw [options_getElem? hkeys hdim, optionQuery_eq,
      dimensionsCondition_congr fun d hd => dimensionPredicate?_keysFrom hkeys hfields hd]
  · rw [options_getElem? hkeys hdim, options_getElem? hkeys hdim, optionQuery_eq, optionQuery_eq,
      dimensionsCondition_congr fun d hd => dimensionPredicate?_of_agree hagree hd]

/-- Two dimensions on one column, and one that no field of a request stands for. -/
theorem options_cascade_shared_column :
    let l : Layout := { dimensions := [⟨"campus", "Place"⟩, ⟨"stream", "Place"⟩, ⟨"year", "Year"⟩] }
    let r : Request := { campus := .text "North", stream := .text "South", test := .text "Algebra" }
    Table.keys (options {} l.dimensions "T" r) = ["campus", "stream", "year"] ∧
    ∃ w, Where.build {} Builtin.mysql.dialect l (r.only ["campus", "stream"]) [] = .ok w ∧
      (options {} l.dimensions "T" r)[2]? = some ("year",
        { columns := [.column "Year"], distinct := true, table := some "T",
          condition := some (narrowedBy w.condition (presence (.column "Year"))),
          order := [.column "Year"] }) := by
  intro l r
  obtain ⟨hkeys, hqueries⟩ :=
    options_cascade {} Builtin.mysql.dialect l "T" r (by decide) (by decide)
  exact ⟨hkeys, (hqueries 2 _ rfl).1⟩

/-- The query lists a text: a row that satisfies its condition has the text in its column. -/
def Lists (E : Engine) (rows : List Row) (q : Select) (s : String) : Prop :=
  ∃ row ∈ rows, Selects E row q.condition ∧ evalEach E row q.columns = some [.text s]

section Choice
variable {E : Engine} {row : Row} {rules : Rules} {r : Request} {dims : List Dimension}

theorem holds_narrowedBy {narrowing : Option Expr} {e : Expr} :
    Holds E row (narrowedBy narrowing e) ↔ Selects E row narrowing ∧ Holds E row e := by
  cases narrowing with
  | none => simp [narrowedBy, Selects]
  | some n => exact holds_and

theorem ne_empty_of_holds_presence {column : String}
    (h : Holds E row (presence (.column column))) : row column ≠ "" := by
  have hne := (holds_and.1 h).2
  rw [Holds, eval_binary (eval_column column) (eval_string "")] at hne
  intro hempty
  rw [hempty] at hne
  cases hne

/-- A text that needs no trimming and is no wildcard is among the texts of its predicate. -/
theorem exists_compile_text (rules : Rules) (column : String) {s : String} (htrim : Text.trim s = s) (hne : s ≠ "")
    (hall : s ≠ Selection.allLabel) (hmarker : s ≠ Selection.allMarker) :
    ∃ m, rules.compile column (.text s) = some (.oneOf m) ∧ s ∈ m.bindValues := by
  have hselected : selectedValues? (Selection.ofValue (.text s)) = some [.text s] := by
    simp [Selection.ofValue, hall, hmarker, hne, selectedValues?]
  have hclean : clean (.text s) = s := by simp [clean, Value.isGiven, Value.asText, hne, htrim]
  have hmem : s ∈ rules.texts column [.text s] :=
    mem_usableTexts.2 ⟨⟨.text s, by simp [withMembers], hclean⟩, by simp [isUsable, hne, hmarker]⟩
  have hne' : rules.texts column [.text s] ≠ [] := List.ne_nil_of_mem hmem
  rw [compile_of_selectedValues? hselected]
  exact ⟨⟨column, (rules.texts column [.text s]).map escapeLiteral, rules.texts column [.text s],
    by simpa using hne'⟩, compileValues_eq_oneOf_iff.2 ⟨hne', rfl, rfl, rfl⟩, hmem⟩

theorem drop_eq_cons {i : Nat} {dim : Dimension} (hdim : dims[i]? = some dim) :
    dims.drop i = dim :: dims.drop (i + 1) := by
  obtain ⟨hi, rfl⟩ := List.getElem?_eq_some_iff.1 hdim
  exact List.drop_eq_getElem_cons hi

/-- After a choice, the dimensions before the chosen one have the predicates they had, and those
after it have none. -/
theorem dimensionPredicate?_choosing (rules : Rules) (r : Request) (hkeys : (dims.map (·.key)).Nodup)
    (hfields : ∀ d ∈ dims, d.key ∈ Request.selectionFields) {i : Nat} {dim : Dimension}
    (hdim : dims[i]? = some dim) (s : String) :
    (∀ d ∈ dims.take i,
      dimensionPredicate? rules (r.choosing dim.key s (keysFrom dims (i + 1))) [] d =
        dimensionPredicate? rules r (keysFrom dims i) d) ∧
    dimensionPredicate? rules (r.choosing dim.key s (keysFrom dims (i + 1))) [] dim =
      rules.compile dim.column (.text s) ∧
    ∀ d ∈ dims.drop (i + 1),
      dimensionPredicate? rules (r.choosing dim.key s (keysFrom dims (i + 1))) [] d = none := by
  have hpredicate : ∀ d ∈ dims,
      dimensionPredicate? rules (r.choosing dim.key s (keysFrom dims (i + 1))) [] d =
        rules.compile d.column (if d.key = dim.key then .text s
          else if d.key ∈ keysFrom dims (i + 1) then .null else r.selectionFor d.key) := by
    intro d hd
    rw [dimensionPredicate?_of_notMem (by simp), Request.selectionFor_choosing _ _ _ _ (hfields d hd)]
  have hfrom : keysFrom dims i = dim.key :: keysFrom dims (i + 1) := by
    rw [keysFrom, drop_eq_cons hdim, List.map_cons, keysFrom]
  refine ⟨fun d hd => ?_, ?_, fun d hd => ?_⟩
  · have hnot := disjoint_keys hkeys (List.mem_map_of_mem hd)
    rw [dimensionPredicate?_of_notMem hnot, hpredicate d (List.mem_of_mem_take hd)]
    rw [hfrom, List.mem_cons, not_or] at hnot
    rw [if_neg hnot.1, if_neg hnot.2]
  · rw [hpredicate dim (List.mem_of_getElem? hdim), if_pos rfl]
  · have hkey : d.key ∈ keysFrom dims (i + 1) := List.mem_map_of_mem hd
    have hchosen : d.key ≠ dim.key := by
      intro heq
      have hnodup : (keysFrom dims i).Nodup := hkeys.sublist ((List.drop_sublist i dims).map _)
      rw [hfrom, List.nodup_cons] at hnodup
      exact hnodup.1 (heq ▸ hkey)
    rw [hpredicate d (List.mem_of_mem_drop hd), if_neg hchosen, if_pos hkey, compile_null]

theorem lastPredicate?_split {ignore : List String} {i : Nat} {dim : Dimension}
    (hdim : dims[i]? = some dim) (column : String) :
    lastPredicate? rules r ignore dims column =
      (lastPredicate? rules r ignore (dims.drop (i + 1)) column).or
        (lastPredicate? rules r ignore (dims.take i ++ [dim]) column) := by
  rw [← lastPredicate?_append, List.append_assoc, List.singleton_append, ← drop_eq_cons hdim,
    List.take_append_drop]

/-- After a choice, the chosen text decides about the column of its dimension, and what was said
about the other columns before it still holds. -/
theorem lastPredicate?_choosing (hkeys : (dims.map (·.key)).Nodup)
    (hfields : ∀ d ∈ dims, d.key ∈ Request.selectionFields) {i : Nat} {dim : Dimension}
    (hdim : dims[i]? = some dim) {s : String} {p : Predicate}
    (hp : rules.compile dim.column (.text s) = some p) (column : String) :
    lastPredicate? rules (r.choosing dim.key s (keysFrom dims (i + 1))) [] dims column =
      if dim.column = column then some p
      else lastPredicate? rules r (keysFrom dims i) dims column := by
  obtain ⟨hbefore, hchosen, hafter⟩ := dimensionPredicate?_choosing rules r hkeys hfields hdim s
  -- the query looks at nothing from the dimension on, and the choice leaves nothing open after it
  have hignored : ∀ d ∈ dims.drop i,
      dimensionPredicate? rules r (keysFrom dims i) d = none :=
    fun d hd => dimensionPredicate?_of_mem (List.mem_map_of_mem hd)
  rw [drop_eq_cons hdim, List.forall_mem_cons] at hignored
  rw [lastPredicate?_split hdim, lastPredicate?_split (r := r) hdim, lastPredicate?_eq_none hafter,
    lastPredicate?_eq_none hignored.2, Option.none_or, Option.none_or,
    lastPredicate?_append_singleton, lastPredicate?_append_singleton, hchosen, hp, hignored.1,
    lastPredicate?_congr hbefore]
  simp

/-- The choice of a text that a row has keeps the row, whatever is cleared for it. -/
theorem selects_choosing (hkeys : (dims.map (·.key)).Nodup)
    (hfields : ∀ d ∈ dims, d.key ∈ Request.selectionFields) {i : Nat} {dim : Dimension}
    (hdim : dims[i]? = some dim) {s : String} {p : Predicate}
    (hp : rules.compile dim.column (.text s) = some p) (haccepts : accepts p (row dim.column))
    (hbefore : Selects E row (dimensionsCondition rules dims r (keysFrom dims i))) :
    ∃ e, dimensionsCondition rules dims (r.choosing dim.key s (keysFrom dims (i + 1))) [] = some e ∧
      Holds E row e := by
  have hlast := lastPredicate?_choosing (r := r) hkeys hfields hdim hp
  have hselects : Selects E row
      (dimensionsCondition rules dims (r.choosing dim.key s (keysFrom dims (i + 1))) []) := by
    rw [selects_dimensionsCondition] at hbefore ⊢
    intro column p' hp'
    rw [hlast] at hp'
    split at hp'
    · next hcolumn =>
      cases hp'
      exact hcolumn ▸ haccepts
    · exact hbefore column p' hp'
  -- there is a condition, since the chosen dimension has a predicate
  have hentry := mem_dimensionPredicates_iff.2 ((hlast dim.column).trans (if_pos rfl))
  have hmem := List.mem_map_of_mem (f := predicateCondition)
    (List.mem_map_of_mem (f := Prod.snd) hentry)
  obtain ⟨e, he⟩ := exists_conjunction (List.ne_nil_of_mem hmem)
  have hcondition : dimensionsCondition rules dims
      (r.choosing dim.key s (keysFrom dims (i + 1))) [] = some e := he
  exact ⟨e, hcondition, by rwa [hcondition] at hselects⟩

end Choice

/-- A listed value can be chosen. With the dimension set to it and the later ones, the search and
the limits of the date cleared, the report has a condition that some row satisfies, even if
dimensions share a column. -/
theorem listed_value_selects (E : Engine) (rules : Rules) (d : Dialect) (l : Layout)
    (table : String) (r : Request) (rows : List Row) (hkeys : (l.dimensions.map (·.key)).Nodup)
    (hfields : ∀ dim ∈ l.dimensions, dim.key ∈ Request.selectionFields) {i : Nat}
    {dim : Dimension} (hdim : l.dimensions[i]? = some dim) {q : Select}
    (hq : (options rules l.dimensions table r)[i]? = some (dim.key, q)) {s : String}
    (hlists : Lists E rows q s) (htrim : Text.trim s = s) (hall : s ≠ Selection.allLabel)
    (hmarker : s ≠ Selection.allMarker) :
    ∃ w e,
      Where.build rules d l (r.choosing dim.key s (keysFrom l.dimensions (i + 1))) [] = .ok w ∧
        w.condition = some e ∧ ∃ row ∈ rows, Holds E row e := by
  obtain ⟨row, hrow, hselects, hcolumns⟩ := hlists
  rw [options_getElem? hkeys hdim, optionQuery_eq] at hq
  cases hq
  obtain ⟨hbefore, hpresence⟩ := holds_narrowedBy.1 hselects
  have hvalue : row dim.column = s := by simpa [evalEach, eval_column] using hcolumns
  have hne : s ≠ "" := hvalue ▸ ne_empty_of_holds_presence hpresence
  obtain ⟨m, hm, hs⟩ := exists_compile_text rules dim.column htrim hne hall hmarker
  obtain ⟨e, he, hholds⟩ :=
    selects_choosing (r := r) hkeys hfields hdim hm (hvalue ▸ hs) hbefore
  exact ⟨_, e, build_of_selections rules d l [] rfl rfl rfl, he, row, hrow, hholds⟩

/-- A stream that is listed for a campus, though no row meets the other choices of the request. -/
theorem listed_value_selects_stream :
    let E : Engine := ⟨fun a b => a == b, fun _ _ => none⟩
    let r : Request :=
      { campus := .text "North", test := .text "Algebra", search := .text "O'Hara" }
    let row : Row := fun column => if column = "CAMPUS_NAME" then "North" else "MPC"
    ∃ q, (options {} Dimension.builtin defaultTable r)[1]? = some ("stream", q) ∧
      Lists E [row] q "MPC" ∧
      ∃ w e,
        Where.build {} Builtin.mysql.dialect {}
          (r.choosing "stream" "MPC" ["test_type", "test", "top_all"]) [] = .ok w ∧
        w.condition = some e ∧ ∃ row' ∈ [row], Holds E row' e := by
  intro E r row
  let q := optionQuery {} Dimension.builtin defaultTable r 1 ⟨"stream", "Stream"⟩
  have hlists : Lists E [row] q "MPC" := ⟨row, List.mem_singleton_self row, rfl, rfl⟩
  have hlater : keysFrom Dimension.builtin 2 = ["test_type", "test", "top_all"] := rfl
  have hchosen := listed_value_selects E {} Builtin.mysql.dialect {} defaultTable r [row]
    (by decide) (by decide) (i := 1) rfl (q := q) rfl hlists (by decide) (by decide) (by decide)
  rw [hlater] at hchosen
  exact ⟨q, rfl, hlists, hchosen⟩

end ExamFilter.Report
