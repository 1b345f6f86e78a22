import ExamFilter.Proofs.Sql.Rendered
import Mathlib.Data.List.Nodup

/-!
# Bound literals

Rendering with placeholders is rendering of another tree: the one in which the literals other than
null are replaced by numbered placeholders. The values of the literals are recorded in the order
of the numbers. They need not be printed, so that this may succeed where the literals cannot be
written into the text.
-/
namespace ExamFilter.Sql

namespace Expr

mutual

/-- The values of the literals other than null in the order of rendering: from left to right,
except that the listed values of a membership test come before the tested expression. -/
def boundValues : Expr → List Value
  | .literal .null => []
  | .literal v => [v]
  | .column _ | .raw _ | .stray _ | .strayTable _ => []
  | .call _ args => boundValuesAll args
  | .binary left _ right => boundValues left ++ boundValues right
  | .isNull e | .isNotNull e | .cast e _ => boundValues e
  | .oneOf e values => boundValuesAll values ++ boundValues e
  | .between e low high => boundValues e ++ (boundValues low ++ boundValues high)

def boundValuesAll : List Expr → List Value
  | [] => []
  | e :: es => boundValues e ++ boundValuesAll es

end

mutual

/-- The tree with its literals other than null replaced by placeholders, which are numbered from
`k` on in the order of rendering. -/
def numbered : Nat → Expr → Expr
  | _, .literal .null => .literal .null
  | k, .literal _ => .raw (placeholder (placeholderName k))
  | _, .column name => .column name
  | k, .call function args => .call function (numberedAll k args)
  | k, .binary left op right =>
    .binary (numbered k left) op (numbered (k + (boundValues left).length) right)
  | k, .isNull e => .isNull (numbered k e)
  | k, .isNotNull e => .isNotNull (numbered k e)
  | k, .oneOf e values =>
    .oneOf (numbered (k + (boundValuesAll values).length) e) (numberedAll k values)
  | k, .cast e type => .cast (numbered k e) type
  | _, .raw sql => .raw sql
  | k, .between e low high =>
    let l := k + (boundValues e).length
    .between (numbered k e) (numbered l low) (numbered (l + (boundValues low).length) high)
  | _, .stray v => .stray v
  | _, .strayTable name => .strayTable name

def numberedAll : Nat → List Expr → List Expr
  | _, [] => []
  | k, e :: es => numbered k e :: numberedAll (k + (boundValues e).length) es

end

theorem boundValues_literal {v : Value} (h : v ≠ .null) : (literal v).boundValues = [v] := by
  rw [boundValues]
  exact h

theorem boundValues_string (s : String) : (Expr.string s).boundValues = [.text s] :=
  boundValues_literal (by simp)

theorem numbered_literal {v : Value} (h : v ≠ .null) (k : Nat) :
    (literal v).numbered k = .raw (placeholder (placeholderName k)) := by
  rw [numbered]
  exact h

mutual

/-- With the literals written into it a tree can be rendered if, and only if, it can be with
placeholders and all its literals are printed. -/
theorem fault?_eq_none_iff (k : Nat) (e : Expr) :
    e.fault? = none ↔
      (e.numbered k).fault? = none ∧ ∀ v ∈ e.boundValues, v.isPrintable = true := by
  cases e with
  | literal v =>
    by_cases hv : v = .null
    · subst hv
      simp [numbered, boundValues, fault?, literalFault?, Value.isPrintable]
    · rw [numbered_literal hv, boundValues_literal hv, fault?, literalFault?_eq_none_iff]
      simp [fault?]
  | column | raw | stray | strayTable => simp [numbered, boundValues]
  | call function args => rw [numbered, boundValues, fault?, fault?, faults?_eq_none_iff k args]
  | binary left op right =>
    rw [numbered, boundValues, fault?, fault?, Option.or_eq_none_iff, Option.or_eq_none_iff,
      List.forall_mem_append, fault?_eq_none_iff k left, fault?_eq_none_iff _ right,
      and_and_and_comm]
  | isNull e | isNotNull e | cast e type =>
    rw [numbered, boundValues, fault?, fault?, fault?_eq_none_iff k e]
  | oneOf e values =>
    rw [numbered, boundValues, fault?, fault?, Option.or_eq_none_iff, Option.or_eq_none_iff,
      List.forall_mem_append, faults?_eq_none_iff k values, fault?_eq_none_iff _ e,
      and_and_and_comm]
  | between e low high =>
    have he := fault?_eq_none_iff k e
    have hlow := fault?_eq_none_iff (k + e.boundValues.length) low
    have hhigh := fault?_eq_none_iff (k + e.boundValues.length + low.boundValues.length) high
    simp only [numbered, boundValues, fault?, Option.or_eq_none_iff, List.forall_mem_append, he,
      hlow, hhigh]
    tauto

theorem faults?_eq_none_iff (k : Nat) (es : List Expr) :
    faults? es = none ↔
      faults? (numberedAll k es) = none ∧ ∀ v ∈ boundValuesAll es, v.isPrintable = true := by
  cases es with
  | nil => simp [numberedAll, boundValuesAll, faults?]
  | cons e es =>
    rw [numberedAll, boundValuesAll, faults?, faults?, Option.or_eq_none_iff,
      Option.or_eq_none_iff, List.forall_mem_append, fault?_eq_none_iff k e,
      faults?_eq_none_iff _ es, and_and_and_comm]

end

theorem boundValuesAll_eq_flatMap (es : List Expr) :
    boundValuesAll es = es.flatMap boundValues := by
  induction es with
  | nil => rfl
  | cons e es ih => rw [boundValuesAll, ih, List.flatMap_cons]

mutual

/-- No literal other than null is left in a numbered tree. -/
theorem boundValues_numbered (k : Nat) (e : Expr) : (e.numbered k).boundValues = [] := by
  cases e with
  | literal v =>
    by_cases hv : v = .null
    · subst hv
      rw [numbered, boundValues]
    · rw [numbered_literal hv, boundValues]
  | column | raw | stray | strayTable => rw [numbered, boundValues]
  | call function args => rw [numbered, boundValues, boundValuesAll_numberedAll k args]
  | binary left op right =>
    rw [numbered, boundValues, boundValues_numbered k left, boundValues_numbered _ right,
      List.append_nil]
  | isNull e | isNotNull e | cast e type => rw [numbered, boundValues, boundValues_numbered k e]
  | oneOf e values =>
    rw [numbered, boundValues, boundValuesAll_numberedAll k values, boundValues_numbered _ e,
      List.append_nil]
  | between e low high =>
    simp only [numbered, boundValues, boundValues_numbered _ e, boundValues_numbered _ low,
      boundValues_numbered _ high, List.append_nil]

theorem boundValuesAll_numberedAll (k : Nat) (es : List Expr) :
    boundValuesAll (numberedAll k es) = [] := by
  cases es with
  | nil => rw [numberedAll, boundValuesAll]
  | cons e es =>
    rw [numberedAll, boundValuesAll, boundValues_numbered k e, boundValuesAll_numberedAll _ es,
      List.append_nil]

end

theorem numberedAll_eq_nil_iff {k : Nat} {es : List Expr} : numberedAll k es = [] ↔ es = [] := by
  cases es <;> simp [numberedAll]

theorem isGiven_numbered (k : Nat) (e : Expr) : (e.numbered k).isGiven = e.isGiven := by
  cases e with
  | literal v =>
    by_cases hv : v = .null
    · subst hv
      rw [numbered]
    · rw [numbered_literal hv]
      rfl
  | _ => simp [numbered, isGiven]

/-- What counts as not given is no literal and holds none. -/
theorem boundValues_of_not_isGiven {e : Expr} (h : e.isGiven = false) : e.boundValues = [] := by
  cases e with
  | stray v => rw [boundValues]
  | _ => cases h

end Expr

namespace Select

/-- The values of all literals of a query other than null: those of the columns, of the condition
and of the order. -/
def boundValues (q : Select) : List Value :=
  Expr.boundValuesAll q.columns
    ++ ((q.condition.map Expr.boundValues).getD [] ++ Expr.boundValuesAll q.order)

/-- The query with its literals other than null replaced by placeholders, numbered through all
clauses. -/
def numbered (q : Select) : Select :=
  let k := (Expr.boundValuesAll q.columns).length
  { q with
    columns := Expr.numberedAll 0 q.columns
    condition := q.condition.map (Expr.numbered k)
    order := Expr.numberedAll (k + ((q.condition.map Expr.boundValues).getD []).length) q.order }

theorem givenCondition_numbered (q : Select) :
    q.numbered.givenCondition =
      q.givenCondition.map (Expr.numbered (Expr.boundValuesAll q.columns).length) := by
  unfold givenCondition numbered
  cases q.condition with
  | none => rfl
  | some e => cases h : e.isGiven <;> simp [Option.filter, h, Expr.isGiven_numbered]

theorem conditionValues_of_none {q : Select} (h : q.givenCondition = none) :
    (q.condition.map Expr.boundValues).getD [] = [] := by
  cases hc : q.condition with
  | none => rfl
  | some e =>
    have hgiven : e.isGiven = false := by simpa [givenCondition, Option.filter, hc] using h
    simp [Expr.boundValues_of_not_isGiven hgiven]

theorem fault?_eq_none_iff (q : Select) :
    q.fault? = none ↔
      q.numbered.fault? = none ∧ ∀ v ∈ q.boundValues, v.isPrintable = true := by
  have hcondition : q.givenCondition.bind Expr.fault? = none ↔
      q.numbered.givenCondition.bind Expr.fault? = none ∧
        ∀ v ∈ (q.condition.map Expr.boundValues).getD [], v.isPrintable = true := by
    rw [givenCondition_numbered]
    cases hgiven : q.givenCondition with
    | none => simp [conditionValues_of_none hgiven]
    | some e =>
      have hc : q.condition = some e := (Option.filter_eq_some_iff.1 hgiven).1
      rw [hc]
      exact Expr.fault?_eq_none_iff _ e
  have hcolumns := Expr.faults?_eq_none_iff 0 q.columns
  have horder : Expr.faults? q.order = none ↔ Expr.faults? q.numbered.order = none ∧ _ :=
    Expr.faults?_eq_none_iff _ q.order
  rw [fault?, fault?, boundValues]
  simp only [Option.or_eq_none_iff, List.forall_mem_append]
  rw [hcondition, hcolumns, horder]
  tauto

end Select

/-- The values under the names of the placeholders, numbered from zero. -/
def bindingsOf (vs : List Value) : Bindings :=
  vs.zipIdx.map fun (v, i) => (placeholderName i, v)

theorem bindingsOf_append_singleton (vs : List Value) (v : Value) :
    bindingsOf (vs ++ [v]) = bindingsOf vs ++ [(placeholderName vs.length, v)] := by
  simp [bindingsOf, List.zipIdx_append]

theorem length_bindingsOf (vs : List Value) : (bindingsOf vs).length = vs.length := by
  simp [bindingsOf]

theorem values_bindingsOf (vs : List Value) : Table.values (bindingsOf vs) = vs := by
  simp [bindingsOf, Table.values, Function.comp_def]

theorem keys_bindingsOf (vs : List Value) :
    Table.keys (bindingsOf vs) = (List.range vs.length).map placeholderName := by
  rw [List.range_eq_range', ← List.zipIdx_map_snd 0 vs]
  simp only [bindingsOf, Table.keys, List.map_map]
  rfl

theorem placeholderName_injective : Function.Injective placeholderName := by
  intro i j h
  rw [placeholderName, placeholderName, String.append_right_inj, Nat.toString_eq_repr,
    Nat.toString_eq_repr] at h
  have hread := congrArg (fun s => Nat.ofDigitChars 10 s.toList 0) h
  simpa only [Nat.toList_repr, Nat.ofDigitChars_ten_toDigits] using hread

theorem nodup_keys_bindingsOf (vs : List Value) : (Table.keys (bindingsOf vs)).Nodup := by
  rw [keys_bindingsOf]
  exact List.nodup_range.map placeholderName_injective

/-- The next placeholder is a new one, so that its value is put at the end. -/
theorem put_bindingsOf (vs : List Value) (v : Value) :
    Table.put (bindingsOf vs) (placeholderName vs.length) v = bindingsOf (vs ++ [v]) := by
  have hnew : placeholderName vs.length ∉ Table.keys (bindingsOf vs) := by
    rw [keys_bindingsOf, List.mem_map]
    rintro ⟨i, hi, he⟩
    rw [placeholderName_injective he, List.mem_range] at hi
    exact Nat.lt_irrefl _ hi
  rw [Table.put_of_notMem hnew, bindingsOf_append_singleton]

namespace Dialect
variable (d : Dialect)

theorem renderLiteral_bound {v : Value} (h : v ≠ .null) (bs : Bindings) :
    d.renderLiteral .bound v bs =
      .ok (placeholder (placeholderName bs.length),
        Table.put bs (placeholderName bs.length) v) := by
  cases v with
  | null => exact absurd rfl h
  | _ => rfl

mutual

/-- Rendering with placeholders gives the text of the numbered tree and appends its values to those
that were bound before. -/
theorem renderExpr_bound (e : Expr) (us : List Value) :
    d.renderExpr .bound e (bindingsOf us) =
      settled (e.numbered us.length).fault?
        (d.text (e.numbered us.length), bindingsOf (us ++ e.boundValues)) := by
  cases e with
  | literal v =>
    rw [renderExpr]
    by_cases hv : v = .null
    · subst hv
      simp [renderLiteral, Expr.fault?, literalFault?, Value.isPrintable, settled, text,
        literalText, Expr.boundValues, Expr.numbered]
    · rw [renderLiteral_bound d hv, length_bindingsOf, put_bindingsOf, Expr.numbered_literal hv,
        Expr.boundValues_literal hv]
      rfl
  | column | raw | stray | strayTable =>
    simp [renderExpr, Expr.fault?, settled, text, Expr.boundValues, Expr.numbered]
  | call function args =>
    rw [renderExpr, renderAll_bound args us]
    exact settled_map rfl
  | binary left op right =>
    rw [renderExpr, renderExpr_bound left us]
    refine settled_bind ?_
    dsimp only
    rw [renderExpr_bound right, List.length_append, List.append_assoc]
    exact settled_map rfl
  | isNull e | isNotNull e | cast e type =>
    rw [renderExpr, renderExpr_bound e us]
    exact settled_map rfl
  | oneOf e values =>
    rw [renderExpr, renderAll_bound values us]
    refine settled_bind ?_
    dsimp only
    rw [renderExpr_bound e, List.length_append, List.append_assoc]
    exact settled_map rfl
  | between e low high =>
    rw [renderExpr, renderExpr_bound e us]
    refine settled_bind ?_
    dsimp only
    rw [renderExpr_bound low, List.length_append]
    refine settled_bind ?_
    dsimp only
    rw [renderExpr_bound high, List.length_append, List.length_append, List.append_assoc,
      List.append_assoc]
    exact settled_map rfl

theorem renderAll_bound (es : List Expr) (us : List Value) :
    d.renderAll .bound es (bindingsOf us) =
      settled (Expr.faults? (Expr.numberedAll us.length es))
        (d.texts (Expr.numberedAll us.length es), bindingsOf (us ++ Expr.boundValuesAll es)) := by
  cases es with
  | nil => simp [renderAll, Expr.faults?, settled, texts, Expr.boundValuesAll, Expr.numberedAll]
  | cons e es =>
    rw [renderAll, renderExpr_bound e us]
    refine settled_bind ?_
    dsimp only
    rw [renderAll_bound es, List.length_append, List.append_assoc]
    exact settled_map rfl

end

theorem renderSelect_bound (q : Select) :
    d.renderSelect .bound q [] =
      settled q.numbered.fault? (d.selectText q.numbered, bindingsOf q.boundValues) := by
  let columns := Expr.boundValuesAll q.columns
  let condition := (q.condition.map Expr.boundValues).getD []
  have hcolumns : d.columnsClause .bound q (bindingsOf []) =
      settled (Expr.faults? q.numbered.columns) (d.columnsText q.numbered, bindingsOf columns) :=
    columnsClause_eq rfl Expr.numberedAll_eq_nil_iff (d.renderAll_bound q.columns [])
  have hcondition : d.conditionClause .bound q (bindingsOf columns) =
      settled (q.numbered.givenCondition.bind Expr.fault?)
        (d.conditionText q.numbered, bindingsOf (columns ++ condition)) := by
    refine conditionClause_eq q.givenCondition_numbered (fun hnone => ?_) fun e he => ?_
    · simp only [condition, Select.conditionValues_of_none hnone, List.append_nil]
    · have hc : q.condition = some e := (Option.filter_eq_some_iff.1 he).1
      simp only [condition, hc]
      exact d.renderExpr_bound e columns
  have horder : d.orderClause .bound q (bindingsOf (columns ++ condition)) =
      settled (Expr.faults? q.numbered.order)
        (d.orderText q.numbered, bindingsOf q.boundValues) := by
    have h := d.renderAll_bound q.order (columns ++ condition)
    rw [List.length_append, List.append_assoc] at h
    exact orderClause_eq Expr.numberedAll_eq_nil_iff h
  exact renderSelect_eq rfl hcolumns hcondition horder

/-- The text with placeholders is the text of the numbered tree. -/
theorem boundSql_eq (e : Expr) :
    d.boundSql e =
      (d.literalSql (e.numbered 0)).map fun sql => (sql, bindingsOf e.boundValues) := by
  have hbound : d.boundSql e = settled (e.numbered 0).fault? _ := d.renderExpr_bound e []
  rw [hbound, literalSql_eq, List.nil_append, List.length_nil]
  cases (e.numbered 0).fault? <;> rfl

theorem boundQuery_eq (q : Select) :
    d.boundQuery q =
      (d.literalQuery q.numbered).map fun sql => (sql, bindingsOf q.boundValues) := by
  rw [boundQuery, renderSelect_bound, literalQuery_eq]
  cases q.numbered.fault? <;> rfl

end Dialect

/-- What rendering with placeholders has to do with rendering without: the latter succeeds where the
former does and all values are printed, so that they succeed together unless a value is not printed.
With placeholders the text is that of the tree with placeholders, and the bindings hold the values
of the literals in order, under as many different names. -/
structure BoundAgrees (literal numbered : Except RenderError String) (values : List Value)
    (bound : Rendered) : Prop where
  succeeds_iff : (∃ sql, literal = .ok sql) ↔
    (∃ r, bound = .ok r) ∧ ∀ v ∈ values, v.isPrintable = true
  together_iff : ((∃ r, bound = .ok r) ↔ ∃ sql, literal = .ok sql) ↔
    ((∃ r, bound = .ok r) → ∀ v ∈ values, v.isPrintable = true)
  text_eq : ∀ sql bs, bound = .ok (sql, bs) → numbered = .ok sql
  keys_eq : ∀ sql bs, bound = .ok (sql, bs) →
    Table.keys bs = (List.range values.length).map placeholderName
  nodup_keys : ∀ sql bs, bound = .ok (sql, bs) → (Table.keys bs).Nodup
  values_eq : ∀ sql bs, bound = .ok (sql, bs) → Table.values bs = values

theorem boundAgrees_of_eq {literal numbered : Except RenderError String} {values : List Value}
    {bound : Rendered}
    (hsucceeds : (∃ sql, literal = .ok sql) ↔
      (∃ sql, numbered = .ok sql) ∧ ∀ v ∈ values, v.isPrintable = true)
    (hbound : bound = numbered.map fun sql => (sql, bindingsOf values)) :
    BoundAgrees literal numbered values bound := by
  have hparts : ∀ sql bs, bound = .ok (sql, bs) → numbered = .ok sql ∧ bs = bindingsOf values := by
    intro sql bs h
    rw [hbound] at h
    cases numbered with
    | error f => cases h
    | ok text =>
      cases h
      exact ⟨rfl, rfl⟩
  have hiff : (∃ sql, literal = .ok sql) ↔
      (∃ r, bound = .ok r) ∧ ∀ v ∈ values, v.isPrintable = true := by
    rw [hsucceeds, hbound]
    cases numbered <;> simp [Except.map]
  constructor
  · exact hiff
  · rw [hiff]
    exact iff_self_and
  · exact fun sql bs h => (hparts sql bs h).1
  · intro sql bs h
    rw [(hparts sql bs h).2, keys_bindingsOf]
  · intro sql bs h
    rw [(hparts sql bs h).2]
    exact nodup_keys_bindingsOf values
  · intro sql bs h
    rw [(hparts sql bs h).2, values_bindingsOf]

theorem boundSql_agrees (d : Dialect) (e : Expr) :
    BoundAgrees (d.literalSql e) (d.literalSql (e.numbered 0)) e.boundValues (d.boundSql e) := by
  refine boundAgrees_of_eq ?_ (d.boundSql_eq e)
  rw [d.exists_literalSql_iff, d.exists_literalSql_iff]
  exact Expr.fault?_eq_none_iff 0 e

theorem boundQuery_agrees (d : Dialect) (q : Select) :
    BoundAgrees (d.literalQuery q) (d.literalQuery q.numbered) q.boundValues (d.boundQuery q) := by
  refine boundAgrees_of_eq ?_ (d.boundQuery_eq q)
  rw [d.exists_literalQuery_iff, d.exists_literalQuery_iff]
  exact q.fault?_eq_none_iff

end ExamFilter.Sql
