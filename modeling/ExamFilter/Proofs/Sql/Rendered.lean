import ExamFilter.Sql.Query

/-!
# Rendered expressions

Rendering either stops at the first part that is no expression or a literal that is not printed, or
it succeeds. What it then gives is said here without reference to how it proceeds.
-/
namespace ExamFilter.Sql

/-- The fault of a literal that is written into the text. -/
def literalFault? (v : Value) : Option RenderError :=
  if v.isPrintable then none else some (.literal .tooManyDigits)

theorem literalFault?_eq_none_iff {v : Value} :
    literalFault? v = none ↔ v.isPrintable = true := by
  simp [literalFault?]

namespace Expr

mutual

/-- The fault of the first part that is no expression or is not printed, in the order of rendering
without placeholders. -/
def fault? : Expr → Option RenderError
  | .literal v => literalFault? v
  | .column _ | .raw _ => none
  | .call _ args => faults? args
  | .binary left _ right => (fault? left).or (fault? right)
  | .isNull e | .isNotNull e | .cast e _ => fault? e
  | .oneOf e values => (faults? values).or (fault? e)
  | .between e low high => (fault? e).or ((fault? low).or (fault? high))
  | .stray v => some (.notAnExpression v.kindName)
  | .strayTable _ => some (.notAnExpression "From")

def faults? : List Expr → Option RenderError
  | [] => none
  | e :: es => (fault? e).or (faults? es)

end

end Expr

namespace Dialect
variable (d : Dialect)

/-- A literal as it is written into the text, however long it is. -/
def literalText : Value → String
  | .null => "NULL"
  | .text s => "'" ++ d.escapeString s ++ "'"
  | v => v.asText

mutual

/-- The text of an expression with its literals written into it. -/
def text : Expr → String
  | .literal v => d.literalText v
  | .column name => d.quoteName name
  | .call function args => function ++ "(" ++ listed (texts args) ++ ")"
  | .binary left op right => "(" ++ text left ++ " " ++ op ++ " " ++ text right ++ ")"
  | .isNull e => "(" ++ text e ++ " IS NULL)"
  | .isNotNull e => "(" ++ text e ++ " IS NOT NULL)"
  | .oneOf e values => "(" ++ text e ++ " IN (" ++ listed (texts values) ++ "))"
  | .cast e type => "CAST(" ++ text e ++ " AS " ++ type ++ ")"
  | .raw sql => sql
  | .between e low high =>
    "(" ++ text e ++ " BETWEEN " ++ text low ++ " AND " ++ text high ++ ")"
  | .stray _ | .strayTable _ => ""

def texts : List Expr → List String
  | [] => []
  | e :: es => text e :: texts es

end

theorem texts_eq_map (es : List Expr) : d.texts es = es.map d.text := by
  induction es with
  | nil => rfl
  | cons e es ih => rw [texts, ih, List.map_cons]

/-- Either the first fault or the value. -/
def settled {α : Type} (fault : Option RenderError) (value : α) : Except RenderError α :=
  match fault with
  | some f => .error f
  | none => .ok value

theorem settled_map {α β : Type} {f : Option RenderError} {a : α} {c : β}
    {k : α → Except RenderError β} (hk : k a = .ok c) : (settled f a >>= k) = settled f c := by
  cases f with
  | none => exact hk
  | some f => rfl

theorem settled_bind {α β : Type} {f g : Option RenderError} {a : α} {c : β}
    {k : α → Except RenderError β} (hk : k a = settled g c) :
    (settled f a >>= k) = settled (f.or g) c := by
  cases f with
  | none => exact hk
  | some f => rfl

theorem inlineLiteral_eq (v : Value) :
    d.inlineLiteral v = settled (literalFault? v) (d.literalText v) := by
  have hprint : v.print.mapError RenderError.literal = settled (literalFault? v) v.asText := by
    rw [Value.print, Value.printedIf, literalFault?]
    split <;> rfl
  cases v with
  | null | text s => rfl
  | _ => exact hprint

theorem settled_eq_ok_iff {α : Type} {fault : Option RenderError} {a b : α} :
    settled fault a = .ok b ↔ fault = none ∧ a = b := by
  cases fault <;> simp [settled]

mutual

theorem renderExpr_inline (e : Expr) (bs : Bindings) :
    d.renderExpr .inline e bs = settled e.fault? (d.text e, bs) := by
  cases e with
  | literal v =>
    rw [renderExpr, renderLiteral, inlineLiteral_eq]
    exact settled_map rfl
  | column | raw | stray | strayTable => rfl
  | call function args =>
    rw [renderExpr, renderAll_inline args bs]
    exact settled_map rfl
  | binary left op right =>
    rw [renderExpr, renderExpr_inline left bs]
    refine settled_bind ?_
    dsimp only
    rw [renderExpr_inline right bs]
    exact settled_map rfl
  | isNull e | isNotNull e | cast e type =>
    rw [renderExpr, renderExpr_inline e bs]
    exact settled_map rfl
  | oneOf e values =>
    rw [renderExpr, renderAll_inline values bs]
    refine settled_bind ?_
    dsimp only
    rw [renderExpr_inline e bs]
    exact settled_map rfl
  | between e low high =>
    rw [renderExpr, renderExpr_inline e bs]
    refine settled_bind ?_
    dsimp only
    rw [renderExpr_inline low bs]
    refine settled_bind ?_
    dsimp only
    rw [renderExpr_inline high bs]
    exact settled_map rfl

theorem renderAll_inline (es : List Expr) (bs : Bindings) :
    d.renderAll .inline es bs = settled (Expr.faults? es) (d.texts es, bs) := by
  cases es with
  | nil => rfl
  | cons e es =>
    rw [renderAll, renderExpr_inline e bs]
    refine settled_bind ?_
    dsimp only
    rw [renderAll_inline es bs]
    exact settled_map rfl

end

end Dialect

/-- The condition of a query unless it counts as not given. -/
def Select.givenCondition (q : Select) : Option Expr := q.condition.filter (·.isGiven)

def Select.fault? (q : Select) : Option RenderError :=
  (Expr.faults? q.columns).or <|
    (q.givenCondition.bind Expr.fault?).or (Expr.faults? q.order)

namespace Dialect
variable (d : Dialect)

def columnsText (q : Select) : String :=
  let keyword := if q.distinct then "SELECT DISTINCT" else "SELECT"
  if q.columns.isEmpty then keyword ++ " *" else keyword ++ " " ++ listed (d.texts q.columns)

def conditionText (q : Select) : List String :=
  q.givenCondition.toList.map fun e => "WHERE " ++ d.text e

def orderText (q : Select) : List String :=
  if q.order.isEmpty then [] else ["ORDER BY " ++ listed ((d.texts q.order).map (· ++ " ASC"))]

/-- The text of a query with its literals written into it. -/
def selectText (q : Select) : String :=
  let table := q.table.toList.map fun name => "FROM " ++ d.quoteName name
  "\n".intercalate (d.columnsText q :: (table ++ d.conditionText q ++ d.orderText q))

variable {d} {mode : Literals} {q q' : Select} {bs bs' : Bindings}

theorem columnsClause_eq (hdistinct : q'.distinct = q.distinct)
    (hempty : q'.columns = [] ↔ q.columns = [])
    (h : d.renderAll mode q.columns bs =
      settled (Expr.faults? q'.columns) (d.texts q'.columns, bs')) :
    d.columnsClause mode q bs = settled (Expr.faults? q'.columns) (d.columnsText q', bs') := by
  unfold columnsClause columnsText
  by_cases hc : q.columns = []
  · obtain rfl : bs = bs' := by
      simpa [hc, hempty.2 hc, renderAll, texts, Expr.faults?, settled] using h
    simp [hc, hempty.2 hc, hdistinct, Expr.faults?, settled]
  · have hc' : ¬q'.columns = [] := fun he => hc (hempty.1 he)
    simp only [List.isEmpty_iff, hc, hc', if_false, hdistinct]
    rw [h]
    exact settled_map rfl

theorem conditionClause_eq {f : Expr → Expr}
    (hgiven : q'.givenCondition = q.givenCondition.map f)
    (hnone : q.givenCondition = none → bs' = bs)
    (h : ∀ e, q.givenCondition = some e →
      d.renderExpr mode e bs = settled (f e).fault? (d.text (f e), bs')) :
    d.conditionClause mode q bs =
      settled (q'.givenCondition.bind Expr.fault?) (d.conditionText q', bs') := by
  have hfilter : q.condition.filter (·.isGiven) = q.givenCondition := rfl
  unfold conditionClause conditionText
  rw [hgiven, hfilter]
  cases hc : q.givenCondition with
  | none =>
    rw [hnone hc]
    rfl
  | some e =>
    dsimp only
    rw [h e hc]
    exact settled_map rfl

theorem orderClause_eq (hempty : q'.order = [] ↔ q.order = [])
    (h : d.renderAll mode q.order bs =
      settled (Expr.faults? q'.order) (d.texts q'.order, bs')) :
    d.orderClause mode q bs = settled (Expr.faults? q'.order) (d.orderText q', bs') := by
  unfold orderClause orderText
  by_cases ho : q.order = []
  · obtain rfl : bs = bs' := by
      simpa [ho, hempty.2 ho, renderAll, texts, Expr.faults?, settled] using h
    simp [ho, hempty.2 ho, Expr.faults?, settled]
  · have ho' : ¬q'.order = [] := fun he => ho (hempty.1 he)
    simp only [List.isEmpty_iff, ho, ho', if_false]
    rw [h]
    exact settled_map rfl

/-- A query is rendered clause by clause, the bindings being handed on. It may come out as another
query would without placeholders. -/
theorem renderSelect_eq {bs₀ bs₁ bs₂ bs₃ : Bindings} (htable : q'.table = q.table)
    (hcolumns : d.columnsClause mode q bs₀ =
      settled (Expr.faults? q'.columns) (d.columnsText q', bs₁))
    (hcondition : d.conditionClause mode q bs₁ =
      settled (q'.givenCondition.bind Expr.fault?) (d.conditionText q', bs₂))
    (horder : d.orderClause mode q bs₂ =
      settled (Expr.faults? q'.order) (d.orderText q', bs₃)) :
    d.renderSelect mode q bs₀ = settled q'.fault? (d.selectText q', bs₃) := by
  rw [renderSelect, hcolumns]
  refine settled_bind ?_
  dsimp only
  rw [hcondition]
  refine settled_bind ?_
  dsimp only
  rw [horder, selectText, htable]
  exact settled_map rfl

theorem renderSelect_inline (d : Dialect) (q : Select) (bs : Bindings) :
    d.renderSelect .inline q bs = settled q.fault? (d.selectText q, bs) :=
  renderSelect_eq rfl (columnsClause_eq rfl Iff.rfl (d.renderAll_inline _ _))
    (conditionClause_eq (f := id) (by simp) (fun _ => rfl) fun e _ => d.renderExpr_inline e bs)
    (orderClause_eq Iff.rfl (d.renderAll_inline _ _))

theorem literalSql_eq (d : Dialect) (e : Expr) : d.literalSql e = settled e.fault? (d.text e) := by
  rw [literalSql, renderExpr_inline]
  exact settled_map rfl

theorem literalQuery_eq (d : Dialect) (q : Select) :
    d.literalQuery q = settled q.fault? (d.selectText q) := by
  rw [literalQuery, renderSelect_inline]
  exact settled_map rfl

theorem exists_literalSql_iff (d : Dialect) (e : Expr) :
    (∃ sql, d.literalSql e = .ok sql) ↔ e.fault? = none := by
  simp only [literalSql_eq, settled_eq_ok_iff, exists_and_left, exists_eq', and_true]

theorem exists_literalQuery_iff (d : Dialect) (q : Select) :
    (∃ sql, d.literalQuery q = .ok sql) ↔ q.fault? = none := by
  simp only [literalQuery_eq, settled_eq_ok_iff, exists_and_left, exists_eq', and_true]

end Dialect

end ExamFilter.Sql
