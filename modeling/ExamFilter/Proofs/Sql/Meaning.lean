import ExamFilter.Proofs.Calendar.Iso
import ExamFilter.Proofs.Sql.Pattern
import ExamFilter.Proofs.Sql.Token

/-!
# What conditions mean

The value that an expression has on a row of texts, with the logic of three truth values that SQL
has. An expression whose operands do not fit its operator has no value.
-/
namespace ExamFilter.Sql

/-- The value of an expression on a row. -/
inductive Datum where
  | null
  | text (s : String)
  | date (d : Calendar.Date)
  | truth (b : Bool)
  deriving DecidableEq

/-- What a database decides: which characters count as the same when a text is compared with a
pattern, and which date its date function reads from a text in a format, if any. -/
structure Engine where
  sameChar : Char → Char → Bool
  toDate : (format text : String) → Option Calendar.Date

/-- The texts of a row by their columns. -/
abbrev Row := String → String

/-- A truth value, or none when it is unknown. -/
abbrev Truth := Option Bool

namespace Datum

def ofTruth : Truth → Datum
  | some b => .truth b
  | none => .null

def ofDate : Option Calendar.Date → Datum
  | some d => .date d
  | none => .null

def truth? : Datum → Option Truth
  | .truth b => some (some b)
  | .null => some none
  | _ => none

end Datum

namespace Truth

def and : Truth → Truth → Truth
  | some false, _ | _, some false => some false
  | some true, some true => some true
  | _, _ => none

def or : Truth → Truth → Truth
  | some true, _ | _, some true => some true
  | some false, some false => some false
  | _, _ => none

end Truth

instance (a b : Calendar.Date) : Decidable (a.before b) :=
  inferInstanceAs (Decidable (_ ∨ _))

/-- Nothing can be said of null; a text is not compared with a date. -/
def compareData (text : String → String → Bool) (date : Calendar.Date → Calendar.Date → Bool) :
    Datum → Datum → Option Truth
  | .text s, .text t => some (some (text s t))
  | .date a, .date b => some (some (date a b))
  | .null, .text _ | .null, .date _ | .null, .null | .text _, .null | .date _, .null => some none
  | _, _ => none

def sameData : Datum → Datum → Option Truth := compareData (· = ·) (· = ·)

def notAfter : Datum → Datum → Option Truth := compareData (· ≤ ·) fun a b => !decide (b.before a)

def joinData : Datum → Datum → Option Datum
  | .text s, .text t => some (.text (s ++ t))
  | .null, .text _ | .text _, .null | .null, .null => some .null
  | _, _ => none

/-- The value tested for membership is one of the listed values. -/
def memberOf (v : Datum) : List Datum → Option Truth
  | [] => some (some false)
  | w :: ws => do return (← sameData v w).or (← memberOf v ws)

/-- The value is not before the first and not after the last one. -/
def betweenData (v low high : Datum) : Option Datum := do
  return .ofTruth ((← notAfter low v).and (← notAfter v high))

def Engine.matchData (E : Engine) : Datum → Datum → Option Truth
  | .text s, .text pattern => some (some (matchesPattern E.sameChar pattern s))
  | .null, .text _ | .text _, .null | .null, .null => some none
  | _, _ => none

def Engine.binary (E : Engine) (op : String) (a b : Datum) : Option Datum :=
  match op with
  | "AND" => do return .ofTruth ((← a.truth?).and (← b.truth?))
  | "OR" => do return .ofTruth ((← a.truth?).or (← b.truth?))
  | "<>" => (sameData a b).map fun t => .ofTruth (t.map not)
  | ">=" => (notAfter b a).map .ofTruth
  | "<=" => (notAfter a b).map .ofTruth
  | "LIKE" | "ILIKE" => (E.matchData a b).map .ofTruth
  | "||" => joinData a b
  | _ => none

def Engine.call (E : Engine) (function : String) (args : List Datum) : Option Datum :=
  match function, args with
  | "CONCAT", args => args.foldlM joinData (.text "")
  | "STR_TO_DATE", [.text s, .text format] | "TO_DATE", [.text s, .text format] =>
    some (.ofDate (E.toDate format s))
  | _, _ => none

def castData (type : String) : Datum → Option Datum
  | .text s => if type = "DATE" then some (.ofDate (Calendar.Date.ofIso? s)) else none
  | _ => none

mutual

def eval (E : Engine) (row : Row) : Expr → Option Datum
  | .literal .null => some .null
  | .literal (.text s) => some (.text s)
  | .column name => some (.text (row name))
  | .call function args => do E.call function (← evalEach E row args)
  | .binary left op right => do E.binary op (← eval E row left) (← eval E row right)
  | .isNull e => do return .truth ((← eval E row e) = .null)
  | .isNotNull e => do return .truth ((← eval E row e) ≠ .null)
  | .oneOf e values => do (memberOf (← eval E row e) (← evalEach E row values)).map .ofTruth
  | .cast e type => do castData type (← eval E row e)
  | .raw sql => if sql = "(1 = 0)" then some (.truth false) else none
  | .between e low high => do
    betweenData (← eval E row e) (← eval E row low) (← eval E row high)
  | _ => none

def evalEach (E : Engine) (row : Row) : List Expr → Option (List Datum)
  | [] => some []
  | e :: es => do return (← eval E row e) :: (← evalEach E row es)

end

/-- The row satisfies the condition: it is true, and neither false nor unknown. -/
def Holds (E : Engine) (row : Row) (e : Expr) : Prop := eval E row e = some (.truth true)

/-- Without a condition every row is selected. -/
def Selects (E : Engine) (row : Row) : Option Expr → Prop
  | none => True
  | some e => Holds E row e

namespace Datum

@[simp] theorem truth?_ofTruth (t : Truth) : (ofTruth t).truth? = some t := by
  cases t <;> rfl

theorem truth?_eq_some_iff {v : Datum} {t : Truth} : v.truth? = some t ↔ v = ofTruth t := by
  constructor
  · intro h
    cases v with
    | truth b =>
      cases h
      rfl
    | null =>
      cases h
      rfl
    | text s => cases h
    | date d => cases h
  · rintro rfl
    exact truth?_ofTruth t

theorem ofTruth_eq_truth_iff {t : Truth} {b : Bool} : ofTruth t = .truth b ↔ t = some b := by
  cases t <;> simp [ofTruth]

end Datum

namespace Truth

theorem and_eq_true_iff {a b : Truth} : a.and b = some true ↔ a = some true ∧ b = some true := by
  cases a with
  | none => cases b with
    | none => simp [and]
    | some b => cases b <;> simp [and]
  | some a => cases a <;> cases b with
    | none => simp [and]
    | some b => cases b <;> simp [and]

theorem or_eq_true_iff {a b : Truth} : a.or b = some true ↔ a = some true ∨ b = some true := by
  cases a with
  | none => cases b with
    | none => simp [or]
    | some b => cases b <;> simp [or]
  | some a => cases a <;> cases b with
    | none => simp [or]
    | some b => cases b <;> simp [or]

@[simp] theorem or_some (a b : Bool) : Truth.or (some a) (some b) = some (a || b) := by
  cases a <;> cases b <;> rfl

end Truth

variable {E : Engine} {row : Row}

@[simp] theorem eval_column (name : String) :
    eval E row (.column name) = some (.text (row name)) := rfl

@[simp] theorem eval_string (s : String) : eval E row (.string s) = some (.text s) := rfl

@[simp] theorem eval_matchNothing : eval E row .matchNothing = some (.truth false) := rfl

@[simp] theorem evalEach_nil : evalEach E row [] = some [] := rfl

theorem evalEach_cons {e : Expr} {es : List Expr} {v : Datum} {vs : List Datum}
    (he : eval E row e = some v) (hes : evalEach E row es = some vs) :
    evalEach E row (e :: es) = some (v :: vs) := by
  change ((eval E row e).bind fun v => (evalEach E row es).bind fun vs => some (v :: vs)) = _
  rw [he, hes]
  rfl

theorem eval_call {args : List Expr} {vs : List Datum} (h : evalEach E row args = some vs)
    (function : String) : eval E row (.call function args) = E.call function vs := by
  change (evalEach E row args).bind (E.call function) = _
  rw [h]
  rfl

theorem eval_oneOf {e : Expr} {values : List Expr} {v : Datum} {vs : List Datum}
    (he : eval E row e = some v) (hvalues : evalEach E row values = some vs) :
    eval E row (.oneOf e values) = (memberOf v vs).map .ofTruth := by
  change ((eval E row e).bind fun v => (evalEach E row values).bind fun vs =>
    (memberOf v vs).map Datum.ofTruth) = _
  rw [he, hvalues]
  rfl

theorem eval_between {e low high : Expr} {v l h : Datum} (he : eval E row e = some v)
    (hl : eval E row low = some l) (hh : eval E row high = some h) :
    eval E row (.between e low high) = betweenData v l h := by
  change ((eval E row e).bind fun v => (eval E row low).bind fun l =>
    (eval E row high).bind fun h => betweenData v l h) = _
  rw [he, hl, hh]
  rfl

theorem eval_cast {e : Expr} {v : Datum} (h : eval E row e = some v) (type : String) :
    eval E row (.cast e type) = castData type v := by
  change (eval E row e).bind (castData type) = _
  rw [h]
  rfl

theorem eval_binary {left right : Expr} {v w : Datum} (hl : eval E row left = some v)
    (hr : eval E row right = some w) (op : String) :
    eval E row (.binary left op right) = E.binary op v w := by
  change ((eval E row left).bind fun v => (eval E row right).bind fun w => E.binary op v w) = _
  rw [hl, hr]
  rfl

theorem Engine.binary_and (s t : Truth) :
    E.binary "AND" (.ofTruth s) (.ofTruth t) = some (.ofTruth (s.and t)) := by
  cases s <;> cases t <;> rfl

theorem Engine.binary_or (s t : Truth) :
    E.binary "OR" (.ofTruth s) (.ofTruth t) = some (.ofTruth (s.or t)) := by
  cases s <;> cases t <;> rfl

theorem eval_and {a b : Expr} {s t : Truth} (ha : eval E row a = some (.ofTruth s))
    (hb : eval E row b = some (.ofTruth t)) :
    eval E row (.binary a "AND" b) = some (.ofTruth (s.and t)) := by
  rw [eval_binary ha hb, Engine.binary_and]

theorem eval_or {a b : Expr} {s t : Truth} (ha : eval E row a = some (.ofTruth s))
    (hb : eval E row b = some (.ofTruth t)) :
    eval E row (.binary a "OR" b) = some (.ofTruth (s.or t)) := by
  rw [eval_binary ha hb, Engine.binary_or]

/-- A conjunction is true if both parts are, and it has no value if one of them has none. -/
theorem holds_and {a b : Expr} :
    Holds E row (.binary a "AND" b) ↔ Holds E row a ∧ Holds E row b := by
  unfold Holds
  constructor
  · intro h
    obtain ⟨v, hv, h⟩ := Option.bind_eq_some_iff.1 h
    obtain ⟨w, hw, h⟩ := Option.bind_eq_some_iff.1 h
    obtain ⟨s, hs, h⟩ := Option.bind_eq_some_iff.1 h
    obtain ⟨t, ht, h⟩ := Option.bind_eq_some_iff.1 h
    have htrue : s.and t = some true := Datum.ofTruth_eq_truth_iff.1 (Option.some.inj h)
    obtain ⟨rfl, rfl⟩ := Truth.and_eq_true_iff.1 htrue
    rw [hv, hw, Datum.truth?_eq_some_iff.1 hs, Datum.truth?_eq_some_iff.1 ht]
    exact ⟨rfl, rfl⟩
  · rintro ⟨ha, hb⟩
    exact eval_and (s := some true) (t := some true) ha hb

/-- A disjunction is true if one part is, provided that both have truth values. -/
theorem holds_or {a b : Expr} {s t : Truth} (ha : eval E row a = some (.ofTruth s))
    (hb : eval E row b = some (.ofTruth t)) :
    Holds E row (.binary a "OR" b) ↔ Holds E row a ∨ Holds E row b := by
  rw [Holds, Holds, Holds, eval_or ha hb, ha, hb, Option.some_inj, Option.some_inj,
    Option.some_inj, Datum.ofTruth_eq_truth_iff, Datum.ofTruth_eq_truth_iff,
    Datum.ofTruth_eq_truth_iff]
  exact Truth.or_eq_true_iff

theorem selects_conjunction (es : List Expr) :
    Selects E row (Expr.conjunction es) ↔ ∀ e ∈ es, Holds E row e := by
  cases es with
  | nil => simp [Expr.conjunction, Expr.join, Selects]
  | cons e es =>
    change Holds E row (es.foldl (fun acc c => .binary acc "AND" c) e) ↔ _
    induction es generalizing e with
    | nil => simp
    | cons c es ih =>
      rw [List.foldl_cons, ih]
      simp [holds_and, and_assoc]

theorem forall_toList_holds_iff (condition : Option Expr) :
    (∀ e ∈ condition.toList, Holds E row e) ↔ Selects E row condition := by
  cases condition <;> simp [Selects]

theorem evalEach_strings (texts : List String) :
    evalEach E row (texts.map Expr.string) = some (texts.map .text) := by
  induction texts with
  | nil => rfl
  | cons t texts ih => exact evalEach_cons (eval_string t) ih

theorem memberOf_texts (s : String) (texts : List String) :
    memberOf (.text s) (texts.map .text) = some (some (decide (s ∈ texts))) := by
  induction texts with
  | nil => rfl
  | cons t texts ih =>
    rw [List.map_cons, memberOf, ih]
    simp [sameData, compareData]

/-- A column is tested for membership in listed texts. -/
theorem eval_membership (column : String) (texts : List String) :
    eval E row (.oneOf (.column column) (texts.map Expr.string)) =
      some (.truth (decide (row column ∈ texts))) := by
  rw [eval_oneOf (eval_column column) (evalEach_strings texts), memberOf_texts]
  rfl

theorem eval_dateValue (d : Calendar.Date) :
    eval E row (Dialect.dateValue d.iso) = some (.date d) := by
  rw [Dialect.dateValue, eval_cast (eval_string d.iso), castData, if_pos rfl,
    Calendar.Date.ofIso?_iso]
  rfl

/-- The format in which the stored dates are read. -/
def Builtin.dateFormat : Builtin → String
  | mysql => "%d-%m-%Y"
  | postgres => "DD-MM-YYYY"

theorem eval_readDate (b : Builtin) (column : String) :
    eval E row (b.dialect.readDate (.column column)) =
      some (.ofDate (E.toDate b.dateFormat (row column))) := by
  have hargs : ∀ format, evalEach E row [.column column, .string format] =
      some [.text (row column), .text format] := fun format =>
    evalEach_cons (eval_column column) (evalEach_cons (eval_string format) evalEach_nil)
  cases b with
  | mysql => exact eval_call (hargs "%d-%m-%Y") "STR_TO_DATE"
  | postgres => exact eval_call (hargs "DD-MM-YYYY") "TO_DATE"

/-- The operator that matches a text with a pattern. -/
def Builtin.like : Builtin → String
  | mysql => "LIKE"
  | postgres => "ILIKE"

/-- A pattern between two wildcards, joined as the database joins texts. -/
def Builtin.anywhere : Builtin → Expr → Expr
  | mysql, pattern => .call "CONCAT" [anyRun, pattern, anyRun]
  | postgres, pattern => joinedPattern pattern

theorem Builtin.contains_eq (b : Builtin) (column pattern : Expr) :
    b.dialect.contains column pattern = .binary column b.like (b.anywhere pattern) := by
  cases b <;> rfl

theorem eval_anywhere (b : Builtin) (pattern : String) :
    eval E row (b.anywhere (.string pattern)) = some (.text ("%" ++ pattern ++ "%")) := by
  have hrun : eval E row anyRun = some (.text "%") := eval_string "%"
  have hpattern : eval E row (.string pattern) = some (.text pattern) := eval_string pattern
  cases b with
  | mysql =>
    have hargs := evalEach_cons hrun (evalEach_cons hpattern (evalEach_cons hrun evalEach_nil))
    have hjoined : eval E row (.call "CONCAT" [anyRun, .string pattern, anyRun]) =
        some (.text ("" ++ "%" ++ pattern ++ "%")) := eval_call hargs "CONCAT"
    rwa [String.empty_append] at hjoined
  | postgres => exact eval_binary (eval_binary hrun hpattern "||") hrun "||"

/-- The test whether a column contains a text matches it with the pattern between two wildcards. -/
theorem eval_contains (b : Builtin) (column pattern : String) :
    eval E row (b.dialect.contains (.column column) (.string pattern)) =
      some (.truth (matchesPattern E.sameChar ("%" ++ pattern ++ "%") (row column))) := by
  rw [b.contains_eq, eval_binary (eval_column column) (eval_anywhere b pattern)]
  cases b <;> rfl

section Limits
variable {e : Expr} {stored : Option Calendar.Date}

/-- A date that cannot be read is neither before nor after a limit. -/
theorem eval_atLeast (he : eval E row e = some (.ofDate stored)) (day : Calendar.Date) :
    eval E row (.binary e ">=" (Dialect.dateValue day.iso)) =
      some (.ofTruth (stored.map fun s => !decide (s.before day))) := by
  rw [eval_binary he (eval_dateValue day)]
  cases stored <;> rfl

theorem eval_atMost (he : eval E row e = some (.ofDate stored)) (day : Calendar.Date) :
    eval E row (.binary e "<=" (Dialect.dateValue day.iso)) =
      some (.ofTruth (stored.map fun s => !decide (day.before s))) := by
  rw [eval_binary he (eval_dateValue day)]
  cases stored <;> rfl

theorem eval_within (he : eval E row e = some (.ofDate stored)) (first last : Calendar.Date) :
    eval E row (.between e (Dialect.dateValue first.iso) (Dialect.dateValue last.iso)) =
      some (.ofTruth (Truth.and (stored.map fun s => !decide (s.before first))
        (stored.map fun s => !decide (last.before s)))) := by
  rw [eval_between he (eval_dateValue first) (eval_dateValue last)]
  cases stored <;> rfl

end Limits

end ExamFilter.Sql
