import ExamFilter.Proofs.Sql.Filled
import ExamFilter.Proofs.Text.Doubled

/-!
# Text as a driver delivers it

A driver reads a text with placeholders once from left to right and writes a literal wherever it
finds a placeholder. A percent sign that is meant as one has to be doubled in such a text, and names
are rendered as they are. So the driver gives back the text with the literals in it if, and only if,
no name holds a percent sign.
-/
namespace ExamFilter.Sql

/-- Where a driver is in the text. -/
inductive Reading where
  | plain
  /-- Right after a percent sign. -/
  | percent
  /-- Inside the name of a placeholder; the last character comes first. -/
  | name (before : List Char)
  /-- Right after the name and its parentheses. -/
  | named (name : String)

/-- The text with the values in place of the placeholders, if every percent sign begins a
placeholder of a known name or is doubled. -/
def deliver (value : String → Option String) : Reading → List Char → Option (List Char)
  | .plain, [] => some []
  | .plain, c :: cs =>
    if c = '%' then deliver value .percent cs else (deliver value .plain cs).map (c :: ·)
  | .percent, c :: cs =>
    if c = '%' then (deliver value .plain cs).map ('%' :: ·)
    else if c = '(' then deliver value (.name []) cs
    else none
  | .name before, c :: cs =>
    if c = ')' then deliver value (.named (String.ofList before.reverse)) cs
    else deliver value (.name (c :: before)) cs
  | .named name, c :: cs =>
    if c = 's' then do return (← value name).toList ++ (← deliver value .plain cs) else none
  | .percent, [] | .name _, [] | .named _, [] => none

namespace Dialect

/-- The literal that a driver writes for a placeholder. -/
def literalFor (d : Dialect) (bs : Bindings) (name : String) : Option String :=
  (Table.get? bs name).map d.literalText

/-- What a driver makes of a text with placeholders and the values that are bound to them. -/
def delivered (d : Dialect) (bs : Bindings) (sql : String) : Option String :=
  (deliver (d.literalFor bs) .plain sql.toList).map String.ofList

end Dialect

section Reading
variable {value : String → Option String} {cs rest out : List Char}

theorem deliver_cons {c : Char} (hc : c ≠ '%') (cs : List Char) :
    deliver value .plain (c :: cs) = (deliver value .plain cs).map (c :: ·) := by
  rw [deliver, if_neg hc]

theorem deliver_append (h : '%' ∉ cs) (rest : List Char) :
    deliver value .plain (cs ++ rest) = (deliver value .plain rest).map (cs ++ ·) := by
  induction cs with
  | nil => simp
  | cons c cs ih =>
    rw [List.mem_cons, not_or] at h
    rw [List.cons_append, deliver_cons (Ne.symm h.1), ih h.2, Option.map_map]
    rfl

theorem deliver_named {name s : String} (h : value name = some s) (rest : List Char) :
    deliver value (.named name) ('s' :: rest) =
      (deliver value .plain rest).map (s.toList ++ ·) := by
  rw [deliver, if_pos rfl, h]
  cases deliver value .plain rest <;> rfl

theorem deliver_name {name : List Char} (h : ')' ∉ name) (before rest : List Char) :
    deliver value (.name before) (name ++ ')' :: rest) =
      deliver value (.named (String.ofList (before.reverse ++ name))) rest := by
  induction name generalizing before with
  | nil => rw [List.nil_append, deliver, if_pos rfl, List.append_nil]
  | cons c name ih =>
    rw [List.mem_cons, not_or] at h
    rw [List.cons_append, deliver, if_neg (Ne.symm h.1), ih h.2, List.reverse_cons,
      List.append_assoc, List.singleton_append]

theorem deliver_placeholder {name s : String} (hname : ')' ∉ name.toList)
    (h : value name = some s) (rest : List Char) :
    deliver value .plain ((placeholder name).toList ++ rest) =
      (deliver value .plain rest).map (s.toList ++ ·) := by
  have htext : (placeholder name).toList ++ rest =
      '%' :: '(' :: (name.toList ++ ')' :: 's' :: rest) := by simp [placeholder]
  rw [htext, deliver, if_pos rfl, deliver, if_neg (by decide), if_pos rfl, deliver_name hname,
    List.reverse_nil, List.nil_append, String.ofList_toList, deliver_named h]

/-- The text begins with some character other than a percent sign. -/
def OpensPlainly (s : String) : Prop := ∃ c cs, s.toList = c :: cs ∧ c ≠ '%'

/-- What comes out from the name of a placeholder on begins with a value. -/
theorem exists_of_deliver_name (hvalue : ∀ name s, value name = some s → OpensPlainly s)
    {before : List Char} (h : deliver value (.name before) cs = some out) :
    ∃ c out', out = c :: out' ∧ c ≠ '%' := by
  induction cs generalizing before with
  | nil => cases h
  | cons c cs ih =>
    rw [deliver] at h
    split at h
    · cases cs with
      | nil => cases h
      | cons d cs =>
        rw [deliver] at h
        split at h
        · obtain ⟨s, hs, h⟩ := Option.bind_eq_some_iff.1 h
          obtain ⟨tail, -, h⟩ := Option.bind_eq_some_iff.1 h
          obtain ⟨c, cs, hcs, hc⟩ := hvalue _ s hs
          cases h
          exact ⟨c, cs ++ tail, by rw [hcs, List.cons_append], hc⟩
        · cases h
    · exact ih h

theorem replicate_append_cons {c : Char} (k : Nat) (cs : List Char) :
    List.replicate k c ++ c :: cs = c :: (List.replicate k c ++ cs) := by
  rw [← List.cons_append, ← List.replicate_succ, List.replicate_succ', List.append_assoc,
    List.singleton_append]

/-- Percent signs shrink or give way to values, so that a text with one in it never comes out as it
went in, and still less with further ones before it. -/
theorem notMem_of_deliver (hvalue : ∀ name s, value name = some s → OpensPlainly s) {q : Char}
    (hpercent : q ≠ '%') (hopening : q ≠ '(') :
    ∀ (cs : List Char) (k : Nat),
      deliver value .plain (cs ++ q :: rest) = some (List.replicate k '%' ++ (cs ++ q :: out)) →
        k = 0 ∧ '%' ∉ cs
  | [], k, h => by
    rw [List.nil_append, deliver_cons hpercent] at h
    obtain ⟨tail, -, htail⟩ := Option.map_eq_some_iff.1 h
    cases k with
    | zero => simp
    | succ k => exact absurd (List.cons.inj htail).1 hpercent
  | c :: cs, k, h => by
    by_cases hc : c = '%'
    · subst hc
      rw [List.cons_append, List.cons_append, replicate_append_cons, deliver, if_pos rfl] at h
      cases cs with
      | nil =>
        rw [List.nil_append, deliver, if_neg hpercent, if_neg hopening] at h
        cases h
      | cons d cs =>
        rw [List.cons_append, deliver] at h
        split at h
        · next hd =>
          -- two signs have become one, which leaves one too many for the rest
          subst hd
          obtain ⟨tail, htail, hout⟩ := Option.map_eq_some_iff.1 h
          obtain rfl := (List.cons.inj hout).2
          rw [List.cons_append, replicate_append_cons, ← List.cons_append, ← List.replicate_succ]
            at htail
          exact absurd (notMem_of_deliver hvalue hpercent hopening cs (k + 1) htail).1 (by simp)
        · split at h
          · obtain ⟨c, out', hout, hc⟩ := exists_of_deliver_name hvalue h
            exact absurd (List.cons.inj hout).1.symm hc
          · cases h
    · rw [List.cons_append, deliver_cons hc] at h
      obtain ⟨tail, htail, hout⟩ := Option.map_eq_some_iff.1 h
      cases k with
      | zero =>
        obtain rfl := (List.cons.inj hout).2
        have hrest := notMem_of_deliver hvalue hpercent hopening cs 0 htail
        exact ⟨rfl, by simp [hrest.2, Ne.symm hc]⟩
      | succ k => exact absurd (List.cons.inj hout).1 hc

/-- The first text comes out as the second one, with what follows it left alone, if none of the
names holds a percent sign; otherwise something else comes out or nothing. -/
def Delivers (value : String → Option String) (names : List String) (s t : String) : Prop :=
  ∀ rest out, deliver value .plain (s.toList ++ rest) = some (t.toList ++ out) ↔
    (∀ n ∈ names, '%' ∉ n.toList) ∧ deliver value .plain rest = some out

theorem map_append_eq_some_iff {o : Option (List Char)} {before out : List Char} :
    o.map (before ++ ·) = some (before ++ out) ↔ o = some out := by
  cases o <;> simp

namespace Delivers
variable {names names' : List String} {s s' t t' : String}

theorem unchanged (h : '%' ∉ s.toList) : Delivers value [] s s := by
  intro rest out
  rw [deliver_append h, map_append_eq_some_iff]
  simp

theorem placeholder (hname : ')' ∉ s.toList) (h : value s = some t) :
    Delivers value [] (placeholder s) t := by
  intro rest out
  rw [deliver_placeholder hname h, map_append_eq_some_iff]
  simp

theorem append (h : Delivers value names s t) (h' : Delivers value names' s' t') :
    Delivers value (names ++ names') (s ++ s') (t ++ t') := by
  intro rest out
  rw [String.toList_append, String.toList_append, List.append_assoc, List.append_assoc, h, h',
    List.forall_mem_append, and_assoc]

/-- A piece of text that holds no percent sign may follow. -/
theorem followed (h : Delivers value names s t) (text : String) (htext : '%' ∉ text.toList) :
    Delivers value names (s ++ text) (t ++ text) := by
  have happend := h.append (unchanged htext)
  rwa [List.append_nil] at happend

theorem name (hvalue : ∀ name s, value name = some s → OpensPlainly s) (b : Builtin) (n : String) :
    Delivers value [n] (b.dialect.quoteName n) (b.dialect.quoteName n) := by
  have htext : (b.dialect.quoteName n).toList =
      b.nameDelimiter :: (Text.doubleChars b.nameDelimiter n.toList ++ [b.nameDelimiter]) := by
    cases b <;> simp [Builtin.dialect, Dialect.mysql, Dialect.postgres, delimited,
      Builtin.nameDelimiter]
  have hpercent : b.nameDelimiter ≠ '%' := by cases b <;> decide
  have hopening : b.nameDelimiter ≠ '(' := by cases b <;> decide
  have hmem : '%' ∈ (b.dialect.quoteName n).toList ↔ '%' ∈ n.toList := by
    rw [htext]
    simp [Text.mem_doubleChars, Ne.symm hpercent]
  intro rest out
  rw [List.forall_mem_singleton, ← hmem]
  constructor
  · intro h
    have hnot : '%' ∉ (b.dialect.quoteName n).toList := by
      rw [htext, List.cons_append, deliver_cons hpercent, List.append_assoc,
        List.singleton_append, List.cons_append, List.append_assoc, List.singleton_append] at h
      obtain ⟨tail, htail, hout⟩ := Option.map_eq_some_iff.1 h
      obtain rfl := (List.cons.inj hout).2
      have hname := (notMem_of_deliver hvalue hpercent hopening _ 0 htail).2
      simpa [htext, Ne.symm hpercent] using hname
    exact ⟨hnot, (map_append_eq_some_iff.1 (deliver_append hnot rest ▸ h))⟩
  · rintro ⟨hnot, h⟩
    rw [deliver_append hnot, h]
    rfl

end Delivers

end Reading

namespace Expr

mutual

/-- The names of the columns of an expression. -/
def columns : Expr → List String
  | .column name => [name]
  | .call _ args => columnsAll args
  | .binary left _ right => columns left ++ columns right
  | .isNull e | .isNotNull e | .cast e _ => columns e
  | .oneOf e values => columns e ++ columnsAll values
  | .between e low high => columns e ++ (columns low ++ columns high)
  | .literal _ | .raw _ | .stray _ | .strayTable _ => []

def columnsAll : List Expr → List String
  | [] => []
  | e :: es => columns e ++ columnsAll es

end

end Expr

theorem get?_placeholderTable (bs : Bindings) (name : String) :
    Table.get? (placeholderTable bs) (placeholder name) = Table.get? bs name := by
  induction bs with
  | nil => rfl
  | cons p bs ih =>
    have hsame : placeholder p.1 = placeholder name ↔ p.1 = name := placeholder_injective.eq_iff
    simpa only [placeholderTable, List.map_cons, Table.get?, hsame] using congrArg _ ih

theorem closing_notMem_placeholderName (i : Nat) : ')' ∉ (placeholderName i).toList := by
  have hname : (placeholderName i).toList = 'p' :: Nat.toDigits 10 i := by simp [placeholderName]
  rw [hname, List.mem_cons, not_or]
  refine ⟨by decide, fun h => ?_⟩
  have hdigit : Char.isDigit ')' = true := Nat.isDigit_of_mem_toDigits (by decide) (by decide) h
  revert hdigit
  decide

theorem percent_notMem_of_isWord {w : String} (h : isWord w = true) : '%' ∉ w.toList := by
  unfold isWord at h
  split at h
  · cases h
  · next c cs hw =>
    simp only [Bool.and_eq_true, List.all_eq_true] at h
    have hpart : ∀ d ∈ c :: cs, isWordPart d = true :=
      List.forall_mem_cons.2 ⟨by simp [isWordPart, h.1], h.2⟩
    intro hmem
    have hpercent := hpart '%' (hw ▸ hmem)
    revert hpercent
    decide

theorem percent_notMem_of_operator {op : String} (h : op ∈ wordOperators ++ signOperators) :
    '%' ∉ op.toList := by
  revert op
  decide

section Trees
variable {b : Builtin} {bs : Bindings} {k : Nat}

theorem Binds.get? {v : Value} (h : Binds bs k [v]) :
    Table.get? bs (placeholderName k) = some v := by
  rw [← get?_placeholderTable]
  exact h 0 v rfl

theorem delivers_literal {v : Value} (hv : v ≠ .null) (h : Binds bs k (Expr.literal v).boundValues) :
    Delivers (b.dialect.literalFor bs) [] (b.dialect.text ((Expr.literal v).numbered k))
      (b.dialect.text (.literal v)) := by
  rw [Expr.boundValues_literal hv] at h
  rw [Expr.numbered_literal hv, Dialect.text, Dialect.text]
  refine .placeholder (closing_notMem_placeholderName k) ?_
  rw [Dialect.literalFor, h.get?]
  rfl

theorem delivers_listed {args : List Expr}
    (h : ∀ e ∈ args, ∀ k, Binds bs k e.boundValues →
      Delivers (b.dialect.literalFor bs) e.columns (b.dialect.text (e.numbered k))
        (b.dialect.text e))
    (hbinds : Binds bs k (Expr.boundValuesAll args)) :
    Delivers (b.dialect.literalFor bs) (Expr.columnsAll args)
      (Dialect.listed (b.dialect.texts (Expr.numberedAll k args)))
      (Dialect.listed (b.dialect.texts args)) := by
  induction args generalizing k with
  | nil =>
    rw [Expr.numberedAll, Expr.columnsAll, Dialect.texts]
    exact .unchanged (by decide)
  | cons e es ih =>
    rw [Expr.boundValuesAll] at hbinds
    have he := h e (by simp) k hbinds.left
    have hes := ih (fun e' hm => h e' (by simp [hm])) hbinds.right
    cases es with
    | nil => simpa [Expr.numberedAll, Expr.columnsAll, Dialect.texts, Dialect.listed] using he
    | cons e' es =>
      have hlist := (he.followed ", " (by decide)).append hes
      simpa [Expr.numberedAll, Expr.columnsAll, Dialect.texts, Dialect.listed] using hlist

/-- Rendered with placeholders and delivered, a tree gives its text with the literals in it,
provided that no column has a percent sign in its name. -/
theorem Plain.delivers {e : Expr} (h : Plain e) (hnone : placeholders (tokens e) = [])
    (hvalue : ∀ name s, b.dialect.literalFor bs name = some s → OpensPlainly s)
    (hbinds : Binds bs k e.boundValues) :
    Delivers (b.dialect.literalFor bs) e.columns (b.dialect.text (e.numbered k))
      (b.dialect.text e) := by
  have hopening : Delivers (b.dialect.literalFor bs) [] "(" "(" := .unchanged (by decide)
  induction h generalizing k with
  | text | int | bool =>
    rw [Expr.columns]
    exact delivers_literal (by simp) hbinds
  | null =>
    rw [Expr.numbered, Expr.columns, Dialect.text, Dialect.literalText]
    exact .unchanged (by decide)
  | nothing =>
    rw [Expr.matchNothing, Expr.numbered, Expr.columns, Dialect.text]
    exact .unchanged (by decide)
  | column name =>
    rw [Expr.numbered, Expr.columns]
    exact .name hvalue b name
  | bound i =>
    rw [tokens, rawTokens, if_neg (placeholder_ne_nothing _)] at hnone
    cases hnone
  | @call function args hfunction hargs ih =>
    have hnoneArgs : placeholders (separated (tokensEach args)) = [] := by
      simpa [tokens] using hnone
    rw [Expr.boundValues] at hbinds
    rw [Expr.numbered, Expr.columns, Dialect.text, Dialect.text]
    have hname : Delivers (b.dialect.literalFor bs) [] function function :=
      .unchanged (percent_notMem_of_isWord hfunction)
    have hlist := delivers_listed
      (fun e he k => ih e he (placeholders_tokens_of_mem hnoneArgs he)) hbinds
    exact ((hname.followed "(" (by decide)).append hlist).followed ")" (by decide)
  | @binary left right op hop hleft hright ihl ihr =>
    obtain ⟨hl, hr⟩ : placeholders (tokens left) = [] ∧ placeholders (tokens right) = [] := by
      simpa [tokens] using hnone
    rw [Expr.boundValues] at hbinds
    rw [Expr.numbered, Expr.columns, Dialect.text, Dialect.text]
    have hoperator := (((hopening.append (ihl hl hbinds.left)).followed " " (by decide)).followed op
      (percent_notMem_of_operator hop)).followed " " (by decide)
    exact (hoperator.append (ihr hr hbinds.right)).followed ")" (by decide)
  | @isNull e he ih | @isNotNull e he ih =>
    have hnone' : placeholders (tokens e) = [] := by simpa [tokens] using hnone
    rw [Expr.boundValues] at hbinds
    rw [Expr.numbered, Expr.columns, Dialect.text, Dialect.text]
    exact (hopening.append (ih hnone' hbinds)).followed _ (by decide)
  | @oneOf e values he hvalues ihe ihvalues =>
    obtain ⟨hnone', hnoneValues⟩ : placeholders (tokens e) = [] ∧
        placeholders (separated (tokensEach values)) = [] := by simpa [tokens] using hnone
    rw [Expr.boundValues] at hbinds
    rw [Expr.numbered, Expr.columns, Dialect.text, Dialect.text]
    have hlist := delivers_listed
      (fun v hv k => ihvalues v hv (placeholders_tokens_of_mem hnoneValues hv)) hbinds.left
    exact (((hopening.append (ihe hnone' hbinds.right)).followed " IN (" (by decide)).append
      hlist).followed "))" (by decide)
  | @cast e type htype he ih =>
    have hnone' : placeholders (tokens e) = [] := by simpa [tokens] using hnone
    rw [Expr.boundValues] at hbinds
    rw [Expr.numbered, Expr.columns, Dialect.text, Dialect.text]
    have hcast : Delivers (b.dialect.literalFor bs) [] "CAST(" "CAST(" := .unchanged (by decide)
    exact (((hcast.append (ih hnone' hbinds)).followed " AS " (by decide)).followed type
      (percent_notMem_of_isWord htype)).followed ")" (by decide)
  | @between e low high he hlow hhigh ihe ihlow ihhigh =>
    obtain ⟨hnone', hl, hh⟩ : placeholders (tokens e) = [] ∧ placeholders (tokens low) = [] ∧
        placeholders (tokens high) = [] := by simpa [tokens, and_assoc] using hnone
    rw [Expr.boundValues] at hbinds
    rw [Expr.numbered, Expr.columns, Dialect.text, Dialect.text, ← List.append_assoc]
    have hlimits := (((hopening.append (ihe hnone' hbinds.left)).followed " BETWEEN "
      (by decide)).append (ihlow hl hbinds.right.left)).followed " AND " (by decide)
    exact (hlimits.append (ihhigh hh hbinds.right.right)).followed ")" (by decide)

end Trees

theorem opensPlainly_text (d : Dialect) (s : String) : OpensPlainly (d.literalText (.text s)) := by
  refine ⟨'\'', (d.escapeString s).toList ++ ['\''], ?_, by decide⟩
  simp [Dialect.literalText]

theorem opensPlainly_int (d : Dialect) (n : Int) : OpensPlainly (d.literalText (.int n)) := by
  have hdigits : ∀ n : Nat, OpensPlainly (toString n) := by
    intro n
    cases hn : Nat.toDigits 10 n with
    | nil => exact absurd hn Nat.toDigits_ne_nil
    | cons c cs =>
      refine ⟨c, cs, by simp [hn], ?_⟩
      rintro rfl
      have hdigit : Char.isDigit '%' = true :=
        Nat.isDigit_of_mem_toDigits (b := 10) (n := n) (by decide) (by decide) (by simp [hn])
      revert hdigit
      decide
  cases n with
  | ofNat n => exact hdigits n
  | negSucc n =>
    have htext : d.literalText (.int (Int.negSucc n)) = "-" ++ (n + 1).repr := rfl
    exact ⟨'-', (n + 1).repr.toList, by simp [htext], by decide⟩

theorem Plain.opensPlainly {e : Expr} (h : Plain e) (d : Dialect) :
    ∀ v ∈ e.boundValues, OpensPlainly (d.literalText v) := by
  induction h with
  | text s => simpa [Expr.boundValues] using opensPlainly_text d s
  | int n => simpa [Expr.boundValues] using opensPlainly_int d n
  | bool v =>
    rw [Expr.boundValues_literal (by simp), List.forall_mem_singleton]
    cases v with
    | false =>
      have htext : d.literalText (.bool false) = "False" := rfl
      exact ⟨'F', ['a', 'l', 's', 'e'], by rw [htext]; rfl, by decide⟩
    | true =>
      have htext : d.literalText (.bool true) = "True" := rfl
      exact ⟨'T', ['r', 'u', 'e'], by rw [htext]; rfl, by decide⟩
  | null | column | nothing | bound => simp [Expr.boundValues, Expr.matchNothing]
  | call hfunction hargs ih =>
    rw [Expr.boundValues, Expr.boundValuesAll_eq_flatMap, List.forall_mem_flatMap]
    exact ih
  | binary hop hleft hright ihl ihr =>
    rw [Expr.boundValues, List.forall_mem_append]
    exact ⟨ihl, ihr⟩
  | isNull he ih | isNotNull he ih | cast htype he ih =>
    rw [Expr.boundValues]
    exact ih
  | oneOf he hvalues ihe ihvalues =>
    rw [Expr.boundValues, Expr.boundValuesAll_eq_flatMap, List.forall_mem_append,
      List.forall_mem_flatMap]
    exact ⟨ihvalues, ihe⟩
  | between he hlow hhigh ihe ihlow ihhigh =>
    rw [Expr.boundValues, List.forall_mem_append, List.forall_mem_append]
    exact ⟨ihe, ihlow, ihhigh⟩

theorem exists_of_literalFor {d : Dialect} {vs : List Value} {name s : String}
    (h : d.literalFor (bindingsOf vs) name = some s) : ∃ v ∈ vs, d.literalText v = s := by
  obtain ⟨v, hv, rfl⟩ := Option.map_eq_some_iff.1 h
  have hmem := (Table.mem_iff_get?_eq_some (nodup_keys_bindingsOf vs)).2 hv
  refine ⟨v, ?_, rfl⟩
  rw [← values_bindingsOf vs]
  exact List.mem_map_of_mem hmem

/-- A driver gives back the text with the literals in it if, and only if, no column has a percent
sign in its name. The literals may hold any. -/
theorem Plain.delivered_eq_iff {e : Expr} (h : Plain e) (hnone : placeholders (tokens e) = [])
    (b : Builtin) :
    b.dialect.delivered (bindingsOf e.boundValues) (b.dialect.text (e.numbered 0)) =
        some (b.dialect.text e) ↔
      ∀ c ∈ e.columns, '%' ∉ c.toList := by
  have hvalue : ∀ name s, b.dialect.literalFor (bindingsOf e.boundValues) name = some s →
      OpensPlainly s := by
    intro name s hs
    obtain ⟨v, hv, rfl⟩ := exists_of_literalFor hs
    exact h.opensPlainly b.dialect v hv
  have hdelivers := h.delivers hnone hvalue (binds_bindingsOf e.boundValues) [] []
  rw [List.append_nil, List.append_nil] at hdelivers
  rw [Dialect.delivered, Option.map_eq_some_iff]
  constructor
  · rintro ⟨cs, hcs, htext⟩
    rw [← String.toList_ofList (l := cs), htext] at hcs
    exact (hdelivers.1 hcs).1
  · intro hcolumns
    exact ⟨_, hdelivers.2 ⟨hcolumns, rfl⟩, String.ofList_toList⟩

end ExamFilter.Sql
