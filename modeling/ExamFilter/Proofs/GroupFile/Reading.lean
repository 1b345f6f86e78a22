import ExamFilter.GroupFile.Shape
import ExamFilter.Proofs.Table
import ExamFilter.Yaml.Document

/-!
# What is read of a group file

A document has the shape of a group file, or it has violations of that grammar. What is wrong with
it besides are names and members that are not printed. Of all this in the order of the document the
first is what reading gives, and if there is nothing, the table that is told from the nodes alone.
-/
namespace ExamFilter.GroupFile
open Yaml ExamFilter.Filter

theorem entries?_eq_some_iff {t : Tree} {entries : List Yaml.Entry} :
    entries? t = some entries ↔ t = .map entries := by
  cases t <;> simp [entries?]

theorem leaf?_eq_some_iff {t : Tree} {v : Value} : leaf? t = some v ↔ t = .leaf v := by
  cases t <;> simp [leaf?]

/-- The entry under the key `groups`. -/
def groupsField? (top : List Yaml.Entry) : Option Yaml.Entry :=
  top.find? fun e => isKey "groups" e.1

section Grammar

/-- A group is a text, or a list of nodes that hold no other nodes. -/
def IsGroup (t : Tree) : Prop :=
  (∃ s, t = .leaf (.text s)) ∨
    ∃ items, t = .list items ∧ ∀ item ∈ items, ∃ v, item.2 = .leaf v

def IsDimension (t : Tree) : Prop := ∃ groups, t = .map groups ∧ ∀ g ∈ groups, IsGroup g.2.2

/-- The root is a mapping. If it has a key `groups`, then this leads to a mapping whose entries are
dimensions. -/
def IsGroupFile (t : Tree) : Prop :=
  ∃ top, t = .map top ∧ ∀ e, groupsField? top = some e →
    ∃ dimensions, e.2.2 = .map dimensions ∧ ∀ d ∈ dimensions, IsDimension d.2.2

def isGroup : Tree → Bool
  | .leaf (.text _) => true
  | .list items => items.all fun item => (leaf? item.2).isSome
  | _ => false

def groupViolations (dimension : String) (g : Yaml.Entry) : List ShapeFault :=
  if isGroup g.2.2 then [] else [.group dimension (keyText g.1)]

def dimensionViolations (d : Yaml.Entry) : List ShapeFault :=
  match entries? d.2.2 with
  | some groups => groups.flatMap (groupViolations (keyText d.1))
  | none => [.dimension (keyText d.1)]

/-- All violations of the grammar, in the order of the document. -/
def violations (t : Tree) : List ShapeFault :=
  match entries? t with
  | none => [.root]
  | some top =>
    match groupsField? top with
    | none => []
    | some e =>
      match entries? e.2.2 with
      | some dimensions => dimensions.flatMap dimensionViolations
      | none => [.groups]

theorem isGroup_iff {t : Tree} : isGroup t = true ↔ IsGroup t := by
  cases t with
  | leaf v => cases v <;> simp [isGroup, IsGroup]
  | list items => simp [isGroup, IsGroup, Option.isSome_iff_exists, leaf?_eq_some_iff]
  | map | endless => simp [isGroup, IsGroup]

theorem dimensionViolations_eq_nil_iff {d : Yaml.Entry} :
    dimensionViolations d = [] ↔ IsDimension d.2.2 := by
  simp only [IsDimension, dimensionViolations, ← entries?_eq_some_iff]
  cases entries? d.2.2 with
  | none => simp
  | some groups =>
    simp only [List.flatMap_eq_nil_iff, Option.some.injEq, exists_eq_left']
    refine forall₂_congr fun g _ => ?_
    rw [groupViolations, ← isGroup_iff]
    simp

theorem violations_eq_nil_iff {t : Tree} : violations t = [] ↔ IsGroupFile t := by
  simp only [IsGroupFile, violations, ← entries?_eq_some_iff]
  cases entries? t with
  | none => simp
  | some top =>
    simp only [Option.some.injEq, exists_eq_left']
    cases groupsField? top with
    | none => simp
    | some e =>
      simp only [Option.some.injEq, forall_eq']
      cases entries? e.2.2 with
      | none => simp
      | some dimensions =>
        simp only [List.flatMap_eq_nil_iff, Option.some.injEq, exists_eq_left']
        exact forall₂_congr fun d _ => dimensionViolations_eq_nil_iff

end Grammar

section Contents

/-- The values in a group, the nulls included. -/
def valuesOf : Tree → List Value
  | .leaf v => [v]
  | .list items => items.filterMap fun item => leaf? item.2
  | _ => []

/-- The values that stand for members. -/
def memberValues (t : Tree) : List Value := (valuesOf t).filter fun v => !isNull v

def memberTexts (t : Tree) : List String := (memberValues t).map Value.asText

/-- The entries of a mapping, and none of anything else. -/
def entriesOf (t : Tree) : List Yaml.Entry := (entries? t).getD []

/-- The entries of the dimensions. -/
def dimensionsOf (t : Tree) : List Yaml.Entry :=
  ((groupsField? (entriesOf t)).map fun e => entriesOf e.2.2).getD []

/-- The name and the texts of a group. -/
def groupOf (g : Yaml.Entry) : String × List String := (keyText g.1, memberTexts g.2.2)

/-- The name and the groups of a dimension, of which the last one with a name counts. -/
def dimensionOf (d : Yaml.Entry) : String × Groups :=
  (keyText d.1, Table.ofPairs ((entriesOf d.2.2).map groupOf))

/-- What a document says about dimensions and groups, with repeated names put together. -/
def merged (t : Tree) : GroupTable := Table.ofPairs ((dimensionsOf t).map dimensionOf)

end Contents

section Faults

/-- What is wrong with a value of which a text is needed. -/
def printFaults (v : Value) : List TableFault :=
  if v.isPrintable then [] else [.print .tooManyDigits]

def groupFaults (dimension : String) (g : Yaml.Entry) : List TableFault :=
  printFaults g.1 ++
    if isGroup g.2.2 then (memberValues g.2.2).flatMap printFaults
    else [.shape (.group dimension (keyText g.1))]

def dimensionFaults (d : Yaml.Entry) : List TableFault :=
  printFaults d.1 ++
    match entries? d.2.2 with
    | some groups => groups.flatMap (groupFaults (keyText d.1))
    | none => [.shape (.dimension (keyText d.1))]

/-- Everything that is wrong with a document, in its order. The name of a group comes before its
shape, and this before its members. -/
def faults (t : Tree) : List TableFault :=
  match entries? t with
  | none => [.shape .root]
  | some top =>
    match groupsField? top with
    | none => []
    | some e =>
      match entries? e.2.2 with
      | some dimensions => dimensions.flatMap dimensionFaults
      | none => [.shape .groups]

def TableFault.shape? : TableFault → Option ShapeFault
  | .shape fault => some fault
  | .print _ => none

theorem filterMap_shape?_printFaults (v : Value) :
    (printFaults v).filterMap TableFault.shape? = [] := by
  rw [printFaults]
  split <;> rfl

theorem filterMap_shape?_groupFaults (dimension : String) (g : Yaml.Entry) :
    (groupFaults dimension g).filterMap TableFault.shape? = groupViolations dimension g := by
  rw [groupFaults, groupViolations, List.filterMap_append, filterMap_shape?_printFaults]
  split
  · simp [List.filterMap_flatMap, filterMap_shape?_printFaults]
  · rfl

theorem filterMap_shape?_dimensionFaults (d : Yaml.Entry) :
    (dimensionFaults d).filterMap TableFault.shape? = dimensionViolations d := by
  rw [dimensionFaults, dimensionViolations, List.filterMap_append, filterMap_shape?_printFaults]
  cases entries? d.2.2 with
  | none => rfl
  | some groups => simp [List.filterMap_flatMap, filterMap_shape?_groupFaults]

/-- The violations are the faults that are about shapes. -/
theorem filterMap_shape?_faults (t : Tree) :
    (faults t).filterMap TableFault.shape? = violations t := by
  rw [faults, violations]
  cases entries? t with
  | none => rfl
  | some top =>
    dsimp only
    cases groupsField? top with
    | none => rfl
    | some e =>
      dsimp only
      cases entries? e.2.2 with
      | none => rfl
      | some dimensions => simp [List.filterMap_flatMap, filterMap_shape?_dimensionFaults]

end Faults

section FirstFault
variable {ε α β : Type}

/-- The first fault, or the value if there is none. -/
def firstOr (faults : List ε) (value : α) : Except ε α :=
  match faults with
  | [] => .ok value
  | fault :: _ => .error fault

theorem firstOr_map {fs : List ε} {a : α} {k : α → Except ε β} {c : β} (hk : k a = .ok c) :
    (firstOr fs a >>= k) = firstOr fs c := by
  cases fs with
  | nil => exact hk
  | cons fault fs => rfl

theorem firstOr_bind {fs gs : List ε} {a : α} {k : α → Except ε β} {c : β}
    (hk : k a = firstOr gs c) : (firstOr fs a >>= k) = firstOr (fs ++ gs) c := by
  cases fs with
  | nil => exact hk
  | cons fault fs => rfl

theorem firstOr_eq_ok_iff {fs : List ε} {a b : α} : firstOr fs a = .ok b ↔ fs = [] ∧ a = b := by
  cases fs <;> simp [firstOr]

/-- The faults of the elements come one after the other, and the first of all is found. -/
theorem mapM_firstOr {f : α → Except ε β} {fs : α → List ε} {value : α → β}
    (h : ∀ x, f x = firstOr (fs x) (value x)) (xs : List α) :
    xs.mapM f = firstOr (xs.flatMap fs) (xs.map value) := by
  induction xs with
  | nil => rfl
  | cons x xs ih =>
    rw [List.mapM_cons, ih, h x, List.flatMap_cons, List.map_cons]
    exact firstOr_bind (firstOr_map rfl)

end FirstFault

section Reading

theorem printedIf_eq_firstOr {α : Type} (v : Value) (a : α) :
    (Value.printedIf v.isPrintable a).mapError TableFault.print = firstOr (printFaults v) a := by
  rw [printFaults]
  cases v.isPrintable <;> rfl

theorem mapM_leaf? (items : List (Option Mark × Tree)) :
    items.mapM (fun item => leaf? item.2) =
      if (items.all fun item => (leaf? item.2).isSome) then
        some (items.filterMap fun item => leaf? item.2)
      else none := by
  induction items with
  | nil => rfl
  | cons item rest ih =>
    rw [List.mapM_cons, ih]
    cases hleaf : leaf? item.2 with
    | none => simp [hleaf]
    | some v =>
      by_cases hrest : (rest.all fun item => (leaf? item.2).isSome) = true
      · simp [hleaf, hrest]
      · simp [hleaf, hrest]

theorem memberValues?_eq (t : Tree) :
    memberValues? t = if isGroup t then some (memberValues t) else none := by
  cases t with
  | leaf v => cases v <;> rfl
  | list items =>
    rw [memberValues?, mapM_leaf?, isGroup]
    split <;> rfl
  | map | endless => rfl

theorem readGroup_eq (dimension : String) (g : Yaml.Entry) :
    readGroup dimension g = firstOr (groupFaults dimension g) (groupOf g) := by
  rw [readGroup, printKey, printedIf_eq_firstOr, memberValues?_eq, groupFaults]
  refine firstOr_bind ?_
  cases isGroup g.2.2 with
  | false => rfl
  | true =>
    have hmembers := mapM_firstOr (fun v => printedIf_eq_firstOr v v.asText) (memberValues g.2.2)
    simp only [if_true, Value.print, hmembers]
    exact firstOr_map rfl

theorem readDimension_eq (d : Yaml.Entry) :
    readDimension d = firstOr (dimensionFaults d) (dimensionOf d) := by
  rw [readDimension, printKey, printedIf_eq_firstOr, dimensionFaults]
  refine firstOr_bind ?_
  rw [dimensionOf, entriesOf]
  cases entries? d.2.2 with
  | none => rfl
  | some groups =>
    dsimp only [readGroups]
    rw [mapM_firstOr (readGroup_eq _)]
    cases groups.flatMap (groupFaults (keyText d.1)) <;> rfl

/-- The first fault of a document is found, and if there is none, its table. -/
theorem readTable_eq (t : Tree) : readTable t = firstOr (faults t) (merged t) := by
  rw [readTable, faults, merged, dimensionsOf, entriesOf]
  cases entries? t with
  | none => rfl
  | some top =>
    dsimp only [Option.getD_some]
    rw [groupsField?]
    cases hentry : top.find? fun e => isKey "groups" e.1 with
    | none => rfl
    | some e =>
      dsimp only [Option.map_some, Option.getD_some, entriesOf]
      cases entries? e.2.2 with
      | none => rfl
      | some dimensions =>
        dsimp only [Option.getD_some]
        rw [mapM_firstOr readDimension_eq]
        cases dimensions.flatMap dimensionFaults <;> rfl

end Reading

end ExamFilter.GroupFile
