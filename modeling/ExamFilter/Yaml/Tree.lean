import ExamFilter.Value
import ExamFilter.Yaml.Source

/-!
# Trees of values

What a document holds: values in lists and mappings, with the places where the keys and the items
are written.
-/
namespace ExamFilter.Yaml

inductive Tree where
  | leaf (v : Value)
  /-- The items of some lists have no places. -/
  | list (items : List (Option Mark × Tree))
  /-- A key that has been merged in need not have a place. -/
  | map (entries : List (Value × Option Mark × Tree))
  /-- A list or a mapping within itself. -/
  | endless (isList : Bool)
  deriving Inhabited

namespace Tree

mutual

/-- The value of the tree, without places. Nothing is left of what does not end. -/
def toValue : Tree → Value
  | leaf v => v
  | list items => .list (itemValues items)
  | map entries => .dict (entryValues entries)
  | endless _ => .null

def itemValues : List (Option Mark × Tree) → List Value
  | [] => []
  | (_, t) :: rest => t.toValue :: itemValues rest

def entryValues : List (Value × Option Mark × Tree) → List (Value × Value)
  | [] => []
  | (k, _, t) :: rest => (k, t.toValue) :: entryValues rest

end

mutual

/-- Nothing in the tree is within itself. -/
def isFinite : Tree → Bool
  | leaf _ => true
  | list items => itemsAreFinite items
  | map entries => entriesAreFinite entries
  | endless _ => false

def itemsAreFinite : List (Option Mark × Tree) → Bool
  | [] => true
  | (_, t) :: rest => t.isFinite && itemsAreFinite rest

def entriesAreFinite : List (Value × Option Mark × Tree) → Bool
  | [] => true
  | (_, _, t) :: rest => t.isFinite && entriesAreFinite rest

end

end Tree

end ExamFilter.Yaml
