import ExamFilter.Yaml.Node
import ExamFilter.Yaml.Scalar
import ExamFilter.Yaml.TokenStream
import ExamFilter.Yaml.Tree

/-!
# Documents

A document is read into a tree. No key may stand twice in a mapping. The entries of the mappings
under a merge key follow those of the mapping itself, as far as they have other keys.
-/
namespace ExamFilter.Yaml

/-- The collection that contains another one cannot be a key. -/
def leafOf : Tree → Except ValueFault Value
  | .leaf v => .ok v
  | .list _ | .endless true => .error (.key "CommentedSeq")
  | .map _ | .endless false => .error (.key "CommentedMap")

/-- Everything can be a key but collections that contain other ones. -/
def keyOf : Tree → Except ValueFault Value
  | .list items => (items.mapM fun item => leafOf item.2).map .tuple
  | .map entries => (entries.mapM fun e => (leafOf e.2.2).map fun v => (e.1, v)).map .dict
  | t => leafOf t

def isMergeKey : Node → Bool
  | .scalar _ _ isPlain none text => isPlain && text = "<<"
  | .scalar _ _ _ (some tag) _ => Kind.ofTag tag = .merge
  | _ => false

/-- The sign for the value of a mapping is an ordinary text as a key. -/
def valueKey? : Node → Option String
  | .scalar _ _ isPlain none text => if isPlain && text = "=" then some text else none
  | .scalar _ _ _ (some tag) text => if Kind.ofTag tag = .value then some text else none
  | _ => none

abbrev Entry := Value × Option Mark × Tree

def hasKey (entries : List Entry) (key : Value) : Bool := entries.any fun e => e.1.same key

/-- The fault of a key that stands twice. It tells both values. -/
def repeated (entries : List Entry) (key : Value) (t : Tree) : Fault :=
  let before := (entries.filter fun e => e.1.same key).map fun e => e.2.2.toValue
  match Value.print (.list (key :: t.toValue :: before)) with
  | .ok _ => .key
  | .error e => .value (.print e)

def isMapping : Node → Bool
  | .mapping _ _ _ => true
  | _ => false

/-- A mapping can be merged, and so can several ones in a sequence. -/
def isMergeable : Node → Bool
  | .sequence _ _ items => items.all isMapping
  | node => isMapping node

def mapEntries : Tree → Except Fault (List Entry)
  | .map entries => .ok entries
  | _ => .error .merge

/-- The entries of the mappings that are merged. -/
def mergedEntries : Tree → Except Fault (List (List Entry))
  | .list items => items.mapM fun item => mapEntries item.2
  | t => (mapEntries t).map fun entries => [entries]

/-- A merged key has the place of the mapping that it is merged into, if that has any own keys. -/
def merge (start : Mark) (own : List Entry) (merged : List (List Entry)) : List Entry :=
  let place := if own.isEmpty then none else some start
  merged.flatten.foldl
    (fun entries e =>
      if hasKey entries e.1 then entries else entries ++ [(e.1, place, e.2.2)])
    own

/-- The tag says nothing that is known. Whatever is wrong behind it is the fault of the tag. -/
def isForeign (tag? : Option String) : Bool :=
  tag?.any fun tag => Kind.ofTag tag ∈ [.other, .merge, .value]

/-- Whether a tag is that of the kind or of none that is known. -/
def fits (kind : Kind) (tag? : Option String) : Bool :=
  isForeign tag? || tag?.all fun tag => Kind.ofTag tag = kind

def behindTag (tag? : Option String) (e : Except Fault α) : Except Fault α :=
  e.mapError fun fault => if isForeign tag? then .tag else fault

mutual

def Tree.ofNode (version : Version) : Node → Except Fault Tree
  | .scalar _ isAnchored isPlain tag? text =>
    (scalarValue version isAnchored isPlain tag? text).map .leaf
  | .sequence _ tag? items =>
    if fits .list tag? then behindTag tag? ((itemTrees version (isForeign tag?) items).map .list)
    else .error .tag
  | .mapping start tag? entries =>
    if fits .mapping tag? then behindTag tag? do
      let merged ← mergedMaps version [] entries
      return .map (merge start (← ownEntries version [] entries) merged)
    else .error .tag
  | .endless _ isSequence => .ok (.endless isSequence)

/-- Items behind a foreign tag have no places. -/
def itemTrees (version : Version) (isForeign : Bool) :
    List Node → Except Fault (List (Option Mark × Tree))
  | [] => .ok []
  | node :: rest => do
    let t ← Tree.ofNode version node
    return (if isForeign then none else some node.start, t) :: (← itemTrees version isForeign rest)

/-- The entries of the mappings under the merge key, of which there is at most one. -/
def mergedMaps (version : Version) (merged : List (List Entry)) :
    List (Node × Node) → Except Fault (List (List Entry))
  | [] => .ok merged
  | (key, value) :: rest => do
    if !isMergeKey key then mergedMaps version merged rest
    else if !merged.isEmpty then throw .key
    else if !isMergeable value then throw .merge
    else
      let t ← Tree.ofNode version value
      mergedMaps version (← mergedEntries t) rest

/-- The own entries, added to those before them. -/
def ownEntries (version : Version) (own : List Entry) :
    List (Node × Node) → Except Fault (List Entry)
  | [] => .ok own
  | (key, value) :: rest => do
    if isMergeKey key then ownEntries version own rest
    else
      let k ← match valueKey? key with
        | some text => pure (.leaf (.text text))
        | none => Tree.ofNode version key
      let t ← Tree.ofNode version value
      let k ← (keyOf k).mapError Fault.value
      if hasKey own k then throw (repeated own k t)
      ownEntries version (own ++ [(k, some key.start, t)]) rest

end

/-- The tree of the document with the given text, null if the text holds no document. -/
def readDocument (cs : List Char) : Except Fault Tree := do
  match ← Node.ofTokens? (← tokens cs) with
  | (some node, version) => Tree.ofNode version node
  | (none, _) => return .leaf .null

end ExamFilter.Yaml
