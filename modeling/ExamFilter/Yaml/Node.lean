import ExamFilter.Table
import ExamFilter.Yaml.Token

/-!
# Nodes of a document

The nodes as they are written: texts that have not been given a meaning yet, sequences and
mappings. An alias stands for the node that it names.
-/
namespace ExamFilter.Yaml

/-- A node has a tag only if that is more than a single exclamation mark. -/
inductive Node where
  | scalar (start : Mark) (isAnchored isPlain : Bool) (tag? : Option String) (text : String)
  | sequence (start : Mark) (tag? : Option String) (items : List Node)
  | mapping (start : Mark) (tag? : Option String) (entries : List (Node × Node))
  /-- A collection within itself. -/
  | endless (start : Mark) (isSequence : Bool)
  deriving Inhabited

namespace Node

def start : Node → Mark
  | scalar m _ _ _ _ | sequence m _ _ | mapping m _ _ | endless m _ => m

/-- A node that has been left out. -/
def absent (m : Mark) : Node := .scalar m false true none ""

/-- The tokens that are left, the nodes that have been given names, the version, and the handles
that a directive has given a meaning. -/
structure Reading where
  tokens : List Placed
  anchors : Table String Node := []
  version : Version := .newer
  handles : Table String String := []

abbrev Reader := StateT Reading (Except Fault)

def peek : Reader Placed := do
  return ((← get).tokens.head?).getD ⟨.streamEnd, ⟨0, 0⟩, ⟨0, 0⟩⟩

def skip : Reader Unit := modify fun r => { r with tokens := r.tokens.tail }

/-- The beginning of the tags of numbers, lists and the like. -/
def coreBeginning : String := "tag:yaml.org,2002:"

/-- The handles that need no directive. -/
def commonHandles : Table String String := [("!", "!"), ("!!", coreBeginning)]

/-- The tag with the given handle and rest. -/
def resolveTag (handle? : Option String) (suffix : String) : Reader String := do
  match handle? with
  | none => return suffix
  | some handle =>
    match (Table.get? (← get).handles handle).or (Table.get? commonHandles handle) with
    | some beginning => return beginning ++ suffix
    | none => throw .tag

/-- What may stand before a node. -/
structure Label where
  /-- Where the node begins. -/
  start : Mark
  name? : Option String := none
  tag? : Option String := none

def Label.isEmpty (l : Label) : Bool := l.name?.isNone && l.tag?.isNone

/-- A single exclamation mark, which makes a text plain. -/
def Label.isBare (l : Label) : Bool := l.tag? = some "!"

/-- The tag, unless it is bare. -/
def Label.ownTag? (l : Label) : Option String := if l.isBare then none else l.tag?

/-- A name and a tag in either order. A node with both begins with the name. -/
def readLabel : Reader Label := do
  let p ← peek
  match p.token with
  | .anchor name =>
    skip
    match (← peek).token with
    | .tag handle? suffix =>
      skip
      return ⟨p.start, some name, some (← resolveTag handle? suffix)⟩
    | _ => return ⟨p.start, some name, none⟩
  | .tag handle? suffix =>
    skip
    let tag ← resolveTag handle? suffix
    let q ← peek
    match q.token with
    | .anchor name =>
      skip
      return ⟨q.start, some name, some tag⟩
    | _ => return ⟨p.start, none, some tag⟩
  | _ => return ⟨p.start, none, none⟩

def record (name? : Option String) (node : Node) : Reader Unit :=
  match name? with
  | some name => modify fun r => { r with anchors := Table.put r.anchors name node }
  | none => return

def resolve (name : String) : Reader Node := do
  match Table.get? (← get).anchors name with
  | some node => return node
  | none => throw (.anchor name)

/-- A node, unless the next token shows that it has been left out at the given place. -/
def orAbsent (isEnd : Token → Bool) (place : Mark) (read : Reader Node) : Reader Node := do
  if isEnd (← peek).token then return absent place else read

/-- One collection more is open; `depth` is the number of those that may still be opened. -/
def deeper (depth : Nat) : Reader Nat :=
  match depth with
  | 0 => throw .depth
  | d + 1 => return d

/-- Where a node stands: between brackets, as an item of a block, or in a mapping of a block,
where the items of a sequence need not be indented. -/
inductive Context where
  | flow | item | entry
  deriving DecidableEq, Repr

def Context.isBlock (c : Context) : Bool := c ≠ .flow

def endsItem (inEntry : Bool) (t : Token) : Bool :=
  t = .item || t = .blockEnd || inEntry && (t = .key || t = .value)

def endsEntry (t : Token) : Bool := t = .key || t = .value || t = .blockEnd

def endsFlow (b : Bracket) (t : Token) : Bool := t = .comma || t = .closing b

/-- What may follow the comma between brackets, or stand after the first of them. -/
def passComma (isFirst : Bool) (b : Bracket) : Reader Unit := do
  let t := (← peek).token
  if isFirst || t = .closing b then return
  else if t = .comma then skip
  else throw .indicator

mutual

/-- Reads a node. Here and below the first argument bounds the number of nested steps. -/
def read : Nat → Context → Nat → Reader Node
  | 0, _, _ => throw .indicator
  | n + 1, context, depth => do
    if let .alias name := (← peek).token then
      skip
      return ← resolve name
    let l ← readLabel
    let sequence (items : Nat → Reader (List Node)) : Reader Node := do
      record l.name? (.endless l.start true)
      return .sequence l.start l.ownTag? (← items (← deeper depth))
    let mapping (entries : Nat → Reader (List (Node × Node))) : Reader Node := do
      record l.name? (.endless l.start false)
      return .mapping l.start l.ownTag? (← entries (← deeper depth))
    let node ← match (← peek).token, context.isBlock with
      | .scalar isPlain text, _ => do
        skip
        pure (.scalar l.start l.name?.isSome (isPlain || l.isBare) l.ownTag? text)
      | .opening .square, _ => do
        skip
        sequence (flowItems n true)
      | .opening .curly, _ => do
        skip
        mapping (flowEntries n true)
      | .sequenceStart, true => do
        skip
        sequence (items n false)
      | .mappingStart, true => do
        skip
        mapping (entries n)
      | token, _ =>
        if token = .item && context = .entry then sequence (items n true)
        else if l.isEmpty then throw .indicator
        else pure (.scalar l.start l.name?.isSome true l.ownTag? "")
    record l.name? node
    return node

/-- The items of a block, which in a mapping end without a token of their own. -/
def items : Nat → Bool → Nat → Reader (List Node)
  | 0, _, _ => throw .indicator
  | n + 1, inEntry, depth => do
    let p ← peek
    match p.token with
    | .item =>
      skip
      let node ← orAbsent (endsItem inEntry) p.stop (read n .item depth)
      return node :: (← items n inEntry depth)
    | .blockEnd =>
      if !inEntry then skip
      return []
    | _ => if inEntry then return [] else throw .indicator

def entries : Nat → Nat → Reader (List (Node × Node))
  | 0, _ => throw .indicator
  | n + 1, depth => do
    let p ← peek
    match p.token with
    | .key =>
      skip
      let key ← orAbsent endsEntry p.stop (read n .entry depth)
      let value ← entryValue n depth
      return (key, value) :: (← entries n depth)
    | .value =>
      let value ← entryValue n depth
      return (absent p.start, value) :: (← entries n depth)
    | .blockEnd =>
      skip
      return []
    | _ => throw .indicator

def entryValue : Nat → Nat → Reader Node
  | 0, _ => throw .indicator
  | n + 1, depth => do
    let p ← peek
    if p.token = .value then
      skip
      orAbsent endsEntry p.stop (read n .entry depth)
    else return absent p.start

/-- The items up to a closing bracket. A key among them begins a mapping with a single entry. -/
def flowItems : Nat → Bool → Nat → Reader (List Node)
  | 0, _, _ => throw .indicator
  | n + 1, isFirst, depth => do
    passComma isFirst .square
    let p ← peek
    match p.token with
    | .closing .square =>
      skip
      return []
    | .key =>
      skip
      let inner ← deeper depth
      let key ← orAbsent (fun t => t = .value || endsFlow .square t) p.stop (read n .flow inner)
      let value ← flowValue n .square inner
      return .mapping p.start none [(key, value)] :: (← flowItems n false depth)
    | _ =>
      let node ← read n .flow depth
      return node :: (← flowItems n false depth)

def flowEntries : Nat → Bool → Nat → Reader (List (Node × Node))
  | 0, _, _ => throw .indicator
  | n + 1, isFirst, depth => do
    passComma isFirst .curly
    let p ← peek
    match p.token with
    | .closing .curly =>
      skip
      return []
    | .key =>
      skip
      let key ← orAbsent (fun t => t = .value || endsFlow .curly t) p.stop (read n .flow depth)
      let value ← flowValue n .curly depth
      return (key, value) :: (← flowEntries n false depth)
    | .value =>
      let value ← flowValue n .curly depth
      return (absent p.stop, value) :: (← flowEntries n false depth)
    | _ =>
      let key ← read n .flow depth
      return (key, absent (← peek).start) :: (← flowEntries n false depth)

def flowValue : Nat → Bracket → Nat → Reader Node
  | 0, _, _ => throw .indicator
  | n + 1, b, depth => do
    let p ← peek
    if p.token = .value then
      skip
      orAbsent (endsFlow b) p.stop (read n .flow depth)
    else return absent p.start

end

def isDirective : Token → Bool
  | .directive _ => true
  | _ => false

def endsDocument (t : Token) : Bool :=
  t = .documentStart || t = .documentEnd || t = .streamEnd || isDirective t

/-- The directives before a document, of which at most one gives the version. The first argument
bounds their number. -/
def readDirectives : Nat → Bool → Reader Unit
  | 0, _ => throw .directive
  | n + 1, hasVersion => do
    match (← peek).token with
    | .directive (.version major minor) =>
      if hasVersion || major ≠ 1 then throw .directive
      modify fun r => { r with version := if minor = 1 then .older else .newer }
      skip
      readDirectives n true
    | .directive (.tagHandle handle beginning) =>
      if (Table.get? (← get).handles handle).isSome then throw .directive
      modify fun r => { r with handles := Table.put r.handles handle beginning }
      skip
      readDirectives n hasVersion
    | .directive .other =>
      skip
      readDirectives n hasVersion
    | _ => return

/-- The root of the only document, or nothing if there is none. -/
def readDocument (bound : Nat) : Reader (Option Node) := do
  let p ← peek
  if p.token = .streamEnd then return none
  let root ←
    if p.token = .documentStart || isDirective p.token then do
      readDirectives bound false
      if (← peek).token ≠ .documentStart then throw .indicator
      skip
      orAbsent endsDocument (← peek).start (read bound .item maxDepth)
    else read bound .item maxDepth
  if (← peek).token = .documentEnd then skip
  if (← peek).token = .streamEnd then return some root else throw .indicator

/-- The root and the version of the document. -/
def ofTokens? (tokens : List Placed) : Except Fault (Option Node × Version) :=
  ((readDocument (3 * tokens.length + 3)).run { tokens }).map fun (node?, r) => (node?, r.version)

end Node

end ExamFilter.Yaml
