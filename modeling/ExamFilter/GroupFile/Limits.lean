import ExamFilter.Text.Blank
import ExamFilter.Text.Letter
import ExamFilter.Text.Numeral
import ExamFilter.Value

/-!
# Limits on group files

A group file that could take much time or space to read is refused: one that is too long, one that
names nodes in order to repeat them, and one that holds too many nodes.
-/
namespace ExamFilter.GroupFile

def maxCharacters : Nat := 1000000

def maxNodes : Nat := 50000

inductive SafetyError where
  | tooLong (characters : Nat)
  | anchors
  | tooManyNodes (limit : Int)
  deriving DecidableEq, Repr

def SafetyError.message : SafetyError → String
  | .tooLong characters =>
    s!"YAML document exceeds maximum size ({Text.thousands characters} chars > "
      ++ s!"{Text.thousands maxCharacters} limit)"
  | .anchors => "YAML anchors/aliases are not supported in group tables"
  | .tooManyNodes limit => s!"YAML document exceeds maximum node count ({Text.thousands limit})"

/-- The characters after which a named node may begin. -/
def mayPrecedeAnchor (c : Char) : Bool := Text.isBlank c || c = '-' || c = ':'

/-- An ampersand stands in such a place, right before a character of a name. `isOpen` tells whether
the first character stands in such a place. -/
def hasAnchorFrom (isOpen : Bool) : List Char → Bool
  | [] => false
  | c :: rest =>
    isOpen && c = '&' && (rest.head?.map Text.isWord).getD false
      || hasAnchorFrom (mayPrecedeAnchor c) rest

def hasAnchor (cs : List Char) : Bool := hasAnchorFrom true cs

def checkText (cs : List Char) : Except SafetyError Unit :=
  if maxCharacters < cs.length then .error (.tooLong cs.length)
  else if hasAnchor cs then .error .anchors
  else .ok ()

/-- The nodes right below a node. The keys of a mapping do not count. -/
def children : Value → List Value
  | .list items => items
  | .dict entries => entries.map (·.2)
  | _ => []

/-- At most so many nodes are pending or below those that are. -/
def withinLimit : Nat → List Value → Bool
  | _, [] => true
  | 0, _ :: _ => false
  | n + 1, v :: pending => withinLimit n (children v ++ pending)

/-- A limit below zero lets as little pass as zero. -/
def checkNodes (limit : Int) (v : Value) : Except SafetyError Unit :=
  if withinLimit limit.toNat [v] then .ok () else .error (.tooManyNodes limit)

end ExamFilter.GroupFile
