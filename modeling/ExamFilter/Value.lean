import ExamFilter.Calendar.Date
import ExamFilter.Decimal.Shortest

/-!
# Loosely typed values

The values that requests, documents and selections are made of, with the two questions that are
asked of any of them: does it count as given, and is it the same as another one. A selection is
what a request can say about one dimension: nothing, everything, one value or several values.
-/
namespace ExamFilter

inductive Selection (α : Type) where
  | noFilter
  | wildcard (marker : String)
  | single (value : α)
  | many (values : List α)
  deriving Inhabited

inductive Value where
  | null
  | bool (b : Bool)
  | int (n : Int)
  | float (x : Float)
  | text (s : String)
  | list (items : List Value)
  | tuple (items : List Value)
  | set (items : List Value)
  | frozenSet (items : List Value)
  | bytes (octets : List UInt8)
  | byteArray (octets : List UInt8)
  | range (start stop step : Int)
  | dict (entries : List (Value × Value))
  | date (d : Calendar.Date)
  | moment (m : Calendar.Moment)
  | selection (s : Selection Value)
  /-- Something of which nothing but a text is known, which it is not itself. -/
  | other (text : String)
  deriving Inhabited

def rangeCount (start stop step : Int) : Nat :=
  if 0 < step then ((stop - start + step - 1) / step).toNat
  else if step < 0 then ((start - stop - step - 1) / -step).toNat
  else 0

/-- The numbers from `start` by `step`, up to `stop` and without it. -/
def rangeItems (start stop step : Int) : List Int :=
  (List.range (rangeCount start stop step)).map fun (i : Nat) => start + i * step

/-- Two ranges hold the same numbers. Of ranges with fewer than two numbers the step, and of empty
ones the start does not count. -/
def sameRange (a b : Int × Int × Int) : Bool :=
  let count := rangeCount a.1 a.2.1 a.2.2
  count = rangeCount b.1 b.2.1 b.2.2 && (count = 0 || a.1 = b.1) && (count ≤ 1 || a.2.2 = b.2.2)

namespace Value

/-- Zero, the empty text and empty collections count as not given; a selection never does. -/
def isGiven : Value → Bool
  | null => false
  | bool b => b
  | int n => n ≠ 0
  | float x => x != 0.0
  | text s => s ≠ ""
  | list items | tuple items | set items | frozenSet items => !items.isEmpty
  | bytes octets | byteArray octets => !octets.isEmpty
  | range start stop step => rangeCount start stop step ≠ 0
  | dict entries => !entries.isEmpty
  | date _ | moment _ | selection _ | other _ => true

/-- The exact value `significand · 2 ^ exponent` of a truth value or a finite number. -/
def number? : Value → Option (Int × Int)
  | bool b => some (if b then 1 else 0, 0)
  | int n => some (n, 0)
  | float x => (Decimal.Binary.ofFloat? x).map fun b =>
      (if Decimal.isNegative x then -(b.mantissa : Int) else b.mantissa, b.exponent)
  | _ => none

def sameNumber (a b : Int × Int) : Bool :=
  let e := min a.2 b.2
  a.1 * Int.pow 2 (a.2 - e).toNat = b.1 * Int.pow 2 (b.2 - e).toNat

mutual

/-- Two keys of a table are the same key. Numbers are compared by value across their kinds, a
truth value being zero or one. -/
def same : Value → Value → Bool
  | null, null => true
  | text s, text t => s = t
  | bytes a, bytes b => a = b
  | date a, date b => a = b
  | moment a, moment b => a = b
  | tuple xs, tuple ys => sameAll xs ys
  | frozenSet xs, frozenSet ys => xs.length = ys.length && sameEach xs ys
  | range a b c, range x y z => sameRange (a, b, c) (x, y, z)
  | selection s, selection t => sameSelection s t
  | dict xs, dict ys => xs.length = ys.length && sameEntries xs ys
  | float x, float y => x == y
  | v, w => match v.number?, w.number? with
    | some a, some b => sameNumber a b
    | _, _ => false

def sameAll : List Value → List Value → Bool
  | [], [] => true
  | v :: vs, w :: ws => same v w && sameAll vs ws
  | _, _ => false

/-- Every item of the first list is in the second one. -/
def sameEach : List Value → List Value → Bool
  | [], _ => true
  | v :: vs, ws => (ws.any fun w => same v w) && sameEach vs ws

/-- Every entry of the first list is in the second one. -/
def sameEntries : List (Value × Value) → List (Value × Value) → Bool
  | [], _ => true
  | (k, v) :: rest, es => (es.any fun e => same k e.1 && same v e.2) && sameEntries rest es

def sameSelection : Selection Value → Selection Value → Bool
  | .noFilter, .noFilter => true
  | .wildcard m, .wildcard n => m = n
  | .single v, .single w => same v w
  | .many vs, .many ws => sameAll vs ws
  | _, _ => false

end

/-- The entry with the same key is replaced in its place, and its key is kept. -/
def putEntry : List (Value × Value) → Value × Value → List (Value × Value)
  | [], e => [e]
  | (k, v) :: rest, e => if k.same e.1 then (k, e.2) :: rest else (k, v) :: putEntry rest e

/-- The dictionary of pairs in which the last of two entries with the same key counts. -/
def dictOf (pairs : List (Value × Value)) : Value := .dict (pairs.foldl putEntry [])

/-- The items without those that are the same as an earlier one. -/
def distinct (items : List Value) : List Value :=
  items.foldl (fun seen v => if seen.any (·.same v) then seen else seen ++ [v]) []

/-- The whole numbers of a list in ascending order, if it holds nothing else. -/
def ascending? (items : List Value) : Option (List Value) :=
  (items.mapM int?).map fun numbers => (numbers.mergeSort (· ≤ ·)).map int
where
  int? : Value → Option Int
    | int n => some n
    | _ => none

/-- The items of a set. Whole numbers ascend; other items stay in the order they are given in. -/
def members (items : List Value) : List Value :=
  (ascending? (distinct items)).getD (distinct items)

/-- The word by which a message names the kind of a value that stands in the wrong place. -/
def kindName : Value → String
  | null => "NoneType"
  | bool _ => "bool"
  | int _ => "int"
  | float _ => "float"
  | text _ => "str"
  | list _ => "list"
  | tuple _ => "tuple"
  | set _ => "set"
  | frozenSet _ => "frozenset"
  | bytes _ => "bytes"
  | byteArray _ => "bytearray"
  | range _ _ _ => "range"
  | dict _ => "dict"
  | date _ => "date"
  | moment _ => "datetime"
  | other _ => "TaggedScalar"
  | selection .noFilter => "NoFilter"
  | selection (.wildcard _) => "Wildcard"
  | selection (.single _) => "Single"
  | selection (.many _) => "Many"

/-- A range whose step is zero. -/
inductive RangeError where
  | step
  deriving DecidableEq, Repr

def RangeError.message : RangeError → String
  | .step => "range() arg 3 must not be zero"

def ofRange (start stop step : Int) : Except RangeError Value :=
  if step = 0 then .error .step else .ok (.range start stop step)

end Value

end ExamFilter
