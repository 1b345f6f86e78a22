import ExamFilter.Text.Blank
import ExamFilter.Text.Lower
import ExamFilter.Decimal.Reading
import ExamFilter.Yaml.Token

/-!
# Numbers in documents

Numbers may hold underscores. Leading zeros do not change their base, except in documents of the
older version, where they are followed by octal digits. There also colons may join parts of which
each counts sixty times as much as the next one.
-/
namespace ExamFilter.Yaml

def isFiller (c : Char) : Bool := c.isDigit || c = '_'

def isOctal (c : Char) : Bool := '0' ≤ c && c ≤ '7'

def beginsWithDigit (cs : List Char) : Bool := (cs.head?.map Char.isDigit).getD false

/-- The exponent of a number, which is empty or has a letter, a sign and digits. -/
def isExponent (signNeeded : Bool) : List Char → Bool
  | [] => true
  | e :: cs =>
    let digits := (Decimal.takeSign cs).2
    (e = 'e' || e = 'E') && (!signNeeded || digits.length < cs.length)
      && !digits.isEmpty && digits.all Char.isDigit

/-- The parts of a text between colons. -/
def parts (cs : List Char) : List (List Char) := cs.splitOn ':'

/-- A part that counts less than sixty. -/
def isSixtieth : List Char → Bool
  | [d] => d.isDigit
  | [d, e] => '0' ≤ d && d ≤ '5' && e.isDigit
  | _ => false

/-- Parts between colons, of which the first one has any size. -/
def isSexagesimal (cs : List Char) : Bool :=
  match parts cs with
  | first :: others =>
    beginsWithDigit first && first.all isFiller && !others.isEmpty && others.all isSixtieth
  | [] => false

/-- A number with a point or an exponent. A number that begins with the point has an exponent with
a sign or none. -/
def isFloat (version : Version) (cs : List Char) : Bool :=
  let body := (Decimal.takeSign cs).2
  match body.dropWhile isFiller with
  | '.' :: r =>
    let exponent := r.dropWhile isFiller
    if beginsWithDigit body then isExponent false exponent
    else body.head? = some '.' && (version = .newer || cs.head? = some '.')
      && r.head?.any isFiller && isExponent true exponent
  | ':' :: _ =>
    version = .older && isSexagesimal (body.takeWhile (· ≠ '.'))
      && body.contains '.' && ((body.dropWhile (· ≠ '.')).drop 1).all isFiller
  | [] => false
  | r => beginsWithDigit body && isExponent false r

def areDigits (isDigit : Char → Bool) (digits : List Char) : Bool :=
  !digits.isEmpty && digits.all fun c => c = '_' || isDigit c

/-- Whether a text has the form of a whole number. -/
def isWhole (version : Version) (cs : List Char) : Bool :=
  match (Decimal.takeSign cs).2, version with
  | '0' :: 'b' :: digits, _ => areDigits (fun c => c = '0' || c = '1') digits
  | '0' :: 'x' :: digits, _ => areDigits (fun c => (Text.hexValue? c).isSome) digits
  | '0' :: 'o' :: digits, .newer => areDigits isOctal digits
  | digits, .newer => cs.head? ≠ some '_' && areDigits Char.isDigit digits
  | digits, .older =>
    cs.head? ≠ some '_' && areDigits isOctal digits
      || digits.head? ≠ some '0' && beginsWithDigit digits
        && (digits.all isFiller || isSexagesimal digits)

/-- The number in the given base, which a sign may precede. Decimal digits are not too many. -/
def wholeIn (base : Nat) (cs : List Char) : Except ValueFault Int :=
  let (isNegative, digits) := Decimal.takeSign (Text.trimChars cs)
  match digits.mapM fun c => (Text.hexValue? c).filter (· < base) with
  | none | some [] => .error (.noWhole base (String.ofList cs))
  | some values =>
    if base = 10 && Decimal.maxDigits < values.length then .error (.tooManyDigits values.length)
    else
      let n := values.foldl (fun n v => base * n + v) 0
      .ok (if isNegative then -(n : Int) else n)

def sexagesimal (digits : List Char) : Except ValueFault Int :=
  ((parts digits).mapM (wholeIn 10)).map fun values => values.foldl (fun n v => 60 * n + v) 0

/-- The whole number that is written. -/
def wholeOf (version : Version) (s : String) : Except ValueFault Int :=
  let cs := s.toList.filter (· ≠ '_')
  let (isNegative, body) := Decimal.takeSign cs
  let number : Except ValueFault Int := match body, version with
    | [], _ | ['0', 'b'], .newer | ['0', 'o'], .newer | ['0', 'x'], .newer => .error .noDigits
    | '0' :: 'b' :: digits, _ => wholeIn 2 digits
    | '0' :: 'o' :: digits, _ => wholeIn 8 digits
    | '0' :: 'x' :: digits, _ => wholeIn 16 digits
    | digits, .newer => wholeIn 10 digits
    | digits, .older =>
      if digits.head? = some '0' then wholeIn 8 digits
      else if digits.contains ':' then sexagesimal digits
      else wholeIn 10 digits
  number.map fun n => if isNegative then -n else n

def floatIn (cs : List Char) : Except ValueFault Float :=
  match Decimal.readFloat? (Text.trimChars cs) with
  | some x => .ok x
  | none => .error (.noNumber (String.ofList cs))

/-- The sum of the parts, the least of which is added first. -/
def sexagesimalFloat (body : List Char) : Except ValueFault Float :=
  ((parts body).mapM floatIn).map fun values =>
    ((values.reverse.zipIdx).foldl (fun x (v, i) => x + v * Float.ofNat (Nat.pow 60 i)) 0.0)

/-- The number that is written, which need not be whole. -/
def floatOf (version : Version) (s : String) : Except ValueFault Float :=
  let cs := (Text.lower s).toList.filter (· ≠ '_')
  let (isNegative, body) := Decimal.takeSign cs
  let number : Except ValueFault Float :=
    if cs.isEmpty then .error .noDigits
    else if body = ['.', 'i', 'n', 'f'] then .ok Decimal.infinity
    else if body = ['.', 'n', 'a', 'n'] then .ok Decimal.notANumber
    else if version = .older && body.contains ':' then sexagesimalFloat body
    else floatIn body
  number.map (Decimal.withSign isNegative)

end ExamFilter.Yaml
