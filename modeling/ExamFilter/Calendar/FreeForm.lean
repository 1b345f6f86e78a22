import ExamFilter.Calendar.Number
import ExamFilter.Calendar.Token
import ExamFilter.Calendar.Zone

/-!
# Dates in words and numbers

A written date is read token by token, each token with a view of those before and after it. What
is read are the parts of the date, a day of the week, a time of day and a time zone. Components
that were not written are taken from a default date, so a text names a date of its own only if two
defaults that differ in every component give the same result.
-/
namespace ExamFilter.Calendar

/-- What has been read so far. -/
structure Found where
  parts : Parts := {}
  weekday : Option Nat := none
  hour : Option Nat := none
  minute : Option Nat := none
  second : Option Nat := none
  zone : Option Zone := none
  /-- The seconds by which the time zone is ahead of the universal time. -/
  offset : Option Int := none
  deriving Inhabited

/-- One step of the reading: the following tokens that it takes with it, those as it leaves them,
and what has been found. -/
structure Step where
  taken : Nat
  rest : List (List Char)
  found : Found

/-- Noon and midnight are written as twelve. -/
def adjustHalf (hour half : Nat) : Nat :=
  if hour < 12 && half = 1 then hour + 12
  else if hour = 12 && half = 0 then 0
  else hour

/-- The unit that belongs to a number and the number of tokens to take with it: the word after it
or after a blank, else the one next in size to the word before it. -/
def unitFor (before rest : List (List Char)) : Option (Nat × Nat) :=
  let next := rest.head?.bind unit?
  let afterBlank := match rest with
    | [' '] :: u :: _ => unit? u
    | _ => none
  let previous := before.head?.bind unit?
  let beforeBlank := match before, rest with
    | [' '] :: u :: _, [] => unit? u
    | _, _ => none
  match next, afterBlank, previous, beforeBlank with
  | some u, _, _, _ => some (u, 1)
  | none, some u, _, _ => some (u, 2)
  | none, none, some u, _ => some (u + 1, 0)
  | none, none, none, some u => some (u + 1, 0)
  | none, none, none, none => none

/-- A fraction of an hour makes minutes, and one of a minute makes seconds. -/
def Found.setUnit (f : Found) (n : Number) : Nat → Reader Found
  | 0 => n.sixtieths.map fun minute => { f with hour := some n.value, minute := minute.or f.minute }
  | 1 => n.sixtieths.map fun second => { f with minute := some n.value, second }
  | 2 => .ok { f with second := some n.value }
  | _ => .ok f

/-- Two digits of the hour, and two of the minute if there are four. -/
def compactTime? (f : Found) (token : List Char) : Option Found := do
  let hour ← numeral? (token.take 2)
  if token.length = 4 then
    let minute ← numeral? (token.drop 2)
    some { f with hour := some hour, minute := some minute }
  else some { f with hour := some hour }

/-- Three parts of two digits each, or a time of day if there are parts already. -/
def sixDigits? (f : Found) (n : Number) (token : List Char) : Option Found :=
  if f.parts.numbers.isEmpty && !n.hasPoint then do
    let p ← f.parts.addDigits? (token.take 2)
    let p ← p.addDigits? ((token.drop 2).take 2)
    let p ← p.addDigits? (token.drop 4)
    some { f with parts := p }
  else do
    let hour ← numeral? (token.take 2)
    let minute ← numeral? ((token.drop 2).take 2)
    let second ← seconds? (token.drop 4)
    some { f with hour := some hour, minute := some minute, second := some second }

/-- Year, month and day, and a time of day after them if there are more than eight digits. -/
def yearFirstDigits? (f : Found) (token : List Char) : Option Found := do
  let year ← numeral? (token.take 4)
  let p ← f.parts.addYear? year
  let p ← p.addDigits? ((token.drop 4).take 2)
  let p ← p.addDigits? ((token.drop 6).take 2)
  let f := { f with parts := p }
  if token.length ≤ 8 then some f
  else
    let hour ← numeral? ((token.drop 8).take 2)
    let minute ← numeral? ((token.drop 10).take 2)
    let f := { f with hour := some hour, minute := some minute }
    if token.length ≤ 12 then some f
    else
      let second ← numeral? (token.drop 12)
      some { f with second := some second }

/-- Hour and minute, and seconds after a second colon. -/
def clockTime (f : Found) (n : Number) (rest : List (List Char)) : Reader Step := do
  let minute ← required (rest[1]?.bind Number.ofToken?)
  let second ← minute.sixtieths
  let f := { f with hour := some n.value, minute := some minute.value, second }
  match rest.drop 2 with
  | [':'] :: token :: _ =>
    let second ← required (seconds? token)
    return ⟨4, rest, { f with second := some second }⟩
  | _ => return ⟨2, rest, f⟩

/-- A part that is a month name or digits. -/
def Parts.addNamed? (p : Parts) (token : List Char) : Option Parts :=
  match month? token with
  | some m => p.addMonth? m
  | none => p.addDigits? token

/-- Parts joined by one separator; after it a filler may stand instead of a second part. -/
def joinedParts? (f : Found) (token : List Char) (rest : List (List Char)) : Option Step := do
  let p ← f.parts.addDigits? token
  match rest with
  | sep :: next :: rest' =>
    if isFiller next then some ⟨1, rest, { f with parts := p }⟩
    else
      let p ← p.addNamed? next
      match rest' with
      | sep' :: rest'' =>
        if sep' = sep then
          let third ← rest''.head?
          let p ← p.addNamed? third
          some ⟨4, rest, { f with parts := p }⟩
        else some ⟨2, rest, { f with parts := p }⟩
      | [] => some ⟨2, rest, { f with parts := p }⟩
  | _ => some ⟨1, rest, { f with parts := p }⟩

/-- A part at the end or before a filler, or an hour if the filler is followed by a half of the
day. -/
def loosePart? (f : Found) (n : Number) (rest : List (List Char)) : Option Step :=
  match rest[1]?.bind half? with
  | some half => some ⟨2, rest, { f with hour := some (adjustHalf n.value half) }⟩
  | none => do
    let p ← f.parts.addNumber? n.value n.more
    some ⟨1, rest, { f with parts := p }⟩

def joinsParts (token : List Char) : Bool := token = ['-'] || token = ['/'] || token = ['.']

/-- A number means what its length and the tokens around it allow, tried in this order. -/
def readNumber (before : List (List Char)) (token : List Char) (rest : List (List Char))
    (n : Number) (f : Found) : Reader Step :=
  let next := rest.head?
  let isTime := f.parts.numbers.length = 3 && (token.length = 2 || token.length = 4)
    && f.hour.isNone && next.all fun t => t ≠ [':'] && (unit? t).isNone
  let alone (f? : Option Found) : Reader Step := required (f?.map fun f => ⟨0, rest, f⟩)
  if isTime then alone (compactTime? f token)
  else if token.length = 6 || n.hasPoint && n.whole.length = 6 then alone (sixDigits? f n token)
  else if token.length = 8 || token.length = 12 || token.length = 14 then
    alone (yearFirstDigits? f token)
  else match unitFor before rest with
    | some (unit, taken) => (f.setUnit n unit).map fun f => ⟨taken, rest, f⟩
    | none =>
      if next = some [':'] && 2 ≤ rest.length then clockTime f n rest
      else if next.any joinsParts then required (joinedParts? f token rest)
      else if next.all isFiller then required (loosePart? f n rest)
      else match (next.bind half?).filter fun _ => n.value < 24 with
        | some half => .ok ⟨1, rest, { f with hour := some (adjustHalf n.value half) }⟩
        | none =>
          if f.parts.couldBeDay n.value n.more then
            alone ((f.parts.addNumber? n.value n.more).map fun parts => { f with parts })
          else .error .noDate

/-- A year of two digits is the one nearest to 2025, of two equally near the earlier. -/
def fullYear (year : Nat) : Nat :=
  if year < 100 then (if year < 75 then year + 2000 else year + 1900) else year

/-- A named month, and the parts that a separator joins to it, or the year after the word of. -/
def readMonth (month : Nat) (rest : List (List Char)) (f : Found) : Option Step := do
  let p ← f.parts.addMonth? month
  match rest with
  | sep :: rest' =>
    if sep = ['-'] || sep = ['/'] then
      let p ← rest'.head?.bind p.addDigits?
      match rest'.drop 1 with
      | sep' :: rest'' =>
        if sep' = sep then
          let p ← rest''.head?.bind p.addDigits?
          some ⟨4, rest, { f with parts := p }⟩
        else some ⟨2, rest, { f with parts := p }⟩
      | [] => some ⟨2, rest, { f with parts := p }⟩
    else match rest with
      | [' '] :: of :: [' '] :: year :: _ =>
        if isOf of then
          if year.all Text.isDigit then
            let y ← numeral? year
            let p ← p.addYear? (fullYear y)
            some ⟨4, rest, { f with parts := p }⟩
          else some ⟨4, rest, { f with parts := p }⟩
        else some ⟨0, rest, { f with parts := p }⟩
      | _ => some ⟨0, rest, { f with parts := p }⟩
  | [] => some ⟨0, rest, { f with parts := p }⟩

/-- A half of the day needs an hour of the twelve-hour clock before it. -/
def readHalf (half : Nat) (rest : List (List Char)) (f : Found) : Option Step :=
  match f.hour with
  | some hour =>
    if hour ≤ 12 then some ⟨0, rest, { f with hour := some (adjustHalf hour half) }⟩ else none
  | none => none

/-- The name of a zone, which gives the offset of the universal time. A sign after the name counts
the other way round; then the offset is still to come, and the universal time is not kept. -/
def readZone (token : List Char) (rest : List (List Char)) (f : Found) : Step :=
  let zone := Zone.ofName token
  match rest with
  | sign :: rest' =>
    if isSign sign then
      ⟨0, flipSign sign :: rest',
        { f with zone := if zone = .universal then none else some zone, offset := none }⟩
    else ⟨0, rest, { f with zone := some zone, offset := zone.offset? }⟩
  | [] => ⟨0, rest, { f with zone := some zone, offset := zone.offset? }⟩

/-- An offset, and the name of its zone after it if none has been read before. -/
def readOffset (sign : List Char) (rest : List (List Char)) (f : Found) : Option Step := do
  let (seconds, taken) ← readOffset? sign rest
  let f := { f with offset := some seconds }
  match f.zone, namedZone? (rest.drop taken) with
  | none, some zone => some ⟨taken + 4, rest, { f with zone := some zone }⟩
  | _, _ => some ⟨taken, rest, f⟩

def readWord (token : List Char) (rest : List (List Char)) (f : Found) : Option Step :=
  match weekday? token, month? token, half? token with
  | some day, _, _ => some ⟨0, rest, { f with weekday := some day }⟩
  | none, some month, _ => readMonth month rest f
  | none, none, some half => readHalf half rest f
  | none, none, none =>
    if f.hour.isSome && f.zone.isNone && f.offset.isNone && isZoneName token then
      some (readZone token rest f)
    else if f.hour.isSome && isSign token then readOffset token rest f
    else if isFiller token then some ⟨0, rest, f⟩
    else none

def readToken (before : List (List Char)) (token : List Char) (rest : List (List Char))
    (f : Found) : Reader Step :=
  if isNumberWord token then .error .noDate
  else match Number.ofToken? token with
    | some n => readNumber before token rest n f
    | none => required (readWord token rest f)

/-- Every step takes at least the token at hand, so `fuel` is the number of tokens. -/
def readTokens : Nat → List (List Char) → List (List Char) → Found → Reader Found
  | _, _, [], f => .ok f
  | 0, _, _ :: _, _ => .error .noDate
  | fuel + 1, before, token :: rest, f => do
    let s ← readToken before token rest f
    readTokens fuel ((s.rest.take s.taken).reverse ++ token :: before) (s.rest.drop s.taken)
      s.found

/-- The components that a text gives, provided that it gives any. -/
structure Components where
  date : Parts.Assigned
  weekday : Option Nat
  hour : Option Nat
  minute : Option Nat
  second : Option Nat
  deriving DecidableEq, Repr

/-- The offset of a zone other than the universal time is one that a clock can keep. -/
def Found.offsetExists (f : Found) : Bool := f.zone = some .universal || f.offset.all isOffset

/-- Years are completed unless some year was written with its century. -/
def Found.components? (f : Found) : Option Components := do
  let a ← f.parts.assign?
  let year := if f.parts.century then a.year else a.year.map fullYear
  let c : Components := ⟨{ a with year }, f.weekday, f.hour, f.minute, f.second⟩
  if a = {} && c.weekday.isNone && c.hour.isNone && c.minute.isNone && c.second.isNone then none
  else if f.offsetExists then some c
  else none

def components (cs : List Char) : Reader Components := do
  required (← readTokens (tokens cs).length [] (tokens cs) {}).components?

def Components.timeExists (c : Components) : Bool :=
  c.hour.getD 0 < 24 && c.minute.getD 0 < 60 && c.second.getD 0 < 60

/-- The date of the components, completed from the default. A missing day is kept inside its
month, and then moved on to the day of the week, if there is one. -/
def Components.complete? (c : Components) (default : Date) : Option Date := do
  let year := c.date.year.getD default.year
  let month := c.date.month.getD default.month
  if !c.timeExists || month < 1 || 12 < month then none
  else match c.date.day, c.weekday with
    | some day, _ => Date.ofNumbers? year month day
    | none, none => Date.ofNumbers? year month (min default.day (daysIn year month))
    | none, some w => do
      let d ← Date.ofNumbers? year month (min default.day (daysIn year month))
      d.forwardTo? w

def firstDefault : Date := ⟨2000, 1, 1, by decide⟩

def secondDefault : Date := ⟨2001, 2, 2, by decide⟩

/-- The date that components give in full. -/
def Components.fullDate? (c : Components) : Option Date := do
  let a ← c.complete? firstDefault
  let b ← c.complete? secondDefault
  if a = b then some a else none

/-- The date that a text gives in full, unless reading breaks off. -/
def freeForm (cs : List Char) : Except Breakdown (Option Date) :=
  match components cs with
  | .ok c => .ok c.fullDate?
  | .error .noDate => .ok none
  | .error (.breakdown b) => .error b

end ExamFilter.Calendar
