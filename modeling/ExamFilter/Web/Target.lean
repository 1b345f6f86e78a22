import ExamFilter.Text.Numeral

/-!
# Targets of requests

The path that a target names. It ends before a query or a fragment, its bytes may be given by
hexadecimal digits after percent signs, and parts that lead nowhere or back are resolved.
-/
namespace ExamFilter.Web

/-- The text in which a percent sign and two hexadecimal digits stand for a byte. Only bytes of one
character are of interest, since no known path has others. -/
def unescapePercent : List Char → List Char
  | '%' :: a :: b :: cs => match Text.readHex? [a, b] with
    | some n => Char.ofNat n :: unescapePercent cs
    | none => '%' :: unescapePercent (a :: b :: cs)
  | c :: cs => c :: unescapePercent cs
  | [] => []

/-- The parts that remain of those in `done`, the last of which comes first, and of the others. -/
def resolveParts (done : List String) : List String → List String
  | [] => done.reverse
  | "." :: rest => resolveParts done rest
  | ".." :: rest => resolveParts done.tail rest
  | part :: rest => resolveParts (part :: done) rest

/-- The parts of the path. -/
def pathParts (target : String) : List String :=
  let path := target.toList.takeWhile fun c => c ≠ '?' && c ≠ '#'
  let parts := (String.ofList path).splitOn "/"
  (resolveParts [] parts).map fun part => String.ofList (unescapePercent part.toList)

/-- The path of a target, without slashes at its end. -/
def pathOf (target : String) : String :=
  let path := ("/".intercalate (pathParts target)).toList
  "/" ++ String.ofList ((path.dropWhile (· = '/')).reverse.dropWhile (· = '/')).reverse

end ExamFilter.Web
