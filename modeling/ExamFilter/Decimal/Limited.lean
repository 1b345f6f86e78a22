/-!
# Decimals of limited precision

A decimal that is computed keeps no more than its 28 leading digits. The last digit kept is the
nearest one, and of two that are equally near the even one.
-/
namespace ExamFilter.Decimal

/-- The greatest number of digits of a computed decimal. -/
def precision : Nat := 28

/-- The quotient nearest to `n / d`; of two that are equally near the even one. -/
def nearestQuotient (n d : Nat) : Nat :=
  let q := n / d
  let r := n % d
  if 2 * r < d || 2 * r = d && q % 2 = 0 then q else q + 1

/-- The number `coefficient / 10 ^ places`. -/
structure Limited where
  coefficient : Nat
  places : Nat
  deriving DecidableEq, Repr

namespace Limited

/-- The number with its leading digits alone, as many as the precision allows. -/
def rounded (x : Limited) : Limited :=
  let excess := (Nat.toDigits 10 x.coefficient).length - precision
  ⟨nearestQuotient x.coefficient (Nat.pow 10 excess) * Nat.pow 10 (excess - x.places), x.places - excess⟩

def times (x : Limited) (n : Nat) : Limited := rounded ⟨n * x.coefficient, x.places⟩

/-- The whole number below. -/
def whole (x : Limited) : Nat := x.coefficient / Nat.pow 10 x.places

end Limited

end ExamFilter.Decimal
