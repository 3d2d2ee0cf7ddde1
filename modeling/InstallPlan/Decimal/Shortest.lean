import InstallPlan.Decimal.Binary64

/-!
# Decimal — Shortest text of a number

The decimal text of a binary floating-point number: the fewest digits that
read back as the number, of those the nearest to it, a tie to the even digit.
The layout is positional while the decimal point stays within sixteen digits
of the first one and at most four zeros follow it; elsewhere it is scientific
with a signed exponent.
-/

namespace InstallPlan

namespace Binary64

/-- Compares `c · 10 ^ p` with `a · 2 ^ b`. -/
def compareScaled (c : Nat) (p : Int) (a : Nat) (b : Int) : Ordering :=
  compare (c * Nat.pow 10 p.toNat * Nat.pow 2 (-b).toNat)
    (a * Nat.pow 2 b.toNat * Nat.pow 10 (-p).toNat)

/-- Whether `c · 10 ^ p` lies among the reals that round to the number. The ends
of that interval belong to it exactly when the mantissa is even; below a power
of two it reaches only half as far. -/
def readsBack (x : Binary64) (c : Nat) (p : Int) : Bool :=
  let reach := if x.mantissa = mantissaBound / 2 ∧ minExponent < x.exponent then 1 else 2
  let low := compareScaled c p (4 * x.mantissa - reach) (x.exponent - 2)
  let high := compareScaled c p (4 * x.mantissa + 2) (x.exponent - 2)
  if x.mantissa % 2 = 0 then low ≠ .lt ∧ high ≠ .gt else low = .gt ∧ high = .lt

/-- The position of the decimal point: the least `k` with the value below
`10 ^ k`. -/
def magnitude (x : Binary64) : Int :=
  let (num, den) := x.quotient
  if den ≤ num then (Nat.toDigits 10 (num / den)).length
  else 1 - (((List.range 400).find? fun j => den ≤ num * Nat.pow 10 j).getD 0 : Nat)

/-- The neighbour on the grid of `n` digits that reads back, the nearer one first. -/
def onGrid? (x : Binary64) (n : Nat) : Option (Nat × Int) :=
  let p := x.magnitude - n
  let (num, den) := x.quotient
  let num := num * Nat.pow 10 (-p).toNat
  let den := den * Nat.pow 10 p.toNat
  let near := roundHalfEven num den
  let far := if near = num / den then near + 1 else num / den
  if x.readsBack near p then some (near, p)
  else if x.readsBack far p then some (far, p)
  else none

/-- Drops the zeros at the end of the digits. -/
def trimZeros : Nat → Nat → Int → Nat × Int
  | 0, c, p => (c, p)
  | steps + 1, c, p => if c ≠ 0 ∧ c % 10 = 0 then trimZeros steps (c / 10) (p + 1) else (c, p)

/-- The digits of the shortest decimal that reads back, and the power of ten of
the last of them. -/
def shortest (x : Binary64) : Nat × Int :=
  let (c, p) := ((List.range' 1 17).findSome? x.onGrid?).getD (0, 0)
  trimZeros 20 c p

/-- The decimal text of a number. -/
def text (x : Binary64) : String :=
  let sign := if x.negative then "-" else ""
  if x.isZero then sign ++ "0.0"
  else
    let (c, p) := x.shortest
    let digits := Nat.toDigits 10 c
    let point := (digits.length : Int) + p
    let body :=
      if 0 ≤ p ∧ point ≤ 16 then
        digits ++ List.replicate p.toNat '0' ++ ['.', '0']
      else if 0 < point ∧ point ≤ 16 then
        digits.take point.toNat ++ '.' :: digits.drop point.toNat
      else if -5 < point ∧ point ≤ 0 then
        '0' :: '.' :: List.replicate (-point).toNat '0' ++ digits
      else
        let exponent := point - 1
        let mark := if exponent < 0 then ['e', '-'] else ['e', '+']
        let fraction := if digits.length = 1 then [] else '.' :: digits.drop 1
        digits.take 1 ++ fraction ++ mark ++ Nat.toDigits 10 exponent.natAbs
    sign ++ String.ofList body

end Binary64

end InstallPlan
