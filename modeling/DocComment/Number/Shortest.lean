import DocComment.Number.Binary64

/-! The fewest decimal digits that read back as a given double. A decimal reads
back when it lies in the interval of reals that round to the double, and for
each number of digits only the two neighbours of the double on that decimal
grid have to be tried. -/

namespace DocComment.Number

/-- `digits * 10 ^ exponent`. -/
structure Decimal where
  digits : Nat
  exponent : Int

/-- The reals that round to a double, as multiples of `1 / unit`. -/
structure Interval where
  low : Nat
  value : Nat
  high : Nat
  unit : Nat
  closed : Bool

def Binary.interval (b : Binary) : Interval :=
  let up := (b.exponent - 2).toNat
  let scale := Nat.pow 2 up
  { low := (4 * b.mantissa - if b.closeBelow then 1 else 2) * scale
    value := 4 * b.mantissa * scale
    high := (4 * b.mantissa + 2) * scale
    unit := Nat.pow 2 (2 - b.exponent).toNat
    closed := b.mantissa % 2 == 0 }

/-- How many places the decimal point lies to the right of the first digit of a
positive number, that is the least `k` with `value / unit < 10 ^ k`. -/
def Interval.point (i : Interval) : Int :=
  if i.unit ≤ i.value then (Nat.toDigits 10 (i.value / i.unit)).length
  else
    match (List.range 400).find? fun j => i.unit ≤ i.value * Nat.pow 10 j with
    | some j => 1 - (j : Int)
    | none => -400

/-- The decimal nearest to the value on the grid of multiples of `10 ^ e`, if it
reads back. -/
def Interval.onGrid (i : Interval) (e : Int) : Option Decimal :=
  let step := i.unit * Nat.pow 10 e.toNat
  let scale := Nat.pow 10 (-e).toNat
  let below := i.value * scale / step
  let holds (n : Nat) : Bool :=
    if i.closed then i.low * scale ≤ n * step && n * step ≤ i.high * scale
    else i.low * scale < n * step && n * step < i.high * scale
  let twice := 2 * (i.value * scale)
  let middle := (2 * below + 1) * step
  let nearerBelow := twice < middle || (twice == middle && below % 2 == 0)
  if holds below && (nearerBelow || !holds (below + 1)) then some ⟨below, e⟩
  else if holds (below + 1) then some ⟨below + 1, e⟩
  else none

/-- Seventeen digits always suffice. -/
def Interval.shortest (i : Interval) : Decimal :=
  let point := i.point
  let found := (List.range 17).findSome? fun n : Nat => i.onGrid (point - (n + 1))
  found.getD ⟨i.value / i.unit, 0⟩

/-- The digits of a positive number without trailing zeros, and the place of the
decimal point counted from their beginning. -/
def Decimal.layout (d : Decimal) : List Char × Int :=
  let all := Nat.toDigits 10 d.digits
  let digits := (all.reverse.dropWhile (· == '0')).reverse
  (digits, all.length + d.exponent)

end DocComment.Number
