/-! Double precision numbers as a sign, a whole number and a power of two. -/

namespace DocComment.Number

/-- A finite number: the magnitude is `mantissa * 2 ^ exponent`. -/
structure Binary where
  negative : Bool
  mantissa : Nat
  exponent : Int
  /-- The next number below is half as far away as the next one above. -/
  closeBelow : Bool

inductive Reading where
  | finite (b : Binary)
  | infinite (negative : Bool)
  | undefined

def read (x : Float) : Reading :=
  let bits := x.toBits.toNat
  let negative := bits / Nat.pow 2 63 == 1
  let field : Nat := bits / Nat.pow 2 52 % Nat.pow 2 11
  let fraction := bits % Nat.pow 2 52
  if field = 2047 then
    if fraction = 0 then .infinite negative else .undefined
  else if field = 0 then .finite ⟨negative, fraction, -1074, false⟩
  else
    .finite
      ⟨negative, Nat.pow 2 52 + fraction, (field : Int) - 1075, fraction == 0 && field != 1⟩

/-- The whole number that `x` equals, if there is one. -/
def whole? (x : Float) : Option Int :=
  match read x with
  | .finite b =>
    let size : Option Nat :=
      if 0 ≤ b.exponent then some (b.mantissa * Nat.pow 2 b.exponent.toNat)
      else
        let unit := Nat.pow 2 (-b.exponent).toNat
        if b.mantissa % unit = 0 then some (b.mantissa / unit) else none
    size.map fun n => if b.negative then -(n : Int) else n
  | _ => none

end DocComment.Number
