import DocComment.Number.Shortest

/-! How a double is written: which numbers are written without an exponent, and
what the exponent looks like. -/

namespace DocComment.Number

structure Style where
  /-- Places of the decimal point for which no exponent is written. -/
  least : Int
  most : Int
  plus : Bool
  width : Nat
  infinite : Bool → String
  undefined : String

def zeros (n : Nat) : List Char := List.replicate n '0'

def Style.exponent (s : Style) (e : Int) : List Char :=
  let digits := Nat.toDigits 10 e.natAbs
  let sign := if e < 0 then ['-'] else if s.plus then ['+'] else []
  'e' :: sign ++ zeros (s.width - digits.length) ++ digits

def Style.magnitude (s : Style) (digits : List Char) (point : Int) : List Char :=
  if s.least ≤ point && point ≤ s.most then
    if point ≤ 0 then '0' :: '.' :: zeros (-point).toNat ++ digits
    else
      let split := point.toNat
      if digits.length ≤ split then digits ++ zeros (split - digits.length) ++ ['.', '0']
      else digits.take split ++ '.' :: digits.drop split
  else
    match digits with
    | [] => s.exponent (point - 1)
    | [d] => d :: s.exponent (point - 1)
    | d :: more => d :: '.' :: more ++ s.exponent (point - 1)

def Style.write (s : Style) (x : Float) : String :=
  match read x with
  | .undefined => s.undefined
  | .infinite negative => s.infinite negative
  | .finite b =>
    let sign := if b.negative then ['-'] else []
    if b.mantissa = 0 then String.ofList (sign ++ ['0', '.', '0'])
    else
      let (digits, point) := b.interval.shortest.layout
      String.ofList (sign ++ s.magnitude digits point)

/-- The display form: `1e-05`, `1e+16`. -/
def display : Style where
  least := -3
  most := 16
  plus := true
  width := 2
  infinite := fun negative => if negative then "-inf" else "inf"
  undefined := "nan"

/-- The form in log lines and problem reports, which differs from the display
form for numbers that are not finite. -/
def report : Style :=
  { display with
    infinite := fun negative => if negative then "-Infinity" else "Infinity"
    undefined := "NaN" }

/-- The form in encoded doclets: `1e-6`, `1e16`, and null for numbers that are
not finite. -/
def compact : Style where
  least := -4
  most := 16
  plus := false
  width := 1
  infinite := fun _ => "null"
  undefined := "null"

end DocComment.Number
