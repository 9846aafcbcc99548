/-! Reading UTF-16 in either order of bytes. -/

namespace DocComment.Text.Utf16

/-- Two bytes as a unit. -/
def unit (bigEndian : Bool) (a b : UInt8) : Nat :=
  if bigEndian then 256 * a.toNat + b.toNat else 256 * b.toNat + a.toNat

def units? (bigEndian : Bool) : List UInt8 → Option (List Nat)
  | [] => some []
  | [_] => none
  | a :: b :: rest => (units? bigEndian rest).map (unit bigEndian a b :: ·)

def isHigh (n : Nat) : Bool := 0xD800 ≤ n && n < 0xDC00

def isLow (n : Nat) : Bool := 0xDC00 ≤ n && n < 0xE000

/-- A high surrogate must be followed by a low one, and a low one cannot stand
alone. -/
def ofUnits? : List Nat → Option (List Char)
  | [] => some []
  | high :: rest =>
    if isHigh high then
      match rest with
      | low :: rest =>
        if isLow low then
          (ofUnits? rest).map
            (Char.ofNat (0x10000 + (high - 0xD800) * 0x400 + (low - 0xDC00)) :: ·)
        else none
      | [] => none
    else if isLow high then none
    else (ofUnits? rest).map (Char.ofNat high :: ·)

def decode? (bigEndian : Bool) (bytes : List UInt8) : Option (List Char) :=
  (units? bigEndian bytes).bind ofUnits?

end DocComment.Text.Utf16
