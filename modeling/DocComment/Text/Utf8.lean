/-! Reading UTF-8. Only the shortest form of a character counts, and surrogates
are no characters. -/

namespace DocComment.Text.Utf8

/-- The low six bits of a byte that continues a character. -/
def tail? (b : UInt8) : Option Nat :=
  if 0x80 ≤ b.toNat && b.toNat < 0xC0 then some (b.toNat - 0x80) else none

/-- A character that takes at least `low` to be written in so many bytes. -/
def character? (low n : Nat) : Option Char :=
  if low ≤ n && (n < 0xD800 || (0xE000 ≤ n && n < 0x110000)) then some (Char.ofNat n) else none

/-- The first character of some bytes and how many of them it takes. -/
def first? : List UInt8 → Option (Char × Nat)
  | [] => none
  | b :: rest =>
    let n := b.toNat
    if n < 0x80 then some (Char.ofNat n, 1)
    else
      match n / 16, rest with
      | 0xC, c :: _ | 0xD, c :: _ => do
        let c ← tail? c
        return (← character? 0x80 (n % 32 * 64 + c), 2)
      | 0xE, c :: d :: _ => do
        let c ← tail? c
        let d ← tail? d
        return (← character? 0x800 ((n % 16 * 64 + c) * 64 + d), 3)
      | 0xF, c :: d :: e :: _ => do
        let c ← tail? c
        let d ← tail? d
        let e ← tail? e
        return (← character? 0x10000 (((n % 16 * 64 + c) * 64 + d) * 64 + e), 4)
      | _, _ => none

/-- The characters that the bytes begin with, and the bytes from the first one on
that begins no character. The first argument counts the bytes of a character
that has been read. -/
def readFrom : Nat → List UInt8 → List Char × List UInt8
  | _, [] => ([], [])
  | skip + 1, _ :: rest => readFrom skip rest
  | 0, b :: rest =>
    match first? (b :: rest) with
    | none => ([], b :: rest)
    | some (c, length) =>
      let (cs, left) := readFrom (length - 1) rest
      (c :: cs, left)

def read (bytes : List UInt8) : List Char × List UInt8 := readFrom 0 bytes

/-- The text of bytes that hold nothing but characters. -/
def decode? (bytes : List UInt8) : Option (List Char) :=
  match read bytes with
  | (cs, []) => some cs
  | _ => none

end DocComment.Text.Utf8
