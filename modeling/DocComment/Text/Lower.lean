import DocComment.Text.CaseTable

/-! Lower-casing of any Unicode text. One letter has a small form of two
characters, and a capital sigma at the end of a word has a small form of its
own. -/

namespace DocComment.Text

def within (spans : List (Nat × Nat)) (c : Char) : Bool :=
  spans.any fun (low, high) => low ≤ c.toNat && c.toNat ≤ high

def CaseRun.holds (r : CaseRun) (n : Nat) : Bool :=
  r.first ≤ n && n ≤ r.last && (n - r.first) % r.step == 0

/-- The small form of a character on its own. -/
def lowerChar (c : Char) : List Char :=
  if c.toNat < 128 then [c.toLower]
  else if c.toNat = 0x130 then ['i', Char.ofNat 0x307]
  else
    match caseRuns.find? (·.holds c.toNat) with
    | some r => [Char.ofNat (c.toNat + r.shift).toNat]
    | none => [c]

def capitalSigma : Char := Char.ofNat 0x3A3
def smallSigma : Char := Char.ofNat 0x3C3
def finalSigma : Char := Char.ofNat 0x3C2

/-- Whether the nearest character that is not passed over is a letter with
case. -/
def meetsLetter (s : List Char) : Bool :=
  match s.dropWhile (within caseIgnorable) with
  | [] => false
  | c :: _ => within caseLetters c

/-- `before` holds the characters to the left, nearest first. -/
def lowerFrom (before : List Char) : List Char → List Char
  | [] => []
  | c :: rest =>
    let small :=
      if c = capitalSigma then
        if meetsLetter before && !meetsLetter rest then [finalSigma] else [smallSigma]
      else lowerChar c
    small ++ lowerFrom (c :: before) rest

def lower (s : String) : String := String.ofList (lowerFrom [] s.toList)

end DocComment.Text
