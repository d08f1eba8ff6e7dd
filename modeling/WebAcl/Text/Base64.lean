namespace WebAcl.Text

def base64Digit? (c : Char) : Option Nat :=
  if 'A' ≤ c && c ≤ 'Z' then some (c.toNat - 0x41)
  else if 'a' ≤ c && c ≤ 'z' then some (c.toNat - 0x61 + 26)
  else if c.isDigit then some (c.toNat - 0x30 + 52)
  else if c = '+' then some 62
  else if c = '/' then some 63
  else none

/-- Reads bytes from groups of four digits, of which `phase` have been read and `pads` padding
characters since; `carry` holds the bits not yet written. A group left open has no bytes. -/
def readBase64 (phase pads carry : Nat) : List Char → Option (List UInt8)
  | [] => if phase = 0 then some [] else none
  | c :: rest =>
    if c = '=' then
      if phase < 2 then readBase64 phase pads carry rest
      else if 4 ≤ phase + pads + 1 then some []
      else readBase64 phase (pads + 1) carry rest
    else match base64Digit? c with
      | none => readBase64 phase pads carry rest
      | some d =>
        match phase with
        | 0 => readBase64 1 0 d rest
        | 1 => (readBase64 2 0 (d % 16) rest).map (UInt8.ofNat (carry * 4 + d / 16) :: ·)
        | 2 => (readBase64 3 0 (d % 4) rest).map (UInt8.ofNat (carry * 16 + d / 4) :: ·)
        | _ => (readBase64 0 0 0 rest).map (UInt8.ofNat (carry * 64 + d) :: ·)

def decodeBase64? (cs : List Char) : Option (List UInt8) := readBase64 0 0 0 cs

end WebAcl.Text
