import WebAcl.Text.Digit
import WebAcl.Text.Interval

namespace WebAcl.Text

def initialSounds : List String := [
  "G", "GG", "N", "D", "DD", "R", "M", "B", "BB", "S", "SS", "", "J", "JJ", "C", "K", "T", "P", "H"]

def vowelSounds : List String := [
  "A", "AE", "YA", "YAE", "EO", "E", "YEO", "YE", "O", "WA", "WAE", "OE", "YO", "U", "WEO", "WE",
  "WI", "YU", "EU", "YI", "I"]

def finalSounds : List String := [
  "", "G", "GG", "GS", "N", "NJ", "NH", "D", "L", "LG", "LM", "LB", "LS", "LT", "LP", "LH", "M",
  "B", "BS", "S", "SS", "NG", "J", "C", "K", "T", "P", "H"]

def longestSound (sounds : List String) (cs : List Char) : Option (Nat × List Char) :=
  let starts := sounds.zipIdx.filterMap fun (s, i) ↦ (s.toList.isPrefixOf? cs).map (i, ·)
  starts.foldl (fun best next ↦
    if best.all (next.2.length < ·.2.length) then some next else best) none

/-- A syllable is an initial sound, a vowel and a final sound, each as long as possible. -/
def syllableNamed? (cs : List Char) : Option Nat := do
  let (initial, cs) ← longestSound initialSounds cs
  let (vowel, cs) ← longestSound vowelSounds cs
  let (final, cs) ← longestSound finalSounds cs
  if cs.isEmpty then some (0xac00 + (initial * 21 + vowel) * 28 + final) else none

def ideographIntervals : Intervals := [
  (0x3400, 0x4dbf), (0x4e00, 0x9fff), (0x20000, 0x2a6df), (0x2a700, 0x2b738), (0x2b740, 0x2b81d),
  (0x2b820, 0x2cea1), (0x2ceb0, 0x2ebe0), (0x30000, 0x3134a)]

/-- An ideograph is named by four or five upper case digits. -/
def ideographNamed? (cs : List Char) : Option Nat :=
  let code := numeral 16 cs
  if (cs.length = 4 ∨ cs.length = 5) && cs.all (fun c ↦ isHexDigit c && !c.isLower) &&
    ideographIntervals.has code then some code
  else none

def selectorNamed? (cs : List Char) : Option Nat :=
  ((List.range 256).find? fun n ↦ Nat.toDigits 10 (n + 1) == cs).map fun n ↦
    if n < 16 then 0xfe00 + n else 0xe0100 + (n - 16)

end WebAcl.Text
