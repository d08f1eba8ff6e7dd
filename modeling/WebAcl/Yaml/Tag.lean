import WebAcl.Text.Digit

namespace WebAcl.Yaml

open Text

inductive Tag where
  | str
  | bool
  | int
  | float
  | null
  | binary
  | timestamp
  | list
  | map
  | set
  | orderedMap
  | pairs
  | merge
  | value
  | unknown
  deriving DecidableEq, Repr

def tagRoot : String := "tag:yaml.org,2002:"

def Tag.known : List (String × Tag) := [
  ("str", .str), ("bool", .bool), ("int", .int), ("float", .float), ("null", .null),
  ("binary", .binary), ("timestamp", .timestamp), ("seq", .list), ("map", .map), ("set", .set),
  ("omap", .orderedMap), ("pairs", .pairs), ("merge", .merge), ("value", .value)]

def Tag.named (name : String) : Tag :=
  ((known.find? fun t ↦ tagRoot ++ t.1 == name).map (·.2)).getD .unknown

def afterSign : List Char → List Char
  | '+' :: rest => rest
  | '-' :: rest => rest
  | cs => cs

def isDigitOrBar (c : Char) : Bool := c.isDigit || c == '_'

def isBarredNumber (first : Char → Bool) : List Char → Bool
  | [] => false
  | c :: rest => first c && rest.all isDigitOrBar

def isSixtieth : List Char → Bool
  | [c] => c.isDigit
  | [c, d] => '0' ≤ c && c ≤ '5' && d.isDigit
  | _ => false

def isSexagesimal (first : Char → Bool) (cs : List Char) : Bool :=
  match cs.splitOn ':' with
  | n :: part :: parts => isBarredNumber first n && (part :: parts).all isSixtieth
  | _ => false

def isNonzeroDigit (c : Char) : Bool := '1' ≤ c && c ≤ '9'

def looksInteger (cs : List Char) : Bool :=
  match afterSign cs with
  | '0' :: 'b' :: rest => !rest.isEmpty && rest.all fun c ↦ isBinaryDigit c || c == '_'
  | '0' :: 'x' :: rest => !rest.isEmpty && rest.all fun c ↦ isHexDigit c || c == '_'
  | '0' :: rest => rest.all fun c ↦ isOctalDigit c || c == '_'
  | cs => isBarredNumber isNonzeroDigit cs || isSexagesimal isNonzeroDigit cs

def looksExponent : List Char → Bool
  | [] => true
  | e :: s :: rest =>
    (e == 'e' || e == 'E') && (s == '+' || s == '-') && !rest.isEmpty && rest.all Char.isDigit
  | _ => false

def looksFloat (cs : List Char) : Bool :=
  let body := afterSign cs
  match body with
  | '.' :: rest =>
    [".inf", ".Inf", ".INF"].contains (String.ofList body) ||
      [".nan", ".NaN", ".NAN"].contains (String.ofList cs) ||
      (body.length == cs.length && isBarredNumber Char.isDigit (rest.takeWhile isDigitOrBar) &&
        looksExponent (rest.dropWhile isDigitOrBar))
  | _ =>
    let whole := body.takeWhile (· != '.')
    match body.drop whole.length with
    | [] => false
    | _ :: rest =>
      (isBarredNumber Char.isDigit whole && looksExponent (rest.dropWhile isDigitOrBar)) ||
        (isSexagesimal Char.isDigit whole && rest.all isDigitOrBar)

/-- The parts of a written timestamp, as digits. A day alone has no clock. The zone is absent, empty
for `Z`, or an offset. -/
structure ClockText where
  hour : List Char
  minute : List Char
  second : List Char
  fraction : List Char
  zone : Option (Option (Bool × List Char × List Char))

structure TimestampText where
  year : List Char
  month : List Char
  day : List Char
  clock : Option ClockText

def takeDigits? (least most : Nat) (cs : List Char) : Option (List Char × List Char) :=
  let ds := (cs.take most).takeWhile Char.isDigit
  if ds.length < least then none else some (ds, cs.drop ds.length)

def takeChar? (c : Char) : List Char → Option (List Char)
  | [] => none
  | d :: rest => if c = d then some rest else none

def isTabOrSpace (c : Char) : Bool := c == ' ' || c == '\t'

def zoneText? (cs : List Char) : Option (Option (Option (Bool × List Char × List Char))) :=
  if cs.isEmpty then some none
  else match cs.dropWhile isTabOrSpace with
    | ['Z'] => some (some none)
    | s :: rest =>
      if s = '+' ∨ s = '-' then do
        let (hour, rest) ← takeDigits? 1 2 rest
        match rest with
        | [] => return some (some (s == '-', hour, []))
        | ':' :: rest =>
          let (minute, rest) ← takeDigits? 2 2 rest
          if rest.isEmpty then return some (some (s == '-', hour, minute)) else none
        | _ => none
      else none
    | [] => none

def clockText? (cs : List Char) : Option ClockText := do
  let (hour, cs) ← takeDigits? 1 2 cs
  let cs ← takeChar? ':' cs
  let (minute, cs) ← takeDigits? 2 2 cs
  let cs ← takeChar? ':' cs
  let (second, cs) ← takeDigits? 2 2 cs
  let (fraction, cs) := match cs with
    | '.' :: rest => (rest.takeWhile Char.isDigit, rest.dropWhile Char.isDigit)
    | _ => ([], cs)
  let zone ← zoneText? cs
  return ⟨hour, minute, second, fraction, zone⟩

def timestampText? (cs : List Char) : Option TimestampText := do
  let (year, cs) ← takeDigits? 4 4 cs
  let cs ← takeChar? '-' cs
  let (month, cs) ← takeDigits? 1 2 cs
  let cs ← takeChar? '-' cs
  let (day, cs) ← takeDigits? 1 2 cs
  match cs with
  | [] => return ⟨year, month, day, none⟩
  | c :: rest =>
    let clock ←
      if c = 'T' ∨ c = 't' then clockText? rest
      else if isTabOrSpace c then clockText? (rest.dropWhile isTabOrSpace)
      else none
    return ⟨year, month, day, some clock⟩

/-- A day alone looks like a timestamp only if it is written with ten characters. -/
def looksTimestamp (cs : List Char) : Bool :=
  match timestampText? cs with
  | some t => t.clock.isSome || cs.length == 10
  | none => false

def truthWords : List String := [
  "yes", "Yes", "YES", "no", "No", "NO", "true", "True", "TRUE", "false", "False", "FALSE",
  "on", "On", "ON", "off", "Off", "OFF"]

def nullWords : List String := ["~", "null", "Null", "NULL", ""]

/-- Marks of the language itself, which stand for no value. -/
def markWords : List String := ["!", "&", "*"]

def withoutLastBreak (cs : List Char) : List Char :=
  match cs.reverse with
  | '\n' :: rest => rest.reverse
  | _ => cs

def Tag.ofPlain (text : String) : Tag :=
  let cs := if text = "\n" then ['\n'] else withoutLastBreak text.toList
  let word := String.ofList cs
  if truthWords.contains word then .bool
  else if looksFloat cs then .float
  else if looksInteger cs then .int
  else if word = "<<" then .merge
  else if nullWords.contains word then .null
  else if looksTimestamp cs then .timestamp
  else if word = "=" then .value
  else if markWords.contains word then .unknown
  else .str

end WebAcl.Yaml
