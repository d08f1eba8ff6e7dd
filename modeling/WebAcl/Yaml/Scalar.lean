import WebAcl.Number.Literal
import WebAcl.Text.Base64
import WebAcl.Text.LetterCase
import WebAcl.Text.Quoted
import WebAcl.Value.Basic
import WebAcl.Yaml.Cursor
import WebAcl.Yaml.Tag

namespace WebAcl.Yaml

open Number Text

def badValue {α : Type} (message : String) : Except Fault α :=
  throw (.crash (.badValue message))

def integerIn (base : Nat) (cs : List Char) : Except Fault Int :=
  match readInteger base cs with
  | .ok i => return i
  | .error f => badValue (f.message base cs)

def floatIn (cs : List Char) : Except Fault Binary64 :=
  match readFloat? cs with
  | some x => return x
  | none => badValue ("could not convert string to float: " ++ quoted (String.ofList cs))

def signed (text : String) : Except Fault (Bool × List Char) :=
  match text.toList.filter (· != '_') with
  | [] => throw (.crash .noSuchIndex)
  | cs => return takeSign cs

def integerValue (text : String) : Except Fault Int := do
  let (negative, cs) ← signed text
  let n ← match cs with
    | [] => throw (.crash .noSuchIndex)
    | ['0'] => pure 0
    | '0' :: 'b' :: rest => integerIn 2 rest
    | '0' :: 'x' :: rest => integerIn 16 rest
    | '0' :: _ => integerIn 8 cs
    | _ =>
      if cs.contains ':' then do
        let parts ← (cs.splitOn ':').mapM (integerIn 10)
        pure (parts.foldl (fun n d ↦ n * 60 + d) 0)
      else integerIn 10 cs
  return if negative then -n else n

/-- The sum of parts to the base 60, the lowest first. The place of a part must be finite. -/
def sexagesimal (base : Nat) (sum : Binary64) : List Binary64 → Except Fault Binary64
  | [] => return sum
  | x :: xs =>
    match Binary64.ofInt base with
    | .infinite _ => throw (.crash (.overflow "int too large to convert to float"))
    | place => sexagesimal (base * 60) (sum.add (x.mul place)) xs

def floatValue (text : String) : Except Fault Binary64 := do
  let (negative, cs) ← signed (lower text)
  let word := String.ofList cs
  if word = ".nan" then return .nan
  let x ←
    if word = ".inf" then pure (.infinite false)
    else if cs.contains ':' then do
      let parts ← (cs.splitOn ':').mapM floatIn
      sexagesimal 1 (.zero false) parts.reverse
    else floatIn cs
  return if negative then x.neg else x

def zoneOffset (negative : Bool) (hour minute : List Char) : Except Fault Int := do
  let size : Int := numeral 10 hour * 60 + numeral 10 minute
  let minutes := if negative then -size else size
  if 1440 ≤ size then
    let seconds := (minutes % 1440) * 60
    badValue ("offset must be a timedelta strictly between -timedelta(hours=24) and " ++
      s!"timedelta(hours=24), not datetime.timedelta(days={minutes / 1440}" ++
      (if seconds = 0 then "" else s!", seconds={seconds}") ++ ").")
  return minutes

def checkDate (d : Date) : Except Fault Date := do
  if d.year = 0 then badValue "year 0 is out of range"
  if d.month = 0 ∨ 12 < d.month then badValue "month must be in 1..12"
  if d.day = 0 ∨ Date.daysInMonth d.year d.month < d.day then
    badValue "day is out of range for month"
  return d

def timestampValue (text : String) : Except Fault Value := do
  match timestampText? (withoutLastBreak text.toList) with
  | none => throw (.crash (.noSuchPart "NoneType" "groupdict"))
  | some t =>
    let date : Date := ⟨numeral 10 t.year, numeral 10 t.month, numeral 10 t.day⟩
    match t.clock with
    | none => return .date (← checkDate date)
    | some c =>
      let offset ← match c.zone with
        | none => pure none
        | some none => pure (some 0)
        | some (some (negative, hour, minute)) =>
          (zoneOffset negative hour minute).map some
      let date ← checkDate date
      let hour := numeral 10 c.hour
      let minute := numeral 10 c.minute
      let second := numeral 10 c.second
      if 24 ≤ hour then badValue "hour must be in 0..23"
      if 60 ≤ minute then badValue "minute must be in 0..59"
      if 60 ≤ second then badValue "second must be in 0..59"
      let fraction := c.fraction.take 6
      let microsecond := numeral 10 (fraction ++ List.replicate (6 - fraction.length) '0')
      return .timestamp ⟨date, hour, minute, second, microsecond, offset⟩

def truthValue (text : String) : Except Fault Bool :=
  let word := lower text
  if ["yes", "true", "on"].contains word then return true
  else if ["no", "false", "off"].contains word then return false
  else throw (.crash (.noSuchKey word))

def binaryValue (text : String) : Except Fault (List UInt8) :=
  if text.toList.all (·.toNat < 0x80) then
    match decodeBase64? text.toList with
    | some bytes => return bytes
    | none => throw .malformed
  else throw .malformed

def scalarValue (tag : Tag) (text : String) : Except Fault Value :=
  match tag with
  | .str => return .str text
  | .bool => return .bool (← truthValue text)
  | .int => return .int (← integerValue text)
  | .float => return .float (← floatValue text)
  | .null => return .null
  | .binary => return .bytes (← binaryValue text)
  | .timestamp => timestampValue text
  | .list | .map | .set | .orderedMap | .pairs | .merge | .value | .unknown => throw .malformed

end WebAcl.Yaml
