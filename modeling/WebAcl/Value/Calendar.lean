namespace WebAcl

structure Date where
  year : Nat
  month : Nat
  day : Nat
  deriving DecidableEq, Repr

/-- A day and a time of day. The offset from UTC, in minutes, is absent for a local time. -/
structure Timestamp where
  date : Date
  hour : Nat
  minute : Nat
  second : Nat
  microsecond : Nat
  offset : Option Int
  deriving DecidableEq, Repr

def paddedDigits (width n : Nat) : String :=
  let ds := Nat.toDigits 10 n
  String.ofList (List.replicate (width - ds.length) '0' ++ ds)

def Date.isLeapYear (year : Nat) : Bool :=
  year % 4 == 0 && (year % 100 != 0 || year % 400 == 0)

def Date.daysInMonth (year month : Nat) : Nat :=
  if month = 2 then (if isLeapYear year then 29 else 28)
  else if month = 4 ∨ month = 6 ∨ month = 9 ∨ month = 11 then 30
  else 31

def Date.daysBeforeYear (year : Nat) : Nat :=
  let y := year - 1
  y * 365 + y / 4 - y / 100 + y / 400

def Date.ordinal (d : Date) : Nat :=
  let before := (List.range (d.month - 1)).map fun m ↦ daysInMonth d.year (m + 1)
  daysBeforeYear d.year + before.foldl (· + ·) 0 + d.day

def Date.toText (d : Date) : String :=
  paddedDigits 4 d.year ++ "-" ++ paddedDigits 2 d.month ++ "-" ++ paddedDigits 2 d.day

def offsetText (minutes : Int) : String :=
  (if minutes < 0 then "-" else "+") ++ paddedDigits 2 (minutes.natAbs / 60) ++ ":" ++
    paddedDigits 2 (minutes.natAbs % 60)

def Timestamp.clockText (t : Timestamp) : String :=
  paddedDigits 2 t.hour ++ ":" ++ paddedDigits 2 t.minute ++ ":" ++ paddedDigits 2 t.second ++
    (if t.microsecond = 0 then "" else "." ++ paddedDigits 6 t.microsecond)

def Timestamp.toText (t : Timestamp) : String :=
  t.date.toText ++ " " ++ t.clockText ++ (t.offset.map offsetText).getD ""

/-- The form used in JSON documents, where UTC is written `Z`. -/
def Timestamp.toIsoText (t : Timestamp) : String :=
  let zone := match t.offset with
    | none => ""
    | some 0 => "Z"
    | some m => offsetText m
  t.date.toText ++ "T" ++ t.clockText ++ zone

/-- Microseconds since the first day of year 1, in UTC if the offset is known. -/
def Timestamp.instant (t : Timestamp) : Int :=
  let minutes : Int := (t.date.ordinal * 24 + t.hour : Nat) * 60 + t.minute - t.offset.getD 0
  (minutes * 60 + t.second) * 1000000 + t.microsecond

/-- Two times are the same if both are local and agree, or if both have an offset and denote one
instant. -/
def Timestamp.same (s t : Timestamp) : Bool :=
  s.offset.isSome == t.offset.isSome && s.instant == t.instant

def Date.inspect (d : Date) : String :=
  "datetime.date(" ++ ", ".intercalate ([d.year, d.month, d.day].map toString) ++ ")"

def Timestamp.inspect (t : Timestamp) : String :=
  let tail :=
    if t.microsecond ≠ 0 then [t.second, t.microsecond]
    else if t.second ≠ 0 then [t.second]
    else []
  let fields := [t.date.year, t.date.month, t.date.day, t.hour, t.minute] ++ tail
  let zone := match t.offset with
    | none => []
    | some 0 => ["tzinfo=datetime.timezone.utc"]
    | some m =>
      let days := if m < 0 then "days=-1, " else ""
      let seconds := (m * 60) % 86400
      ["tzinfo=datetime.timezone(datetime.timedelta(" ++ days ++ "seconds=" ++ toString seconds ++
        "))"]
  "datetime.datetime(" ++ ", ".intercalate (fields.map toString ++ zone) ++ ")"

end WebAcl
