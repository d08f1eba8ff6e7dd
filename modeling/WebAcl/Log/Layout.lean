import WebAcl.Log.Field
import WebAcl.Problem

namespace WebAcl.Log.Layout

open Text

/-- Letters that may end a field, in any case; two more characters have such a letter as their other
case. -/
def isConversion (c : Char) : Bool :=
  "diouxefgcrsa%".toList.contains c.toLower || [0x130, 0x131, 0x17f].contains c.toNat

def takeSize (cs : List Char) : List Char × List Char :=
  match cs with
  | '*' :: rest => (['*'], rest)
  | _ => cs.span fun c ↦ (digitValue? c).isSome

def startsField : List Char → Bool
  | '(' :: cs =>
    let (name, rest) := cs.span isWordPart
    match rest with
    | ')' :: rest =>
      let (_, rest) := takeSize (rest.dropWhile Field.isFlag)
      let (precision, rest) := match rest with
        | '.' :: rest => takeSize rest
        | _ => (['0'], rest)
      !name.isEmpty && !precision.isEmpty && rest.head?.any isConversion
    | _ => false
  | _ => false

def hasField : List Char → Bool
  | [] => false
  | c :: cs => (c == '%' && startsField cs) || hasField cs

/-- A layout without a field would show nothing of a record. -/
def check (layout : String) : Except Crash Unit :=
  if hasField layout.toList then .ok ()
  else .error (.badValue s!"Invalid format '{layout}' for '%' style")

def applyFrom (time : String) (r : Record) : (fuel : Nat) → List Char → Option (List Char)
  | 0, _ => none
  | _ + 1, [] => some []
  | fuel + 1, '%' :: '%' :: cs => (applyFrom time r fuel cs).map ('%' :: ·)
  | fuel + 1, '%' :: cs => do
    let (f, rest) ← Field.read? cs
    let shown ← f.show? (← Part.ofRecord? time r f.name)
    return shown ++ (← applyFrom time r fuel rest)
  | fuel + 1, c :: cs => (applyFrom time r fuel cs).map (c :: ·)

def line? (layout time : String) (r : Record) : Option String :=
  (applyFrom time r (layout.length + 1) layout.toList).map String.ofList

def brief : String := "%(message)s"

def full : String := "%(asctime)s - %(name)s - %(levelname)s - %(message)s"

def basic : String := "%(levelname)s:%(name)s:%(message)s"

def styles : String :=
  let entry := fun style name layout ↦ s!"'{style}': (<class 'logging.{name}'>, '{layout}')"
  "\x7b" ++ ", ".intercalate [
    entry "%" "PercentStyle" basic,
    entry "\x7b" "StrFormatStyle" "\x7blevelname\x7d:\x7bname\x7d:\x7bmessage\x7d",
    entry "$" "StringTemplateStyle" "$\x7blevelname\x7d:$\x7bname\x7d:$\x7bmessage\x7d"] ++
    "\x7d"

end WebAcl.Log.Layout
