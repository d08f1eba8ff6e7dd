import WebAcl.Config.Issue
import WebAcl.Number.Literal
import WebAcl.Policy.Choice
import WebAcl.Text.LetterCase
import WebAcl.Text.Utf8

namespace WebAcl.Lax

open Number Text

def text : Value → Checked String
  | .str s => .valid s
  | .bytes bs =>
    match Utf8.decode? bs with
    | some s => .valid s
    | none => .fail .notUnicode
  | _ => .fail .notText

def heldText? (complaint : Issue.Complaint) : Value → Option (Checked String)
  | .str s => some (if holdsHalf s then .fail .notUnicode else .valid s)
  | .bytes bs => some (match Utf8.decode? bs with
    | some s => .valid s
    | none => .fail complaint)
  | _ => none

def dropLeadingZeros (cs : List Char) : Option (List Char) :=
  let rec after (last : Char) : List Char → Option (List Char)
    | [] => some [last]
    | c :: rest =>
      if c = '0' ∨ c = '_' then after c rest
      else if c.isDigit then some (c :: rest)
      else if c = '.' then some (last :: c :: rest)
      else none
  match cs with
  | '0' :: rest => after '0' rest
  | c :: rest => if c.isDigit then some (c :: rest) else none
  | [] => none

def dropZeroFraction (cs : List Char) : List Char :=
  let whole := cs.takeWhile (· != '.')
  match cs.drop whole.length with
  | '.' :: fraction => if !fraction.isEmpty && fraction.all (· == '0') then whole else cs
  | _ => cs

def hasDoubleUnderscore : List Char → Bool
  | '_' :: '_' :: _ => true
  | _ :: rest => hasDoubleUnderscore rest
  | [] => false

def dropUnderscores (cs : List Char) : List Char :=
  if cs.head? = some '_' ∨ cs.getLast? = some '_' ∨ hasDoubleUnderscore cs then cs
  else cs.filter (· != '_')

def takeMinus : List Char → Bool × List Char
  | '-' :: rest => (true, rest)
  | cs => (false, cs)

/-- A number in its plain form: without white space around it, without a plus, superfluous zeros,
a fraction of zeros and underscores. -/
def plainNumeral? (cs : List Char) : Option (List Char) :=
  let trimmed := trimBy isSpacing cs
  let unsigned := match trimmed with
    | '+' :: '-' :: _ => []
    | '+' :: rest => rest
    | cs => cs
  let (negative, digits) := takeMinus unsigned
  (dropLeadingZeros digits).map fun ds ↦
    let ds := dropUnderscores (dropZeroFraction ds)
    if negative then '-' :: ds else ds

def integerOfNumeral (cs : List Char) : Checked Int :=
  let (negative, unsigned) := takeMinus cs
  let ds := unsigned.takeWhile Char.isDigit
  let isPlain := ds.head? ≠ some '0'
  -- the length is looked at before whatever follows the digits, and a sign counts as one of them
  if isPlain ∧ digitLimit < ds.length + (if negative then 1 else 0) then .fail .integerTooLong
  else if ds.isEmpty ∨ ds.length ≠ unsigned.length ∨ ¬ isPlain ∧ ds.length ≠ 1 then
    .fail .notIntegerText
  else .valid (if negative then -(numeral 10 ds : Int) else numeral 10 ds)

def integerOfText (s : String) : Checked Int :=
  match integerOfNumeral s.toList with
  | .invalid [⟨[], .notIntegerText⟩] =>
    match plainNumeral? s.toList with
    | some cs => integerOfNumeral cs
    | none => .fail .notIntegerText
  | result => result

/-- Floats stand for integers of 64 bits only, and not for the least of them. -/
def integerOfFloat (x : Binary64) : Checked Int :=
  match x with
  | .finite .. =>
    match x.toInt? with
    | some i => if isShort i && isShort (i - 1) then .valid i else .fail .integerTooLong
    | none => .fail .fractional
  | _ => .fail .notFinite

def integer (v : Value) : Checked Int :=
  match v with
  | .int i => .valid i
  | .bool b => .valid (if b then 1 else 0)
  | .float x => integerOfFloat x
  | _ =>
    match heldText? .notIntegerText v with
    | some held => held.andThen integerOfText
    | none => .fail .notInteger

def boundedInteger (least most : Int) (v : Value) : Checked Int :=
  (integer v).andThen fun i ↦
    if i < least then .fail (.below least)
    else if most < i then .fail (.above most)
    else .valid i

def truthOfInteger (i : Int) : Checked Bool :=
  if i = 0 then .valid false else if i = 1 then .valid true else .fail .notTruthText

def truthOfText (s : String) : Checked Bool :=
  let word := String.ofList (s.toList.map Char.toLower)
  if ["0", "off", "f", "false", "n", "no"].contains word then .valid false
  else if ["1", "on", "t", "true", "y", "yes"].contains word then .valid true
  else .fail .notTruthText

def truth (v : Value) : Checked Bool :=
  match v with
  | .bool b => .valid b
  | .int i => if isShort i then truthOfInteger i else .fail .notTruth
  | .float x =>
    match integerOfFloat x with
    | .valid i => truthOfInteger i
    | .invalid _ => .fail .notTruth
  | _ =>
    match heldText? .notTruthText v with
    | some held => held.andThen truthOfText
    | none => .fail .notTruth

def choice (α : Type) [Choice α] (v : Value) : Checked α :=
  let refusal : Issue.Complaint := .notChoice (Choice.texts α)
  match heldText? refusal v with
  | some held => held.andThen fun s ↦ ((Choice.parse? s).map .valid).getD (.fail refusal)
  | none => .fail refusal

/-- Texts are compared in upper case and without surrounding white space. -/
def normalized : Value → Value
  | .str s => .str (upper (strip s))
  | v => v

def choiceOr {α : Type} [Choice α] (aliased : String) (member : α) (v : Value) : Checked α :=
  match normalized v with
  | .str s => if s = aliased then .valid member else choice α (.str s)
  | v => choice α v

def optional {α : Type} (read : Value → Checked α) : Value → Checked (Option α)
  | .null => .valid none
  | v => (read v).map some

def items? : Value → Option (List Value)
  | .list xs | .tuple xs | .set xs => some xs
  | _ => none

def list {α : Type} (read : Value → Checked α) (v : Value) : Checked (List α) :=
  match items? v with
  | none => .fail .notList
  | some xs => .all (xs.mapIdx fun i x ↦ (read x).under (.item i))

/-- Sets the value of a text key. A key that is already present keeps its place. -/
def insertText (key : String) (v : Value) : List (String × Value) → List (String × Value)
  | [] => [(key, v)]
  | e :: es => if e.1 = key then (key, v) :: es else e :: insertText key v es

def textMap : Value → Checked (List (String × Value))
  | .map es =>
    let read := es.map fun (k, v) ↦
      ((text k).under (.field "[key]")).under (Issue.Step.ofKey k) |>.map (·, v)
    (Checked.all read).map fun es ↦ es.foldl (fun out (k, v) ↦ insertText k v out) []
  | _ => .fail .notMap

def field {α : Type} (entries : List (Value × Value)) (name : String) (read : Value → Checked α)
    (default : Option α) : Checked α :=
  match Value.lookup? (.str name) entries with
  | some v => (read v).under (.field name)
  | none =>
    match default with
    | some a => .valid a
    | none => (Checked.fail .missing).under (.field name)

def strays (fields : List String) (entries : List (Value × Value)) : List Issue :=
  entries.filterMap fun (k, _) ↦
    match k with
    | .str s => if fields.contains s then none else some ⟨[.field s], .unexpected⟩
    | k => some ⟨[Issue.Step.ofKey k], .keyNotText⟩

def record {α : Type} (name : String) (fields : List String)
    (read : List (Value × Value) → Checked α) : Value → Checked α
  | .map entries =>
    if entries.any fun e ↦ (match e.1 with
        | .str s => holdsHalf s
        | _ => false) then
      .fail .notUnicode
    else (read entries).also (strays fields entries)
  | _ => .fail (.notRecord name)

end WebAcl.Lax
