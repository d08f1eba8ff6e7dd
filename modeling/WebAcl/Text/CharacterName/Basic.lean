import WebAcl.Text.Digit

namespace WebAcl.Text

/-- The lines of a table of names. A lower case letter opens a name; its place in the alphabet,
counted from zero, is the number of parts that the name takes over from the name before it. A part
ends with a space or hyphen. The names belong to consecutive characters, except that an equals sign
and hexadecimal digits tell the character of the next one. -/
abbrev NameTable := List String

structure NameEntry where
  code : Option Nat
  kept : Nat
  rest : List Char

structure NameReader where
  entries : List NameEntry
  text : List Char

def NameReader.step (c : Char) (r : NameReader) : NameReader :=
  if c.isLower then ⟨⟨none, c.toNat - 'a'.toNat, r.text⟩ :: r.entries, []⟩
  else if c = '=' then
    match r.entries with
    | [] => ⟨[], []⟩
    | e :: es => ⟨{ e with code := some (numeral 16 r.text) } :: es, []⟩
  else ⟨r.entries, c :: r.text⟩

def NameTable.entries (t : NameTable) : List NameEntry :=
  (t.flatMap String.toList |>.foldr NameReader.step ⟨[], []⟩).entries

def leadingParts : Nat → List Char → List Char
  | 0, _ => []
  | _ + 1, [] => []
  | k + 1, c :: cs => c :: leadingParts (if c = ' ' ∨ c = '-' then k else k + 1) cs

def findName (name : List Char) (code : Nat) (before : List Char) : List NameEntry → Option Nat
  | [] => none
  | e :: es =>
    let here := e.code.getD code
    let current := leadingParts e.kept before ++ e.rest
    if current = name then some here else findName name (here + 1) current es

def NameTable.find? (t : NameTable) (name : List Char) : Option Nat :=
  findName name 0 [] t.entries

end WebAcl.Text
