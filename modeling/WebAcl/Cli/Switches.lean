namespace WebAcl.Cli

structure Switch where
  name : String
  letter : Option Char := none
  takesValue : Bool := false
  deriving DecidableEq, Repr

/-- A switch that was given; a switch without a value has none. -/
abbrev Given := String × Option String

structure Words where
  given : List Given := []
  others : List String := []
  deriving DecidableEq, Repr

namespace Words

def value? (w : Words) (name : String) : Option String :=
  ((w.given.filter (·.1 == name)).getLast?).bind (·.2)

def has (w : Words) (name : String) : Bool :=
  w.given.any (·.1 == name)

/-- The last given of two switches that exclude each other; whether it is the first of them. -/
def either? (w : Words) (yes no : String) : Option Bool :=
  ((w.given.filter fun g ↦ g.1 == yes || g.1 == no).getLast?).map (·.1 == yes)

end Words

/-- The switches of one word; the last of them may still need its value. -/
inductive Reading where
  | complete (given : List Given)
  | pending (given : List Given) (name : String)

def Reading.prepend (g : Given) : Reading → Reading
  | complete gs => complete (g :: gs)
  | pending gs name => pending (g :: gs) name

def readLong? (known : List Switch) (name : String) (value : Option String) : Option Reading :=
  match known.find? (·.name == name), value with
  | none, _ => none
  | some s, none => some (if s.takesValue then .pending [] s.name else .complete [(s.name, none)])
  | some s, some v => if s.takesValue then some (.complete [(s.name, some v)]) else none

def readLetters? (known : List Switch) : List Char → Option Reading
  | [] => some (.complete [])
  | c :: cs => do
    let s ← known.find? (·.letter == some c)
    if s.takesValue then
      if cs.isEmpty then return .pending [] s.name
      else return .complete [(s.name, some (String.ofList cs))]
    else return (← readLetters? known cs).prepend (s.name, none)

def readSwitch? (known : List Switch) (word : List Char) : Option Reading :=
  match word with
  | '-' :: '-' :: cs =>
    let (name, rest) := cs.span (· != '=')
    readLong? known (String.ofList name) (rest.tail? |>.map String.ofList)
  | _ => readLetters? known word.tail

def looksSwitch (word : List Char) : Bool :=
  word.head? == some '-' && 1 < word.length

/-- Splits words. Unless `mixed`, everything from the first word that is no switch on is left as it
is. -/
def splitWords? (known : List Switch) (mixed : Bool) : List String → Option Words
  | [] => some {}
  -- behind this mark no switch is read
  | "--" :: words => some { others := words }
  | word :: words =>
    if looksSwitch word.toList then
      match readSwitch? known word.toList, words with
      | none, _ => none
      | some (.complete gs), words =>
        (splitWords? known mixed words).map fun w ↦ { w with given := gs ++ w.given }
      | some (.pending ..), [] => none
      | some (.pending gs name), value :: words =>
        (splitWords? known mixed words).map fun w ↦
          { w with given := gs ++ (name, some value) :: w.given }
    else if mixed then
      (splitWords? known mixed words).map fun w ↦ { w with others := word :: w.others }
    else some { others := word :: words }

end WebAcl.Cli
