namespace WebAcl.Text

/-- Halves of surrogate pairs, which a text can hold on their own though they are no characters. -/
def isHalfCode (n : Nat) : Bool := 0xd800 ≤ n && n < 0xe000

/-- A half is held as the character so far above it, in a part of Unicode without assigned
characters. -/
def halfShift : Nat := 0xd0000

def isHalf (c : Char) : Bool := halfShift ≤ c.toNat && isHalfCode (c.toNat - halfShift)

/-- Stands before a character that would otherwise be taken for a half or for a mark. -/
def mark : Char := Char.ofNat 0xde000

def isMarked (c : Char) : Bool := isHalf c || c == mark

/-- The code of a mark that stands before nothing it could mark, which no text of a file holds. -/
def loneMark : Nat := 0x110000

def codeOf (c : Char) : Nat :=
  if isHalf c then c.toNat - halfShift else if c = mark then loneMark else c.toNat

def hold (c : Char) : List Char := if isMarked c then [mark, c] else [c]

def charsOfCode (n : Nat) : List Char :=
  if isHalfCode n then [Char.ofNat (n + halfShift)]
  else if n = loneMark then [mark]
  else hold (Char.ofNat n)

def codesOf : List Char → List Nat
  | c :: d :: cs =>
    if c = mark ∧ isMarked d then d.toNat :: codesOf cs else codeOf c :: codesOf (d :: cs)
  | [c] => [codeOf c]
  | [] => []

def ofCodes (ns : List Nat) : String := String.ofList (ns.flatMap charsOfCode)

def held (cs : List Char) : List Char := cs.flatMap hold

@[simp] theorem held_nil : held [] = [] := rfl

@[simp] theorem held_cons (c : Char) (cs : List Char) : held (c :: cs) = hold c ++ held cs := rfl

theorem hold_of_lt {c : Char} (h : c.toNat < halfShift) : hold c = [c] := by
  have hhalf : isHalf c = false := by
    simp only [isHalf, Bool.and_eq_false_iff, decide_eq_false_iff_not]
    exact .inl (Nat.not_le.mpr h)
  have hmark : (c == mark) = false := by
    refine beq_eq_false_iff_ne.mpr ?_
    rintro rfl
    exact absurd h (by decide)
  rw [hold, isMarked, hhalf, hmark]
  rfl

def utf16Units (n : Nat) : List Nat :=
  if n < 0x10000 then [n] else [0xd800 + (n - 0x10000) / 0x400, 0xdc00 + (n - 0x10000) % 0x400]

def joinUnits (high low : Nat) : Nat :=
  0x10000 + (high - 0xd800) * 0x400 + (low - 0xdc00)

def holdsHalf (s : String) : Bool := (codesOf s.toList).any isHalfCode

/-- The text with three replacement characters in place of each half. -/
def replaceHalves (s : String) : String :=
  String.ofList ((codesOf s.toList).flatMap fun n ↦
    if isHalfCode n then List.replicate 3 (Char.ofNat 0xfffd) else charsOfCode n)

def isInOrder : List Nat → List Nat → Bool
  | [], _ => true
  | _ :: _, [] => false
  | m :: ms, n :: ns => m < n || m == n && isInOrder ms ns

def inCodeOrder (s t : String) : Bool :=
  isInOrder (codesOf s.toList) (codesOf t.toList)

end WebAcl.Text
