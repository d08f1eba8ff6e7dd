import WebAcl.Hcl.Quoted
import Mathlib.Data.List.Basic

namespace WebAcl.Hcl

inductive Piece where
  | plain (c : Char)
  | literal (content : List Char)
  | unclosed (content : List Char)
  deriving DecidableEq, Repr

mutual

def pieces : List Char → List Piece
  | [] => []
  | c :: cs => if c = '"' then literal [] cs else .plain c :: pieces cs

def literal (content : List Char) : List Char → List Piece
  | [] => [.unclosed content]
  | c :: cs =>
    if c = '"' then .literal content :: pieces cs
    else if c = '\\' then match cs with
      | [] => [.unclosed (content ++ [c])]
      | d :: cs => literal (content ++ [c, d]) cs
    else literal (content ++ [c]) cs

end

def Piece.erased : Piece → List Char
  | plain c => [c]
  | literal _ => ['"', '"']
  | unclosed _ => ['"']

def Piece.content? : Piece → Option (List Char)
  | plain _ => none
  | literal content | unclosed content => some content

/-- The text without what its literals contain. -/
def erase (cs : List Char) : List Char :=
  (pieces cs).flatMap Piece.erased

def literals (cs : List Char) : List (List Char) :=
  (pieces cs).filterMap Piece.content?

/-- A template starts somewhere in the content of a literal. From left to right, a doubled dollar or
percent sign before a brace stands for a single one. -/
def startsTemplate : List Char → Bool
  | c :: d :: rest =>
    opensTemplate c (d :: rest) ||
      if c = d ∧ opensTemplate d rest then startsTemplate rest else startsTemplate (d :: rest)
  | _ => false

/-- A text that leaves no literal open, so that what follows is read on its own. -/
def Closed (cs : List Char) : Prop :=
  ∀ rest, pieces (cs ++ rest) = pieces cs ++ pieces rest

def Inside (cs : List Char) : Prop :=
  ∀ content rest, literal content (cs ++ rest) = literal (content ++ cs) rest

variable {cs ds : List Char}

theorem pieces_plain {c : Char} (hc : c ≠ '"') (rest : List Char) :
    pieces (c :: rest) = .plain c :: pieces rest := by
  rw [pieces, if_neg hc]

theorem literal_end (content rest : List Char) :
    literal content ('"' :: rest) = .literal content :: pieces rest := by
  rw [literal.eq_def]
  rfl

theorem literal_escaped (content : List Char) (d : Char) (rest : List Char) :
    literal content ('\\' :: d :: rest) = literal (content ++ ['\\', d]) rest := by
  rw [literal.eq_def]
  rfl

theorem literal_char {c : Char} (hquote : c ≠ '"') (hslash : c ≠ '\\') (content rest : List Char) :
    literal content (c :: rest) = literal (content ++ [c]) rest := by
  rw [literal.eq_def]
  simp [hquote, hslash]

theorem inside_nil : Inside [] := by
  simp [Inside]

theorem Inside.append (hcs : Inside cs) (hds : Inside ds) : Inside (cs ++ ds) := by
  intro content rest
  rw [List.append_assoc, hcs, hds, List.append_assoc]

theorem inside_of_ne {c : Char} (hquote : c ≠ '"') (hslash : c ≠ '\\') : Inside [c] :=
  literal_char hquote hslash

theorem inside_escaped (c : Char) : Inside ['\\', c] :=
  fun content ↦ literal_escaped content c

theorem inside_of_not_mem (hquote : '"' ∉ cs) (hslash : '\\' ∉ cs) : Inside cs := by
  induction cs with
  | nil => exact inside_nil
  | cons c cs ih =>
    simp only [List.mem_cons, not_or] at hquote hslash
    exact (inside_of_ne (Ne.symm hquote.1) (Ne.symm hslash.1)).append (ih hquote.2 hslash.2)

/-- An escaped text does not end the literal that it stands in. -/
theorem inside_escape (cs : List Char) : Inside (escape cs) := by
  induction cs with
  | nil => exact inside_nil
  | cons c cs ih =>
    rw [escape]
    split
    · exact (inside_escaped c).append ih
    next hspecial =>
      obtain ⟨hslash, hquote⟩ := not_or.mp hspecial
      have hc := inside_of_ne hquote hslash
      split
      · exact hc.append (hc.append ih)
      · exact hc.append ih

theorem pieces_quoted (h : Inside cs) (rest : List Char) :
    pieces ('"' :: (cs ++ '"' :: rest)) = .literal cs :: pieces rest := by
  rw [pieces, if_pos rfl, h, List.nil_append, literal_end]

theorem closed_nil : Closed [] := fun rest ↦ by
  rw [pieces, List.nil_append, List.nil_append]

theorem Closed.append (hcs : Closed cs) (hds : Closed ds) : Closed (cs ++ ds) := fun rest ↦ by
  rw [List.append_assoc, hcs, hds, hcs, List.append_assoc]

theorem pieces_of_not_mem (h : '"' ∉ cs) : pieces cs = cs.map .plain := by
  induction cs with
  | nil => rw [pieces, List.map_nil]
  | cons c cs ih =>
    simp only [List.mem_cons, not_or] at h
    rw [pieces_plain (Ne.symm h.1), ih h.2, List.map_cons]

theorem closed_of_not_mem (h : '"' ∉ cs) : Closed cs := by
  induction cs with
  | nil => exact closed_nil
  | cons c cs ih =>
    simp only [List.mem_cons, not_or] at h
    intro rest
    rw [List.cons_append, pieces_plain (Ne.symm h.1), pieces_plain (Ne.symm h.1), ih h.2,
      List.cons_append]

theorem closed_quoted (h : Inside cs) : Closed ('"' :: (cs ++ ['"'])) := fun rest ↦ by
  rw [pieces_quoted h, List.cons_append, List.append_assoc, List.singleton_append,
    pieces_quoted h, pieces, List.singleton_append]

def Piece.isUnclosed : Piece → Bool
  | unclosed _ => true
  | _ => false

mutual

theorem closed_of_pieces : ∀ {cs : List Char}, (∀ p ∈ pieces cs, p.isUnclosed = false) → Closed cs
  | [], _ => closed_nil
  | c :: cs, h => fun rest ↦ by
    rw [pieces] at h
    rw [List.cons_append, pieces, pieces]
    split
    next hquote =>
      rw [if_pos hquote] at h
      exact literal_append h rest
    next hquote =>
      rw [if_neg hquote] at h
      rw [closed_of_pieces (List.forall_mem_cons.mp h).2 rest, List.cons_append]

theorem literal_append : ∀ {content cs : List Char},
    (∀ p ∈ literal content cs, p.isUnclosed = false) → ∀ rest,
      literal content (cs ++ rest) = literal content cs ++ pieces rest
  | content, [], h, _ => by simp [literal, Piece.isUnclosed] at h
  | content, [c], h, rest => by
    by_cases hquote : c = '"'
    · rw [hquote, List.singleton_append, literal_end, literal_end, pieces, List.singleton_append]
    · rw [literal.eq_def] at h
      by_cases hslash : c = '\\' <;> simp [hquote, hslash, literal, Piece.isUnclosed] at h
  | content, c :: d :: cs, h, rest => by
    by_cases hquote : c = '"'
    · subst hquote
      rw [literal_end] at h
      rw [List.cons_append, literal_end, literal_end,
        closed_of_pieces (List.forall_mem_cons.mp h).2 rest, List.cons_append]
    · by_cases hslash : c = '\\'
      · subst hslash
        rw [literal_escaped] at h
        rw [List.cons_append, List.cons_append, literal_escaped, literal_escaped,
          literal_append h rest]
      · rw [literal_char hquote hslash] at h
        rw [List.cons_append, literal_char hquote hslash, literal_char hquote hslash,
          literal_append h rest]

end

theorem erase_append (h : Closed cs) (ds : List Char) :
    erase (cs ++ ds) = erase cs ++ erase ds := by
  rw [erase, h, List.flatMap_append, erase, erase]

theorem literals_append (h : Closed cs) (ds : List Char) :
    literals (cs ++ ds) = literals cs ++ literals ds := by
  rw [literals, h, List.filterMap_append, literals, literals]

theorem literals_of_not_mem (h : '"' ∉ cs) : literals cs = [] := by
  rw [literals, pieces_of_not_mem h, List.filterMap_map]
  simp [Piece.content?]

theorem erase_quoted (h : Inside cs) : erase ('"' :: (cs ++ ['"'])) = ['"', '"'] := by
  rw [erase, pieces_quoted h, pieces]
  rfl

theorem literals_quoted (h : Inside cs) : literals ('"' :: (cs ++ ['"'])) = [cs] := by
  rw [literals, pieces_quoted h, pieces]
  rfl

theorem opensTemplate_eq_false {c : Char} (hdollar : c ≠ '$') (hpercent : c ≠ '%')
    (cs : List Char) : opensTemplate c cs = false := by
  simp [opensTemplate, hdollar, hpercent]

/-- A character matters for templates only if it opens or escapes one. -/
theorem startsTemplate_cons {c : Char} (hopens : opensTemplate c cs = false)
    (hescapes : ∀ rest, cs = c :: rest → opensTemplate c rest = false) :
    startsTemplate (c :: cs) = startsTemplate cs := by
  cases cs with
  | nil => rfl
  | cons d rest =>
    have hnot : ¬ (c = d ∧ opensTemplate d rest = true) := by
      rintro ⟨rfl, hd⟩
      simp [hescapes rest rfl] at hd
    rw [startsTemplate, hopens, Bool.false_or, if_neg hnot]

theorem startsTemplate_of_not_mem (hdollar : '$' ∉ cs) (hpercent : '%' ∉ cs) :
    startsTemplate cs = false := by
  induction cs with
  | nil => rfl
  | cons c cs ih =>
    simp only [List.mem_cons, not_or] at hdollar hpercent
    have hc := opensTemplate_eq_false (Ne.symm hdollar.1) (Ne.symm hpercent.1)
    rw [startsTemplate_cons (hc cs) fun rest _ ↦ hc rest, ih hdollar.2 hpercent.2]

theorem opensTemplate_escape (c : Char) (cs : List Char) :
    opensTemplate c (escape cs) = opensTemplate c cs := by
  cases cs with
  | nil => rfl
  | cons d ds =>
    rw [escape]
    split
    next hd => obtain rfl | rfl := hd <;> simp [opensTemplate]
    next => split <;> simp [opensTemplate]

theorem opensTemplate_of_escape_eq_cons {c : Char} {rest : List Char} (h : escape cs = c :: rest) :
    opensTemplate c rest = false := by
  cases cs with
  | nil => simp [escape] at h
  | cons d ds =>
    rw [escape] at h
    split at h
    · obtain ⟨rfl, -⟩ := List.cons.inj h
      rfl
    · split at h
      next hd =>
        obtain ⟨rfl, rfl⟩ := List.cons.inj h
        simp only [opensTemplate, Bool.and_eq_true, Bool.or_eq_true, beq_iff_eq] at hd
        obtain rfl | rfl := hd.1 <;> simp [opensTemplate]
      next hd =>
        obtain ⟨rfl, rfl⟩ := List.cons.inj h
        rw [opensTemplate_escape, Bool.eq_false_iff]
        exact hd

theorem startsTemplate_escape (cs : List Char) : startsTemplate (escape cs) = false := by
  induction cs with
  | nil => rfl
  | cons c cs ih =>
    rw [escape]
    split
    next hc =>
      -- neither of the two characters opens a template, nor is one doubled for it
      have hcs : startsTemplate (c :: escape cs) = startsTemplate (escape cs) := by
        have hsign := opensTemplate_eq_false (show c ≠ '$' by grind) (show c ≠ '%' by grind)
        exact startsTemplate_cons (hsign _) fun rest _ ↦ hsign rest
      have hslash := opensTemplate_eq_false (show '\\' ≠ '$' by decide) (by decide)
      rw [startsTemplate_cons (hslash _) fun rest _ ↦ hslash rest, hcs, ih]
    next =>
      split
      next hopens =>
        -- the doubled sign is read as one, and reading goes on behind it
        rw [startsTemplate, if_pos ⟨rfl, (opensTemplate_escape c cs).trans hopens⟩, ih,
          Bool.or_false]
        simp only [opensTemplate, Bool.and_eq_true, Bool.or_eq_true, beq_iff_eq] at hopens
        obtain rfl | rfl := hopens.1 <;> simp [opensTemplate]
      next hopens =>
        have hc : opensTemplate c (escape cs) = false := by
          rw [opensTemplate_escape, Bool.eq_false_iff]
          exact hopens
        rw [startsTemplate_cons hc fun rest hrest ↦ opensTemplate_of_escape_eq_cons hrest, ih]

def unescape : List Char → List Char
  | c :: d :: cs =>
    if c = '\\' then d :: unescape cs
    else if c = d ∧ opensTemplate d cs then c :: unescape cs
    else c :: unescape (d :: cs)
  | cs => cs

theorem unescape_escape (cs : List Char) : unescape (escape cs) = cs := by
  induction cs with
  | nil => rfl
  | cons c cs ih =>
    rw [escape]
    split
    next => rw [unescape, if_pos rfl, ih]
    next hspecial =>
      obtain ⟨hslash, -⟩ := not_or.mp hspecial
      split
      next hopens =>
        rw [unescape, if_neg hslash, if_pos ⟨rfl, (opensTemplate_escape c cs).trans hopens⟩, ih]
      next =>
        cases heq : escape cs with
        | nil => rw [← ih, heq, unescape, unescape] <;> simp
        | cons d ds =>
          have hsingle : ¬ (c = d ∧ opensTemplate d ds = true) := by
            rintro ⟨rfl, hd⟩
            simp [opensTemplate_of_escape_eq_cons heq] at hd
          rw [unescape, if_neg hslash, if_neg hsingle, ← heq, ih]

theorem escape_injective {cs ds : List Char} (h : escape cs = escape ds) : cs = ds := by
  rw [← unescape_escape cs, h, unescape_escape]

theorem escape_toList_inj {s t : String} : escape s.toList = escape t.toList ↔ s = t :=
  ⟨fun h ↦ String.toList_inj.mp (escape_injective h), fun h ↦ h ▸ rfl⟩

end WebAcl.Hcl
