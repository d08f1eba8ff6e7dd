import WebAcl.Proofs.Literals
import WebAcl.Proofs.Outcome

namespace WebAcl.Hcl

inductive Stop where
  | quote
  | slash
  | template
  deriving DecidableEq, Repr

/-- The text that the inside of a literal stands for. -/
def readInside : List Char → Except Stop (List Char)
  | [] => .ok []
  | [c] =>
    if c = '"' then .error .quote
    else if c = '\\' then .error .slash
    else .ok [c]
  | c :: d :: cs =>
    if c = '"' then .error .quote
    else if c = '\\' then
      if d = '\\' ∨ d = '"' then (readInside cs).map (d :: ·) else .error .slash
    else if opensTemplate c (d :: cs) then .error .template
    else if c = d ∧ opensTemplate d cs then (readInside cs).map (c :: ·)
    else (readInside (d :: cs)).map (c :: ·)

variable {c : Char} {cs ds : List Char}

theorem readInside_escaped (hc : c = '\\' ∨ c = '"') (cs : List Char) :
    readInside ('\\' :: c :: cs) = (readInside cs).map (c :: ·) := by
  rw [readInside, if_neg (by decide), if_pos rfl, if_pos hc]

theorem readInside_doubled (h : opensTemplate c cs = true) :
    readInside (c :: c :: cs) = (readInside cs).map (c :: ·) := by
  have hsign : c = '$' ∨ c = '%' := by
    simp only [opensTemplate, Bool.and_eq_true, Bool.or_eq_true, beq_iff_eq] at h
    exact h.1
  rw [readInside]
  rcases hsign with rfl | rfl <;> simp [opensTemplate] at h ⊢ <;> simp [h]

/-- Any other character is read as itself, provided that it neither starts a template nor escapes
one. -/
theorem readInside_plain (hc : ¬ (c = '\\' ∨ c = '"')) (hopens : opensTemplate c cs = false)
    (hescapes : ∀ rest, cs = c :: rest → opensTemplate c rest = false) :
    readInside (c :: cs) = (readInside cs).map (c :: ·) := by
  obtain ⟨hslash, hquote⟩ := not_or.mp hc
  cases cs with
  | nil => simp [readInside, hquote, hslash, Except.map]
  | cons d ds =>
    have hsingle : ¬ (c = d ∧ opensTemplate d ds = true) := by
      rintro ⟨rfl, hd⟩
      rw [hescapes ds rfl] at hd
      exact Bool.false_ne_true hd
    rw [readInside, if_neg hquote, if_neg hslash, hopens, if_neg Bool.false_ne_true,
      if_neg hsingle]

theorem readInside_escape (cs : List Char) : readInside (escape cs) = .ok cs := by
  induction cs with
  | nil => rfl
  | cons c cs ih =>
    rw [escape]
    split
    next hc => rw [readInside_escaped hc, ih]; rfl
    next hc =>
      split
      next hopens =>
        rw [readInside_doubled ((opensTemplate_escape c cs).trans hopens), ih]
        rfl
      next hopens =>
        have hplain : opensTemplate c (escape cs) = false := by
          rw [opensTemplate_escape, Bool.eq_false_iff]
          exact hopens
        rw [readInside_plain hc hplain fun rest hrest ↦ opensTemplate_of_escape_eq_cons hrest, ih]
        rfl

/-- Whatever can be read to its end is the escaped form of what it gives. -/
theorem eq_escape_of_readInside (h : readInside ds = .ok cs) : ds = escape cs := by
  fun_induction readInside ds generalizing cs with
  | case1 =>
    obtain rfl := Except.ok.inj h
    rfl
  | case4 c hquote hslash =>
    obtain rfl := Except.ok.inj h
    simp [escape, hquote, hslash, opensTemplate]
  | case6 d rest hd _ ih =>
    obtain ⟨u, hu, rfl⟩ := Outcome.map_eq_ok_iff.mp h
    rw [ih hu, escape, if_pos hd]
  | case9 c d rest hquote hslash _ hdouble ih =>
    obtain ⟨u, hu, rfl⟩ := Outcome.map_eq_ok_iff.mp h
    obtain ⟨rfl, hopens⟩ := hdouble
    rw [ih hu, opensTemplate_escape] at hopens
    rw [ih hu, escape, if_neg (not_or.mpr ⟨hslash, hquote⟩), if_pos hopens]
  | case10 c d rest hquote hslash hopens _ ih =>
    obtain ⟨u, hu, rfl⟩ := Outcome.map_eq_ok_iff.mp h
    rw [ih hu, opensTemplate_escape] at hopens
    rw [ih hu, escape, if_neg (not_or.mpr ⟨hslash, hquote⟩), if_neg hopens]
  | _ => simp at h

def replaceAll (old new : List Char) : List Char → List Char
  | [] => []
  | c :: cs =>
    if old.isPrefixOf (c :: cs) then new ++ replaceAll old new (cs.drop (old.length - 1))
    else c :: replaceAll old new cs
termination_by cs => cs.length
decreasing_by
  all_goals
    simp only [List.length_drop, List.length_cons]
    omega

def doubled (sign : Char) : List Char → List Char
  | [] => []
  | c :: cs =>
    if c = sign ∧ cs.head? = some '\x7b' then c :: c :: doubled sign cs
    else c :: doubled sign cs

def slashed (cs : List Char) : List Char :=
  cs.flatMap fun c ↦ if c = '\\' ∨ c = '"' then ['\\', c] else [c]

theorem replaceAll_single (a : Char) (new : List Char) (cs : List Char) :
    replaceAll [a] new cs = cs.flatMap fun c ↦ if c = a then new else [c] := by
  induction cs with
  | nil => rw [replaceAll]; rfl
  | cons c cs ih =>
    rw [replaceAll, List.flatMap_cons, ← ih]
    by_cases hc : c = a
    · simp [hc]
    · simp [hc, Ne.symm hc]

theorem replaceAll_template {sign : Char} (hsign : sign ≠ '\x7b') (cs : List Char) :
    replaceAll [sign, '\x7b'] [sign, sign, '\x7b'] cs = doubled sign cs := by
  fun_induction replaceAll [sign, '\x7b'] [sign, sign, '\x7b'] cs with
  | case1 => rfl
  | case2 c cs hoccurs ih =>
    cases cs with
    | nil => simp at hoccurs
    | cons d rest =>
      obtain ⟨rfl, rfl⟩ : sign = c ∧ '\x7b' = d := by simpa using hoccurs
      -- the brace is written as it is, since it is not the sign
      simpa [doubled, hsign.symm] using ih
  | case3 c cs hoccurs ih =>
    have hnot : ¬ (c = sign ∧ cs.head? = some '\x7b') := by
      rintro ⟨rfl, hhead⟩
      obtain ⟨rest, rfl⟩ := List.head?_eq_some_iff.mp hhead
      simp at hoccurs
    rw [ih, doubled, if_neg hnot]

theorem head?_doubled (sign : Char) (cs : List Char) : (doubled sign cs).head? = cs.head? := by
  cases cs with
  | nil => rfl
  | cons c cs =>
    rw [doubled]
    split <;> rfl

theorem slashed_cons (c : Char) (cs : List Char) :
    slashed (c :: cs) = (if c = '\\' ∨ c = '"' then ['\\', c] else [c]) ++ slashed cs := rfl

theorem head?_slashed_eq_brace (cs : List Char) :
    (slashed cs).head? = some '\x7b' ↔ cs.head? = some '\x7b' := by
  cases cs with
  | nil => rfl
  | cons c cs =>
    rw [slashed_cons]
    split
    next hc => rcases hc with rfl | rfl <;> simp
    next => rfl

theorem doubled_doubled_cons {c : Char} (cs : List Char) :
    doubled '%' (doubled '$' (c :: cs)) =
      if opensTemplate c cs then c :: c :: doubled '%' (doubled '$' cs)
      else c :: doubled '%' (doubled '$' cs) := by
  by_cases hbrace : cs.head? = some '\x7b'
  · by_cases hdollar : c = '$'
    · simp [doubled, opensTemplate, hbrace, hdollar]
    · by_cases hpercent : c = '%' <;>
        simp [doubled, opensTemplate, hbrace, hdollar, hpercent, head?_doubled]
  · simp [doubled, opensTemplate, hbrace, head?_doubled]

theorem doubled_doubled_slashed (cs : List Char) :
    doubled '%' (doubled '$' (slashed cs)) = escape cs := by
  induction cs with
  | nil => rfl
  | cons c cs ih =>
    rw [slashed_cons, escape]
    split
    next hc =>
      have hopens : ∀ ds, opensTemplate c ds = false := by
        rcases hc with rfl | rfl <;> simp [opensTemplate]
      rw [List.cons_append, List.singleton_append, doubled_doubled_cons, doubled_doubled_cons,
        hopens, ih]
      simp [opensTemplate]
    next =>
      have hopens : opensTemplate c (slashed cs) = opensTemplate c cs := by
        rw [opensTemplate, opensTemplate, Bool.eq_iff_iff]
        simp [head?_slashed_eq_brace]
      rw [List.singleton_append, doubled_doubled_cons, hopens, ih]

/-- Escaping in four steps, each over the whole of what the one before it leaves. -/
def escapeInSteps (cs : List Char) : List Char :=
  replaceAll ['%', '\x7b'] ['%', '%', '\x7b'] <| replaceAll ['$', '\x7b'] ['$', '$', '\x7b'] <|
    replaceAll ['"'] ['\\', '"'] <| replaceAll ['\\'] ['\\', '\\'] cs

theorem escapeInSteps_eq_escape (cs : List Char) : escapeInSteps cs = escape cs := by
  have hslashed : replaceAll ['"'] ['\\', '"'] (replaceAll ['\\'] ['\\', '\\'] cs) =
      slashed cs := by
    rw [replaceAll_single, replaceAll_single, slashed, List.flatMap_assoc]
    congr 1
    funext c
    by_cases hslash : c = '\\'
    · simp [hslash]
    · by_cases hquote : c = '"' <;> simp [hslash, hquote]
  rw [escapeInSteps, hslashed, replaceAll_template (by decide), replaceAll_template (by decide),
    doubled_doubled_slashed]

/-- The escaped form of a text is what four replacements make of it. As the inside of a literal it
is read to its end and gives the text, and no other inside does. The literal ends where the quoted
form of the text does. -/
theorem readInside_escapeText (s : String) :
    (escapeText s).toList = escapeInSteps s.toList ∧
    readInside (escapeText s).toList = .ok s.toList ∧
    startsTemplate (escapeText s).toList = false ∧
    (∀ inside, readInside inside = .ok s.toList → inside = (escapeText s).toList) ∧
    (∀ t, escapeText t = escapeText s → t = s) ∧
    ∀ rest, pieces ((quote s).toList ++ rest) = .literal (escapeText s).toList :: pieces rest := by
  have htext : (escapeText s).toList = escape s.toList := String.toList_ofList
  refine ⟨?_, ?_, ?_, ?_, ?_, ?_⟩
  · rw [htext, escapeInSteps_eq_escape]
  · rw [htext, readInside_escape]
  · rw [htext, startsTemplate_escape]
  · intro inside hread
    rw [htext]
    exact eq_escape_of_readInside hread
  · intro t ht
    apply escape_toList_inj.mp
    rw [← htext, ← ht]
    exact String.toList_ofList.symm
  · intro rest
    have hquoted := pieces_quoted (inside_escape s.toList) rest
    simpa [quote, htext] using hquoted

end WebAcl.Hcl
