import WebAcl.Proofs.LowerCase
import WebAcl.Proofs.WordForms
import Mathlib.Data.Nat.Log

namespace WebAcl.Text

variable {cut drop : Char → Bool} {c : Char} {cs ds w before after : List Char} {n : ℕ}

def wordsBetween (cut : Char → Bool) (cs : List Char) : List (List Char) :=
  (cs.splitOnP cut).filter (· ≠ [])

theorem wordsBetween_nil : wordsBetween cut [] = [] := by
  simp [wordsBetween, List.splitOnP_nil]

/-- A separator belongs to no word, so words on its two sides have nothing to do with each other. -/
theorem wordsBetween_append_cons (hc : cut c = true) (as bs : List Char) :
    wordsBetween cut (as ++ c :: bs) = wordsBetween cut as ++ wordsBetween cut bs := by
  unfold wordsBetween
  rw [List.splitOnP_append_cons as bs hc, List.filter_append]

theorem wordsBetween_cons (hc : cut c = true) (cs : List Char) :
    wordsBetween cut (c :: cs) = wordsBetween cut cs := by
  have h := wordsBetween_append_cons hc [] cs
  rwa [wordsBetween_nil, List.nil_append, List.nil_append] at h

theorem wordsBetween_prepend (h : ∀ c ∈ before, cut c = true) (cs : List Char) :
    wordsBetween cut (before ++ cs) = wordsBetween cut cs := by
  induction before with
  | nil => rfl
  | cons c before ih =>
    obtain ⟨hc, hbefore⟩ := List.forall_mem_cons.mp h
    rw [List.cons_append, wordsBetween_cons hc, ih hbefore]

theorem wordsBetween_append (h : ∀ c ∈ after, cut c = true) (cs : List Char) :
    wordsBetween cut (cs ++ after) = wordsBetween cut cs := by
  cases after with
  | nil => rw [List.append_nil]
  | cons c after =>
    obtain ⟨hc, hafter⟩ := List.forall_mem_cons.mp h
    have hnone := wordsBetween_prepend hafter []
    rw [List.append_nil, wordsBetween_nil] at hnone
    rw [wordsBetween_append_cons hc, hnone, List.append_nil]

theorem wordsBetween_trimBy (h : ∀ c, drop c = true → cut c = true) (cs : List Char) :
    wordsBetween cut (trimBy drop cs) = wordsBetween cut cs := by
  obtain ⟨before, after, hcs, hbefore, hafter⟩ := @exists_trimBy drop cs
  conv => rhs; rw [hcs]
  rw [wordsBetween_append fun c hc ↦ h c (hafter c hc),
    wordsBetween_prepend fun c hc ↦ h c (hbefore c hc)]

theorem wordsBetween_eq_singleton (hne : cs ≠ []) (h : ∀ c ∈ cs, cut c = false) :
    wordsBetween cut cs = [cs] := by
  rw [wordsBetween, List.splitOnP_eq_singleton h]
  simp [hne]

theorem wordsBetween_map {cut' : Char → Bool} {f : Char → Char} (hcut : ∀ c, cut' (f c) = cut c)
    (hkeep : ∀ c, cut c = false → f c = c) (cs : List Char) :
    wordsBetween cut' (cs.map f) = wordsBetween cut cs := by
  have hsplit : (cs.map f).splitOnP cut' = cs.splitOnP cut := by
    induction cs with
    | nil => rw [List.map_nil, List.splitOnP_nil, List.splitOnP_nil]
    | cons c cs ih =>
      rw [List.map_cons, List.splitOnP_cons_eq_if_modifyHead,
        List.splitOnP_cons_eq_if_modifyHead, hcut, ih]
      cases hc : cut c with
      | true => rfl
      | false => rw [hkeep c hc]
  rw [wordsBetween, wordsBetween, hsplit]

theorem of_mem_splitOnP (hw : w ∈ cs.splitOnP cut) : ∀ c ∈ w, c ∈ cs ∧ cut c = false := by
  induction hlength : cs.length using Nat.strong_induction_on generalizing cs with
  | _ length ih =>
    by_cases hcut : ∃ c ∈ cs, cut c = true
    · obtain ⟨c, hc, hsep⟩ := hcut
      obtain ⟨as, bs, rfl⟩ := List.append_of_mem hc
      rw [List.length_append, List.length_cons] at hlength
      rw [List.splitOnP_append_cons as bs hsep, List.mem_append] at hw
      intro d hd
      rcases hw with hw | hw
      · obtain ⟨hmem, hword⟩ := ih _ (by omega) hw rfl d hd
        exact ⟨List.mem_append_left _ hmem, hword⟩
      · obtain ⟨hmem, hword⟩ := ih _ (by omega) hw rfl d hd
        exact ⟨List.mem_append_right _ (List.mem_cons_of_mem c hmem), hword⟩
    · have hnone : ∀ c ∈ cs, cut c = false := fun c hc ↦
        Bool.eq_false_iff.mpr fun hsep ↦ hcut ⟨c, hc, hsep⟩
      rw [List.splitOnP_eq_singleton hnone, List.mem_singleton] at hw
      subst hw
      exact fun c hc ↦ ⟨hc, hnone c hc⟩

theorem of_mem_wordsBetween (hw : w ∈ wordsBetween cut cs) :
    w ≠ [] ∧ ∀ c ∈ w, c ∈ cs ∧ cut c = false := by
  obtain ⟨hmem, hne⟩ := List.mem_filter.mp hw
  exact ⟨of_decide_eq_true hne, of_mem_splitOnP hmem⟩

theorem infix_trimBy (drop : Char → Bool) (cs : List Char) : trimBy drop cs <:+: cs := by
  obtain ⟨before, after, hcs, -, -⟩ := @exists_trimBy drop cs
  exact ⟨before, after, hcs.symm⟩

theorem of_head_dropWhile (h : (cs.dropWhile drop).head? = some c) : drop c = false := by
  have hnot := List.head?_dropWhile_not drop cs
  rwa [h] at hnot

theorem of_getLast_trimBy (h : (trimBy drop cs).getLast? = some c) : drop c = false := by
  rw [trimBy, List.getLast?_reverse] at h
  exact of_head_dropWhile h

theorem of_head_trimBy (h : (trimBy drop cs).head? = some c) : drop c = false := by
  have hsplit := congrArg List.reverse
    (List.takeWhile_append_dropWhile (p := drop) (l := (cs.dropWhile drop).reverse))
  rw [List.reverse_append, List.reverse_reverse] at hsplit
  obtain ⟨ds, hds⟩ := List.head?_eq_some_iff.mp h
  have hhead : (cs.dropWhile drop).head? = some c := by
    rw [← hsplit]
    change (trimBy drop cs ++ _).head? = some c
    rw [hds]
    rfl
  exact of_head_dropWhile hhead

def leadingDashes (cs : List Char) : ℕ := (cs.takeWhile (· == '-')).length

def longestRun : List Char → ℕ
  | [] => 0
  | c :: cs => max (leadingDashes (c :: cs)) (longestRun cs)

@[simp] theorem leadingDashes_nil : leadingDashes [] = 0 := rfl

@[simp] theorem leadingDashes_dash (cs : List Char) :
    leadingDashes ('-' :: cs) = leadingDashes cs + 1 := by
  simp [leadingDashes]

theorem leadingDashes_of_ne (hc : c ≠ '-') (cs : List Char) : leadingDashes (c :: cs) = 0 := by
  simp [leadingDashes, hc]

theorem leadingDashes_of_unpaired (hpair : ∀ ds, c = '-' → cs = '-' :: ds → False)
    (hc : c = '-') : leadingDashes cs = 0 := by
  cases cs with
  | nil => rfl
  | cons d ds =>
    refine leadingDashes_of_ne (fun hd ↦ ?_) ds
    exact hpair ds hc (congrArg (· :: ds) hd)

theorem longestRun_le_length (cs : List Char) : longestRun cs ≤ cs.length := by
  induction cs with
  | nil => exact le_rfl
  | cons c cs ih =>
    have hleading : leadingDashes (c :: cs) ≤ (c :: cs).length :=
      (List.takeWhile_sublist _).length_le
    rw [longestRun, List.length_cons] at *
    omega

theorem leadingDashes_halveDashes (cs : List Char) :
    leadingDashes (halveDashes cs) = (leadingDashes cs + 1) / 2 := by
  fun_induction halveDashes cs with
  | case1 => rfl
  | case2 cs ih =>
    simp only [leadingDashes_dash, ih]
    omega
  | case3 c cs hpair ih =>
    by_cases hc : c = '-'
    · have hnone := leadingDashes_of_unpaired hpair hc
      subst hc
      simp only [leadingDashes_dash, ih, hnone]
    · simp only [leadingDashes_of_ne hc]

/-- A round halves every run of dashes, rounded up, and so the longest one. -/
theorem longestRun_halveDashes (cs : List Char) :
    longestRun (halveDashes cs) = (longestRun cs + 1) / 2 := by
  fun_induction halveDashes cs with
  | case1 => rfl
  | case2 cs ih =>
    have hleading := leadingDashes_halveDashes cs
    simp only [longestRun, leadingDashes_dash, ih, hleading]
    omega
  | case3 c cs hpair ih =>
    have hleading := leadingDashes_halveDashes cs
    by_cases hc : c = '-'
    · have hnone := leadingDashes_of_unpaired hpair hc
      subst hc
      simp only [longestRun, leadingDashes_dash, ih, hleading, hnone]
      omega
    · simp only [longestRun, leadingDashes_of_ne hc, ih]
      omega

theorem hasDoubleDash_iff_infix (cs : List Char) :
    hasDoubleDash cs = true ↔ ['-', '-'] <:+: cs := by
  fun_induction hasDoubleDash cs with
  | case1 cs => exact iff_of_true rfl ⟨[], cs, rfl⟩
  | case2 c cs hpair ih =>
    have hprefix : ¬ ['-', '-'] <+: c :: cs := by
      rintro ⟨ds, hds⟩
      injection hds with hc hcs
      exact hpair ds hc.symm hcs.symm
    rw [ih, List.infix_cons_iff, or_iff_right hprefix]
  | case3 => simp

theorem hasDoubleDash_iff_longestRun (cs : List Char) :
    hasDoubleDash cs = true ↔ 2 ≤ longestRun cs := by
  fun_induction hasDoubleDash cs with
  | case1 cs =>
    refine iff_of_true rfl ?_
    simp only [longestRun, leadingDashes_dash]
    omega
  | case2 c cs hpair ih =>
    have hleading : leadingDashes (c :: cs) ≤ 1 := by
      by_cases hc : c = '-'
      · have hnone := leadingDashes_of_unpaired hpair hc
        subst hc
        rw [leadingDashes_dash, hnone]
      · rw [leadingDashes_of_ne hc]
        exact Nat.zero_le 1
    rw [ih, longestRun]
    omega
  | case3 => simp [longestRun]

/-- The rounds of the collapse: as long as two dashes stand together, the pairs of dashes are
halved. -/
inductive Collapses : ℕ → List Char → List Char → Prop
  | stop {cs : List Char} : hasDoubleDash cs = false → Collapses 0 cs cs
  | round {n : ℕ} {cs ds : List Char} :
      hasDoubleDash cs = true → Collapses n (halveDashes cs) ds → Collapses (n + 1) cs ds

theorem exists_collapses (cs : List Char) :
    ∃ ds, Collapses (Nat.clog 2 (longestRun cs)) cs ds := by
  induction hrounds : Nat.clog 2 (longestRun cs) generalizing cs with
  | zero =>
    refine ⟨cs, .stop (Bool.eq_false_iff.mpr fun hdouble ↦ ?_)⟩
    have hlong := (hasDoubleDash_iff_longestRun cs).mp hdouble
    have hpos := Nat.clog_pos Nat.one_lt_two hlong
    omega
  | succ n ih =>
    have hlong : 2 ≤ longestRun cs := by
      by_contra hshort
      have hzero := Nat.clog_of_right_le_one (n := longestRun cs) (by omega) 2
      omega
    have hhalved : Nat.clog 2 (longestRun (halveDashes cs)) = n := by
      have hstep := Nat.clog_of_two_le Nat.one_lt_two hlong
      rw [longestRun_halveDashes]
      have hsame : longestRun cs + 2 - 1 = longestRun cs + 1 := by omega
      rw [hsame] at hstep
      omega
    obtain ⟨ds, hds⟩ := ih (halveDashes cs) hhalved
    exact ⟨ds, .round ((hasDoubleDash_iff_longestRun cs).mpr hlong) hds⟩

namespace Collapses

theorem settleDashes_eq (h : Collapses n cs ds) {rounds : ℕ} (hrounds : n ≤ rounds) :
    settleDashes rounds cs = ds := by
  induction h generalizing rounds with
  | stop hsingle =>
    cases rounds with
    | zero => rfl
    | succ rounds => rw [settleDashes, if_neg (Bool.eq_false_iff.mp hsingle)]
  | round hdouble _ ih =>
    cases rounds with
    | zero => omega
    | succ rounds => rw [settleDashes, if_pos hdouble, ih (by omega)]

theorem unique {m : ℕ} {es : List Char} (h : Collapses n cs ds) (h' : Collapses m cs es) :
    n = m ∧ ds = es := by
  induction h generalizing m with
  | stop hsingle =>
    cases h' with
    | stop => exact ⟨rfl, rfl⟩
    | round hdouble => exact absurd hdouble (Bool.eq_false_iff.mp hsingle)
  | round hdouble _ ih =>
    cases h' with
    | stop hsingle => exact absurd hdouble (Bool.eq_false_iff.mp hsingle)
    | round _ hrest =>
      obtain ⟨rfl, rfl⟩ := ih hrest
      exact ⟨rfl, rfl⟩

theorem hasDoubleDash_eq_false (h : Collapses n cs ds) : hasDoubleDash ds = false := by
  induction h with
  | stop hsingle => exact hsingle
  | round _ _ ih => exact ih

end Collapses

theorem collapses_collapseDashes (cs : List Char) :
    Collapses (Nat.clog 2 (longestRun cs)) cs (collapseDashes cs) := by
  obtain ⟨ds, hds⟩ := exists_collapses cs
  have henough : Nat.clog 2 (longestRun cs) ≤ cs.length := by
    refine Nat.clog_le_of_le_pow ((longestRun_le_length cs).trans ?_)
    exact Nat.lt_two_pow_self.le
  have hresult : collapseDashes cs = ds := hds.settleDashes_eq henough
  rwa [hresult]

/-- A round keeps the words between the dashes, also those that other text before it begins. -/
theorem wordsBetween_halveDashes (hdash : cut '-' = true) (as cs : List Char) :
    wordsBetween cut (as ++ halveDashes cs) = wordsBetween cut (as ++ cs) := by
  -- a word that is still open is moved into the text before, a dash closes it
  fun_induction halveDashes cs generalizing as with
  | case1 => rfl
  | case2 cs ih =>
    have hrest := ih []
    rw [List.nil_append, List.nil_append] at hrest
    rw [wordsBetween_append_cons hdash, wordsBetween_append_cons hdash, hrest,
      wordsBetween_cons hdash]
  | case3 c cs _ ih =>
    have hrest := ih (as ++ [c])
    rwa [List.append_assoc, List.append_assoc, List.singleton_append,
      List.singleton_append] at hrest

theorem halveDashes_sublist (cs : List Char) : (halveDashes cs).Sublist cs := by
  fun_induction halveDashes cs with
  | case1 => exact .slnil
  | case2 cs ih => exact (ih.cons '-').cons_cons '-'
  | case3 c cs _ ih => exact ih.cons_cons c

namespace Collapses

theorem wordsBetween_eq (h : Collapses n cs ds) (hdash : cut '-' = true) :
    wordsBetween cut ds = wordsBetween cut cs := by
  induction h with
  | stop => rfl
  | @round n cs ds _ _ ih => exact ih.trans (wordsBetween_halveDashes hdash [] cs)

theorem sublist (h : Collapses n cs ds) : ds.Sublist cs := by
  induction h with
  | stop => exact .refl _
  | @round n cs ds _ _ ih => exact ih.trans (halveDashes_sublist cs)

end Collapses

def isNameGap (c : Char) : Bool := c == '.' || c == '_' || c == ' ' || c == '-'

/-- Dashes stand one by one and between other characters, and are the only separators. -/
structure IsDashed (cs : List Char) : Prop where
  single : ¬ ['-', '-'] <:+: cs
  head : cs.head? ≠ some '-'
  last : cs.getLast? ≠ some '-'
  clean : ∀ c ∈ cs, c ≠ '.' ∧ c ≠ '_' ∧ c ≠ ' '

namespace IsDashed

theorem isNameGap_eq_false (h : IsDashed cs) (hc : c ∈ cs) (hne : c ≠ '-') :
    isNameGap c = false := by
  obtain ⟨hdot, hunderscore, hspace⟩ := h.clean c hc
  simp [isNameGap, hdot, hunderscore, hspace, hne]

theorem rest (h : IsDashed (w ++ '-' :: cs)) : cs ≠ [] ∧ IsDashed cs := by
  have hne : cs ≠ [] := by
    rintro rfl
    exact h.last List.getLast?_concat
  refine ⟨hne, ?_, ?_, ?_, ?_⟩
  · intro hdouble
    exact h.single (hdouble.trans ⟨w ++ ['-'], [], by simp⟩)
  · intro hhead
    obtain ⟨ds, rfl⟩ := List.head?_eq_some_iff.mp hhead
    exact h.single ⟨w, ds, by simp⟩
  · intro hlast
    obtain ⟨ds, rfl⟩ := List.getLast?_eq_some_iff.mp hlast
    have happend : w ++ '-' :: (ds ++ ['-']) = (w ++ '-' :: ds) ++ ['-'] := by simp
    exact h.last (happend ▸ List.getLast?_concat)
  · exact fun c hc ↦ h.clean c (List.mem_append_right w (List.mem_cons_of_mem '-' hc))

theorem intercalate_wordsBetween (h : IsDashed cs) :
    ['-'].intercalate (wordsBetween isNameGap cs) = cs := by
  induction hlength : cs.length using Nat.strong_induction_on generalizing cs with
  | _ length ih =>
    by_cases hdash : '-' ∈ cs
    · -- the first word, and behind its dash a text of the same form
      obtain ⟨w, rest, rfl, hw⟩ := List.eq_append_cons_of_mem hdash
      have hword : w ≠ [] := by
        rintro rfl
        exact h.head rfl
      have huncut : ∀ c ∈ w, isNameGap c = false := fun c hc ↦
        h.isNameGap_eq_false (List.mem_append_left _ hc) fun heq ↦ hw (heq ▸ hc)
      obtain ⟨hrest, hdashed⟩ := h.rest
      rw [List.length_append, List.length_cons] at hlength
      have hjoined := ih rest.length (by omega) hdashed rfl
      have hwords : wordsBetween isNameGap rest ≠ [] := by
        intro hnone
        rw [hnone, List.intercalate_nil] at hjoined
        exact hrest hjoined.symm
      rw [wordsBetween_append_cons rfl, wordsBetween_eq_singleton hword huncut,
        List.singleton_append, List.intercalate_cons_of_ne_nil hwords, hjoined,
        List.append_assoc, List.singleton_append]
    · cases cs with
      | nil => rw [wordsBetween_nil, List.intercalate_nil]
      | cons c cs =>
        have huncut : ∀ d ∈ c :: cs, isNameGap d = false := fun d hd ↦
          h.isNameGap_eq_false hd fun heq ↦ hdash (heq ▸ hd)
        rw [wordsBetween_eq_singleton (List.cons_ne_nil c cs) huncut, List.intercalate_singleton]

end IsDashed

theorem isNameGap_dashFor (c : Char) : isNameGap (dashFor c) = isNameGap c := by
  unfold dashFor
  split
  next h => rcases h with rfl | rfl | rfl <;> rfl
  next => rfl

theorem dashFor_of_gap (h : isNameGap c = true) : dashFor c = '-' := by
  have hcases : c = '.' ∨ c = '_' ∨ c = ' ' ∨ c = '-' := by
    simpa [isNameGap, or_assoc] using h
  rcases hcases with rfl | rfl | rfl | rfl <;> rfl

theorem dashFor_of_not_gap (h : isNameGap c = false) : dashFor c = c := by
  refine if_neg fun hgap ↦ ?_
  rcases hgap with rfl | rfl | rfl <;> exact absurd h (by decide)

theorem of_mem_dashed {s : String} (h : c ∈ (dashed s).toList) :
    c = '-' ∨ isNameGap c = false ∧ c ∈ (lower s).toList := by
  rw [dashed, String.toList_ofList] at h
  have hcollapsed := (collapses_collapseDashes ((lower s).toList.map dashFor)).sublist.subset
  have hmem := hcollapsed ((infix_trimBy (· == '-') _).subset h)
  obtain ⟨d, hd, rfl⟩ := List.mem_map.mp hmem
  cases hgap : isNameGap d with
  | false =>
    rw [dashFor_of_not_gap hgap]
    exact .inr ⟨hgap, hd⟩
  | true => exact .inl (dashFor_of_gap hgap)

theorem isDashed_dashed (s : String) : IsDashed (dashed s).toList := by
  have hcollapse := collapses_collapseDashes ((lower s).toList.map dashFor)
  refine ⟨?_, ?_, ?_, ?_⟩
  · intro hdouble
    rw [dashed, String.toList_ofList] at hdouble
    have hinfix := hdouble.trans (infix_trimBy _ _)
    rw [← hasDoubleDash_iff_infix, hcollapse.hasDoubleDash_eq_false] at hinfix
    exact absurd hinfix Bool.false_ne_true
  · intro hhead
    rw [dashed, String.toList_ofList] at hhead
    exact absurd (of_head_trimBy hhead) (by decide)
  · intro hlast
    rw [dashed, String.toList_ofList] at hlast
    exact absurd (of_getLast_trimBy hlast) (by decide)
  · intro c hc
    rcases of_mem_dashed hc with rfl | ⟨hword, -⟩
    · decide
    · refine ⟨?_, ?_, ?_⟩ <;> rintro rfl <;> exact absurd hword (by decide)

theorem toList_dashed (s : String) :
    (dashed s).toList = ['-'].intercalate (wordsBetween isNameGap (lower s).toList) := by
  have hwords : wordsBetween isNameGap (dashed s).toList =
      wordsBetween isNameGap (lower s).toList := by
    rw [dashed, String.toList_ofList, wordsBetween_trimBy,
      (collapses_collapseDashes _).wordsBetween_eq rfl,
      wordsBetween_map isNameGap_dashFor fun _ ↦ dashFor_of_not_gap]
    intro c hc
    rw [eq_of_beq hc]
    rfl
  rw [← hwords, (isDashed_dashed s).intercalate_wordsBetween]

theorem lower_dashed (s : String) : lower (dashed s) = dashed s := by
  refine lower_of_settled fun c hc ↦ ?_
  rcases of_mem_dashed hc with rfl | ⟨-, hlower⟩
  · decide
  · exact isSettled_of_mem_lower hlower

theorem dashed_dashed (s : String) : dashed (dashed s) = dashed s := by
  rw [← String.toList_inj, toList_dashed, lower_dashed,
    (isDashed_dashed s).intercalate_wordsBetween]

/-- The collapse of a name ends in one way, after as many rounds as its longest run of separators
takes. What it leaves are the words of the name in lower case with a dash between each two of
them: no dashes together or at an end, and no other separators. A second time nothing changes. -/
theorem dashed_normal (s : String) :
    (∀ rounds cs, Collapses rounds ((lower s).toList.map dashFor) cs ↔
      rounds = Nat.clog 2 (longestRun ((lower s).toList.map dashFor)) ∧
        cs = collapseDashes ((lower s).toList.map dashFor)) ∧
    (dashed s).toList = ['-'].intercalate (wordsBetween isNameGap (lower s).toList) ∧
    IsDashed (dashed s).toList ∧
    lower (lower s) = lower s ∧ dashed (dashed s) = dashed s := by
  refine ⟨fun rounds cs ↦ ⟨fun h ↦ ?_, ?_⟩, toList_dashed s, isDashed_dashed s, lower_lower s,
    dashed_dashed s⟩
  · exact h.unique (collapses_collapseDashes _)
  · intro h
    rw [h.1, h.2]
    exact collapses_collapseDashes _

end WebAcl.Text
