import WebAcl.Proofs.NameChars

namespace WebAcl.Text

variable {b c : Char} {before text after cs ds es : List Char}

def isIpVersion : List Char → Bool
  | 'I' :: 'P' :: 'v' :: d :: _ => d == '4' || d == '6'
  | _ => false

theorem isIpVersion_eq_false
    (h : ∀ d ds, cs = 'I' :: 'P' :: 'v' :: d :: ds → d ≠ '4' ∧ d ≠ '6') :
    isIpVersion cs = false := by
  unfold isIpVersion
  split
  next d ds =>
    obtain ⟨hfour, hsix⟩ := h d ds rfl
    simp [hfour, hsix]
  next => rfl

theorem isIpVersion_cons_of_ne (hc : c ≠ 'I') (cs : List Char) :
    isIpVersion (c :: cs) = false :=
  isIpVersion_eq_false fun _ _ hcs ↦ absurd (List.cons.inj hcs).1 hc

theorem isIpVersion_of_unlettered (h : ∀ ds, c = 'I' → cs = 'P' :: 'v' :: ds → False) :
    isIpVersion (c :: cs) = false := by
  refine isIpVersion_eq_false fun d ds hcs ↦ ?_
  injection hcs with hc hcs
  exact absurd hcs (h _ hc)

/-- Where the scan for versions goes on behind the letters `IPv` there is no version. -/
theorem isIpVersion_of_undigited (hfour : ∀ ds, cs = '4' :: ds → False)
    (hsix : ∀ ds, cs = '6' :: ds → False) : isIpVersion ('I' :: 'P' :: 'v' :: cs) = false := by
  refine isIpVersion_eq_false fun d ds hcs ↦ ?_
  have hrest : cs = d :: ds := by simpa using hcs
  constructor
  · rintro rfl
    exact hfour ds hrest
  · rintro rfl
    exact hsix ds hrest

/-- Patterns without repetition. -/
inductive Pattern where
  | one (allowed : Char → Bool)
  | seq (p q : Pattern)
  | either (p q : Pattern)
  /-- Nothing, behind a stretch that `p` matches. -/
  | behind (p : Pattern)
  /-- Nothing, ahead of a stretch that `p` matches. -/
  | ahead (p : Pattern)

namespace Pattern

variable {p : Pattern} {f : List Char → List Char}

/-- The pattern matches the text between what stands before it, the nearest character first, and
what stands after it. -/
def Matches : Pattern → List Char → List Char → List Char → Prop
  | one allowed, _, text, _ => ∃ c, allowed c = true ∧ text = [c]
  | seq p q, before, text, after =>
    ∃ s t, text = s ++ t ∧ p.Matches before s (t ++ after) ∧ q.Matches (s.reverse ++ before) t after
  | either p q, before, text, after => p.Matches before text after ∨ q.Matches before text after
  | behind p, before, text, after =>
    text = [] ∧ ∃ s rest, before = s.reverse ++ rest ∧ p.Matches rest s after
  | ahead p, before, text, after =>
    text = [] ∧ ∃ s rest, after = s ++ rest ∧ p.Matches before s rest

def Fails (p : Pattern) (before cs : List Char) : Prop :=
  ∀ text after, cs = text ++ after → ¬ p.Matches before text after

def IsUnambiguous (p : Pattern) : Prop :=
  ∀ before s t rest rest', s ++ rest = t ++ rest' → p.Matches before s rest →
    p.Matches before t rest' → s = t

/-- What becomes of a text when `f text` is put in place of each stretch `text` that the pattern
matches. Where it matches nothing, something is put between two characters. Only an unambiguous
pattern leaves no choice. -/
inductive Substitutes (p : Pattern) (f : List Char → List Char) :
    List Char → List Char → List Char → Prop
  | stop {before : List Char} : p.Fails before [] → Substitutes p f before [] []
  | close {before : List Char} : p.Matches before [] [] → Substitutes p f before [] (f [])
  | replace {before cs text after result : List Char} : cs = text ++ after → text ≠ [] →
      p.Matches before text after → Substitutes p f (text.reverse ++ before) after result →
      Substitutes p f before cs (f text ++ result)
  | insert {before cs result : List Char} {c : Char} : p.Matches before [] (c :: cs) →
      Substitutes p f (c :: before) cs result →
      Substitutes p f before (c :: cs) (f [] ++ c :: result)
  | keep {before cs result : List Char} {c : Char} : p.Fails before (c :: cs) →
      Substitutes p f (c :: before) cs result → Substitutes p f before (c :: cs) (c :: result)

theorem Substitutes.unique (hp : p.IsUnambiguous) (h : p.Substitutes f before cs ds)
    (h' : p.Substitutes f before cs es) : ds = es := by
  -- at each place one rule applies, and where it is `replace` it is for one stretch
  induction h generalizing es with
  | stop hfails =>
    cases h' with
    | stop => rfl
    | close hmatch => exact absurd hmatch (hfails [] [] rfl)
    | replace hcs _ hmatch => exact absurd hmatch (hfails _ _ hcs)
  | close hmatch =>
    cases h' with
    | stop hfails => exact absurd hmatch (hfails [] [] rfl)
    | close => rfl
    | replace hcs hne => exact absurd (List.append_eq_nil_iff.mp hcs.symm).1 hne
  | @replace before cs text after result hcs hne hmatch _ ih =>
    cases h' with
    | stop hfails => exact absurd hmatch (hfails _ _ hcs)
    | close => exact absurd (List.append_eq_nil_iff.mp hcs.symm).1 hne
    | replace hcs' _ hmatch' hrest =>
      obtain rfl := hp _ _ _ _ _ (hcs.symm.trans hcs') hmatch hmatch'
      obtain rfl := List.append_cancel_left (hcs.symm.trans hcs')
      rw [ih hrest]
    | insert hmatch' =>
      exact absurd (hp _ _ [] _ _ hcs.symm hmatch hmatch') hne
    | keep hfails => exact absurd hmatch (hfails _ _ hcs)
  | insert hmatch _ ih =>
    cases h' with
    | replace hcs hne hmatch' =>
      exact absurd (hp _ _ [] _ _ hcs.symm hmatch' hmatch) hne
    | insert _ hrest => rw [ih hrest]
    | keep hfails => exact absurd hmatch (hfails [] _ rfl)
  | keep hfails _ ih =>
    cases h' with
    | replace hcs _ hmatch => exact absurd hmatch (hfails _ _ hcs)
    | insert hmatch => exact absurd hmatch (hfails [] _ rfl)
    | keep _ hrest => rw [ih hrest]

def letter (d : Char) : Pattern := .one (· == d)

def ipVersion : Pattern :=
  .seq (letter 'I') (.seq (letter 'P') (.seq (letter 'v') (.one fun c ↦ c == '4' || c == '6')))

def asOneWord (text : List Char) : List Char := 'I' :: 'p' :: 'v' :: text.drop 3

theorem matches_letter_iff {d : Char} : (letter d).Matches before text after ↔ text = [d] := by
  simp [letter, Matches]

theorem matches_ipVersion_iff : ipVersion.Matches before text after ↔
    text = ['I', 'P', 'v', '4'] ∨ text = ['I', 'P', 'v', '6'] := by
  constructor
  · rintro ⟨_, _, rfl, hi, _, _, rfl, hp, _, _, rfl, hv, d, hd, rfl⟩
    obtain rfl := matches_letter_iff.mp hi
    obtain rfl := matches_letter_iff.mp hp
    obtain rfl := matches_letter_iff.mp hv
    rcases (Bool.or_eq_true _ _).mp hd with h | h <;> obtain rfl := eq_of_beq h
    · exact .inl rfl
    · exact .inr rfl
  · rintro (rfl | rfl)
    all_goals
      refine ⟨['I'], _, rfl, matches_letter_iff.mpr rfl, ['P'], _, rfl, matches_letter_iff.mpr rfl,
        ['v'], _, rfl, matches_letter_iff.mpr rfl, _, ?_, rfl⟩
      rfl

theorem isUnambiguous_ipVersion : ipVersion.IsUnambiguous := by
  intro before s t rest rest' hsame hs ht
  have hlength : s.length = t.length := by
    rcases matches_ipVersion_iff.mp hs with rfl | rfl <;>
      rcases matches_ipVersion_iff.mp ht with rfl | rfl <;> rfl
  exact List.append_inj_left hsame hlength

theorem ipVersion_fails (h : isIpVersion cs = false) : ipVersion.Fails before cs := by
  intro text after hcs hmatch
  rcases matches_ipVersion_iff.mp hmatch with rfl | rfl
  all_goals
    subst hcs
    exact absurd h (by simp [isIpVersion])

theorem substitutes_joinIpVersions (before cs : List Char) :
    ipVersion.Substitutes asOneWord before cs (joinIpVersions cs) := by
  fun_induction joinIpVersions cs generalizing before with
  | case1 rest ih =>
    have hmatch : ipVersion.Matches before ['I', 'P', 'v', '4'] rest :=
      matches_ipVersion_iff.mpr (.inl rfl)
    exact .replace rfl (List.cons_ne_nil _ _) hmatch (ih _)
  | case2 rest ih =>
    have hmatch : ipVersion.Matches before ['I', 'P', 'v', '6'] rest :=
      matches_ipVersion_iff.mpr (.inr rfl)
    exact .replace rfl (List.cons_ne_nil _ _) hmatch (ih _)
  | case3 cs hfour hsix ih =>
    have hv : isIpVersion ('v' :: cs) = false := isIpVersion_cons_of_ne (by decide) cs
    have hp : isIpVersion ('P' :: 'v' :: cs) = false := isIpVersion_cons_of_ne (by decide) _
    have hi := isIpVersion_of_undigited hfour hsix
    refine .keep (ipVersion_fails hi) (.keep (ipVersion_fails hp) ?_)
    exact .keep (ipVersion_fails hv) (ih _)
  | case4 c cs hversion ih =>
    exact .keep (ipVersion_fails (isIpVersion_of_unlettered hversion)) (ih _)
  | case5 => exact .stop (ipVersion_fails rfl)

/-- The start of a word: a capital after a small letter or digit, or a capital after a capital and
before a small letter. -/
def wordStart : Pattern :=
  .either
    (.seq (.behind (.one fun c ↦ c.isLower || c.isDigit)) (.ahead (.one Char.isUpper)))
    (.seq (.behind (.one Char.isUpper)) (.ahead (.seq (.one Char.isUpper) (.one Char.isLower))))

theorem matches_behind_one_iff {allowed : Char → Bool} :
    (behind (one allowed)).Matches before text after ↔
      text = [] ∧ ∃ b bs, before = b :: bs ∧ allowed b = true := by
  constructor
  · rintro ⟨rfl, _, bs, rfl, b, hb, rfl⟩
    exact ⟨rfl, b, bs, rfl, hb⟩
  · rintro ⟨rfl, b, bs, rfl, hb⟩
    exact ⟨rfl, [b], bs, rfl, b, hb, rfl⟩

theorem matches_ahead_one_iff {allowed : Char → Bool} :
    (ahead (one allowed)).Matches before text after ↔
      text = [] ∧ ∃ c cs, after = c :: cs ∧ allowed c = true := by
  constructor
  · rintro ⟨rfl, _, cs, rfl, c, hc, rfl⟩
    exact ⟨rfl, c, cs, rfl, hc⟩
  · rintro ⟨rfl, c, cs, rfl, hc⟩
    exact ⟨rfl, [c], cs, rfl, c, hc, rfl⟩

theorem matches_ahead_pair_iff {first second : Char → Bool} :
    (ahead (seq (one first) (one second))).Matches before text after ↔
      text = [] ∧ ∃ c d ds, after = c :: d :: ds ∧ first c = true ∧ second d = true := by
  constructor
  · rintro ⟨rfl, _, ds, rfl, _, _, rfl, ⟨c, hc, rfl⟩, ⟨d, hd, rfl⟩⟩
    exact ⟨rfl, c, d, ds, rfl, hc, hd⟩
  · rintro ⟨rfl, c, d, ds, rfl, hc, hd⟩
    exact ⟨rfl, [c, d], ds, rfl, [c], [d], rfl, ⟨c, hc, rfl⟩, ⟨d, hd, rfl⟩⟩

theorem startsWord_iff {next : Option Char} : startsWord b c next = true ↔
    c.isUpper = true ∧ ((b.isLower = true ∨ b.isDigit = true) ∨
      b.isUpper = true ∧ ∃ d, next = some d ∧ d.isLower = true) := by
  simp only [startsWord, Bool.and_eq_true, Bool.or_eq_true, Option.any_eq_true]

theorem matches_wordStart_iff : wordStart.Matches before text after ↔
    text = [] ∧ ∃ b bs c cs, before = b :: bs ∧ after = c :: cs ∧
      startsWord b c cs.head? = true := by
  constructor
  · rintro (⟨s, t, rfl, hs, ht⟩ | ⟨s, t, rfl, hs, ht⟩)
    · obtain ⟨rfl, b, bs, rfl, hb⟩ := matches_behind_one_iff.mp hs
      obtain ⟨rfl, c, cs, rfl, hc⟩ := matches_ahead_one_iff.mp ht
      refine ⟨rfl, b, bs, c, cs, rfl, rfl, startsWord_iff.mpr ⟨hc, .inl ?_⟩⟩
      exact (Bool.or_eq_true _ _).mp hb
    · obtain ⟨rfl, b, bs, rfl, hb⟩ := matches_behind_one_iff.mp hs
      obtain ⟨rfl, c, d, ds, rfl, hc, hd⟩ := matches_ahead_pair_iff.mp ht
      exact ⟨rfl, b, bs, c, d :: ds, rfl, rfl, startsWord_iff.mpr ⟨hc, .inr ⟨hb, d, rfl, hd⟩⟩⟩
  · rintro ⟨rfl, b, bs, c, cs, rfl, rfl, hword⟩
    obtain ⟨hc, hb | ⟨hb, d, hnext, hd⟩⟩ := startsWord_iff.mp hword
    · refine .inl ⟨[], [], rfl, matches_behind_one_iff.mpr ⟨rfl, b, bs, rfl, ?_⟩,
        matches_ahead_one_iff.mpr ⟨rfl, c, cs, rfl, hc⟩⟩
      exact (Bool.or_eq_true _ _).mpr hb
    · obtain ⟨ds, rfl⟩ := List.head?_eq_some_iff.mp hnext
      exact .inr ⟨[], [], rfl, matches_behind_one_iff.mpr ⟨rfl, b, bs, rfl, hb⟩,
        matches_ahead_pair_iff.mpr ⟨rfl, c, d, ds, rfl, hc, hd⟩⟩

theorem isUnambiguous_wordStart : wordStart.IsUnambiguous := by
  intro before s t rest rest' _ hs ht
  rw [(matches_wordStart_iff.mp hs).1, (matches_wordStart_iff.mp ht).1]

theorem wordStart_fails (h : ∀ b bs c ds, before = b :: bs → cs = c :: ds →
    startsWord b c ds.head? = false) : wordStart.Fails before cs := by
  intro text after hcs hmatch
  obtain ⟨rfl, b, bs, c, ds, hbefore, hafter, hword⟩ := matches_wordStart_iff.mp hmatch
  have hno := h b bs c ds hbefore (hcs.trans hafter)
  rw [hword] at hno
  exact Bool.noConfusion hno

theorem substitutes_separateWords (b : Char) (bs cs : List Char) :
    wordStart.Substitutes (fun _ ↦ ['_']) (b :: bs) cs (separateWords b cs) := by
  fun_induction separateWords b cs generalizing bs with
  | case1 b =>
    refine .stop (wordStart_fails ?_)
    simp
  | case2 b c cs hword ih =>
    exact .insert (matches_wordStart_iff.mpr ⟨rfl, b, bs, c, cs, rfl, rfl, hword⟩) (ih _)
  | case3 b c cs hword ih =>
    refine .keep (wordStart_fails ?_) (ih _)
    rintro _ _ _ _ ⟨rfl, rfl⟩ ⟨rfl, rfl⟩
    exact Bool.eq_false_iff.mpr hword

end Pattern

end WebAcl.Text
