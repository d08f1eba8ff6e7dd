import WebAcl.Proofs.LowerCase
import WebAcl.Proofs.Substitution
import WebAcl.Proofs.WordForms

namespace WebAcl.Text

variable {b c : Char} {cs ds : List Char}

def isVersionLetterAt (cs : List Char) : ℕ → Bool
  | 0 => false
  | i + 1 => isIpVersion (cs.drop i)

def readIpVersions (cs : List Char) : List Char :=
  cs.mapIdx fun i c ↦ if isVersionLetterAt cs i then 'p' else c

def readAfter (b : Char) (cs : List Char) : List Char :=
  cs.mapIdx fun i c ↦ if isVersionLetterAt (b :: cs) (i + 1) then 'p' else c

theorem readIpVersions_cons (c : Char) (cs : List Char) :
    readIpVersions (c :: cs) = c :: readAfter c cs := by
  rw [readIpVersions, List.mapIdx_cons]
  rfl

theorem readAfter_cons (b c : Char) (cs : List Char) : readAfter b (c :: cs) =
    (if isIpVersion (b :: c :: cs) then 'p' else c) :: readAfter c cs := by
  rw [readAfter, List.mapIdx_cons]
  rfl

theorem readAfter_eq (h : isIpVersion (b :: cs) = false) : readAfter b cs = readIpVersions cs := by
  cases cs with
  | nil => rfl
  | cons c cs => rw [readAfter_cons, h, readIpVersions_cons, if_neg Bool.false_ne_true]

theorem readIpVersions_cons_of_not (h : isIpVersion (c :: cs) = false) :
    readIpVersions (c :: cs) = c :: readIpVersions cs := by
  rw [readIpVersions_cons, readAfter_eq h]

theorem readIpVersions_version {d : Char} (hd : d = '4' ∨ d = '6') (cs : List Char) :
    readIpVersions ('I' :: 'P' :: 'v' :: d :: cs) =
      'I' :: 'p' :: 'v' :: d :: readIpVersions cs := by
  have hne : d ≠ 'I' := by
    rcases hd with rfl | rfl <;> decide
  have hversion : isIpVersion ('I' :: 'P' :: 'v' :: d :: cs) = true := by
    rcases hd with rfl | rfl <;> rfl
  rw [readIpVersions_cons, readAfter_cons, if_pos hversion,
    readAfter_eq (isIpVersion_cons_of_ne (by decide) _),
    readIpVersions_cons_of_not (isIpVersion_cons_of_ne (by decide) _),
    readIpVersions_cons_of_not (isIpVersion_cons_of_ne hne _)]

theorem joinIpVersions_eq (cs : List Char) : joinIpVersions cs = readIpVersions cs := by
  fun_induction joinIpVersions cs with
  | case1 rest ih => rw [readIpVersions_version (.inl rfl), ih]
  | case2 rest ih => rw [readIpVersions_version (.inr rfl), ih]
  | case3 cs hfour hsix ih =>
    rw [readIpVersions_cons_of_not (isIpVersion_of_undigited hfour hsix),
      readIpVersions_cons_of_not (isIpVersion_cons_of_ne (by decide) _),
      readIpVersions_cons_of_not (isIpVersion_cons_of_ne (by decide) _), ih]
  | case4 c cs hversion ih =>
    rw [readIpVersions_cons_of_not (isIpVersion_of_unlettered hversion), ih]
  | case5 => rfl

/-- Whether the character at a position is a capital after a small letter or digit, or a capital
after a capital and before a small letter. -/
def startsWordAt (cs : List Char) : ℕ → Bool
  | 0 => false
  | i + 1 => cs[i + 1]?.any Char.isUpper &&
      (cs[i]?.any (fun b ↦ b.isLower || b.isDigit) ||
        cs[i]?.any Char.isUpper && cs[i + 2]?.any Char.isLower)

/-- Every character small, with an underscore before those that start a word. -/
def singlePass (cs : List Char) : List Char :=
  (cs.mapIdx fun i c ↦ if startsWordAt cs i then ['_', c.toLower] else [c.toLower]).flatten

def wordsApart : List Char → List Char
  | [] => []
  | c :: cs => c :: separateWords c cs

theorem startsWordAt_one (b c : Char) (cs : List Char) :
    startsWordAt (b :: c :: cs) 1 = startsWord b c cs.head? := by
  rw [List.head?_eq_getElem?]
  rfl

theorem map_separateWords (b : Char) (cs : List Char) :
    (separateWords b cs).map Char.toLower = (cs.mapIdx fun i c ↦
      if startsWordAt (b :: cs) (i + 1) then ['_', c.toLower] else [c.toLower]).flatten := by
  induction cs generalizing b with
  | nil => rfl
  | cons c cs ih =>
    -- past the first character the positions of the two readings differ by one
    have hrest : ∀ i, startsWordAt (b :: c :: cs) (i + 1 + 1) = startsWordAt (c :: cs) (i + 1) :=
      fun _ ↦ rfl
    simp only [List.mapIdx_cons, List.flatten_cons, hrest, ← ih c, separateWords, Nat.zero_add,
      startsWordAt_one]
    split <;> rfl

theorem map_wordsApart (cs : List Char) : (wordsApart cs).map Char.toLower = singlePass cs := by
  cases cs with
  | nil => rfl
  | cons c cs =>
    rw [singlePass, List.mapIdx_cons, List.flatten_cons, wordsApart, List.map_cons,
      map_separateWords]
    rfl

theorem snakeCase_eq (s : String) :
    snakeCase s = lower (String.ofList (wordsApart (joinIpVersions s.toList))) := by
  unfold snakeCase
  cases joinIpVersions s.toList with
  | nil => rfl
  | cons c cs => rfl

theorem substitutes_wordsApart (cs : List Char) :
    Pattern.wordStart.Substitutes (fun _ ↦ ['_']) [] cs (wordsApart cs) := by
  have hstart : ∀ cs, Pattern.wordStart.Fails [] cs := fun cs ↦
    Pattern.wordStart_fails fun b bs _ _ hbefore ↦ absurd hbefore.symm (List.cons_ne_nil b bs)
  cases cs with
  | nil => exact .stop (hstart [])
  | cons c cs => exact .keep (hstart (c :: cs)) (Pattern.substitutes_separateWords c [] cs)

def IsRewritten (s t : String) : Prop :=
  ∃ joined apart, Pattern.ipVersion.Substitutes Pattern.asOneWord [] s.toList joined ∧
    Pattern.wordStart.Substitutes (fun _ ↦ ['_']) [] joined apart ∧
    t = lower (String.ofList apart)

theorem isRewritten_iff (s t : String) : IsRewritten s t ↔ t = snakeCase s := by
  rw [snakeCase_eq]
  constructor
  · rintro ⟨joined, apart, hjoined, hapart, rfl⟩
    obtain rfl := hjoined.unique Pattern.isUnambiguous_ipVersion
      (Pattern.substitutes_joinIpVersions [] s.toList)
    obtain rfl := hapart.unique Pattern.isUnambiguous_wordStart (substitutes_wordsApart _)
    rfl
  · rintro rfl
    exact ⟨_, _, Pattern.substitutes_joinIpVersions [] s.toList, substitutes_wordsApart _, rfl⟩

theorem forall_mem_wordsApart {P : Char → Prop} (hunderscore : P '_') (h : ∀ c ∈ cs, P c) :
    ∀ c ∈ wordsApart cs, P c := by
  cases cs with
  | nil => exact h
  | cons c cs =>
    obtain ⟨hc, hcs⟩ := List.forall_mem_cons.mp h
    exact List.forall_mem_cons.mpr ⟨hc, forall_mem_separateWords hunderscore hcs⟩

theorem toList_snakeCase {s : String} (h : ∀ c ∈ s.toList, c.toNat < 0x80) :
    (snakeCase s).toList = (wordsApart (joinIpVersions s.toList)).map Char.toLower := by
  have hapart : ∀ c ∈ wordsApart (joinIpVersions s.toList), c.toNat < 0x80 :=
    forall_mem_wordsApart (by decide) (forall_mem_joinIpVersions (by decide) h)
  rw [snakeCase_eq, lower, String.toList_ofList, String.toList_ofList, lowerFrom_of_ascii hapart]

theorem toList_lower {s : String} (h : ∀ c ∈ s.toList, c.toNat < 0x80) :
    (lower s).toList = s.toList.map Char.toLower := by
  rw [lower, String.toList_ofList, lowerFrom_of_ascii h]

theorem map_joinIpVersions (cs : List Char) :
    (joinIpVersions cs).map Char.toLower = cs.map Char.toLower := by
  have hp : 'p'.toLower = 'P'.toLower := rfl
  fun_induction joinIpVersions cs <;> simp_all

theorem filter_separateWords (b : Char) (cs : List Char) :
    (separateWords b cs).filter (· ≠ '_') = cs.filter (· ≠ '_') := by
  fun_induction separateWords b cs <;> simp_all [List.filter_cons]

theorem filter_wordsApart (cs : List Char) :
    (wordsApart cs).filter (· ≠ '_') = cs.filter (· ≠ '_') := by
  cases cs with
  | nil => rfl
  | cons c cs => rw [wordsApart, List.filter_cons, List.filter_cons, filter_separateWords]

theorem toLower_eq_underscore_iff (c : Char) : c.toLower = '_' ↔ c = '_' := by
  constructor
  · intro h
    have hascii : c.toNat < 0x80 := ascii_of_toLower (h ▸ by decide)
    exact forall_ascii (P := fun c ↦ c.toLower = '_' → c = '_') (by decide) hascii h
  · rintro rfl
    rfl

theorem filter_map_toLower (cs : List Char) :
    (cs.map Char.toLower).filter (· ≠ '_') = (cs.filter (· ≠ '_')).map Char.toLower := by
  rw [List.filter_map]
  congr 1
  refine List.filter_congr fun c _ ↦ ?_
  simp [toLower_eq_underscore_iff]

def doubleUnderscores (cs : List Char) : ℕ := (cs.zip cs.tail).count ('_', '_')

theorem doubleUnderscores_cons_cons (b c : Char) (cs : List Char) :
    doubleUnderscores (b :: c :: cs) =
      doubleUnderscores (c :: cs) + if b = '_' ∧ c = '_' then 1 else 0 := by
  simp [doubleUnderscores, List.count_cons]

theorem doubleUnderscores_map (cs : List Char) :
    doubleUnderscores (cs.map Char.toLower) = doubleUnderscores cs := by
  induction cs with
  | nil => rfl
  | cons b cs ih =>
    cases cs with
    | nil => rfl
    | cons c cs =>
      rw [List.map_cons, List.map_cons, doubleUnderscores_cons_cons, ← List.map_cons, ih,
        doubleUnderscores_cons_cons]
      simp only [toLower_eq_underscore_iff]

theorem ne_underscore_of_startsWord {next : Option Char} (h : startsWord b c next = true) :
    b ≠ '_' ∧ c ≠ '_' := by
  obtain ⟨hc, hb⟩ := Pattern.startsWord_iff.mp h
  constructor
  · rintro rfl
    rcases hb with (hb | hb) | ⟨hb, -⟩ <;> exact absurd hb (by decide)
  · rintro rfl
    exact absurd hc (by decide)

theorem doubleUnderscores_separateWords (b : Char) (cs : List Char) :
    doubleUnderscores (b :: separateWords b cs) = doubleUnderscores (b :: cs) := by
  fun_induction separateWords b cs with
  | case1 => rfl
  | case2 b c cs hword ih =>
    obtain ⟨hb, hc⟩ := ne_underscore_of_startsWord hword
    simp only [doubleUnderscores_cons_cons, ih, hb, hc, false_and, and_false, if_false]
  | case3 b c cs _ ih => simp only [doubleUnderscores_cons_cons, ih]

theorem doubleUnderscores_wordsApart (cs : List Char) :
    doubleUnderscores (wordsApart cs) = doubleUnderscores cs := by
  cases cs with
  | nil => rfl
  | cons c cs => exact doubleUnderscores_separateWords c cs

theorem head?_wordsApart (cs : List Char) : (wordsApart cs).head? = cs.head? := by
  cases cs <;> rfl

theorem joinIpVersions_of_small (h : ∀ c ∈ cs, c.isUpper = false) : joinIpVersions cs = cs := by
  fun_induction joinIpVersions cs with
  | case1 | case2 | case3 => exact absurd (h 'I' List.mem_cons_self) (by decide)
  | case4 c cs _ ih => rw [ih (List.forall_mem_cons.mp h).2]
  | case5 => rfl

theorem separateWords_of_small (h : ∀ c ∈ cs, c.isUpper = false) : separateWords b cs = cs := by
  fun_induction separateWords b cs with
  | case1 => rfl
  | case2 b c cs hword =>
    have hcapital := (Pattern.startsWord_iff.mp hword).1
    rw [h c List.mem_cons_self] at hcapital
    exact absurd hcapital Bool.false_ne_true
  | case3 b c cs _ ih => rw [ih (List.forall_mem_cons.mp h).2]

theorem wordsApart_of_small (h : ∀ c ∈ cs, c.isUpper = false) : wordsApart cs = cs := by
  cases cs with
  | nil => rfl
  | cons c cs => rw [wordsApart, separateWords_of_small (List.forall_mem_cons.mp h).2]

theorem isUpper_of_settled (h : IsSettled c) : c.isUpper = false := by
  refine Bool.eq_false_iff.mpr fun hcapital ↦ ?_
  have halpha : c.isAlpha = true := congrArg (· || c.isLower) hcapital
  have halphanum : c.isAlphanum = true := congrArg (· || c.isDigit) halpha
  have hall := forall_ascii (P := fun c ↦ IsSettled c → c.isUpper = false) (by decide)
    (toNat_lt_of_isAlphanum halphanum) h
  rw [hcapital] at hall
  exact Bool.noConfusion hall

theorem snakeCase_snakeCase (s : String) : snakeCase (snakeCase s) = snakeCase s := by
  have hsmall : ∀ c ∈ (snakeCase s).toList, c.isUpper = false := by
    intro c hc
    rw [snakeCase_eq] at hc
    exact isUpper_of_settled (isSettled_of_mem_lower hc)
  rw [snakeCase_eq (snakeCase s), joinIpVersions_of_small hsmall, wordsApart_of_small hsmall,
    String.ofList_toList, snakeCase_eq, lower_lower]

/-- For a name in ASCII the two substitutions and the change to lower case are one pass over the
name with its versions read as one word. Up to case and the underscores that are put before words
the name stays as it is, and none of these underscores leads the name or meets another one. -/
theorem snakeCase_singlePass (s : String) (h : ∀ c ∈ s.toList, c.toNat < 0x80) :
    (∀ t, IsRewritten s t ↔ t = snakeCase s) ∧
    (snakeCase s).toList = singlePass (readIpVersions s.toList) ∧
    (snakeCase s).toList.filter (· ≠ '_') = (lower s).toList.filter (· ≠ '_') ∧
    doubleUnderscores (snakeCase s).toList = doubleUnderscores s.toList ∧
    ((snakeCase s).toList.head? = some '_' ↔ s.toList.head? = some '_') ∧
    snakeCase (snakeCase s) = snakeCase s := by
  refine ⟨isRewritten_iff s, ?_, ?_, ?_, ?_, snakeCase_snakeCase s⟩
  · rw [toList_snakeCase h, map_wordsApart, joinIpVersions_eq]
  · rw [toList_snakeCase h, toList_lower h, filter_map_toLower, filter_wordsApart,
      ← filter_map_toLower, map_joinIpVersions]
  · rw [toList_snakeCase h, doubleUnderscores_map, doubleUnderscores_wordsApart,
      ← doubleUnderscores_map, map_joinIpVersions, doubleUnderscores_map]
  · have hhead : (snakeCase s).toList.head? = s.toList.head?.map Char.toLower := by
      rw [toList_snakeCase h, List.head?_map, head?_wordsApart, ← List.head?_map,
        map_joinIpVersions, List.head?_map]
    rw [hhead, Option.map_eq_some_iff]
    simp only [toLower_eq_underscore_iff, exists_eq_right]

theorem snakeCase_singlePass_acronyms :
    (∀ c ∈ "_HTTPServerIPv4Set__2A".toList, c.toNat < 0x80) ∧
    singlePass (readIpVersions "_HTTPServerIPv4Set__2A".toList) =
      "_http_server_ipv4_set__2_a".toList ∧
    snakeCase "_HTTPServerIPv4Set__2A" = "_http_server_ipv4_set__2_a" := by
  have hascii : ∀ c ∈ "_HTTPServerIPv4Set__2A".toList, c.toNat < 0x80 := by decide
  have hpass : singlePass (readIpVersions "_HTTPServerIPv4Set__2A".toList) =
      "_http_server_ipv4_set__2_a".toList := by decide
  refine ⟨hascii, hpass, ?_⟩
  rw [← String.toList_inj, (snakeCase_singlePass _ hascii).2.1, hpass]

end WebAcl.Text
