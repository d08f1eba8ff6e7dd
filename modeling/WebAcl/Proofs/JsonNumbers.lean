import WebAcl.Proofs.DecimalText
import WebAcl.Proofs.JsonScalars

namespace WebAcl

namespace Number

open Text

theorem digitValue?_digit {c : Char} (h : c.isDigit = true) :
    digitValue? c = some (digitOf c) ∧ digitOf c < 10 :=
  forall_digit (P := fun c ↦ digitValue? c = some (digitOf c) ∧ digitOf c < 10) (by decide) h

theorem isSpacing_digit {c : Char} (h : c.isDigit = true) : isSpacing c = false :=
  forall_digit (P := fun c ↦ isSpacing c = false) (by decide) h

theorem ne_of_isDigit {c d : Char} (h : c.isDigit = true) (hd : d.isDigit = false) : c ≠ d := by
  rintro rfl
  simp [hd] at h

variable {ds rest : List Char}

theorem readDigits_digits (h : ∀ d ∈ ds, d.isDigit = true) (count value : Nat) :
    readDigits 10 count value ds =
      some (count + ds.length, ds.foldl (fun n d ↦ n * 10 + digitOf d) value, []) := by
  induction ds generalizing count value with
  | nil => rfl
  | cons d ds ih =>
    obtain ⟨hd, hds⟩ := List.forall_mem_cons.mp h
    obtain ⟨hvalue, hsmall⟩ := digitValue?_digit hd
    have hin : digitIn? 10 d = some (digitOf d) := by
      simp [digitIn?, hvalue, Option.filter, hsmall]
    have hbar : d ≠ '_' := ne_of_isDigit hd (by decide)
    rw [readDigits]
    · simp only [hin]
      rw [ih hds, List.foldl_cons, List.length_cons, Nat.add_assoc, Nat.add_comm 1]
    · rintro _ _ rfl
      exact absurd rfl hbar

theorem exists_digit (hnonempty : ds ≠ []) (h : ∀ d ∈ ds, d.isDigit = true) :
    ∃ d ds', ds = d :: ds' ∧ d.isDigit = true := by
  obtain ⟨d, ds', rfl⟩ := List.exists_cons_of_ne_nil hnonempty
  exact ⟨d, ds', rfl, h d List.mem_cons_self⟩

theorem takeSign_digit {d : Char} (hd : d.isDigit = true) (cs : List Char) :
    takeSign (d :: cs) = (false, d :: cs) := by
  have hminus : d ≠ '-' := ne_of_isDigit hd (by decide)
  have hplus : d ≠ '+' := ne_of_isDigit hd (by decide)
  unfold takeSign
  split
  next heq => exact absurd (List.cons.inj heq).1 hminus
  next heq => exact absurd (List.cons.inj heq).1 hplus
  next => rfl

theorem readInteger_digits (hnonempty : ds ≠ []) (h : ∀ d ∈ ds, d.isDigit = true) :
    readInteger 10 ds = if digitLimit < ds.length then .error (.tooLong ds.length)
      else .ok (numeral 10 ds : Int) := by
  obtain ⟨d, ds', hds, hd⟩ := exists_digit hnonempty h
  have hspaces : ds.dropWhile isSpacing = ds := by
    rw [hds, List.dropWhile_cons_of_neg (by simp [isSpacing_digit hd])]
  have hsign : takeSign ds = (false, ds) := hds ▸ takeSign_digit hd ds'
  have hmark : takeBaseMark 10 ds = ds := by
    unfold takeBaseMark
    split <;> rfl
  have hbar : ¬ ds.head? = some '_' := by
    rw [hds, List.head?_cons, Option.some.injEq]
    exact ne_of_isDigit hd (by decide)
  have hcount : ds.length ≠ 0 := fun hzero ↦ hnonempty (List.length_eq_zero_iff.mp hzero)
  simp only [readInteger, hspaces, hsign, hmark, if_neg hbar, readDigits_digits h, Nat.zero_add]
  by_cases hlong : digitLimit < ds.length
  · rw [if_pos ⟨trivial, hlong⟩, if_pos hlong]
    rfl
  · rw [if_neg (by simp [hlong]), if_neg (by simp [hcount]), if_neg hlong]
    rfl

theorem spanDigits_digits (h : ∀ d ∈ ds, d.isDigit = true)
    (hrest : ∀ c ∈ rest.head?, digitValue? c = none) : spanDigits (ds ++ rest) = (ds, rest) := by
  have hsome : ∀ d ∈ ds, (digitValue? d).isSome = true := fun d hd ↦ by
    rw [(digitValue?_digit (h d hd)).1]
    rfl
  have hspan : (ds ++ rest).takeWhile (fun c ↦ (digitValue? c).isSome) = ds := by
    rw [List.takeWhile_append_of_pos hsome]
    cases rest with
    | nil => simp
    | cons c rest => rw [List.takeWhile_cons_of_neg (by simp [hrest c rfl]), List.append_nil]
  have hsame : ds.map (fun c ↦ Char.ofNat (0x30 + (digitValue? c).getD 0)) = ds := by
    refine (List.map_congr_left fun d hd ↦ ?_).trans (List.map_id ds)
    rw [(digitValue?_digit (h d hd)).1]
    exact forall_digit (P := fun c ↦ Char.ofNat (0x30 + digitOf c) = c) (by decide) (h d hd)
  rw [spanDigits, hspan, hsame, List.drop_left]

theorem neg_ofRatio (n d : Nat) :
    (Binary64.ofRatio false n d).neg = Binary64.ofRatio true n d := by
  unfold Binary64.ofRatio
  split
  · rfl
  · dsimp only
    split <;> split <;> first | rfl | (split <;> rfl)

theorem neg_ofDecimal (digits : Nat) (scale : Int) :
    (Binary64.ofDecimal false digits scale).neg = Binary64.ofDecimal true digits scale := by
  unfold Binary64.ofDecimal
  dsimp only
  split
  · rfl
  · split
    · rfl
    · split <;> exact neg_ofRatio _ _

end Number

namespace JsonText

open Number Text Yaml

variable {n : Numeral}

theorem head_exponentText (n : Numeral) {c : Char} (hc : c ∈ n.exponentText.head?) :
    c = 'e' ∨ c = 'E' := by
  unfold Numeral.exponentText at hc
  cases hexponent : n.exponent with
  | none => simp [hexponent] at hc
  | some e =>
    rw [hexponent] at hc
    obtain rfl := Option.some.inj hc
    exact e.isMark

/-- What stands behind the digits of the whole part: nothing, a point or the mark of an exponent. -/
theorem head_fraction_exponent (n : Numeral) {c : Char}
    (hc : c ∈ (n.fractionText ++ n.exponentText).head?) : c = '.' ∨ c = 'e' ∨ c = 'E' := by
  unfold Numeral.fractionText at hc
  cases hfraction : n.fraction with
  | some d =>
    rw [hfraction] at hc
    exact .inl (Option.some.inj hc).symm
  | none =>
    rw [hfraction] at hc
    exact .inr (head_exponentText n hc)

theorem exists_unsigned (n : Numeral) : ∃ d cs, n.unsigned = d :: cs ∧ d.isDigit = true := by
  obtain ⟨d, ds, hds, hd⟩ := exists_digit n.whole.nonempty n.whole.digit
  exact ⟨d, ds ++ (n.fractionText ++ n.exponentText), by rw [Numeral.unsigned, hds]; rfl, hd⟩

def isNumeralChar (c : Char) : Bool := c.isDigit || ['.', 'e', 'E', '+', '-'].contains c

theorem isNumeralChar_of_isDigit {c : Char} (h : c.isDigit = true) : isNumeralChar c = true := by
  rw [isNumeralChar, h, Bool.true_or]

theorem isNumeralChar_unsigned {c : Char} (hc : c ∈ n.unsigned) : isNumeralChar c = true := by
  have hdigits : ∀ {ds : Digits}, c ∈ ds.chars → isNumeralChar c = true :=
    fun hmem ↦ isNumeralChar_of_isDigit (Digits.digit _ c hmem)
  simp only [Numeral.unsigned, Numeral.fractionText, Numeral.exponentText, List.mem_append] at hc
  obtain hc | hc | hc := hc
  · exact hdigits hc
  · cases hfraction : n.fraction with
    | none => simp [hfraction] at hc
    | some ds =>
      rw [hfraction] at hc
      obtain rfl | hc := List.mem_cons.mp hc
      · decide
      · exact hdigits hc
  · cases hexponent : n.exponent with
    | none => simp [hexponent] at hc
    | some e =>
      rw [hexponent] at hc
      obtain rfl | hc := List.mem_cons.mp hc
      · obtain hmark | hmark := e.isMark <;> rw [hmark] <;> decide
      · obtain hc | hc := List.mem_append.mp hc
        · cases hsign : e.sign with
          | none => simp [hsign] at hc
          | some negative =>
            obtain rfl : c = signText negative := by simpa [hsign] using hc
            cases negative <;> decide
        · exact hdigits hc

theorem isNumeralChar_text {c : Char} (hc : c ∈ n.text) : isNumeralChar c = true := by
  unfold Numeral.text at hc
  split at hc
  · obtain rfl | hc := List.mem_cons.mp hc
    · decide
    · exact isNumeralChar_unsigned hc
  · exact isNumeralChar_unsigned hc

theorem forall_numeralChar {P : Char → Prop} (hdigit : ∀ k < 10, P (Char.ofNat (0x30 + k)))
    (hmark : ∀ c ∈ ['.', 'e', 'E', '+', '-'], P c) {c : Char} (hc : isNumeralChar c = true) :
    P c := by
  rw [isNumeralChar, Bool.or_eq_true] at hc
  obtain hc | hc := hc
  · exact forall_digit hdigit hc
  · exact hmark c (List.contains_iff_mem.mp hc)

theorem isPlainChar_text {c : Char} (hc : c ∈ n.text) : isPlainChar c = true :=
  forall_numeralChar (P := fun c ↦ isPlainChar c = true) (by decide) (by decide)
    (isNumeralChar_text hc)

theorem ne_of_mem_text {c d : Char} (hd : isNumeralChar d = false) (hc : c ∈ n.text) : c ≠ d := by
  rintro rfl
  exact absurd (isNumeralChar_text hc) (by simp [hd])

theorem exists_text (n : Numeral) : ∃ c cs, n.text = c :: cs ∧ isNumeralChar c = true := by
  obtain ⟨d, cs, hcs, hd⟩ := exists_unsigned n
  unfold Numeral.text
  split
  · exact ⟨'-', n.unsigned, rfl, by decide⟩
  · exact ⟨d, cs, hcs, isNumeralChar_of_isDigit hd⟩

theorem not_mem_of_heads {words : List String}
    (h : ∀ w ∈ words, ∀ c ∈ w.toList.head?, isNumeralChar c = false) :
    String.ofList n.text ∉ words := by
  intro hmem
  obtain ⟨c, cs, hcs, hc⟩ := exists_text n
  have hhead := h _ hmem c (by rw [String.toList_ofList, hcs]; rfl)
  exact absurd hc (by simp [hhead])

theorem takeSign_text (n : Numeral) : takeSign n.text = (n.negative, n.unsigned) := by
  obtain ⟨d, cs, hcs, hd⟩ := exists_unsigned n
  unfold Numeral.text
  cases n.negative with
  | true => rfl
  | false => rw [if_neg Bool.false_ne_true, hcs, takeSign_digit hd]

theorem afterSign_text (n : Numeral) : afterSign n.text = n.unsigned := by
  obtain ⟨d, cs, hcs, hd⟩ := exists_unsigned n
  have hminus : d ≠ '-' := ne_of_isDigit hd (by decide)
  have hplus : d ≠ '+' := ne_of_isDigit hd (by decide)
  unfold Numeral.text
  cases n.negative with
  | true => rfl
  | false =>
    rw [if_neg Bool.false_ne_true, hcs]
    unfold afterSign
    split
    next heq => exact absurd (List.cons.inj heq).1 hplus
    next heq => exact absurd (List.cons.inj heq).1 hminus
    next => rfl

theorem withoutLastBreak_text (n : Numeral) : withoutLastBreak n.text = n.text := by
  unfold withoutLastBreak
  split
  next rest heq =>
    have hmem : '\n' ∈ n.text := by
      rw [← List.mem_reverse, heq]
      exact List.mem_cons_self
    exact absurd rfl (ne_of_mem_text (by decide) hmem)
  next => rfl

theorem takeWhile_unsigned (n : Numeral) (hexponent : n.fraction = none → n.exponent = none) :
    n.unsigned.takeWhile (· != '.') = n.whole.chars := by
  have hwhole : ∀ c ∈ n.whole.chars, (c != '.') = true := fun c hc ↦ by
    simpa using ne_of_isDigit (n.whole.digit c hc) (by decide)
  rw [Numeral.unsigned, List.takeWhile_append_of_pos hwhole]
  cases hfraction : n.fraction with
  | none => simp [Numeral.fractionText, Numeral.exponentText, hfraction, hexponent hfraction]
  | some f => simp [Numeral.fractionText, hfraction]

theorem isBarredNumber_digits (ds : Digits) : isBarredNumber Char.isDigit ds.chars = true := by
  obtain ⟨d, cs, hcs, hd⟩ := exists_digit ds.nonempty ds.digit
  have hrest : ∀ c ∈ cs, isDigitOrBar c = true := fun c hc ↦ by
    rw [isDigitOrBar, ds.digit c (hcs ▸ List.mem_cons_of_mem d hc), Bool.true_or]
  rw [hcs, isBarredNumber, hd, List.all_eq_true.mpr hrest, Bool.true_and]

theorem looksExponent_exponentText (h : ∀ e, n.exponent = some e → e.sign.isSome = true) :
    looksExponent n.exponentText = true := by
  unfold Numeral.exponentText
  cases hexponent : n.exponent with
  | none => rfl
  | some e =>
    obtain ⟨negative, hsign⟩ := Option.isSome_iff_exists.mp (h e hexponent)
    have hmark : (e.mark == 'e' || e.mark == 'E') = true := by
      obtain hmark | hmark := e.isMark <;> rw [hmark] <;> rfl
    have hsignText : (signText negative == '+' || signText negative == '-') = true := by
      cases negative <;> rfl
    have hdigits : e.digits.chars.all Char.isDigit = true := List.all_eq_true.mpr e.digits.digit
    have htext : e.text = e.mark :: signText negative :: e.digits.chars := by
      rw [Exponent.text, hsign]
      rfl
    change looksExponent e.text = true
    rw [htext, looksExponent, hmark, hsignText, hdigits]
    simp [e.digits.nonempty]

theorem looksFloat_text (h : n.IsYaml) : looksFloat n.text = n.fraction.isSome := by
  have hexponent : n.fraction = none → n.exponent = none := fun hnone ↦ by
    cases he : n.exponent with
    | none => rfl
    | some e => exact absurd (h.2 e he).1 (by simp [hnone])
  have htake := takeWhile_unsigned n hexponent
  obtain ⟨d, cs, hcs, hd⟩ := exists_unsigned n
  have hdot : d ≠ '.' := ne_of_isDigit hd (by decide)
  have hdrop : n.unsigned.drop n.whole.chars.length = n.fractionText ++ n.exponentText :=
    List.drop_left
  unfold looksFloat
  rw [afterSign_text]
  dsimp only
  split
  next heq => exact absurd (List.cons.inj (hcs.symm.trans heq)).1 hdot
  next =>
    rw [htake, hdrop]
    cases hfraction : n.fraction with
    | none => simp [Numeral.fractionText, Numeral.exponentText, hfraction, hexponent hfraction]
    | some f =>
      have htext : n.fractionText ++ n.exponentText = '.' :: (f.chars ++ n.exponentText) := by
        simp [Numeral.fractionText, hfraction]
      have hdigits : ∀ c ∈ f.chars, isDigitOrBar c = true := fun c hc ↦ by
        rw [isDigitOrBar, f.digit c hc, Bool.true_or]
      have hrest : (f.chars ++ n.exponentText).dropWhile isDigitOrBar = n.exponentText := by
        rw [List.dropWhile_append_of_pos hdigits]
        cases hexp : n.exponent with
        | none => simp [Numeral.exponentText, hexp]
        | some e =>
          have hmark : isDigitOrBar e.mark = false := by
            obtain hmark | hmark := e.isMark <;> rw [hmark] <;> rfl
          simp [Numeral.exponentText, hexp, Exponent.text, hmark]
      have hlooks := looksExponent_exponentText (n := n) fun e he ↦ (h.2 e he).2
      simp only [htext, hrest, isBarredNumber_digits, hlooks]
      rfl

theorem unsigned_of_isInteger (h : n.isInteger = true) : n.unsigned = n.whole.chars := by
  simp only [Numeral.isInteger, Bool.and_eq_true, Option.isNone_iff_eq_none] at h
  simp [Numeral.unsigned, Numeral.fractionText, Numeral.exponentText, h.1, h.2]

theorem looksInteger_text (h : n.isInteger = true) : looksInteger n.text = true := by
  obtain ⟨d, cs, hcs, hd⟩ := exists_digit n.whole.nonempty n.whole.digit
  rw [looksInteger, afterSign_text, unsigned_of_isInteger h]
  by_cases hzero : d = '0'
  · rw [n.start (by rw [hcs, hzero]; rfl)]
    rfl
  · have hfirst : isNonzeroDigit d = true := by
      have hall : ∀ k < 10, Char.ofNat (0x30 + k) ≠ '0' →
          isNonzeroDigit (Char.ofNat (0x30 + k)) = true := by decide
      exact forall_digit (P := fun c ↦ c ≠ '0' → isNonzeroDigit c = true) hall hd hzero
    have hrest : ∀ c ∈ cs, isDigitOrBar c = true := fun c hc ↦ by
      rw [isDigitOrBar, n.whole.digit c (hcs ▸ List.mem_cons_of_mem d hc), Bool.true_or]
    have hnumber : isBarredNumber isNonzeroDigit (d :: cs) = true := by
      rw [isBarredNumber, hfirst, List.all_eq_true.mpr hrest, Bool.true_and]
    rw [hcs]
    split
    next heq => exact absurd (List.cons.inj heq).1 hzero
    next heq => exact absurd (List.cons.inj heq).1 hzero
    next heq => exact absurd (List.cons.inj heq).1 hzero
    next => rw [hnumber, Bool.true_or]

theorem ofPlain_text (h : n.IsYaml) :
    Tag.ofPlain (String.ofList n.text) = if n.isInteger then .int else .float := by
  have hbreak : String.ofList n.text ≠ "\n" := by
    have h : String.ofList n.text ∉ ["\n"] := not_mem_of_heads (by decide)
    exact fun heq ↦ h (List.mem_singleton.mpr heq)
  have htruth : truthWords.contains (String.ofList n.text) = false := by
    rw [List.contains_eq_mem, decide_eq_false (not_mem_of_heads (by decide))]
  have hkind : n.isInteger = !n.fraction.isSome := by
    unfold Numeral.isInteger
    cases hfraction : n.fraction with
    | some f => rfl
    | none =>
      cases he : n.exponent with
      | none => rfl
      | some e => exact absurd (h.2 e he).1 (by simp [hfraction])
  have hfloat := looksFloat_text h
  unfold Tag.ofPlain
  rw [if_neg hbreak, String.toList_ofList, withoutLastBreak_text]
  simp only [htruth, hfloat, Bool.false_eq_true, if_false]
  cases hsome : n.fraction.isSome with
  | true => simp [hkind, hsome]
  | false =>
    have hinteger : n.isInteger = true := by rw [hkind, hsome, Bool.not_false]
    simp [hinteger, looksInteger_text]

def Numeral.lowered (n : Numeral) : Numeral :=
  { n with exponent := n.exponent.map fun e ↦ ⟨'e', .inl rfl, e.sign, e.digits⟩ }

theorem lowered_value (n : Numeral) : n.lowered.value = n.value := by
  obtain ⟨negative, whole, start, fraction, exponent⟩ := n
  cases exponent <;> rfl

theorem map_toLower_digits (ds : Digits) : ds.chars.map Char.toLower = ds.chars := by
  refine (List.map_congr_left fun d hd ↦ ?_).trans (List.map_id ds.chars)
  exact forall_digit (P := fun c ↦ c.toLower = c) (by decide) (ds.digit d hd)

theorem map_toLower_text (n : Numeral) : n.text.map Char.toLower = n.lowered.text := by
  have hunsigned : n.unsigned.map Char.toLower = n.lowered.unsigned := by
    have hfraction : n.fractionText.map Char.toLower = n.fractionText := by
      unfold Numeral.fractionText
      cases n.fraction with
      | none => rfl
      | some f => simp [map_toLower_digits]
    have hexponent : n.exponentText.map Char.toLower = n.lowered.exponentText := by
      unfold Numeral.exponentText Numeral.lowered
      cases n.exponent with
      | none => rfl
      | some e =>
        have hmark : e.mark.toLower = 'e' := by
          obtain hmark | hmark := e.isMark <;> rw [hmark] <;> rfl
        have hsign : ((e.sign.map signText).toList).map Char.toLower =
            (e.sign.map signText).toList := by
          obtain _ | _ | _ := e.sign <;> rfl
        simp [Exponent.text, hmark, hsign, map_toLower_digits]
    simp only [Numeral.unsigned, List.map_append, hfraction, hexponent, map_toLower_digits]
    rfl
  unfold Numeral.text
  rw [← hunsigned]
  change _ = if n.negative then _ else _
  split <;> rfl

theorem lower_text (n : Numeral) : lower (String.ofList n.text) = String.ofList n.lowered.text := by
  have hfrom : ∀ (cs before : List Char), (∀ c ∈ cs, isNumeralChar c = true) →
      lowerFrom before cs = cs.map Char.toLower := by
    intro cs
    induction cs with
    | nil => exact fun _ _ ↦ rfl
    | cons c cs ih =>
      intro before hcs
      obtain ⟨hc, hcs⟩ := List.forall_mem_cons.mp hcs
      have hchars : c.toNat ≠ 0x3a3 ∧ lowerChars c = [c.toLower] :=
        forall_numeralChar (P := fun c ↦ c.toNat ≠ 0x3a3 ∧ lowerChars c = [c.toLower])
          (by decide) (by decide) hc
      rw [lowerFrom]
      simp only [if_neg hchars.1, hchars.2, ih (c :: before) hcs]
      rfl
  rw [lower, String.toList_ofList, hfrom _ _ fun c ↦ isNumeralChar_text, map_toLower_text]

theorem signed_text (n : Numeral) :
    signed (String.ofList n.text) = .ok (n.negative, n.unsigned) := by
  have hfilter : n.text.filter (· != '_') = n.text :=
    List.filter_eq_self.mpr fun c hc ↦ by simpa using ne_of_mem_text (by decide) hc
  obtain ⟨c, cs, hcs, -⟩ := exists_text n
  unfold signed
  rw [String.toList_ofList, hfilter]
  split
  next heq => exact absurd (hcs.symm.trans heq) (List.cons_ne_nil c cs)
  next => rw [takeSign_text]; rfl

theorem not_contains_colon {ds : List Char} (hc : ∀ c ∈ ds, isNumeralChar c = true) :
    ds.contains ':' = false := by
  rw [List.contains_eq_mem]
  exact decide_eq_false fun hmem ↦ absurd (hc _ hmem) (by decide)

/-- The digits of a whole part are read to the base 10, except for a single zero. -/
theorem integerValue_text (h : n.isInteger = true) (hlength : n.whole.chars.length ≤ digitLimit) :
    integerValue (String.ofList n.text) =
      .ok (if n.negative then -(numeral 10 n.whole.chars : Int)
        else numeral 10 n.whole.chars) := by
  have hread : integerIn 10 n.whole.chars = .ok (numeral 10 n.whole.chars : Int) := by
    rw [integerIn, readInteger_digits n.whole.nonempty n.whole.digit, if_neg (by omega)]
    rfl
  have hcolon : n.whole.chars.contains ':' = false :=
    not_contains_colon fun c hc ↦ isNumeralChar_of_isDigit (n.whole.digit c hc)
  have hzero : ∀ cs, n.whole.chars = '0' :: cs → cs = [] := fun cs hcs ↦ by
    have hstart := n.start (by rw [hcs]; rfl)
    exact (List.cons.inj (hcs.symm.trans hstart)).2
  unfold integerValue
  rw [signed_text, unsigned_of_isInteger h]
  simp only [bind, Except.bind]
  split
  next heq => exact absurd heq n.whole.nonempty
  next heq =>
    rw [heq]
    rfl
  next heq => exact absurd (hzero _ heq) (List.cons_ne_nil _ _)
  next heq => exact absurd (hzero _ heq) (List.cons_ne_nil _ _)
  next hsingle _ _ heq => exact absurd (hzero _ heq) hsingle
  next =>
    rw [hcolon, if_neg Bool.false_ne_true, hread]
    rfl

theorem trimBy_eq_self {drop : Char → Bool} {cs : List Char} (h : ∀ c ∈ cs, drop c = false) :
    trimBy drop cs = cs := by
  have hdrop : ∀ {ds : List Char}, (∀ c ∈ ds, drop c = false) → ds.dropWhile drop = ds := by
    intro ds hds
    cases ds with
    | nil => rfl
    | cons d ds => exact List.dropWhile_cons_of_neg (by simp [hds d List.mem_cons_self])
  rw [trimBy, hdrop h, hdrop fun c hc ↦ h c (List.mem_reverse.mp hc), List.reverse_reverse]

theorem readExponent?_exponentText (n : Numeral) :
    readExponent? n.exponentText = some ((n.exponent.map Exponent.value).getD 0) := by
  unfold Numeral.exponentText
  cases n.exponent with
  | none => rfl
  | some e =>
    obtain ⟨d, cs, hcs, hd⟩ := exists_digit e.digits.nonempty e.digits.digit
    have hsign : takeSign ((e.sign.map signText).toList ++ e.digits.chars) =
        (e.sign.getD false, e.digits.chars) := by
      obtain _ | _ | _ := e.sign
      · rw [hcs]
        exact takeSign_digit hd cs
      · rfl
      · rfl
    have hspan : spanDigits e.digits.chars = (e.digits.chars, []) := by
      have h : spanDigits (e.digits.chars ++ []) = _ := spanDigits_digits e.digits.digit (by simp)
      rwa [List.append_nil] at h
    have hempty : ¬ (e.digits.chars.isEmpty = true ∨ ¬ ([] : List Char).isEmpty = true) := by
      simp [e.digits.nonempty]
    change readExponent? e.text = some e.value
    rw [Exponent.text, readExponent?, if_pos e.isMark, hsign]
    simp only [hspan]
    rw [if_neg hempty, Exponent.value]
    obtain _ | _ | _ := e.sign <;> rfl

theorem readFloat?_unsigned (n : Numeral) : readFloat? n.unsigned =
    some (Binary64.ofDecimal false (numeral 10 (n.whole.chars ++ n.fractionChars))
      (((n.exponent.map Exponent.value).getD 0) - n.fractionChars.length)) := by
  obtain ⟨d, cs, hcs, hd⟩ := exists_unsigned n
  have htrim : trimBy isSpacing n.unsigned = n.unsigned :=
    trimBy_eq_self fun c hc ↦ forall_numeralChar (P := fun c ↦ isSpacing c = false)
      (by decide) (by decide) (isNumeralChar_unsigned hc)
  have hsign : takeSign n.unsigned = (false, n.unsigned) := hcs ▸ takeSign_digit hd cs
  have hword : ∀ w : String, (∀ c ∈ w.toList.head?, isNumeralChar c = false) →
      String.ofList (n.unsigned.map Char.toLower) ≠ w := by
    rintro w hw rfl
    have hlower : d.toLower = d := forall_digit (P := fun c ↦ c.toLower = c) (by decide) hd
    have hhead := hw d (by rw [String.toList_ofList, hcs, List.map_cons, hlower]; rfl)
    exact absurd (isNumeralChar_of_isDigit hd) (by simp [hhead])
  have hend : ∀ c ∈ n.exponentText.head?, digitValue? c = none := fun c hc ↦ by
    obtain rfl | rfl := head_exponentText n hc <;> decide
  have hwhole : spanDigits n.unsigned = (n.whole.chars, n.fractionText ++ n.exponentText) := by
    refine spanDigits_digits n.whole.digit fun c hc ↦ ?_
    obtain rfl | rfl | rfl := head_fraction_exponent n hc <;> decide
  have hnonempty : n.whole.chars.isEmpty = false := List.isEmpty_eq_false_iff.mpr n.whole.nonempty
  unfold readFloat?
  rw [htrim, hsign]
  simp only [hwhole, hnonempty, Bool.false_eq_true, false_and, if_false]
  rw [if_neg (by simp [hword "inf" (by decide), hword "infinity" (by decide)]),
    if_neg (hword "nan" (by decide))]
  split
  next rest heq =>
    have hfraction : spanDigits rest = (n.fractionChars, n.exponentText) := by
      unfold Numeral.fractionText at heq
      unfold Numeral.fractionChars
      cases hf : n.fraction with
      | some f =>
        rw [hf] at heq
        rw [← (List.cons.inj heq).2]
        exact spanDigits_digits f.digit hend
      | none =>
        rw [hf] at heq
        have hdot := head_exponentText n (c := '.') (by rw [show n.exponentText = _ from heq]; rfl)
        exact absurd hdot (by decide)
    rw [hfraction, readExponent?_exponentText]
    rfl
  next hdot =>
    have hnone : n.fraction = none := by
      cases hf : n.fraction with
      | none => rfl
      | some f =>
        exact absurd (by rw [Numeral.fractionText, hf]; rfl) (hdot (f.chars ++ n.exponentText))
    have hchars : n.fractionChars = [] := by rw [Numeral.fractionChars, hnone]; rfl
    have htext : n.fractionText ++ n.exponentText = n.exponentText := by
      rw [Numeral.fractionText, hnone]; rfl
    rw [htext, readExponent?_exponentText, hchars]
    rfl

theorem floatValue_text (h : n.isInteger = false) :
    ∃ x, floatValue (String.ofList n.text) = .ok x ∧ n.value = .float x := by
  obtain ⟨d, cs, hcs, hd⟩ := exists_unsigned n.lowered
  have hword : ∀ w : String, (∀ c ∈ w.toList.head?, c.isDigit = false) →
      String.ofList n.lowered.unsigned ≠ w := by
    rintro w hw rfl
    have hhead := hw d (by rw [String.toList_ofList, hcs]; rfl)
    exact absurd hd (by simp [hhead])
  have hcolon : n.lowered.unsigned.contains ':' = false :=
    not_contains_colon fun c ↦ isNumeralChar_unsigned
  have hfloat : n.lowered.isInteger = false := by
    rw [Numeral.isInteger] at h ⊢
    rw [← h, Numeral.lowered, Option.isNone_map]
  have hvalue : n.lowered.value = .float (Binary64.ofDecimal n.lowered.negative
      (numeral 10 (n.lowered.whole.chars ++ n.lowered.fractionChars))
      (((n.lowered.exponent.map Exponent.value).getD 0) - n.lowered.fractionChars.length)) :=
    if_neg (by rw [hfloat]; exact Bool.false_ne_true)
  refine ⟨_, ?_, (lowered_value n).symm.trans hvalue⟩
  unfold floatValue
  rw [lower_text, signed_text]
  simp only [bind, Except.bind]
  rw [if_neg (hword ".nan" (by decide)), if_neg (hword ".inf" (by decide)), hcolon,
    if_neg Bool.false_ne_true, floatIn, readFloat?_unsigned]
  cases n.lowered.negative with
  | true => exact congrArg Except.ok (neg_ofDecimal _ _)
  | false => rfl

theorem value_scalar {tag : Tag} (h : Node.isScalarTag tag = true) (text : String) :
    (Node.scalar tag text).value = .here (scalarValue tag text) := by
  unfold Node.scalar
  cases tag <;> first | rfl | exact absurd h Bool.false_ne_true

/-- A plain number means in YAML what it means in JSON. -/
theorem scalar_number (h : n.IsYaml) :
    (Node.scalar (Tag.ofPlain (String.ofList n.text)) (String.ofList n.text)).value =
      .ok n.value := by
  rw [ofPlain_text h]
  cases hinteger : n.isInteger with
  | true =>
    have hvalue : n.value = .int (if n.negative then -(numeral 10 n.whole.chars : Int)
        else numeral 10 n.whole.chars) := if_pos hinteger
    rw [if_pos rfl, hvalue, value_scalar rfl, scalarValue,
      integerValue_text hinteger (h.1 hinteger)]
    rfl
  | false =>
    obtain ⟨x, hx, hvalue⟩ := floatValue_text hinteger
    rw [if_neg Bool.false_ne_true, hvalue, value_scalar rfl, scalarValue, hx]
    rfl

end JsonText

end WebAcl
