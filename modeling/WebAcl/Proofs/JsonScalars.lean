import WebAcl.Proofs.JsonText
import WebAcl.Proofs.NameChars
import WebAcl.Proofs.QuotedText
import WebAcl.Proofs.Scanning
import WebAcl.Yaml.Node

namespace WebAcl.Yaml

open Text JsonText Scan

section Quoted

variable {c : Cursor} {read : List Char} {fuel : Nat} {d : Char} {cs : List Char}

/-- Characters that stand for themselves between spaces. -/
def isOrdinary (d : Char) : Bool := !isGap d && d != '\'' && d != '"' && d != '\\'

theorem exec_quotedChars_ordinary (hrest : c.rest = d :: cs) (hd : isOrdinary d = true) :
    exec (quotedChars true read (fuel + 1)) c =
      exec (quotedChars true ((hold d).reverse ++ read) (fuel + 1)) (c.skip 1) := by
  have hspan : c.rest.takeWhile isOrdinary = d :: (c.skip 1).rest.takeWhile isOrdinary := by
    rw [Cursor.rest_skip, hrest, List.takeWhile_cons_of_pos hd]
    rfl
  change exec (Scan.span isOrdinary >>= _) c = exec (Scan.span isOrdinary >>= _) (c.skip 1)
  rw [exec_bind_ok (exec_span c _), exec_bind_ok (exec_span (c.skip 1) _), hspan]
  simp only [held_cons, List.reverse_append, List.append_assoc]
  rfl

theorem exec_quotedChars_apostrophe (hrest : c.rest = '\'' :: cs) :
    exec (quotedChars true read (fuel + 1)) c =
      exec (quotedChars true ('\'' :: read) fuel) (c.skip 1) := by
  have hspan : c.rest.takeWhile isOrdinary = [] := by
    rw [hrest]
    rfl
  have hpeek := Cursor.peek_of_rest hrest
  change exec (Scan.span isOrdinary >>= _) c = _
  rw [exec_bind_ok (exec_span c _), hspan]
  simp [exec_bind, hpeek]

theorem exec_quotedChars_escape {code : List Char} {c' : Cursor} (hrest : c.rest = '\\' :: cs)
    (hescape : exec escape (c.skip 1) = (.ok code, c')) :
    exec (quotedChars true read (fuel + 1)) c =
      exec (quotedChars true (code.reverse ++ read) fuel) c' := by
  have hspan : c.rest.takeWhile isOrdinary = [] := by
    rw [hrest]
    rfl
  have hpeek := Cursor.peek_of_rest hrest
  change exec (Scan.span isOrdinary >>= _) c = _
  rw [exec_bind_ok (exec_span c _), hspan]
  simp [exec_bind, hpeek, hescape]

theorem exec_quotedChars_end (hrest : c.rest = d :: cs) (hd : d = ' ' ∨ d = '"') :
    exec (quotedChars true read (fuel + 1)) c = (.ok read, c) := by
  have hspan : c.rest.takeWhile isOrdinary = [] := by
    rw [hrest]
    obtain rfl | rfl := hd <;> rfl
  have hpeek := Cursor.peek_of_rest hrest
  change exec (Scan.span isOrdinary >>= _) c = _
  rw [exec_bind_ok (exec_span c _), hspan]
  obtain rfl | rfl := hd <;> simp [exec_bind, hpeek]

theorem lookup_simpleEscapes {letter : Char} {code : Nat} (h : (letter, code) ∈ shortEscapes) :
    simpleEscapes.lookup letter = some code := by
  have hall : shortEscapes.all fun e ↦ simpleEscapes.lookup e.1 == some e.2 := by decide
  exact beq_iff_eq.mp (List.all_eq_true.mp hall _ h)

theorem exec_escape_short {letter : Char} {code : Nat} (hmem : (letter, code) ∈ shortEscapes)
    (hrest : c.rest = letter :: cs) :
    exec escape c = (.ok [Char.ofNat code], c.skip 1) := by
  have hpeek := Cursor.peek_of_rest hrest
  simp [escape, exec_bind, hpeek, lookup_simpleEscapes hmem, Except.map]

theorem toNat_lt_of_isHexDigit {d : Char} (h : isHexDigit d = true) : d.toNat < 0x80 := by
  simp only [isHexDigit, Char.isDigit, Bool.or_eq_true, Bool.and_eq_true, decide_eq_true_eq,
    Char.le_def, UInt32.le_iff_toNat_le, ge_iff_le] at h
  change d.val.toNat < 0x80
  have hbounds : '9'.val.toNat = 0x39 ∧ 'f'.val.toNat = 0x66 ∧ 'F'.val.toNat = 0x46 := by decide
  have hnine : (57 : UInt32).toNat = 0x39 := rfl
  omega

theorem digitOf_lt {d : Char} (h : isHexDigit d = true) : digitOf d < 16 :=
  forall_ascii (P := fun d ↦ isHexDigit d = true → digitOf d < 16) (by decide)
    (toNat_lt_of_isHexDigit h) h

theorem numeral_lt {ds : List Char} (h : ∀ d ∈ ds, isHexDigit d = true) :
    numeral 16 ds < 16 ^ ds.length := by
  induction ds using List.reverseRecOn with
  | nil => decide
  | append_singleton ds d ih =>
    have hds := ih fun e he ↦ h e (List.mem_append_left _ he)
    have hd := digitOf_lt (h d (by simp))
    have hnumeral : numeral 16 (ds ++ [d]) = numeral 16 ds * 16 + digitOf d := by
      simp [numeral]
    rw [hnumeral, List.length_append, List.length_singleton, Nat.pow_succ]
    omega

theorem exec_escape_unit {digits : List Char} (hlength : digits.length = 4)
    (hhex : ∀ d ∈ digits, isHexDigit d = true) (hrest : c.rest = 'u' :: (digits ++ cs)) :
    exec escape c = (.ok (charsOfCode (numeral 16 digits)), c.skip 5) := by
  have hpeek := Cursor.peek_of_rest hrest
  have htake : (c.skip 1).rest.take 4 = digits := by
    rw [Cursor.rest_skip, hrest, List.drop_succ_cons, List.drop_zero, ← hlength, List.take_left]
  have hall : digits.all isHexDigit = true := List.all_eq_true.mpr hhex
  have hsmall := numeral_lt hhex
  rw [hlength] at hsmall
  have hlookup : simpleEscapes.lookup 'u' = none := by decide
  have hrequire : exec (require (digits.length == 4 && digits.all isHexDigit)) (c.skip 1) =
      (.ok (), c.skip 1) := exec_require (by rw [hlength, hall]; rfl) _
  simp only [escape, exec_bind, exec_peek, hpeek, hlookup, escapeWidth?, exec_advance, exec_get,
    htake, hrequire]
  rw [if_neg (by omega), if_neg (by omega)]
  simp [Cursor.skip_skip, Except.map]

theorem takeWhile_spaces {p : Char → Bool} (n : Nat) (hspace : p ' ' = true) (hd : p d = false) :
    (List.replicate n ' ' ++ d :: cs).takeWhile p = List.replicate n ' ' := by
  rw [List.takeWhile_append_of_pos, List.takeWhile_cons_of_neg (by simp [hd]), List.append_nil]
  intro e he
  rwa [List.eq_of_mem_replicate he]

theorem exec_quotedSpaces {n : Nat} (hrest : c.rest = List.replicate n ' ' ++ d :: cs)
    (hd : isGap d = false) :
    exec quotedSpaces c = (.ok (List.replicate n ' '), c.skip n) := by
  have hgap : (d == ' ' || d == '\t') = false := by
    simp only [isGap, isSpaceOrEnd, Bool.or_eq_false_iff] at hd
    rw [hd.2.1, hd.1]
    rfl
  have hspan : (c.rest.takeWhile fun d ↦ d == ' ' || d == '\t') = List.replicate n ' ' := by
    rw [hrest, takeWhile_spaces n rfl hgap]
  have hpeek : (c.skip n).peek = d :=
    Cursor.peek_of_rest (by
      rw [Cursor.rest_skip, hrest]
      exact List.drop_left' List.length_replicate)
  have hnul : (d != nul) = true := by
    simp only [isGap, isSpaceOrEnd, isLineEnd, Bool.or_eq_false_iff] at hd
    simp [bne, hd.2.2.1]
  have hbreak : isBreak d = false := by
    simp only [isGap, isSpaceOrEnd, isLineEnd, Bool.or_eq_false_iff] at hd
    exact hd.2.2.2
  simp [quotedSpaces, exec_bind, hspan, hpeek, exec_require hnul, hbreak, Except.map]

theorem isBreak_char {h : 0x20 ≤ d.toNat ∧ d ≠ '"' ∧ d ≠ '\\'} (hyaml : (Piece.char d h).IsYaml) :
    isBreak d = false := by
  have hlow := h.1
  obtain ⟨hrange, hline, hparagraph, -, -⟩ := hyaml
  simp only [isBreak, Bool.or_eq_false_iff, beq_eq_false_iff_ne]
  refine ⟨⟨⟨?_, by omega⟩, hline⟩, hparagraph⟩
  rintro rfl
  exact absurd hlow (by decide)

theorem isGap_char {h : 0x20 ≤ d.toNat ∧ d ≠ '"' ∧ d ≠ '\\'} (hyaml : (Piece.char d h).IsYaml)
    (hspace : d ≠ ' ') : isGap d = false := by
  have hbreak := isBreak_char hyaml
  simp only [isGap, isSpaceOrEnd, isLineEnd, Bool.or_eq_false_iff, beq_eq_false_iff_ne]
  refine ⟨?_, hspace, ?_, hbreak⟩
  · rintro rfl
    exact absurd h.1 (by decide)
  · rintro rfl
    exact absurd h.1 (by decide)

theorem exists_head {ps : List Piece} (hps : ∀ p ∈ ps, p.IsYaml)
    (hspace : ∀ p ∈ ps.head?, p.text ≠ [' ']) (rest : List Char) :
    ∃ d cs, textOf ps ++ '"' :: rest = d :: cs ∧ isGap d = false := by
  cases ps with
  | nil => exact ⟨'"', rest, rfl, rfl⟩
  | cons p ps =>
    cases p with
    | char d h =>
      refine ⟨d, textOf ps ++ '"' :: rest, rfl, isGap_char (hps _ List.mem_cons_self) ?_⟩
      rintro rfl
      exact hspace _ rfl rfl
    | short => exact ⟨'\\', _, rfl, rfl⟩
    | unit => exact ⟨'\\', _, rfl, rfl⟩

theorem chars_of_space {p : Piece} (h : p.text = [' ']) : p.chars = [' '] := by
  cases p with
  | char d =>
    obtain rfl : d = ' ' := List.singleton_inj.mp h
    rfl
  | short => simp [Piece.text] at h
  | unit => simp [Piece.text] at h

theorem exists_spaces (ps : List Piece) : ∃ n tail, ps.length = n + tail.length ∧
    textOf ps = List.replicate n ' ' ++ textOf tail ∧
      ps.flatMap Piece.chars = List.replicate n ' ' ++ tail.flatMap Piece.chars ∧
        tail ⊆ ps ∧ ∀ p ∈ tail.head?, p.text ≠ [' '] := by
  induction ps with
  | nil => exact ⟨0, [], by simp [textOf]⟩
  | cons p ps ih =>
    by_cases hp : p.text = [' ']
    · obtain ⟨n, tail, hlength, htext, hchars, htail, hhead⟩ := ih
      refine ⟨n + 1, tail, ?_, ?_, ?_, fun q hq ↦ List.mem_cons_of_mem _ (htail hq), hhead⟩
      · rw [List.length_cons, hlength]
        omega
      · rw [textOf, List.flatMap_cons, hp, ← textOf, htext]
        rfl
      · rw [List.flatMap_cons, chars_of_space hp, hchars]
        rfl
    · exact ⟨0, p :: ps, by simp, rfl, rfl, List.Subset.refl _, by simpa using hp⟩

theorem exec_quotedRest_spaces {n g : Nat} (hn : 0 < n)
    (hrest : c.rest = List.replicate n ' ' ++ d :: cs) (hd : isGap d = false) :
    exec (quotedRest '"' read (g + 1)) c =
      exec (quotedChars true (List.replicate n ' ' ++ read) (g + 1) >>= fun read ↦
        quotedRest '"' read g) (c.skip n) := by
  obtain ⟨n, rfl⟩ : ∃ n', n = n' + 1 := ⟨n - 1, by omega⟩
  have hpeek : c.peek = ' ' := Cursor.peek_of_rest hrest
  have hspaces := exec_quotedSpaces hrest hd
  have hquote : (' ' == '"') = false := rfl
  rw [quotedRest, exec_bind_ok (exec_peek c), hpeek, hquote, if_neg Bool.false_ne_true,
    exec_bind_ok hspaces, List.reverse_replicate]
  rfl

theorem exec_quotedChars_piece {p : Piece} (hp : p.IsYaml) (hspace : p.text ≠ [' '])
    (hrest : c.rest = p.text ++ cs) : ∃ f, fuel ≤ f ∧
      exec (quotedChars true read (fuel + 1)) c =
        exec (quotedChars true (p.chars.reverse ++ read) f) (c.skip p.text.length) := by
  cases p with
  | char d h =>
    have hd : d ≠ ' ' := by
      rintro rfl
      exact hspace rfl
    by_cases hquote : d = '\''
    · subst hquote
      rw [show (Piece.char '\'' h).chars = ['\''] from rfl]
      exact ⟨fuel, le_rfl, exec_quotedChars_apostrophe hrest⟩
    · have hordinary : isOrdinary d = true := by simp [isOrdinary, isGap_char hp hd, hquote, h.2]
      exact ⟨fuel + 1, Nat.le_succ fuel, exec_quotedChars_ordinary hrest hordinary⟩
  | short letter code hmem =>
    have hletter : (c.skip 1).rest = letter :: cs := by
      rw [Cursor.rest_skip, hrest]
      rfl
    refine ⟨fuel, le_rfl, ?_⟩
    rw [exec_quotedChars_escape hrest (exec_escape_short hmem hletter), Cursor.skip_skip]
    rfl
  | unit digits h =>
    have hletter : (c.skip 1).rest = 'u' :: (digits ++ cs) := by
      rw [Cursor.rest_skip, hrest]
      simp [Piece.text]
    have hlength : (Piece.unit digits h).text.length = 1 + 5 := by simp [Piece.text, h.1]
    refine ⟨fuel, le_rfl, ?_⟩
    rw [exec_quotedChars_escape hrest (exec_escape_unit h.1 h.2 hletter), Cursor.skip_skip, hlength]
    rfl

theorem exec_quotedPieces {rest : List Char} {ps : List Piece} {f g : Nat}
    (hps : ∀ p ∈ ps, p.IsYaml) (hf : ps.length < f) (hg : ps.length < g)
    (hrest : c.rest = textOf ps ++ '"' :: rest) :
    exec (quotedChars true read f >>= fun read ↦ quotedRest '"' read g) c =
      (.ok ((ps.flatMap Piece.chars).reverse ++ read), c.skip ((textOf ps).length + 1)) := by
  induction hn : ps.length using Nat.strong_induction_on generalizing ps c read f g with
  | h n ih =>
    obtain ⟨f, rfl⟩ : ∃ f', f = f' + 1 := ⟨f - 1, by omega⟩
    obtain ⟨g, rfl⟩ : ∃ g', g = g' + 1 := ⟨g - 1, by omega⟩
    cases ps with
    | nil =>
      have hpeek : c.peek = '"' := Cursor.peek_of_rest hrest
      rw [exec_bind_ok (exec_quotedChars_end hrest (.inr rfl)), quotedRest]
      simp [exec_bind, hpeek, textOf, Except.map]
    | cons p ps =>
      obtain ⟨hp, hps'⟩ := List.forall_mem_cons.mp hps
      simp only [List.length_cons] at hn hf hg
      have hpiece : c.rest = p.text ++ (textOf ps ++ '"' :: rest) := by
        rw [hrest, textOf, List.flatMap_cons, List.append_assoc]
        rfl
      by_cases hspace : p.text = [' ']
      · -- all spaces up to the next other piece are read at once
        obtain ⟨k, tail, hlength, htext, hchars, htail, hhead⟩ := exists_spaces ps
        have htailYaml : ∀ p ∈ tail, p.IsYaml := fun p hp ↦ hps' p (htail hp)
        obtain ⟨e, es, he, hgap⟩ := exists_head htailYaml hhead rest
        have hblank : c.rest = List.replicate (k + 1) ' ' ++ e :: es := by
          rw [hpiece, hspace, htext, List.append_assoc, he]
          rfl
        have hlater : (c.skip (k + 1)).rest = textOf tail ++ '"' :: rest := by
          rw [Cursor.rest_skip, hblank, List.drop_left' List.length_replicate, he]
        have hwhole : textOf (p :: ps) = List.replicate (k + 1) ' ' ++ textOf tail := by
          rw [textOf, List.flatMap_cons, ← textOf, hspace, htext]
          rfl
        have hwholeChars : (p :: ps).flatMap Piece.chars =
            List.replicate (k + 1) ' ' ++ tail.flatMap Piece.chars := by
          rw [List.flatMap_cons, chars_of_space hspace, hchars]
          rfl
        rw [exec_bind_ok (exec_quotedChars_end hblank (.inl rfl)),
          exec_quotedRest_spaces k.succ_pos hblank hgap,
          ih tail.length (by omega) htailYaml (by omega) (by omega) hlater rfl, Cursor.skip_skip,
          hwhole, hwholeChars]
        simp [Nat.add_assoc]
      · obtain ⟨f', hf', hexec⟩ := exec_quotedChars_piece hp hspace hpiece
        have hlater : (c.skip p.text.length).rest = textOf ps ++ '"' :: rest := by
          rw [Cursor.rest_skip, hpiece, List.drop_left]
        rw [exec_bind, hexec, ← exec_bind,
          ih ps.length (by omega) hps' (by omega) (by omega) hlater rfl, Cursor.skip_skip]
        simp [textOf, Nat.add_assoc]

theorem length_le_textOf (ps : List Piece) : ps.length ≤ (textOf ps).length := by
  induction ps with
  | nil => simp
  | cons p ps ih =>
    have hp : 0 < p.text.length := by cases p <;> simp [Piece.text]
    rw [textOf, List.flatMap_cons, ← textOf, List.length_append, List.length_cons]
    omega

/-- Without pairs of escapes every piece stands for itself. -/
theorem charsOf_eq {ps : List Piece} (h : ps.IsChain fun p q ↦ p.pairs q = false) :
    charsOf ps = ps.flatMap Piece.chars := by
  induction ps with
  | nil => rfl
  | cons p ps ih =>
    have hps := ih (List.IsChain.tail h)
    cases p with
    | char | short =>
      rw [charsOf, hps, List.flatMap_cons]
      simp
    | unit high hhigh =>
      cases ps with
      | nil => rfl
      | cons q qs =>
        cases q with
        | unit low hlow =>
          have hpair := (List.isChain_cons_cons.mp h).1
          rw [charsOf, if_neg (by simp [hpair]), hps]
          rfl
        | char | short =>
          rw [charsOf, hps]
          · rfl
          · rintro _ _ _ _ _ - heq
            cases heq

theorem exec_quotedScalar {ps : List Piece} {rest : List Char} (hps : StringIsYaml ps)
    (hsize : c.rest.length ≤ c.size) (hrest : c.rest = quotedText ps ++ rest) :
    exec (quotedScalar '"') c = (.ok (stringOf ps), c.skip (quotedText ps).length) := by
  have hlater : (c.skip 1).rest = textOf ps ++ '"' :: rest := by
    rw [Cursor.rest_skip, hrest, quotedText]
    simp
  have hfuel : ps.length < c.size + 1 := by
    have hpieces := length_le_textOf ps
    rw [hrest, quotedText] at hsize
    simp only [List.cons_append, List.length_cons, List.length_append] at hsize
    omega
  have hpieces : exec (quotedChars true [] (c.size + 1) >>= _) (c.skip 1) = _ :=
    exec_quotedPieces hps.1 hfuel hfuel hlater
  rw [quotedScalar, exec_bind_ok (exec_get c), exec_bind_ok (exec_advance c 1)]
  have hdouble : ('"' == '"') = true := rfl
  rw [← bind_assoc, hdouble, exec_bind_ok hpieces, Cursor.skip_skip]
  simp [stringOf, charsOf_eq hps.2, quotedText, Nat.add_comm]

end Quoted

section Plain

variable {c : Cursor} {d : Char} {cs word gap : List Char} {fuel : Nat}

def isPlainChar (d : Char) : Bool :=
  d.toNat < halfShift && (!isGap d && d != ':' && d != '#' &&
    !",?[]\x7b\x7d".toList.contains d)

def closers : List Char := [',', ']', '\x7d']

/-- White space as it is left after line ends have been made alike. -/
def blanks : List Char := [' ', '\n']

theorem endsPlain_of_isPlainChar (hd : isPlainChar d = true) (hpeek : c.peek = d) :
    endsPlain true c = false := by
  simp only [isPlainChar, Bool.and_eq_true, Bool.not_eq_true', bne_iff_ne, ne_eq] at hd
  obtain ⟨-, ⟨⟨hgap, hcolon⟩, -⟩, hlist⟩ := hd
  have hnot : (d == ':') = false := beq_eq_false_iff_ne.mpr hcolon
  simp only [endsPlain, hpeek, hgap, hnot, hlist]
  rfl

theorem endsPlain_of_gap (hpeek : c.peek = d) (hd : d ∈ blanks ∨ d ∈ closers) :
    endsPlain true c = true := by
  simp only [blanks, closers, List.mem_cons, List.not_mem_nil, or_false] at hd
  obtain (rfl | rfl) | rfl | rfl | rfl := hd <;> simp [endsPlain, hpeek] <;> decide

theorem exec_plainChars (hword : ∀ d ∈ word, isPlainChar d = true) (hfuel : word.length < fuel)
    (hrest : c.rest = word ++ d :: cs) (hd : d ∈ blanks ∨ d ∈ closers) :
    exec (plainChars true fuel) c = (.ok word, c.skip word.length) := by
  induction word generalizing c fuel with
  | nil =>
    obtain ⟨fuel, rfl⟩ : ∃ f, fuel = f + 1 := ⟨fuel - 1, by omega⟩
    have hends := endsPlain_of_gap (Cursor.peek_of_rest hrest) hd
    rw [plainChars, exec_bind_ok (exec_get c), if_pos hends]
    rfl
  | cons e word ih =>
    simp only [List.length_cons] at hfuel
    obtain ⟨fuel, rfl⟩ : ∃ f, fuel = f + 1 := ⟨fuel - 1, by omega⟩
    obtain ⟨he, hword⟩ := List.forall_mem_cons.mp hword
    have hpeek := Cursor.peek_of_rest hrest
    have hends := endsPlain_of_isPlainChar he hpeek
    have hlater : exec (plainChars true fuel) (c.skip 1) = _ :=
      ih hword (by omega) (by simp [hrest])
    rw [plainChars, exec_bind_ok (exec_get c), hends, if_neg Bool.false_ne_true,
      exec_bind_ok (exec_advance c 1), exec_bind_ok hlater, hpeek, Cursor.skip_skip,
      List.length_cons, Nat.add_comm, hold_of_lt (of_decide_eq_true (Bool.and_eq_true_iff.mp he).1)]
    rfl

theorem lineBreak_of_rest (hrest : c.rest = '\n' :: cs) : c.lineBreak = (['\n'], c.skip 1) := by
  rw [Cursor.lineBreak, Cursor.peek_of_rest hrest]
  rfl

theorem atDocumentMarker_eq_false (hpeek : c.peek = d) (hd : d ∈ blanks ∨ d ∈ closers) :
    c.atDocumentMarker = false := by
  have hahead : c.ahead 0 = d := hpeek
  simp only [blanks, closers, List.mem_cons, List.not_mem_nil, or_false] at hd
  obtain (rfl | rfl) | rfl | rfl | rfl := hd <;>
    simp [Cursor.atDocumentMarker, Cursor.atMarker, hahead]

theorem exists_peek (hgap : ∀ e ∈ gap, e ∈ blanks) (hd : d ∈ closers)
    (hrest : c.rest = gap ++ d :: cs) : ∃ e, c.peek = e ∧ (e ∈ blanks ∨ e ∈ closers) := by
  cases gap with
  | nil => exact ⟨d, Cursor.peek_of_rest hrest, .inr hd⟩
  | cons e gap => exact ⟨e, Cursor.peek_of_rest hrest, .inl (hgap e List.mem_cons_self)⟩

theorem closer_ne_space (hd : d ∈ closers) : (d == ' ') = false ∧ isBreak d = false := by
  simp only [closers, List.mem_cons, List.not_mem_nil, or_false] at hd
  obtain rfl | rfl | rfl := hd <;> decide

theorem exec_plainBreaks {breaks : List Char} (hgap : ∀ e ∈ gap, e ∈ blanks) (hd : d ∈ closers)
    (hfuel : gap.length < fuel) (hrest : c.rest = gap ++ d :: cs) :
    ∃ more, exec (plainBreaks breaks fuel) c = (.ok (some more), c.skip gap.length) := by
  induction gap generalizing c fuel breaks with
  | nil =>
    obtain ⟨fuel, rfl⟩ : ∃ f, fuel = f + 1 := ⟨fuel - 1, by omega⟩
    have hpeek : c.peek = d := Cursor.peek_of_rest hrest
    obtain ⟨hspace, hbreak⟩ := closer_ne_space hd
    refine ⟨breaks, ?_⟩
    rw [plainBreaks, exec_bind_ok (exec_peek c), hpeek, hspace, hbreak]
    rfl
  | cons e gap ih =>
    simp only [List.length_cons] at hfuel
    obtain ⟨fuel, rfl⟩ : ∃ f, fuel = f + 1 := ⟨fuel - 1, by omega⟩
    obtain ⟨he, hgap'⟩ := List.forall_mem_cons.mp hgap
    have hpeek : c.peek = e := Cursor.peek_of_rest hrest
    have hlater : (c.skip 1).rest = gap ++ d :: cs := by simp [hrest]
    obtain rfl | rfl : e = ' ' ∨ e = '\n' := by simpa [blanks] using he
    · obtain ⟨more, hmore⟩ : ∃ more, exec (plainBreaks breaks fuel) (c.skip 1) = _ :=
        ih hgap' (by omega) hlater
      refine ⟨more, ?_⟩
      rw [plainBreaks, exec_bind_ok (exec_peek c), hpeek, if_pos (by decide),
        exec_bind_ok (exec_advance c 1), hmore, Cursor.skip_skip, List.length_cons, Nat.add_comm]
    · obtain ⟨more, hmore⟩ : ∃ more, exec (plainBreaks (breaks ++ ['\n']) fuel) (c.skip 1) = _ :=
        ih hgap' (by omega) hlater
      obtain ⟨e, hnext, he⟩ := exists_peek hgap' hd hlater
      have hmarker := atDocumentMarker_eq_false hnext he
      have hbreak := lineBreak_of_rest hrest
      refine ⟨more, ?_⟩
      rw [plainBreaks, exec_bind_ok (exec_peek c), hpeek, if_neg (by decide), if_pos (by decide),
        exec_bind_ok (exec_lineBreak c), hbreak, exec_bind_ok (exec_get _), hmarker,
        if_neg Bool.false_ne_true, hmore, Cursor.skip_skip, List.length_cons, Nat.add_comm]

theorem exists_lines (hgap : ∀ e ∈ gap, e ∈ blanks) :
    ∃ n lines, gap = List.replicate n ' ' ++ lines ∧
    (lines = [] ∨ ∃ more, lines = '\n' :: more ∧ ∀ e ∈ more, e ∈ blanks) := by
  induction gap with
  | nil => exact ⟨0, [], rfl, .inl rfl⟩
  | cons e gap ih =>
    obtain ⟨he, hgap'⟩ := List.forall_mem_cons.mp hgap
    obtain rfl | rfl : e = ' ' ∨ e = '\n' := by simpa [blanks] using he
    · obtain ⟨n, lines, rfl, hlines⟩ := ih hgap'
      exact ⟨n + 1, lines, rfl, hlines⟩
    · exact ⟨0, '\n' :: gap, rfl, .inr ⟨gap, rfl, hgap'⟩⟩

theorem exec_spaces {n : Nat} (hrest : c.rest = List.replicate n ' ' ++ d :: cs)
    (hd : (d == ' ') = false) :
    exec (Scan.span (· == ' ')) c = (.ok (List.replicate n ' '), c.skip n) ∧
      (c.skip n).rest = d :: cs := by
  have hspan : c.rest.takeWhile (· == ' ') = List.replicate n ' ' := by
    rw [hrest, takeWhile_spaces (p := (· == ' ')) n rfl hd]
  constructor
  · rw [exec_span, hspan, List.length_replicate]
  · rw [Cursor.rest_skip, hrest]
    exact List.drop_left' List.length_replicate

theorem exec_plainGap (hgap : ∀ e ∈ gap, e ∈ blanks) (hd : d ∈ closers)
    (hsize : c.rest.length ≤ c.size) (hrest : c.rest = gap ++ d :: cs) :
    ∃ next broken, exec plainGap c = (.ok (next, broken), c.skip gap.length) := by
  obtain ⟨hspace, hbreak⟩ := closer_ne_space hd
  obtain ⟨n, lines, rfl, rfl | ⟨more, rfl, hmore⟩⟩ := exists_lines hgap
  · rw [List.append_nil] at hrest ⊢
    obtain ⟨hspan, hnext⟩ := exec_spaces hrest hspace
    refine ⟨List.replicate n ' ', false, ?_⟩
    rw [plainGap, exec_bind_ok hspan, exec_bind_ok (exec_peek _), Cursor.peek_of_rest hnext, hbreak,
      List.length_replicate]
    rfl
  · rw [List.append_assoc] at hrest
    obtain ⟨hspan, hnext⟩ := exec_spaces hrest (by decide)
    have hline := lineBreak_of_rest hnext
    have hlater : ((c.skip n).skip 1).rest = more ++ d :: cs := by
      rw [Cursor.rest_skip, hnext]
      rfl
    obtain ⟨e, hpeek, he⟩ := exists_peek hmore hd hlater
    have hmarker := atDocumentMarker_eq_false hpeek he
    have hfuel : more.length < ((c.skip n).skip 1).size + 1 := by
      have hlength := congrArg List.length hrest
      simp only [List.length_append, List.length_cons] at hlength
      simp only [Cursor.size_skip]
      omega
    obtain ⟨breaks, hbreaks⟩ : ∃ breaks, exec (plainBreaks [] _) ((c.skip n).skip 1) = _ :=
      exec_plainBreaks hmore hd hfuel hlater
    refine ⟨fold ['\n'] breaks, true, ?_⟩
    rw [plainGap, exec_bind_ok hspan, exec_bind_ok (exec_peek _), Cursor.peek_of_rest hnext,
      if_pos (by decide), exec_bind_ok (exec_lineBreak _), hline, exec_bind_ok (exec_get _),
      hmarker, if_neg Bool.false_ne_true, exec_bind_ok (exec_get _), exec_bind_ok hbreaks,
      Cursor.skip_skip, Cursor.skip_skip]
    simp [Nat.add_comm, Nat.add_left_comm]

theorem closer_ne_hash (hd : d ∈ closers) : (d == '#') = false := by
  simp only [closers, List.mem_cons, List.not_mem_nil, or_false] at hd
  obtain rfl | rfl | rfl := hd <;> decide

theorem exec_plainParts_end {indent : Nat} {broken : Bool} (hrest : c.rest = d :: cs)
    (hd : d ∈ closers) :
    exec (plainParts true indent gap broken fuel) c = (.ok ([], broken), c) := by
  cases fuel with
  | zero => rfl
  | succ fuel =>
    have hchars : exec (plainChars true (fuel + 1)) c = (.ok [], c) :=
      @exec_plainChars c d cs [] _ (by simp) (Nat.succ_pos _) hrest (.inr hd)
    rw [plainParts, exec_bind_ok (exec_peek c), Cursor.peek_of_rest hrest, closer_ne_hash hd,
      if_neg Bool.false_ne_true, exec_bind_ok hchars]
    rfl

theorem exec_plainScalar {outer : Int} (hword : ∀ d ∈ word, isPlainChar d = true)
    (hnonempty : word ≠ []) (hgap : ∀ e ∈ gap, e ∈ blanks) (hd : d ∈ closers)
    (hsize : c.rest.length ≤ c.size) (hrest : c.rest = word ++ (gap ++ d :: cs)) :
    ∃ broken, exec (plainScalar true outer) c =
      (.ok (String.ofList word, broken), c.skip (word.length + gap.length)) := by
  obtain ⟨e, hnext, he⟩ : ∃ e, (∃ es, gap ++ d :: cs = e :: es) ∧ (e ∈ blanks ∨ e ∈ closers) := by
    cases gap with
    | nil => exact ⟨d, ⟨cs, rfl⟩, .inr hd⟩
    | cons e gap => exact ⟨e, ⟨_, rfl⟩, .inl (hgap e List.mem_cons_self)⟩
  obtain ⟨es, hes⟩ := hnext
  have hlength := congrArg List.length hrest
  simp only [List.length_append, List.length_cons] at hlength
  have hchars : exec (plainChars true (c.size + 1)) c = _ :=
    exec_plainChars hword (by omega) (hes ▸ hrest) he
  have hbehind : (c.skip word.length).rest = gap ++ d :: cs := by
    rw [Cursor.rest_skip, hrest, List.drop_left]
  have hshorter : (c.skip word.length).rest.length ≤ (c.skip word.length).size := by
    rw [Cursor.size_skip, hbehind, List.length_append, List.length_cons]
    omega
  obtain ⟨next, broken, hread⟩ := exec_plainGap hgap hd hshorter hbehind
  have hstart : (c.peek == '#') = false := by
    obtain ⟨f, word, rfl⟩ := List.exists_cons_of_ne_nil hnonempty
    have hf := hword f List.mem_cons_self
    simp only [isPlainChar, Bool.and_eq_true, bne_iff_ne, ne_eq] at hf
    rw [Cursor.peek_of_rest hrest]
    exact beq_eq_false_iff_ne.mpr hf.2.1.2
  have hend : ((c.skip word.length).skip gap.length).rest = d :: cs := by
    rw [Cursor.rest_skip, hbehind, List.drop_left]
  have hpart : word.isEmpty = false := by
    cases word with
    | nil => exact absurd rfl hnonempty
    | cons => rfl
  have hhash : (((c.skip word.length).skip gap.length).peek == '#') = false := by
    rw [Cursor.peek_of_rest hend]
    exact closer_ne_hash hd
  have hparts : exec (plainParts true (outer + 1).toNat [] false (c.size + 1)) c =
      (.ok (word, broken), c.skip (word.length + gap.length)) := by
    rw [plainParts, exec_bind_ok (exec_peek c), hstart, if_neg Bool.false_ne_true,
      exec_bind_ok hchars, hpart, if_neg Bool.false_ne_true, exec_bind_ok hread,
      exec_bind_ok (exec_get _), hhash, Cursor.skip_skip]
    cases next with
    | nil => rfl
    | cons e next =>
      have hnone : exec (plainParts true (outer + 1).toNat (e :: next) broken c.size) _ = _ :=
        exec_plainParts_end hend hd
      rw [Cursor.skip_skip] at hnone
      simp [hnone, Except.map]
  refine ⟨broken, ?_⟩
  rw [plainScalar, exec_bind_ok (exec_get c)]
  exact exec_bind_ok hparts

end Plain

end WebAcl.Yaml
