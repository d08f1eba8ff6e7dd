import WebAcl.Proofs.JsonNumbers
import WebAcl.Proofs.Tokenizing

namespace WebAcl

open Text Yaml Yaml.Lexer Yaml.Lexing JsonText

namespace JsonText

mutual

def tokens : JsonText → List Token
  | null => [.scalar "null" true]
  | bool b => [.scalar (if b then "true" else "false") true]
  | number n => [.scalar (String.ofList n.text) true]
  | string ps => [.scalar (stringOf ps) false]
  | array _ items => .flowListStart :: (items.tokens true ++ [.flowListEnd])
  | object _ entries => .flowMapStart :: (entries.tokens true ++ [.flowMapEnd])

def Items.tokens (first : Bool) : Items → List Token
  | .nil => []
  | .cons _ item _ rest =>
    (if first then [] else [.flowEntry]) ++ (item.tokens ++ rest.tokens false)

def Entries.tokens (first : Bool) : Entries → List Token
  | .nil => []
  | .cons _ key _ _ value _ rest =>
    (if first then [] else [.flowEntry]) ++
      ([.key, .scalar (stringOf key) false, .value] ++ (value.tokens ++ rest.tokens false))

end

theorem forall_quotedText {P : Char → Prop} {ps : List Piece} (hps : StringIsYaml ps)
    (hascii : ∀ n < 0x7f, 0x20 ≤ n → P (Char.ofNat n))
    (hchar : ∀ c h, (Piece.char c h).IsYaml → P c) : ∀ d ∈ quotedText ps, P d := by
  have hprintable : ∀ {d : Char}, 0x20 ≤ d.toNat ∧ d.toNat < 0x7f → P d := fun {d} hd ↦ by
    have h := hascii d.toNat hd.2 hd.1
    rwa [Char.ofNat_toNat] at h
  have hpiece : ∀ p ∈ ps, ∀ d ∈ p.text, P d := by
    intro p hp d hd
    cases p with
    | char c h =>
      obtain rfl := List.mem_singleton.mp hd
      exact hchar d h (hps.1 _ hp)
    | short letter code h =>
      have hall : ∀ e ∈ shortEscapes, 0x20 ≤ e.1.toNat ∧ e.1.toNat < 0x7f := by decide
      obtain rfl | hd := List.mem_cons.mp hd
      · exact hprintable (by decide)
      · obtain rfl := List.mem_singleton.mp hd
        exact hprintable (hall _ h)
    | unit digits h =>
      obtain rfl | hd := List.mem_cons.mp hd
      · exact hprintable (by decide)
      · obtain rfl | hd := List.mem_cons.mp hd
        · exact hprintable (by decide)
        · have hhex := h.2 d hd
          have hbounds : 0x20 ≤ d.toNat ∧ d.toNat < 0x7f := forall_ascii (P := fun d ↦
            isHexDigit d = true → 0x20 ≤ d.toNat ∧ d.toNat < 0x7f) (by decide)
            (toNat_lt_of_isHexDigit hhex) hhex
          exact hprintable hbounds
  intro d hd
  obtain rfl | hd := List.mem_cons.mp hd
  · exact hprintable (by decide)
  · obtain hd | hd := List.mem_append.mp hd
    · obtain ⟨p, hp, hd⟩ := List.mem_flatMap.mp hd
      exact hpiece p hp d hd
    · obtain rfl := List.mem_singleton.mp hd
      exact hprintable (by decide)

theorem isBreak_quotedText {ps : List Piece} (hps : StringIsYaml ps) :
    ∀ d ∈ quotedText ps, isBreak d = false :=
  forall_quotedText hps (by decide) fun _ _ ↦ isBreak_char

theorem Gap.blanks {g : Gap} (h : g.IsYaml) : ∀ e ∈ unifyLineEnds g.chars, e ∈ Yaml.blanks := by
  have hall : ∀ cs : List Char, (∀ c ∈ cs, c ∈ [' ', '\t', '\n', '\r']) → '\t' ∉ cs →
      ∀ e ∈ unifyLineEnds cs, e ∈ Yaml.blanks := by
    intro cs
    induction cs using unifyLineEnds.induct with
    | case1 => intro _ _ e he; cases he
    | case2 cs ih =>
      intro hcs htab e he
      rw [unifyLineEnds] at he
      obtain rfl | he := List.mem_cons.mp he
      · decide
      · exact ih (fun c hc ↦ hcs c (by simp [hc])) (fun h ↦ htab (by simp [h])) e he
    | case3 c cs hne ih =>
      intro hcs htab e he
      have hrest : ∀ e ∈ unifyLineEnds cs, e ∈ Yaml.blanks :=
        ih (fun c hc ↦ hcs c (List.mem_cons_of_mem _ hc)) fun h ↦
          htab (List.mem_cons_of_mem _ h)
      rw [unifyLineEnds.eq_3 _ _ hne] at he
      obtain rfl | he := List.mem_cons.mp he
      · have hc := hcs c List.mem_cons_self
        have hother : c ≠ '\t' := fun h ↦ htab (h ▸ List.mem_cons_self)
        simp only [List.mem_cons, List.not_mem_nil, or_false] at hc
        obtain rfl | rfl | rfl | rfl := hc
        · decide
        · exact absurd rfl hother
        · decide
        · decide
      · exact hrest e he
  exact hall g.chars g.blank h

theorem unifyLineEnds_spaces {cs : List Char} (h : ∀ c ∈ cs, c = ' ') : unifyLineEnds cs = cs := by
  induction cs with
  | nil => rfl
  | cons c cs ih =>
    obtain ⟨rfl, hcs⟩ := List.forall_mem_cons.mp h
    rw [unifyLineEnds.eq_3 _ _ (by simp), ih hcs]
    rfl

section Steps

variable {s : Lexer} {cs gap : List Char} {ps : List Piece}

theorem isTokenStart_quotedText : IsTokenStart (quotedText ps ++ cs) := by
  intro d hd
  obtain rfl := Option.some.inj hd
  decide

theorem exec_quoted {c : Cursor} (hps : StringIsYaml ps) (hfits : c.rest.length ≤ c.size)
    (hrest : c.rest = quotedText ps ++ cs) :
    exec (do return Token.scalar (← quotedScalar '"') false) c =
      (.ok (.scalar (stringOf ps) false), c.skip (quotedText ps).length) := by
  rw [exec_bind_ok (exec_quotedScalar hps hfits hrest)]
  rfl

theorem exists_reads_string (hs : Ready s) (hps : StringIsYaml ps)
    (h : IsBefore s (quotedText ps ++ cs)) :
    ∃ s', Reads s s' [.scalar (stringOf ps) false] s.depth cs := by
  obtain ⟨s₁, h₁⟩ := exists_arrives hs isTokenStart_quotedText h
  obtain ⟨keys, hkeys, hitem, -⟩ :=
    exec_item h₁.ready (exec_quoted hps h₁.ready.fits h₁.rest)
  rw [h₁.depth] at hitem
  exact ⟨_, h₁.reads hs (List.cons_ne_nil _ _) rfl hkeys
    (exec_token (Cursor.peek_of_rest h₁.rest) rfl hitem)⟩

theorem isFresh_skip {k : PossibleKey} {c : Cursor} {n : Nat} (hindex : k.index = c.index)
    (hline : k.line = c.line) (hn : n ≤ keyReach) (hlength : n ≤ c.rest.length)
    (hbreak : ∀ d ∈ c.rest.take n, isBreak d = false) : k.isFresh (c.skip n) = true := by
  rw [PossibleKey.isFresh, hindex, hline, Cursor.line_skip hbreak, Cursor.index_skip hlength]
  simp only [bne_self_eq_false, Bool.false_or, Bool.not_eq_true', decide_eq_false_iff_not]
  omega

theorem exists_reads_key (hs : Ready s) (hdepth : 0 < s.depth) (hallowed : s.keyAllowed = true)
    (hps : StringIsYaml ps) (hgap : ∀ c ∈ gap, c = ' ')
    (hreach : (quotedText ps).length + gap.length ≤ keyReach)
    (h : IsBefore s (quotedText ps ++ (gap ++ ':' :: cs))) :
    ∃ s', Reads s s' [.key, .scalar (stringOf ps) false, .value] s.depth cs := by
  obtain ⟨s₁, h₁⟩ := exists_arrives hs isTokenStart_quotedText h
  obtain ⟨keys, hkeys, hitem, hnoted⟩ :=
    exec_item h₁.ready (exec_quoted hps h₁.ready.fits h₁.rest)
  have hnoted := hnoted ((h₁.allowed hdepth).trans hallowed)
  rw [h₁.depth] at hitem hnoted
  have h₂ := h₁.reads hs (List.cons_ne_nil _ _) rfl hkeys
    (exec_token (Cursor.peek_of_rest h₁.rest) rfl hitem)
  -- The key is fresh behind the string and at the colon.
  have hfresh : ∀ n ≤ (quotedText ps).length + gap.length,
      PossibleKey.isFresh ⟨s₁.count, false, s₁.cursor.index, s₁.cursor.line, s₁.cursor.column⟩
        (s₁.cursor.skip n) = true := by
    intro n hn
    have hline : ∀ d ∈ quotedText ps ++ gap, isBreak d = false := by
      intro d hd
      obtain hd | hd := List.mem_append.mp hd
      · exact isBreak_quotedText hps d hd
      · rw [hgap d hd]
        decide
    have htake : s₁.cursor.rest.take n = (quotedText ps ++ gap).take n := by
      rw [h₁.rest, ← List.append_assoc, List.take_append_of_le_length (by simpa using hn)]
    refine isFresh_skip rfl rfl (by omega) ?_ fun d hd ↦ hline d ?_
    · rw [h₁.rest]
      simp only [List.length_append]
      omega
    · rw [htake] at hd
      exact List.mem_of_mem_take hd
  have hbehind : (s₁.cursor.skip (quotedText ps).length).rest = gap ++ ':' :: cs := by
    rw [Cursor.rest_skip, h₁.rest, List.drop_left]
  obtain ⟨s', hready, hleads, htokens, hsame, hbefore⟩ := exists_reads_colon h₂.ready hdepth hnoted
    rfl rfl (fun e he ↦ by rw [hgap e he]; decide) hbehind (hfresh _ (by omega))
    (by simpa [Cursor.skip_skip, after] using hfresh _ (Nat.le_refl _))
  refine ⟨s', hready, h₂.leads.trans hleads, ?_, hsame, hbefore⟩
  rw [htokens, ← h₁.tokens]
  rfl

theorem exists_reads_word {d : Char} (hs : Ready s) (hdepth : 0 < s.depth) (word : List Char)
    (hword : ∀ e ∈ word, isPlainChar e = true)
    (hstart : ∀ c : Cursor, c.rest = word ++ (gap ++ d :: cs) → IsWordStart c) (hne : word ≠ [])
    (hgap : ∀ e ∈ gap, e ∈ Yaml.blanks) (hd : d ∈ closers)
    (h : IsBefore s (word ++ (gap ++ d :: cs))) :
    ∃ s', Reads s s' [.scalar (String.ofList word) true] s.depth (d :: cs) := by
  have htoken : IsTokenStart (word ++ (gap ++ d :: cs)) := by
    obtain ⟨e, word, rfl⟩ := List.exists_cons_of_ne_nil hne
    intro e' he'
    obtain rfl := Option.some.inj he'
    have he := hword e List.mem_cons_self
    simp only [isPlainChar, isGap, isSpaceOrEnd, isLineEnd, Bool.and_eq_true, Bool.not_eq_true',
      Bool.or_eq_false_iff, bne_iff_ne, beq_eq_false_iff_ne] at he
    exact ⟨he.2.1.1.1.2.1, he.2.1.2, he.2.1.1.1.2.2.2⟩
  obtain ⟨s₁, h₁⟩ := exists_arrives hs htoken h
  have hflow : (s₁.depth != 0) = true := by
    rw [h₁.depth, bne_iff_ne]
    omega
  obtain ⟨broken, hplain⟩ :
      ∃ broken, exec (plainScalar (s₁.depth != 0) s₁.indent) s₁.cursor = _ := by
    rw [hflow]
    exact exec_plainScalar hword hne hgap hd h₁.ready.fits h₁.rest
  obtain ⟨keys, hkeys, hexec⟩ := exec_plain h₁.ready hplain
  rw [h₁.depth] at hexec
  rw [← List.append_assoc] at h₁
  exact ⟨_, h₁.reads hs (by simp [hne]) (by simp) hkeys
    (exec_token_word (hstart _ (by rw [h₁.rest, List.append_assoc])) hexec)⟩

theorem isWordStart_of_rest {c : Cursor} {d : Char} (hrest : c.rest = d :: cs)
    (hd : d.isAlphanum = true) : IsWordStart c := by
  rw [IsWordStart, Cursor.peek_of_rest hrest]
  exact .inl hd

theorem isWordStart_number {c : Cursor} {n : Numeral} (hrest : c.rest = n.text ++ cs) :
    IsWordStart c := by
  obtain ⟨d, ds, hds, hd⟩ := exists_unsigned n
  unfold Numeral.text at hrest
  rw [hds] at hrest
  split at hrest
  · have hnext : c.ahead 1 = d := by
      rw [Cursor.ahead, hrest]
      rfl
    exact .inr ⟨Cursor.peek_of_rest hrest, hnext ▸ hd⟩
  · exact isWordStart_of_rest hrest (by rw [Char.isAlphanum, hd, Bool.or_true])

variable {layout : List Char → List Char} {close : Char}

theorem Items.exists_closer (items : Items) (hclose : close ∈ closers) :
    ∃ d cs', items.text layout none ++ close :: cs = d :: cs' ∧ d ∈ closers := by
  cases items with
  | nil => exact ⟨close, cs, rfl, hclose⟩
  | cons => exact ⟨',', _, rfl, by decide⟩

theorem Entries.exists_closer (entries : Entries) (hclose : close ∈ closers) :
    ∃ d cs', entries.text layout none ++ close :: cs = d :: cs' ∧ d ∈ closers := by
  cases entries with
  | nil => exact ⟨close, cs, rfl, hclose⟩
  | cons => exact ⟨',', _, rfl, by decide⟩

theorem exists_reads_opening (hs : Ready s) (opening : Option Gap)
    (hallowed : opening.isSome = true → s.keyAllowed = true)
    (h : IsBefore s (comma opening ++ cs)) :
    ∃ s', Reads s s' (if opening.isSome then [] else [.flowEntry]) s.depth cs ∧
      s'.keyAllowed = true := by
  cases opening with
  | some gap => exact ⟨s, ⟨hs, .refl s, rfl, rfl, h⟩, hallowed rfl⟩
  | none => exact exists_reads_comma hs h

theorem exists_reads_brackets {first : Char} {t t' : Token} {ts : List Token} {inner : List Char}
    (hs : Ready s) (hfirst : handler? first = some (flowStart t))
    (hclose : handler? close = some (flowEnd t'))
    (hinner : ∀ {s₁ : Lexer}, Ready s₁ → 0 < s₁.depth → s₁.keyAllowed = true →
      IsBefore s₁ (inner ++ close :: cs) → ∃ s', Reads s₁ s' ts s₁.depth (close :: cs))
    (h : IsBefore s (first :: (inner ++ close :: cs))) :
    ∃ s', Reads s s' (t :: (ts ++ [t'])) s.depth cs := by
  obtain ⟨s₁, h₁, hallowed⟩ := exists_reads_start hs h hfirst
  have hpos : 0 < s₁.depth := by
    rw [h₁.depth]
    exact Nat.succ_pos _
  obtain ⟨s₂, h₂⟩ := hinner h₁.ready hpos hallowed h₁.before
  obtain ⟨s₃, h₃⟩ := exists_reads_end h₂.ready h₂.before hclose (h₂.depth.trans h₁.depth)
  exact ⟨s₃, h₁.trans (h₂.trans h₃)⟩

end Steps

mutual

/-- The reader finds the tokens of a value up to what closes it. -/
theorem exists_reads (t : JsonText) {s : Lexer} {gap cs : List Char} {d : Char} (hs : Ready s)
    (hdepth : 0 < s.depth) (hyaml : t.IsYaml) (hgap : ∀ e ∈ gap, e ∈ Yaml.blanks)
    (hd : d ∈ closers) (h : IsBefore s (t.text unifyLineEnds ++ (gap ++ d :: cs))) :
    ∃ s', Reads s s' t.tokens s.depth (d :: cs) := by
  cases t with
  | null =>
    exact exists_reads_word hs hdepth "null".toList (by decide)
      (fun c hc ↦ isWordStart_of_rest hc (by decide)) (by decide) hgap hd h
  | bool b =>
    cases b
    · exact exists_reads_word hs hdepth "false".toList (by decide)
        (fun c hc ↦ isWordStart_of_rest hc (by decide)) (by decide) hgap hd h
    · exact exists_reads_word hs hdepth "true".toList (by decide)
        (fun c hc ↦ isWordStart_of_rest hc (by decide)) (by decide) hgap hd h
  | number n =>
    obtain ⟨e, es, hes, -⟩ := exists_text n
    exact exists_reads_word hs hdepth n.text (fun e ↦ isPlainChar_text)
      (fun c ↦ isWordStart_number) (by rw [hes]; exact List.cons_ne_nil e es) hgap hd h
  | string ps =>
    obtain ⟨s', h'⟩ := exists_reads_string hs hyaml h
    exact ⟨s', { h' with before := h'.before.of_append hgap }⟩
  | array inner items =>
    obtain ⟨s', h'⟩ := exists_reads_brackets hs rfl rfl
      (fun hs₁ hdepth₁ hallowed h₁ ↦ exists_items_reads items (some inner) hs₁ hdepth₁ hyaml.2
        (fun g hg ↦ Option.some.inj hg ▸ hyaml.1) (fun _ ↦ hallowed) h₁) (by simpa [text] using h)
    exact ⟨s', { h' with before := h'.before.of_append hgap }⟩
  | object inner entries =>
    obtain ⟨s', h'⟩ := exists_reads_brackets hs rfl rfl
      (fun hs₁ hdepth₁ hallowed h₁ ↦ exists_entries_reads entries (some inner) hs₁ hdepth₁ hyaml.2
        (fun g hg ↦ Option.some.inj hg ▸ hyaml.1) (fun _ ↦ hallowed) h₁) (by simpa [text] using h)
    exact ⟨s', { h' with before := h'.before.of_append hgap }⟩

theorem exists_items_reads (items : Items) (opening : Option Gap) {s : Lexer} {cs : List Char}
    (hs : Ready s) (hdepth : 0 < s.depth) (hyaml : items.IsYaml)
    (hopening : ∀ g, opening = some g → g.IsYaml)
    (hallowed : opening.isSome = true → s.keyAllowed = true)
    (h : IsBefore s (items.text unifyLineEnds opening ++ ']' :: cs)) :
    ∃ s', Reads s s' (items.tokens opening.isSome) s.depth (']' :: cs) := by
  cases items with
  | nil =>
    refine ⟨s, hs, .refl s, rfl, rfl, ?_⟩
    cases opening with
    | none => exact h
    | some g => exact h.of_append (Gap.blanks (hopening g rfl))
  | cons before item after rest =>
    obtain ⟨hbefore, hitem, hafter, hrest⟩ := hyaml
    obtain ⟨d, cs', hclose, hd⟩ : ∃ d cs', rest.text unifyLineEnds none ++ ']' :: cs = d :: cs' ∧
      d ∈ closers := rest.exists_closer (by decide)
    obtain ⟨s₁, h₁, -⟩ := exists_reads_opening hs opening hallowed (by
      simpa only [Items.text, List.append_assoc] using h)
    obtain ⟨s₂, h₂⟩ := exists_reads item h₁.ready (h₁.depth ▸ hdepth) hitem (Gap.blanks hafter) hd
      (hclose ▸ h₁.before.of_append (Gap.blanks hbefore))
    rw [h₁.depth] at h₂
    obtain ⟨s₃, h₃⟩ := exists_items_reads rest none h₂.ready (h₂.depth ▸ hdepth) hrest
      nofun (fun hg ↦ absurd hg Bool.false_ne_true)
      (hclose ▸ h₂.before)
    rw [h₂.depth] at h₃
    exact ⟨s₃, h₁.trans (h₂.trans h₃)⟩

theorem exists_entries_reads (entries : Entries) (opening : Option Gap) {s : Lexer}
    {cs : List Char} (hs : Ready s) (hdepth : 0 < s.depth) (hyaml : entries.IsYaml)
    (hopening : ∀ g, opening = some g → g.IsYaml)
    (hallowed : opening.isSome = true → s.keyAllowed = true)
    (h : IsBefore s (entries.text unifyLineEnds opening ++ '\x7d' :: cs)) :
    ∃ s', Reads s s' (entries.tokens opening.isSome) s.depth ('\x7d' :: cs) := by
  cases entries with
  | nil =>
    refine ⟨s, hs, .refl s, rfl, rfl, ?_⟩
    cases opening with
    | none => exact h
    | some g => exact h.of_append (Gap.blanks (hopening g rfl))
  | cons before key colon between value after rest =>
    obtain ⟨hbefore, hkey, hcolon, hreach, hbetween, hvalue, hafter, hrest⟩ := hyaml
    obtain ⟨d, cs', hclose, hd⟩ : ∃ d cs', rest.text unifyLineEnds none ++ '\x7d' :: cs = d :: cs' ∧
      d ∈ closers := rest.exists_closer (by decide)
    obtain ⟨s₁, h₁, hfirst⟩ := exists_reads_opening hs opening hallowed (by
      simpa only [Entries.text, List.append_assoc, List.cons_append] using h)
    obtain ⟨s₂, h₂⟩ := exists_reads_key h₁.ready (h₁.depth ▸ hdepth) hfirst hkey hcolon hreach
      (unifyLineEnds_spaces hcolon ▸ h₁.before.of_append (Gap.blanks hbefore))
    rw [h₁.depth] at h₂
    obtain ⟨s₃, h₃⟩ := exists_reads value h₂.ready (h₂.depth ▸ hdepth) hvalue (Gap.blanks hafter) hd
      (hclose ▸ h₂.before.of_append (Gap.blanks hbetween))
    rw [h₂.depth] at h₃
    obtain ⟨s₄, h₄⟩ := exists_entries_reads rest none h₃.ready (h₃.depth ▸ hdepth) hrest
      nofun (fun hg ↦ absurd hg Bool.false_ne_true)
      (hclose ▸ h₃.before)
    rw [h₃.depth] at h₄
    exact ⟨s₄, h₁.trans (h₂.trans (h₃.trans h₄))⟩

end

theorem ofSource_object {before gap after : Gap} {entries : Entries} (hbefore : before.IsYaml)
    (hafter : after.IsYaml) (hyaml : (object gap entries).IsYaml) :
    Tokens.ofSource ⟨unifyLineEnds before.chars ++
      ((object gap entries).text unifyLineEnds ++ unifyLineEnds after.chars), none⟩ =
        ⟨(object gap entries).tokens ++ [.textEnd], .malformed⟩ := by
  obtain ⟨cs, hcs⟩ : ∃ cs, unifyLineEnds before.chars ++
    ((object gap entries).text unifyLineEnds ++ unifyLineEnds after.chars) = cs := ⟨_, rfl⟩
  have hpeek : (Cursor.ofText cs).peek ∈ '\x7b' :: Yaml.blanks := by
    rw [← hcs]
    cases hfirst : unifyLineEnds before.chars with
    | nil => exact List.mem_cons_self
    | cons e g =>
      have he := Gap.blanks hbefore e (by rw [hfirst]; exact List.mem_cons_self)
      exact List.mem_cons_of_mem _ he
  have hmark : ((Cursor.ofText cs).peek == byteOrderMark) = false := by
    have hall : ∀ c ∈ '\x7b' :: Yaml.blanks, (c == byteOrderMark) = false := by decide
    exact hall _ hpeek
  have hready : Ready { cursor := Cursor.ofText cs } :=
    ⟨rfl, rfl, Nat.le_refl _, by simp⟩
  obtain ⟨s', h'⟩ : ∃ s', Reads { cursor := Cursor.ofText cs } s' (object gap entries).tokens 0
      (unifyLineEnds after.chars) :=
    exists_reads_brackets hready rfl rfl
      (fun hs₁ hdepth₁ hallowed h₁ ↦ exists_entries_reads entries (some gap) hs₁ hdepth₁ hyaml.2
        (fun g hg ↦ Option.some.inj hg ▸ hyaml.1) (fun _ ↦ hallowed) h₁)
      ⟨_, Gap.blanks hbefore, by simpa [text, Cursor.ofText] using hcs.symm⟩
  have hend : IsBefore s' [] := by
    refine IsBefore.of_append (Gap.blanks hafter) ?_
    rw [List.append_nil]
    exact h'.before
  rw [hcs, Tokens.ofSource]
  simp only [hmark]
  rw [if_neg Bool.false_ne_true, run_of_reads { h' with before := hend } (by simp [Cursor.ofText])]
  rfl

end JsonText

end WebAcl
