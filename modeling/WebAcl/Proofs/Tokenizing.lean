import WebAcl.Proofs.JsonScalars

namespace WebAcl.Yaml

def PossibleKey.isFresh (k : PossibleKey) (c : Cursor) : Bool :=
  !(k.line != c.line || Lexing.keyReach < c.index - k.index)

namespace Lexer

structure Ready (s : Lexer) : Prop where
  outer : s.outer = []
  indent : s.indent = -1
  fits : s.cursor.rest.length ≤ s.cursor.size
  keys : ∀ k ∈ s.keys, k.2.required = false

def fresh (s : Lexer) : Lexer := { s with keys := s.keys.filter fun k ↦ k.2.isFresh s.cursor }

def arrived (s : Lexer) (n : Nat) (allowed : Bool) : Lexer :=
  { s with cursor := s.cursor.skip n, keyAllowed := allowed }

def after (s : Lexer) (n : Nat) (ts : List Token) (depth : Nat) (allowed : Bool)
    (keys : List (Nat × PossibleKey)) : Lexer :=
  { s with
    cursor := s.cursor.skip n
    tokens := ts.reverse ++ s.tokens
    count := s.count + ts.length
    depth := depth
    keyAllowed := allowed
    keys := keys }

/-- A run from one state goes through another one. Every step on the way reads a character. -/
def Leads (s s' : Lexer) : Prop :=
  ∃ n, n + s'.cursor.rest.length ≤ s.cursor.rest.length ∧
    ∀ fuel, s.run none (n + fuel) = s'.run none fuel

variable {s s' s'' : Lexer}

theorem Leads.refl (s : Lexer) : Leads s s :=
  ⟨0, by omega, fun fuel ↦ by rw [Nat.zero_add]⟩

theorem Leads.trans (h : Leads s s') (h' : Leads s' s'') : Leads s s'' := by
  obtain ⟨n, hn, hrun⟩ := h
  obtain ⟨m, hm, hrun'⟩ := h'
  exact ⟨n + m, by omega, fun fuel ↦ by rw [Nat.add_assoc, hrun, hrun']⟩

theorem Ready.fresh (h : Ready s) : Ready s.fresh where
  outer := h.outer
  indent := h.indent
  fits := h.fits
  keys k hk := h.keys k (List.mem_filter.mp hk).1

theorem Ready.fewer (h : Ready s) (p : Nat × PossibleKey → Bool) :
    ∀ k ∈ s.keys.filter p, k.2.required = false :=
  fun k hk ↦ h.keys k (List.mem_filter.mp hk).1

theorem Ready.arrived (h : Ready s) (n : Nat) (allowed : Bool) : Ready (s.arrived n allowed) where
  outer := h.outer
  indent := h.indent
  fits := by
    have hfits := h.fits
    simp only [Lexer.arrived, Cursor.rest_skip, Cursor.size_skip, List.length_drop]
    omega
  keys := h.keys

end Lexer

namespace Lexing

open Lexer

variable {s s' : Lexer}

@[simp] theorem exec_emit (t : Token) (s : Lexer) :
    exec (emit t) s = (.ok (), { s with tokens := t :: s.tokens, count := s.count + 1 }) := rfl

@[simp] theorem exec_insertAt (place : Nat) (t : Token) (s : Lexer) :
    exec (insertAt place t) s = (.ok (), { s with
      tokens := s.tokens.take (s.count - place) ++ t :: s.tokens.drop (s.count - place)
      count := s.count + 1 }) := rfl

@[simp] theorem exec_setKeyAllowed (b : Bool) (s : Lexer) :
    exec (setKeyAllowed b) s = (.ok (), { s with keyAllowed := b }) := rfl

theorem exec_read {α : Type} {x : Scan α} {a : α} {c : Cursor} (h : exec x s.cursor = (.ok a, c)) :
    exec (read x) s = (.ok a, { s with cursor := c }) := by
  have hrun : x.run.run s.cursor = (.ok a, c) := h
  unfold read
  rw [exec_bind_ok (exec_get s), hrun]
  rfl

theorem exec_dropStaleKeys (h : Ready s) : exec dropStaleKeys s = (.ok (), s.fresh) := by
  have hany : (s.keys.any fun k ↦ (k.2.line != s.cursor.line ||
      decide (keyReach < s.cursor.index - k.2.index)) && k.2.required) = false := by
    rw [List.any_eq_false]
    intro k hk
    rw [h.keys k hk, Bool.and_false]
    exact Bool.false_ne_true
  unfold dropStaleKeys
  rw [exec_bind, exec_get]
  simp only [hany]
  rfl

theorem exec_dropKey (h : Ready s) : exec dropKey s =
    (.ok (), { s with keys := s.keys.filter fun k ↦ k.1 != s.depth }) := by
  have hany : (s.keys.any fun k ↦ k.1 == s.depth && k.2.required) = false := by
    rw [List.any_eq_false]
    intro k hk
    rw [h.keys k hk, Bool.and_false]
    exact Bool.false_ne_true
  unfold dropKey
  rw [exec_bind, exec_get]
  simp only [hany]
  rfl

def IsTokenStart (cs : List Char) : Prop := ∀ d ∈ cs.head?, d ≠ ' ' ∧ d ≠ '#' ∧ isBreak d = false

variable {g cs : List Char}

theorem skipSpaces_eq {c : Cursor} {n : Nat} (hrest : c.rest = List.replicate n ' ' ++ cs)
    (hcs : ∀ d ∈ cs.head?, d ≠ ' ') : c.skipSpaces = c.skip n := by
  have hspaces : (List.replicate n ' ').takeWhile (· == ' ') = List.replicate n ' ' := by simp
  have hnone : cs.takeWhile (· == ' ') = [] := by
    cases cs with
    | nil => rfl
    | cons d cs => exact List.takeWhile_cons_of_neg (by simpa using hcs d rfl)
  have htake : c.rest.takeWhile (· == ' ') = List.replicate n ' ' := by
    rw [hrest, List.takeWhile_append_of_pos fun d hd ↦ by simp [List.eq_of_mem_replicate hd],
      hnone, List.append_nil]
  change c.skip (c.rest.takeWhile (· == ' ')).length = _
  rw [htake, List.length_replicate]

theorem skipComment_eq {c : Cursor} (hcs : ∀ d ∈ c.rest.head?, d ≠ '#') : c.skipComment = c := by
  have hpeek : (c.peek == '#') = false := by
    rw [beq_eq_false_iff_ne]
    cases hrest : c.rest with
    | nil => rw [Cursor.peek_of_nil hrest]; decide
    | cons d cs => rw [Cursor.peek_of_rest hrest]; exact hcs d (by rw [hrest]; rfl)
  rw [Cursor.skipComment, hpeek, if_neg Bool.false_ne_true]

theorem skipComment_skipSpaces {c : Cursor} {n : Nat} (hrest : c.rest = List.replicate n ' ' ++ cs)
    (hcs : ∀ d ∈ cs.head?, d ≠ ' ' ∧ d ≠ '#') : c.skipSpaces.skipComment = c.skip n := by
  have hbehind : (c.skip n).rest = cs := by
    rw [Cursor.rest_skip, hrest]
    exact List.drop_left' List.length_replicate
  rw [skipSpaces_eq hrest fun d hd ↦ (hcs d hd).1]
  exact skipComment_eq fun d hd ↦ (hcs d (hbehind ▸ hd)).2

theorem exec_skipToToken_end {fuel n : Nat} (hcs : IsTokenStart cs)
    (hrest : s.cursor.rest = List.replicate n ' ' ++ cs) :
    exec (skipToToken (fuel + 1)) s = (.ok (), s.arrived n s.keyAllowed) := by
  have hskip := skipComment_skipSpaces hrest fun d hd ↦ ⟨(hcs d hd).1, (hcs d hd).2.1⟩
  have hbehind : (s.cursor.skip n).rest = cs := by
    rw [Cursor.rest_skip, hrest]
    exact List.drop_left' List.length_replicate
  have hbreak : isBreak (s.cursor.skip n).peek = false := by
    cases cs with
    | nil =>
      rw [Cursor.peek_of_nil hbehind]
      decide
    | cons d cs =>
      rw [Cursor.peek_of_rest hbehind]
      exact (hcs d rfl).2.2
  rw [skipToToken, exec_bind_ok (exec_modify _ s), exec_bind_ok (exec_get _), hskip, hbreak,
    if_neg Bool.false_ne_true]
  rfl

/-- Behind a line break a key may follow, unless it stands between brackets. -/
theorem exec_skipToToken_line {fuel n : Nat}
    (hrest : s.cursor.rest = List.replicate n ' ' ++ '\n' :: cs) :
    exec (skipToToken (fuel + 1)) s =
      exec (skipToToken fuel) (s.arrived (n + 1) (s.keyAllowed || s.depth == 0)) := by
  have hskip := skipComment_skipSpaces hrest fun d hd ↦ by
    obtain rfl := Option.some.inj hd
    decide
  have hbehind : (s.cursor.skip n).rest = '\n' :: cs := by
    rw [Cursor.rest_skip, hrest]
    exact List.drop_left' List.length_replicate
  have hread : exec (read Scan.lineBreak) { s with cursor := s.cursor.skip n } =
      (.ok ['\n'], { s with cursor := s.cursor.skip (n + 1) }) :=
    exec_read (by rw [exec_lineBreak, lineBreak_of_rest hbehind, Cursor.skip_skip])
  rw [skipToToken, exec_bind_ok (exec_modify _ s), exec_bind_ok (exec_get _), hskip,
    Cursor.peek_of_rest hbehind, if_pos (by decide), exec_bind_ok hread]
  cases hdepth : s.depth == 0 with
  | true =>
    simp only [Bool.or_true]
    rw [if_pos trivial, exec_bind_ok (exec_setKeyAllowed true _)]
    rfl
  | false =>
    simp only [Bool.or_false]
    rw [if_neg Bool.false_ne_true]
    rfl

theorem exec_skipToToken {fuel : Nat} (hg : ∀ e ∈ g, e ∈ blanks) (hcs : IsTokenStart cs)
    (hrest : s.cursor.rest = g ++ cs) (hfuel : g.length < fuel) :
    ∃ allowed, exec (skipToToken fuel) s = (.ok (), s.arrived g.length allowed) ∧
      (0 < s.depth → allowed = s.keyAllowed) := by
  induction fuel generalizing s g with
  | zero => omega
  | succ fuel ih =>
    obtain ⟨n, lines, rfl, rfl | ⟨more, rfl, hmore⟩⟩ := exists_lines hg
    · rw [List.append_nil] at hrest ⊢
      refine ⟨s.keyAllowed, ?_, fun _ ↦ rfl⟩
      rw [exec_skipToToken_end hcs hrest, List.length_replicate]
    · rw [List.append_assoc] at hrest
      let next := s.arrived (n + 1) (s.keyAllowed || s.depth == 0)
      have hlater : next.cursor.rest = more ++ cs := by
        change (s.cursor.skip (n + 1)).rest = _
        rw [← Cursor.skip_skip, Cursor.rest_skip, Cursor.rest_skip, hrest,
          List.drop_left' List.length_replicate]
        rfl
      have hshort : more.length < fuel := by
        simp only [List.length_append, List.length_cons] at hfuel
        omega
      have hindex : n + 1 + more.length = (List.replicate n ' ' ++ '\n' :: more).length := by
        simp [Nat.add_comm, Nat.add_left_comm]
      obtain ⟨allowed, hexec, hallowed⟩ := ih (s := next) hmore hlater hshort
      refine ⟨allowed, ?_, fun hdepth ↦ ?_⟩
      · rw [exec_skipToToken_line hrest, hexec, ← hindex, arrived, arrived, ← Cursor.skip_skip]
        rfl
      · have hinside : (s.depth == 0) = false := beq_eq_false_iff_ne.mpr (by omega)
        rw [hallowed hdepth]
        change (s.keyAllowed || s.depth == 0) = s.keyAllowed
        rw [hinside, Bool.or_false]

theorem exec_unwind (h : Ready s) (column : Int) : exec (unwind column) s = (.ok (), s) := by
  unfold unwind
  rw [exec_bind_ok (exec_get s), h.outer]
  cases s.depth == 0 <;> rfl

theorem exists_token (hs : Ready s) (hg : ∀ e ∈ g, e ∈ blanks) (hcs : IsTokenStart cs)
    (hrest : s.cursor.rest = g ++ cs) :
    ∃ allowed, exec next s.fresh = exec token (s.fresh.arrived g.length allowed).fresh ∧
      (0 < s.depth → allowed = s.keyAllowed) := by
  have hfits := hs.fits
  have hfuel : g.length < s.cursor.size + 1 := by
    rw [hrest, List.length_append] at hfits
    omega
  obtain ⟨allowed, hskip, hallowed⟩ : ∃ allowed,
      exec (skipToToken (s.fresh.cursor.size + 1)) s.fresh = _ ∧ _ :=
    @exec_skipToToken s.fresh g cs _ hg hcs hrest hfuel
  have hready := hs.fresh.arrived g.length allowed
  refine ⟨allowed, ?_, hallowed⟩
  rw [next, exec_bind_ok (exec_get _), exec_bind_ok hskip,
    exec_bind_ok (exec_dropStaleKeys hready), exec_bind_ok (exec_get _),
    exec_bind_ok (exec_unwind hready.fresh _)]

theorem run_succ (s : Lexer) (beyond : Option Fault) (fuel : Nat) :
    s.run beyond (fuel + 1) = match exec dropStaleKeys s with
      | (.error f, _) => ⟨s.settled, f⟩
      | (.ok _, s) =>
        match if (exec next s).2.isAtEnd then beyond else none, (exec next s).1 with
        | some f, _ => ⟨s.settled, f⟩
        | none, .error f => ⟨s.settled, f⟩
        | none, .ok true => ⟨(exec next s).2.tokens.reverse, .malformed⟩
        | none, .ok false => (exec next s).2.run beyond fuel := by
  rfl

theorem leads_of_next (hs : Ready s) (hnext : exec next s.fresh = (.ok false, s'))
    (hless : s'.cursor.rest.length < s.cursor.rest.length) : Leads s s' := by
  refine ⟨1, by omega, fun fuel ↦ ?_⟩
  rw [Nat.add_comm, run_succ, exec_dropStaleKeys hs]
  simp only [hnext, ite_self]

theorem exec_noteKey (h : Ready s) : ∃ keys, exec noteKey s = (.ok (), { s with keys := keys }) ∧
    (∀ k ∈ keys, k.2.required = false) ∧
    (s.keyAllowed = true → keys = (s.depth, ⟨s.count, false, s.cursor.index, s.cursor.line,
      s.cursor.column⟩) :: s.keys.filter fun k ↦ k.1 != s.depth) := by
  have hfree : (s.depth == 0 && s.indent == (s.cursor.column : Int)) = false := by
    rw [h.indent, Bool.and_eq_false_iff]
    exact .inr (beq_eq_false_iff_ne.mpr (by omega))
  have hkeys : ∀ k ∈ s.keys.filter (fun k ↦ k.1 != s.depth), k.2.required = false :=
    fun k hk ↦ h.keys k (List.mem_filter.mp hk).1
  unfold noteKey
  rw [exec_bind_ok (exec_get s)]
  by_cases hallowed : s.keyAllowed = true
  · rw [if_pos hallowed, exec_bind_ok (exec_dropKey h), exec_modify]
    simp only [hfree]
    exact ⟨_, rfl, List.forall_mem_cons.mpr ⟨rfl, hkeys⟩, fun _ ↦ rfl⟩
  · rw [if_neg hallowed]
    exact ⟨s.keys, rfl, h.keys, fun h ↦ absurd h hallowed⟩

section Handlers

variable {t : Token} {d : Char}

theorem exec_flowStart (h : Ready s) (t : Token) : ∃ keys, (∀ k ∈ keys, k.2.required = false) ∧
    exec (flowStart t) s = (.ok (), s.after 1 [t] (s.depth + 1) true keys) := by
  obtain ⟨keys, hnote, hkeys, -⟩ := exec_noteKey h
  refine ⟨keys, hkeys, ?_⟩
  rw [flowStart, exec_bind_ok hnote, exec_bind_ok (exec_modify _ _),
    exec_bind_ok (exec_read (exec_advance _ 1))]
  rfl

theorem exec_flowEnd {depth : Nat} (h : Ready s) (hdepth : s.depth = depth + 1) (t : Token) :
    ∃ keys, (∀ k ∈ keys, k.2.required = false) ∧
      exec (flowEnd t) s = (.ok (), s.after 1 [t] depth false keys) := by
  refine ⟨_, h.fewer fun k ↦ k.1 != s.depth, ?_⟩
  have hpos : (s.depth == 0) = false := beq_eq_false_iff_ne.mpr (by omega)
  have hless : s.depth - 1 = depth := by omega
  rw [flowEnd, exec_bind_ok (exec_dropKey h), exec_bind_ok (exec_get _)]
  simp only [hpos, hless]
  rw [if_neg Bool.false_ne_true, exec_bind_ok (exec_set _ _),
    exec_bind_ok (exec_read (exec_advance _ 1))]
  rfl

theorem exec_flowEntry (h : Ready s) : ∃ keys, (∀ k ∈ keys, k.2.required = false) ∧
    exec flowEntry s = (.ok (), s.after 1 [.flowEntry] s.depth true keys) := by
  refine ⟨_, h.fewer fun k ↦ k.1 != s.depth, ?_⟩
  have hready : Ready { s with keyAllowed := true } := ⟨h.outer, h.indent, h.fits, h.keys⟩
  rw [flowEntry, exec_bind_ok (exec_setKeyAllowed true s), exec_bind_ok (exec_dropKey hready),
    exec_bind_ok (exec_read (exec_advance _ 1))]
  rfl

theorem exec_item {x : Scan Token} {n : Nat} (h : Ready s)
    (hx : exec x s.cursor = (.ok t, s.cursor.skip n)) :
    ∃ keys, (∀ k ∈ keys, k.2.required = false) ∧
      exec (item x) s = (.ok (), s.after n [t] s.depth false keys) ∧
      (s.keyAllowed = true → keys = (s.depth, ⟨s.count, false, s.cursor.index, s.cursor.line,
        s.cursor.column⟩) :: s.keys.filter fun k ↦ k.1 != s.depth) := by
  obtain ⟨keys, hnote, hkeys, hnoted⟩ := exec_noteKey h
  have hread : exec (read x) { s with keyAllowed := false, keys := keys } = _ := exec_read hx
  refine ⟨keys, hkeys, ?_, hnoted⟩
  rw [item, exec_bind_ok hnote, exec_bind_ok (exec_setKeyAllowed false _)]
  exact exec_bind_ok hread

theorem exec_plain {text : String} {broken : Bool} {n : Nat} (h : Ready s)
    (hx : exec (plainScalar (s.depth != 0) s.indent) s.cursor =
      (.ok (text, broken), s.cursor.skip n)) :
    ∃ keys, (∀ k ∈ keys, k.2.required = false) ∧
      exec plain s = (.ok (), s.after n [.scalar text true] s.depth broken keys) := by
  obtain ⟨keys, hnote, hkeys, -⟩ := exec_noteKey h
  have hread : exec (read (plainScalar (s.depth != 0) s.indent)) { s with keys := keys } = _ :=
    exec_read hx
  refine ⟨keys, hkeys, ?_⟩
  rw [plain, exec_bind_ok hnote, exec_bind_ok (exec_get _)]
  exact exec_bind_ok hread

theorem atMarker_eq_false {c : Cursor} {d e : Char} (hpeek : c.peek = d) (hne : d ≠ e) :
    c.atMarker e = false := by
  have hahead : (c.ahead 0 == e) = false := beq_eq_false_iff_ne.mpr (by rwa [← hpeek] at hne)
  rw [Cursor.atMarker, hahead]
  rfl

def handler? : Char → Option (Lexing Unit)
  | '[' => some (flowStart .flowListStart)
  | '\x7b' => some (flowStart .flowMapStart)
  | ']' => some (flowEnd .flowListEnd)
  | '\x7d' => some (flowEnd .flowMapEnd)
  | ',' => some flowEntry
  | '"' => some (item (return .scalar (← quotedScalar '"') false))
  | _ => none

theorem exec_token {x : Lexing Unit} (hpeek : s.cursor.peek = d) (hx : handler? d = some x)
    (h : exec x s = (.ok (), s')) : exec token s = (.ok false, s') := by
  have hdash : d ≠ '-' → s.cursor.atMarker '-' = false := atMarker_eq_false hpeek
  have hdot : d ≠ '.' → s.cursor.atMarker '.' = false := atMarker_eq_false hpeek
  have hnul : d ≠ nul := by
    rintro rfl
    have hnone : handler? nul = none := rfl
    simp [hnone] at hx
  rw [token, exec_bind_ok (exec_get s)]
  unfold handler? at hx
  split at hx
  case h_6 =>
    obtain rfl := Option.some.inj hx
    rw [bind_pure_comp] at h
    simp [hpeek, hdash, hdot, hnul, h, Except.map]
  case h_7 => cases hx
  all_goals
    obtain rfl := Option.some.inj hx
    simp [hpeek, hdash, hdot, hnul, h, Except.map]

def IsWordStart (c : Cursor) : Prop :=
  c.peek.isAlphanum = true ∨ c.peek = '-' ∧ (c.ahead 1).isDigit = true

theorem alphanum_facts {d : Char} (h : d.isAlphanum = true) :
    isGap d = false ∧ indicators.contains d = false ∧ d ≠ '.' := by
  exact Text.forall_ascii (P := fun d ↦ d.isAlphanum = true →
    isGap d = false ∧ indicators.contains d = false ∧ d ≠ '.') (by decide)
      (Text.toNat_lt_of_isAlphanum h) h

theorem digit_facts {d : Char} (h : d.isDigit = true) : isGap d = false ∧ d ≠ '-' := by
  obtain ⟨hgap, hindicators, -⟩ :=
    alphanum_facts (d := d) (by rw [Char.isAlphanum, h, Bool.or_true])
  refine ⟨hgap, ?_⟩
  rintro rfl
  exact absurd hindicators (by decide)

theorem exec_token_word (hword : IsWordStart s.cursor) (h : exec plain s = (.ok (), s')) :
    exec token s = (.ok false, s') := by
  obtain ⟨d, hpeek⟩ : ∃ d, s.cursor.peek = d := ⟨_, rfl⟩
  rw [token, exec_bind_ok (exec_get s)]
  obtain hd | ⟨hd, hnext⟩ := hword <;> rw [hpeek] at hd
  · obtain ⟨hgap, hindicators, hdot⟩ := alphanum_facts hd
    have hne : ∀ e ∈ nul :: indicators, d ≠ e := by
      rintro e he rfl
      obtain rfl | he := List.mem_cons.mp he
      · exact absurd hgap (by decide)
      · simp [he] at hindicators
    have hdash := atMarker_eq_false (e := '-') hpeek (hne '-' (by decide))
    have hmark := atMarker_eq_false (e := '.') hpeek hdot
    have hstart : startsPlain (s.depth != 0) s.cursor = true := by
      rw [startsPlain, hpeek, hgap, hindicators]
      rfl
    simp (disch := decide) [hpeek, hne, hdash, hmark, hstart, h, Except.map]
  · obtain ⟨hgap, hdash⟩ := digit_facts hnext
    have hnul : '-' ≠ nul := by decide
    have hlong : s.cursor.atMarker '-' = false := by
      simp [Cursor.atMarker, hdash]
    have hmark := atMarker_eq_false (e := '.') (hpeek.trans hd) (by decide)
    have hstart : startsPlain (s.depth != 0) s.cursor = true := by
      simp [startsPlain, hpeek, hd, hgap]
    simp [hpeek, hd, hnul, hlong, hmark, hgap, hstart, h, Except.map]

theorem exec_value {k : PossibleKey} (hdepth : 0 < s.depth)
    (hkey : s.keys.lookup s.depth = some k) (hplace : s.count = k.place + 1) :
    exec value s = (.ok (), { s with
      cursor := s.cursor.skip 1
      tokens := .value :: (s.tokens.take 1 ++ .key :: s.tokens.drop 1)
      count := s.count + 2
      keyAllowed := false
      keys := s.keys.filter fun k ↦ k.1 != s.depth }) := by
  have hinside : (s.depth == 0) = false := beq_eq_false_iff_ne.mpr (by omega)
  have hlater : s.count - k.place = 1 := by omega
  rw [value, exec_bind_ok (exec_get s), hkey]
  simp only [hinside, Bool.false_eq_true, if_false]
  rw [exec_bind_ok (exec_set _ _), exec_bind_ok (exec_insertAt _ _ _),
    exec_bind_ok (exec_setKeyAllowed false _), exec_bind_ok (exec_read (exec_advance _ 1))]
  simp only [exec_emit, hlater]

theorem exec_token_colon (hpeek : s.cursor.peek = ':') (hdepth : 0 < s.depth)
    (h : exec value s = (.ok (), s')) : exec token s = (.ok false, s') := by
  have hnul : ':' ≠ nul := by decide
  have hdash := atMarker_eq_false (e := '-') hpeek (by decide)
  have hdot := atMarker_eq_false (e := '.') hpeek (by decide)
  have hinside : s.depth ≠ 0 := by omega
  rw [token, exec_bind_ok (exec_get s)]
  simp [hpeek, hnul, hdash, hdot, hinside, h, Except.map]

end Handlers

def IsBefore (s : Lexer) (cs : List Char) : Prop :=
  ∃ g, (∀ e ∈ g, e ∈ blanks) ∧ s.cursor.rest = g ++ cs

/-- Some tokens are read, and what is left begins with white space at most. -/
structure Reads (s s' : Lexer) (ts : List Token) (depth : Nat) (cs : List Char) : Prop where
  ready : Ready s'
  leads : Leads s s'
  tokens : s'.tokens = ts.reverse ++ s.tokens
  depth : s'.depth = depth
  before : IsBefore s' cs

theorem Reads.trans {ts ts' : List Token} {depth depth' : Nat} {cs cs' : List Char}
    {s s' s'' : Lexer} (h : Reads s s' ts depth cs) (h' : Reads s' s'' ts' depth' cs') :
    Reads s s'' (ts ++ ts') depth' cs' where
  ready := h'.ready
  leads := h.leads.trans h'.leads
  tokens := by rw [h'.tokens, h.tokens, List.reverse_append, List.append_assoc]
  depth := h'.depth
  before := h'.before

theorem IsBefore.of_append (hg : ∀ e ∈ g, e ∈ blanks) (h : IsBefore s (g ++ cs)) :
    IsBefore s cs := by
  obtain ⟨more, hmore, hrest⟩ := h
  refine ⟨more ++ g, fun e he ↦ ?_, by rw [hrest, List.append_assoc]⟩
  obtain he | he := List.mem_append.mp he
  · exact hmore e he
  · exact hg e he

structure Arrives (s s' : Lexer) (cs : List Char) : Prop where
  ready : Ready s'
  rest : s'.cursor.rest = cs
  tokens : s'.tokens = s.tokens
  depth : s'.depth = s.depth
  count : s'.count = s.count
  allowed : 0 < s.depth → s'.keyAllowed = s.keyAllowed
  shorter : cs.length ≤ s.cursor.rest.length
  cursor : s'.cursor = s.cursor.skip (s.cursor.rest.length - cs.length)
  keys : ∀ {k ks}, s.keys = k :: ks → k.2.isFresh s.cursor = true →
    k.2.isFresh s'.cursor = true → ∃ ks', s'.keys = k :: ks'
  next : exec next s.fresh = exec token s'

theorem exists_arrives (hs : Ready s) (hcs : IsTokenStart cs) (h : IsBefore s cs) :
    ∃ s', Arrives s s' cs := by
  obtain ⟨g, hg, hrest⟩ := h
  obtain ⟨allowed, hnext, hallowed⟩ := exists_token hs hg hcs hrest
  have hlength : s.cursor.rest.length - cs.length = g.length := by
    rw [hrest, List.length_append, Nat.add_sub_cancel]
  refine ⟨(s.fresh.arrived g.length allowed).fresh, (hs.fresh.arrived g.length allowed).fresh, ?_,
    rfl, rfl, rfl, hallowed, ?_, ?_, ?_, hnext⟩
  · change (s.cursor.skip g.length).rest = cs
    rw [Cursor.rest_skip, hrest, List.drop_left]
  · rw [hrest, List.length_append]
    omega
  · rw [hlength]
    rfl
  · intro k ks hkeys hbefore hbehind
    have hfirst : s.fresh.keys = k :: ks.filter fun k ↦ k.2.isFresh s.cursor := by
      change s.keys.filter _ = _
      rw [hkeys, List.filter_cons, if_pos hbefore]
    refine ⟨(ks.filter fun k ↦ k.2.isFresh s.cursor).filter fun k ↦
      k.2.isFresh (s.cursor.skip g.length), ?_⟩
    change s.fresh.keys.filter _ = _
    rw [hfirst, List.filter_cons]
    exact if_pos hbehind

theorem Arrives.reads {s₁ : Lexer} {n depth : Nat} {ts : List Token} {allowed : Bool}
    {keys : List (Nat × PossibleKey)} (hs : Ready s) (h : Arrives s s₁ (g ++ cs)) (hg : g ≠ [])
    (hn : n = g.length) (hkeys : ∀ k ∈ keys, k.2.required = false)
    (hexec : exec token s₁ = (.ok false, s₁.after n ts depth allowed keys)) :
    Reads s (s₁.after n ts depth allowed keys) ts depth cs := by
  have hrest : (s₁.after n ts depth allowed keys).cursor.rest = cs := by
    change (s₁.cursor.skip n).rest = cs
    rw [Cursor.rest_skip, h.rest, hn, List.drop_left]
  have hpos : 0 < g.length := List.length_pos_iff.mpr hg
  have hshorter := h.shorter
  rw [List.length_append] at hshorter
  refine ⟨⟨h.ready.outer, h.ready.indent, ?_, hkeys⟩, leads_of_next hs (h.next.trans hexec) ?_, ?_,
    rfl, [], by simp, hrest⟩
  · have hfits := h.ready.fits
    rw [h.rest, List.length_append] at hfits
    rw [hrest]
    change _ ≤ (s₁.cursor.skip n).size
    rw [Cursor.size_skip]
    omega
  · rw [hrest]
    omega
  · change ts.reverse ++ s₁.tokens = _
    rw [h.tokens]

theorem isTokenStart_of_handler {d : Char} {x : Lexing Unit} (hx : handler? d = some x) :
    IsTokenStart (d :: cs) := by
  rintro e he
  obtain rfl := Option.some.inj he
  unfold handler? at hx
  split at hx
  case h_7 => cases hx
  all_goals decide

variable {d : Char} {t : Token}

theorem exists_reads_start (hs : Ready s) (h : IsBefore s (d :: cs))
    (hx : handler? d = some (flowStart t)) :
    ∃ s', Reads s s' [t] (s.depth + 1) cs ∧ s'.keyAllowed = true := by
  obtain ⟨s₁, h₁⟩ := exists_arrives hs (isTokenStart_of_handler hx) h
  obtain ⟨keys, hkeys, hexec⟩ := exec_flowStart h₁.ready t
  rw [h₁.depth] at hexec
  exact ⟨_, h₁.reads (g := [d]) hs (by simp) rfl hkeys
    (exec_token (Cursor.peek_of_rest h₁.rest) hx hexec), rfl⟩

theorem exists_reads_end {depth : Nat} (hs : Ready s) (h : IsBefore s (d :: cs))
    (hx : handler? d = some (flowEnd t)) (hdepth : s.depth = depth + 1) :
    ∃ s', Reads s s' [t] depth cs := by
  obtain ⟨s₁, h₁⟩ := exists_arrives hs (isTokenStart_of_handler hx) h
  obtain ⟨keys, hkeys, hexec⟩ := exec_flowEnd h₁.ready (h₁.depth.trans hdepth) t
  exact ⟨_, h₁.reads (g := [d]) hs (by simp) rfl hkeys
    (exec_token (Cursor.peek_of_rest h₁.rest) hx hexec)⟩

theorem exists_reads_comma (hs : Ready s) (h : IsBefore s (',' :: cs)) :
    ∃ s', Reads s s' [.flowEntry] s.depth cs ∧ s'.keyAllowed = true := by
  have hx : handler? ',' = some flowEntry := rfl
  obtain ⟨s₁, h₁⟩ := exists_arrives hs (isTokenStart_of_handler hx) h
  obtain ⟨keys, hkeys, hexec⟩ := exec_flowEntry h₁.ready
  rw [h₁.depth] at hexec
  exact ⟨_, h₁.reads (g := [',']) hs (by simp) rfl hkeys
    (exec_token (Cursor.peek_of_rest h₁.rest) hx hexec), rfl⟩

/-- A colon turns the token before it into a key that is still fresh. -/
theorem exists_reads_colon {k : PossibleKey} {ks : List (Nat × PossibleKey)} {ts : List Token}
    (hs : Ready s) (hdepth : 0 < s.depth) (hkeys : s.keys = (s.depth, k) :: ks)
    (hplace : s.count = k.place + 1) (htokens : s.tokens = t :: ts) (hg : ∀ e ∈ g, e ∈ blanks)
    (hrest : s.cursor.rest = g ++ ':' :: cs) (hfresh : k.isFresh s.cursor = true)
    (hlater : k.isFresh (s.cursor.skip g.length) = true) :
    ∃ s', Ready s' ∧ Leads s s' ∧ s'.tokens = .value :: t :: .key :: ts ∧ s'.depth = s.depth ∧
      IsBefore s' cs := by
  have hstart : IsTokenStart (':' :: cs) := by
    rintro d hd
    obtain rfl := Option.some.inj hd
    decide
  obtain ⟨s₁, h₁⟩ := exists_arrives hs hstart ⟨g, hg, hrest⟩
  have hcursor : s₁.cursor = s.cursor.skip g.length := by
    rw [h₁.cursor, hrest, List.length_append, Nat.add_sub_cancel]
  obtain ⟨ks', hks⟩ := h₁.keys hkeys hfresh (hcursor ▸ hlater)
  have hpos : 0 < s₁.depth := h₁.depth ▸ hdepth
  have hlookup : s₁.keys.lookup s₁.depth = some k := by
    rw [hks, h₁.depth]
    exact List.lookup_cons_self
  have hvalue := exec_value hpos hlookup (h₁.count.trans hplace)
  have hcolon := exec_token_colon (Cursor.peek_of_rest h₁.rest) hpos hvalue
  have hbehind : (s₁.cursor.skip 1).rest = cs := by
    rw [Cursor.rest_skip, h₁.rest]
    rfl
  have hshorter := h₁.shorter
  rw [List.length_cons] at hshorter
  have hfits := h₁.ready.fits
  rw [h₁.rest, List.length_cons] at hfits
  refine ⟨_, ?_, leads_of_next hs (h₁.next.trans hcolon) ?_, ?_, ?_, ?_⟩
  · refine ⟨h₁.ready.outer, h₁.ready.indent, ?_, h₁.ready.fewer fun k ↦ k.1 != s₁.depth⟩
    change (s₁.cursor.skip 1).rest.length ≤ (s₁.cursor.skip 1).size
    rw [hbehind, Cursor.size_skip]
    omega
  · change (s₁.cursor.skip 1).rest.length < _
    rw [hbehind]
    omega
  · rw [h₁.tokens, htokens]
    rfl
  · exact h₁.depth
  · exact ⟨[], by simp, hbehind⟩

theorem run_of_end (hs : Ready s) (h : IsBefore s []) (fuel : Nat) :
    s.run none (fuel + 1) = ⟨s.tokens.reverse ++ [.textEnd], .malformed⟩ := by
  obtain ⟨s₁, h₁⟩ := exists_arrives hs (by simp [IsTokenStart]) h
  have hpeek : s₁.cursor.peek = nul := Cursor.peek_of_nil h₁.rest
  have hblocks : exec endBlocks s₁ = (.ok (), { s₁ with
      keyAllowed := false, keys := s₁.keys.filter fun k ↦ k.1 != s₁.depth }) := by
    rw [endBlocks, exec_bind_ok (exec_unwind h₁.ready _), exec_bind_ok (exec_dropKey h₁.ready)]
    rfl
  obtain ⟨s', hexec, htokens⟩ : ∃ s', exec endBlocks s₁ = (.ok (), s') ∧ s'.tokens = s₁.tokens :=
    ⟨_, hblocks, rfl⟩
  have htoken : exec token s₁ =
      (.ok true, { s' with tokens := .textEnd :: s'.tokens, count := s'.count + 1 }) := by
    rw [token, exec_bind_ok (exec_get s₁)]
    simp only [hpeek, beq_self_eq_true, if_true]
    rw [exec_bind_ok hexec]
    rfl
  rw [run_succ, exec_dropStaleKeys hs]
  simp only [h₁.next, htoken, ite_self, htokens, h₁.tokens, List.reverse_cons]

theorem run_of_reads {ts : List Token} {depth fuel : Nat} (h : Reads s s' ts depth [])
    (hfuel : s.cursor.rest.length < fuel) :
    s.run none fuel = ⟨s.tokens.reverse ++ ts ++ [.textEnd], .malformed⟩ := by
  obtain ⟨n, hn, hrun⟩ := h.leads
  obtain ⟨rest, rfl⟩ : ∃ rest, fuel = n + (rest + 1) := ⟨fuel - n - 1, by omega⟩
  rw [hrun, run_of_end h.ready h.before, h.tokens, List.reverse_append, List.reverse_reverse]

end Lexing

end WebAcl.Yaml
