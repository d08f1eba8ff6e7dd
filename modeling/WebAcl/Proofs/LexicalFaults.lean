import WebAcl.Proofs.JsonNumbers
import WebAcl.Proofs.Tokenizing
import Mathlib.Data.List.TakeWhile

namespace WebAcl.Yaml

open Text Number

/-- A fault of the characters, with the part of the text that causes it. -/
inductive IsLexical (text : List Char) : Fault → Prop
  | malformed : IsLexical text .malformed
  | hugeCode (ds : List Char) (h : '\\' :: 'U' :: ds <:+: text) (hlength : ds.length = 8)
    (hcode : 0x80000000 ≤ numeral 16 ds) : IsLexical text (.crash .hugeCode)
  | noCharacter (ds : List Char) (h : '\\' :: 'U' :: ds <:+: text) (hlength : ds.length = 8)
    (hcode : 0x110000 ≤ numeral 16 ds) :
    IsLexical text (.crash (.badValue "chr() arg not in range(0x110000)"))
  | longVersion (hversion : "%YAML".toList <:+: text) (ds : List Char) (h : ds <:+: text)
    (hdigits : ∀ d ∈ ds, d.isDigit = true) (hlong : digitLimit < ds.length) :
    IsLexical text (.crash (.badValue ((IntegerFault.tooLong ds.length).message 10 ds)))

section Keeps

variable {σ α β : Type}

def Ends (I : σ → Prop) (P : Fault → Prop) (x : ExceptT Fault (StateM σ) α) (s : σ) : Prop :=
  I (exec x s).2 ∧ ∀ e, (exec x s).1 = .error e → P e

/-- A step that keeps a property of states and has only faults of a kind. -/
def Keeps (I : σ → Prop) (P : Fault → Prop) (x : ExceptT Fault (StateM σ) α) : Prop :=
  ∀ s, I s → Ends I P x s

variable {I : σ → Prop} {P : Fault → Prop} {x y : ExceptT Fault (StateM σ) α}
  {f : α → ExceptT Fault (StateM σ) β} {s s' : σ}

namespace Ends

theorem weaken {J : σ → Prop} (h : Ends J P x s) (hJ : ∀ s, J s → I s) : Ends I P x s :=
  ⟨hJ _ h.1, h.2⟩

theorem ite {c : Prop} [Decidable c] (hx : c → Ends I P x s) (hy : ¬ c → Ends I P y s) :
    Ends I P (if c then x else y) s := by
  split
  next h => exact hx h
  next h => exact hy h

theorem bind_ok {a : α} (h : exec x s = (.ok a, s')) (hf : Ends I P (f a) s') :
    Ends I P (x >>= f) s := by
  unfold Ends
  rw [exec_bind_ok h]
  exact hf

theorem bind (hx : Ends I P x s)
    (hf : ∀ a s', exec x s = (.ok a, s') → I s' → Ends I P (f a) s') : Ends I P (x >>= f) s := by
  obtain ⟨hkeep, hfault⟩ := hx
  unfold Ends
  rw [exec_bind]
  obtain ⟨r, hr⟩ : ∃ r, exec x s = r := ⟨_, rfl⟩
  rw [hr] at hkeep hfault ⊢
  obtain ⟨e | a, s'⟩ := r
  · refine ⟨hkeep, fun e' he ↦ ?_⟩
    obtain rfl := Except.error.inj he
    exact hfault e rfl
  · exact hf a s' hr hkeep

end Ends

namespace Keeps

theorem of_ok {a : α} {g : σ → σ} (h : ∀ s, exec x s = (.ok a, g s)) (hg : ∀ s, I s → I (g s)) :
    Keeps I P x := by
  intro s hs
  unfold Ends
  rw [h]
  exact ⟨hg s hs, nofun⟩

theorem of_pure (a : α) : Keeps I P (pure a : ExceptT Fault (StateM σ) α) :=
  of_ok (fun _ ↦ rfl) fun _ hs ↦ hs

theorem of_get : Keeps I P (get : ExceptT Fault (StateM σ) σ) :=
  fun _ hs ↦ ⟨hs, nofun⟩

theorem of_modify {g : σ → σ} (hg : ∀ s, I s → I (g s)) :
    Keeps I P (modify g : ExceptT Fault (StateM σ) PUnit) :=
  of_ok (fun _ ↦ rfl) hg

theorem of_throw {e : Fault} (h : P e) : Keeps I P (throw e : ExceptT Fault (StateM σ) α) := by
  intro s hs
  refine ⟨hs, fun e' he ↦ ?_⟩
  obtain rfl := Except.error.inj he
  exact h

theorem throw_bind {e : Fault} (h : P e) :
    Keeps I P ((throw e : ExceptT Fault (StateM σ) α) >>= f) :=
  fun _ hs ↦ of_throw h _ hs

theorem bind (hx : Keeps I P x) (hf : ∀ a, Keeps I P (f a)) : Keeps I P (x >>= f) :=
  fun s hs ↦ (hx s hs).bind fun a s' _ hs' ↦ hf a s' hs'

theorem of_lift {x : Except Fault α} (h : ∀ e, x = .error e → P e) :
    Keeps I P (liftM x : ExceptT Fault (StateM σ) α) :=
  fun _ hs ↦ ⟨hs, h⟩

theorem ite {c : Prop} [Decidable c] (hx : Keeps I P x) (hy : Keeps I P y) :
    Keeps I P (if c then x else y) :=
  fun s hs ↦ .ite (fun _ ↦ hx s hs) fun _ ↦ hy s hs

end Keeps

end Keeps

variable {text : List Char}

def IsIn (text : List Char) (c : Cursor) : Prop := c.rest <:+ text

theorem IsIn.skip {c : Cursor} (h : IsIn text c) (n : Nat) : IsIn text (c.skip n) := by
  rw [IsIn, Cursor.rest_skip]
  exact (List.drop_suffix n c.rest).trans h

theorem IsIn.skipSpaces {c : Cursor} (h : IsIn text c) : IsIn text c.skipSpaces := h.skip _

theorem IsIn.skipComment {c : Cursor} (h : IsIn text c) : IsIn text c.skipComment := by
  unfold Cursor.skipComment
  split
  · exact h.skip _
  · exact h

theorem IsIn.lineBreak {c : Cursor} (h : IsIn text c) : IsIn text c.lineBreak.2 := by
  unfold Cursor.lineBreak
  dsimp only
  split
  · exact h.skip 1
  · split
    · exact h.skip 1
    · exact h

abbrev Stays (text : List Char) {α : Type} (x : Scan α) : Prop :=
  Keeps (IsIn text) (IsLexical text) x

namespace Stays

open Scan Keeps

theorem refuse {α : Type} : Stays text (Scan.refuse : Scan α) := of_throw .malformed

theorem require (b : Bool) : Stays text (Scan.require b) := .ite (of_pure _) refuse

theorem eq_true_of_require {b : Bool} {c c' : Cursor} {u : Unit}
    (h : exec (Scan.require b) c = (.ok u, c')) : b = true := by
  cases b with
  | true => rfl
  | false => exact absurd (Prod.mk.inj h).1 nofun

theorem peek : Stays text Scan.peek := .bind of_get fun _ ↦ of_pure _

theorem advance (n : Nat) : Stays text (Scan.advance n) := of_modify fun _ h ↦ h.skip n

theorem span (p : Char → Bool) : Stays text (Scan.span p) :=
  fun _ h ↦ ⟨h.skip _, nofun⟩

theorem skipSpaces : Stays text Scan.skipSpaces := of_modify fun _ h ↦ h.skipSpaces

theorem lineBreak : Stays text Scan.lineBreak := fun _ h ↦ ⟨h.lineBreak, nofun⟩

theorem restOfLine : Stays text Scan.restOfLine :=
  .bind (of_modify fun _ h ↦ h.skipSpaces.skipComment) fun _ ↦ .bind peek fun _ ↦
    .bind (require _) fun _ ↦ .bind lineBreak fun _ ↦ of_pure _

theorem anchorName : Stays text anchorName :=
  .bind (advance 1) fun _ ↦ .bind (span _) fun _ ↦ .bind (require _) fun _ ↦ .bind peek fun _ ↦
    .bind (require _) fun _ ↦ of_pure _

theorem tagHandle : Stays text tagHandle :=
  .bind peek fun _ ↦ .bind (require _) fun _ ↦ .bind of_get fun _ ↦
    .ite (.bind (advance 1) fun _ ↦ of_pure _)
      (.bind (require _) fun _ ↦ .bind (advance _) fun _ ↦ of_pure _)

theorem uriBytes_fault {cs : List Char} {e : Fault} (h : uriBytes cs = .error e) :
    e = .malformed := by
  induction cs using uriBytes.induct with
  | case1 a b rest hhex ih =>
    rw [uriBytes, if_pos hhex] at h
    cases hrest : uriBytes rest with
    | ok bytes =>
      rw [hrest] at h
      exact absurd h nofun
    | error e' =>
      rw [hrest] at h
      obtain rfl := Except.error.inj h
      exact ih hrest
  | case2 a b rest hhex =>
    rw [uriBytes, if_neg hhex] at h
    exact (Except.error.inj h).symm
  | case3 rest hshort =>
    rw [uriBytes.eq_2 _ hshort] at h
    exact (Except.error.inj h).symm
  | case4 cs hlong hshort =>
    rw [uriBytes.eq_3 _ hlong hshort] at h
    exact absurd h nofun

theorem uriChars (read : List Char) (fuel : Nat) : Stays text (uriChars read fuel) := by
  induction fuel generalizing read with
  | zero => exact of_pure read
  | succ fuel ih =>
    refine .bind (span _) fun _ ↦ .bind peek fun _ ↦ .ite ?_ (of_pure _)
    refine .bind of_get fun c ↦ .bind (of_lift fun e he ↦ ?_) fun bytes ↦
      .bind (advance _) fun _ ↦ ?_
    · obtain rfl := uriBytes_fault he
      exact .malformed
    · split
      · exact ih _
      · exact refuse

theorem tagUri : Stays text tagUri :=
  .bind of_get fun _ ↦ .bind (uriChars _ _) fun _ ↦ .bind of_get fun _ ↦ .bind (require _) fun _ ↦
    of_pure _

theorem tagName : Stays text tagName := by
  have hend : ∀ name, Stays text (do
      Scan.require (isSpaceOrEnd (← Scan.peek))
      return name : Scan TagName) :=
    fun name ↦ .bind peek fun _ ↦ .bind (require _) fun _ ↦ of_pure _
  have hunder : ∀ handle, Stays text (do
      let name ← pure (TagName.under handle (← Yaml.tagUri))
      Scan.require (isSpaceOrEnd (← Scan.peek))
      return name : Scan TagName) :=
    fun handle ↦ .bind tagUri fun _ ↦ .bind (of_pure _) hend
  exact .bind of_get fun c ↦ .ite
    (.bind (advance 2) fun _ ↦ .bind tagUri fun _ ↦ .bind peek fun _ ↦ .bind (require _) fun _ ↦
      .bind (advance 1) fun _ ↦ .bind (of_pure _) hend)
    (.ite (.bind (advance 1) fun _ ↦ .bind (of_pure _) hend)
      (.ite (.bind tagHandle hunder)
        (.bind (advance 1) fun _ ↦ .bind (of_pure _) hunder)))

theorem versionNumber (hversion : "%YAML".toList <:+: text) : Stays text versionNumber := by
  intro c hc
  refine Ends.bind (span _ c hc) fun ds c' hspan hc' ↦ ?_
  obtain rfl := Except.ok.inj (Prod.mk.inj hspan).1
  have hdigits : ∀ d ∈ c.rest.takeWhile Char.isDigit, d.isDigit = true :=
    fun d ↦ List.mem_takeWhile_imp
  have hpart : c.rest.takeWhile Char.isDigit <:+: text :=
    (List.takeWhile_prefix _).isInfix.trans hc.isInfix
  refine Ends.bind (require _ c' hc') fun _ c'' hrequire hc'' ↦ ?_
  have hnonempty : c.rest.takeWhile Char.isDigit ≠ [] := by
    have hsome := eq_true_of_require hrequire
    simpa using hsome
  generalize c.rest.takeWhile Char.isDigit = ds at *
  rw [readInteger_digits hnonempty hdigits]
  by_cases hlong : digitLimit < ds.length
  · rw [if_pos hlong]
    exact of_throw (.longVersion hversion ds hpart hdigits hlong) c'' hc''
  · rw [if_neg hlong]
    exact of_pure _ c'' hc''

theorem directive {c : Cursor} (h : c.peek = '%') (hc : IsIn text c) :
    Ends (IsIn text) (IsLexical text) directive c := by
  have hend : ∀ d, Stays text (do
      Scan.restOfLine
      return d : Scan Directive) := fun d ↦ .bind restOfLine fun _ ↦ of_pure _
  refine Ends.bind_ok (exec_advance c 1) (Ends.bind (span _ _ (hc.skip 1)) ?_)
  intro name c' hspan hc'
  obtain rfl := Except.ok.inj (Prod.mk.inj hspan).1
  generalize hname : (c.skip 1).rest.takeWhile isWordChar = name at hspan ⊢
  have hstart : '%' :: name <+: c.rest := by
    rw [Cursor.rest_of_peek h (by decide), List.prefix_cons_inj, ← hname]
    exact List.takeWhile_prefix _
  refine Keeps.bind peek (fun _ ↦ .bind (require _) fun _ ↦ ?_) c' hc'
  dsimp only
  split
  next hyaml =>
    have hversion : "%YAML".toList <:+: text := by
      obtain rfl := beq_iff_eq.mp hyaml
      exact hstart.isInfix.trans hc.isInfix
    exact .bind skipSpaces fun _ ↦ .bind (versionNumber hversion) fun _ ↦ .bind peek fun _ ↦
      .bind (require _) fun _ ↦ .bind (advance 1) fun _ ↦ .bind (versionNumber hversion) fun _ ↦
        .bind peek fun _ ↦ .bind (require _) fun _ ↦ .bind (of_pure _) hend
  next =>
    refine .ite ?_ ?_
    · exact .bind skipSpaces fun _ ↦ .bind tagHandle fun _ ↦ .bind peek fun _ ↦
        .bind (require _) fun _ ↦ .bind skipSpaces fun _ ↦ .bind tagUri fun _ ↦ .bind peek fun _ ↦
          .bind (require _) fun _ ↦ .bind (of_pure _) hend
    · exact .bind (span _) fun _ ↦ .bind (of_pure _) hend

theorem quotedBreaks (breaks : List Char) (fuel : Nat) : Stays text (quotedBreaks breaks fuel) := by
  induction fuel generalizing breaks with
  | zero => exact of_pure breaks
  | succ fuel ih =>
    exact .bind of_get fun _ ↦ .bind (require _) fun _ ↦ .bind (span _) fun _ ↦ .bind peek fun _ ↦
      .ite (.bind lineBreak fun _ ↦ ih _) (of_pure _)

theorem quotedSpaces : Stays text quotedSpaces :=
  .bind (span _) fun _ ↦ .bind peek fun _ ↦ .bind (require _) fun _ ↦
    .ite (.bind lineBreak fun _ ↦ .bind of_get fun _ ↦ .bind (quotedBreaks _ _) fun _ ↦ of_pure _)
      (of_pure _)

/-- The digits of an escape are hexadecimal; only eight of them can write too large a code. -/
theorem exists_eight {c : Char} {width : Nat} {ds : List Char}
    (hwidth : escapeWidth? c = some width) (hlength : ds.length = width)
    (hhex : ∀ d ∈ ds, isHexDigit d = true)
    (hcode : 0x110000 ≤ numeral 16 ds) : c = 'U' ∧ ds.length = 8 := by
  have hsmall := numeral_lt hhex
  unfold escapeWidth? at hwidth
  split at hwidth <;> cases hwidth
  · rw [hlength] at hsmall
    omega
  · rw [hlength] at hsmall
    omega
  · exact ⟨rfl, hlength⟩

theorem escape {c : Cursor} (h : '\\' :: c.rest <:+ text) :
    Ends (IsIn text) (IsLexical text) escape c := by
  have hin : IsIn text c := (List.suffix_cons _ _).trans h
  refine Ends.bind_ok (exec_peek c) ?_
  split
  next => exact Keeps.bind (advance 1) (fun _ ↦ of_pure _) c hin
  next width hlookup hwidth =>
    refine Ends.bind_ok (exec_advance c 1) (Ends.bind_ok (exec_get _) ?_)
    generalize hds : (c.skip 1).rest.take width = ds
    refine Ends.bind (require _ _ (hin.skip 1)) fun _ c' hrequire hc' ↦ ?_
    have hdigits := eq_true_of_require hrequire
    rw [Bool.and_eq_true, beq_iff_eq, List.all_eq_true] at hdigits
    have hcause : 0x110000 ≤ numeral 16 ds → '\\' :: 'U' :: ds <:+: text ∧ ds.length = 8 := by
      intro hcode
      obtain ⟨hletter, height⟩ := exists_eight hwidth hdigits.1 hdigits.2 hcode
      refine ⟨List.IsInfix.trans (List.IsPrefix.isInfix ?_) h.isInfix, height⟩
      rw [← hds, Cursor.rest_of_peek hletter (by decide), List.prefix_cons_inj,
        List.prefix_cons_inj]
      exact List.take_prefix width _
    dsimp only
    split
    next hcode =>
      obtain ⟨hpart, height⟩ := hcause (by omega)
      exact throw_bind (.hugeCode ds hpart height hcode) c' hc'
    next =>
      split
      next hcode =>
        obtain ⟨hpart, height⟩ := hcause hcode
        exact throw_bind (.noCharacter ds hpart height hcode) c' hc'
      next => exact Keeps.bind (advance width) (fun _ ↦ of_pure _) c' hc'
  next =>
    exact Keeps.bind (require _) (fun _ ↦ .bind lineBreak fun _ ↦ .bind of_get fun _ ↦
      quotedBreaks _ _) c hin

theorem quotedChars (double : Bool) (read : List Char) (fuel : Nat) :
    Stays text (quotedChars double read fuel) := by
  induction fuel generalizing read with
  | zero => exact of_pure read
  | succ fuel ih =>
    refine .bind (span _) fun cs c hc ↦ Ends.bind_ok (exec_get c) ?_
    dsimp only
    split
    next => exact Keeps.bind (advance 2) (fun _ ↦ ih _) c hc
    next =>
      split
      next => exact Keeps.bind (advance 1) (fun _ ↦ ih _) c hc
      next =>
        split
        next hback =>
          have hrest : '\\' :: (c.skip 1).rest = c.rest := by
            have hpeek : c.peek = '\\' := by
              rw [Bool.and_eq_true, beq_iff_eq] at hback
              exact hback.2
            exact (Cursor.rest_of_peek hpeek (by decide)).symm
          exact Ends.bind_ok (exec_advance c 1)
            (Ends.bind (escape (hrest ▸ hc)) fun cs c' _ hc' ↦ ih _ c' hc')
        next => exact of_pure _ c hc

theorem quotedRest (quote : Char) (read : List Char) (fuel : Nat) :
    Stays text (quotedRest quote read fuel) := by
  induction fuel generalizing read with
  | zero => exact refuse
  | succ fuel ih =>
    exact .bind peek fun _ ↦ .ite (.bind (advance 1) fun _ ↦ of_pure read)
      (.bind quotedSpaces fun _ ↦ .bind (quotedChars _ _ _) fun _ ↦ ih _)

theorem quotedScalar (quote : Char) : Stays text (quotedScalar quote) :=
  .bind of_get fun _ ↦ .bind (advance 1) fun _ ↦ .bind (quotedChars _ _ _) fun _ ↦
    .bind (quotedRest _ _ _) fun _ ↦ of_pure _

theorem indentDigit : Stays text indentDigit :=
  .bind peek fun _ ↦ .ite (.bind (require _) fun _ ↦ .bind (advance 1) fun _ ↦ of_pure _)
    (of_pure none)

theorem blockHeader : Stays text blockHeader := by
  have hend : ∀ result, Stays text (do
      Scan.require (isSpaceOrEnd (← Scan.peek))
      Scan.restOfLine
      return result : Scan (Chomping × Option Nat)) :=
    fun result ↦ .bind peek fun _ ↦ .bind (require _) fun _ ↦ .bind restOfLine fun _ ↦ of_pure _
  refine .bind peek fun d ↦ ?_
  split
  next chomping _ =>
    exact .bind (advance 1) fun _ ↦ .bind indentDigit fun _ ↦ .bind (of_pure _) hend
  next =>
    refine .bind indentDigit fun width ↦ .ite (.bind peek fun d ↦ ?_) (.bind (of_pure _) hend)
    split
    next => exact .bind (advance 1) fun _ ↦ .bind (of_pure _) hend
    next => exact .bind (of_pure _) hend

theorem blockIndent (breaks : List Char) (most fuel : Nat) :
    Stays text (blockIndent breaks most fuel) := by
  induction fuel generalizing breaks most with
  | zero => exact of_pure _
  | succ fuel ih =>
    exact .bind peek fun _ ↦ .ite (.bind (advance 1) fun _ ↦ .bind of_get fun _ ↦ ih _ _)
      (.ite (.bind lineBreak fun _ ↦ ih _ _) (of_pure _))

theorem skipToColumn (column : Nat) : Stays text (skipToColumn column) :=
  .bind of_get fun _ ↦ advance _

theorem blockBreaks (indent : Nat) (breaks : List Char) (fuel : Nat) :
    Stays text (blockBreaks indent breaks fuel) := by
  induction fuel generalizing breaks with
  | zero => exact of_pure breaks
  | succ fuel ih =>
    exact .bind (skipToColumn indent) fun _ ↦ .bind peek fun _ ↦
      .ite (.bind lineBreak fun _ ↦ ih _) (of_pure breaks)

theorem blockLines (folded : Bool) (indent : Nat) (read : BlockText) (fuel : Nat) :
    Stays text (blockLines folded indent read fuel) := by
  induction fuel generalizing read with
  | zero => exact of_pure read
  | succ fuel ih =>
    exact .bind of_get fun _ ↦ .ite (of_pure read)
      (.bind (span _) fun _ ↦ .bind lineBreak fun _ ↦ .bind (blockBreaks _ _ _) fun _ ↦
        .bind of_get fun _ ↦ .ite (ih _) (of_pure _))

theorem blockScalar (folded : Bool) (outer : Int) : Stays text (blockScalar folded outer) := by
  refine .bind of_get fun c ↦ .bind (advance 1) fun _ ↦ .bind blockHeader fun header ↦ ?_
  obtain ⟨chomping, width | w⟩ := header
  · exact .bind (blockIndent _ _ _) fun _ ↦ .bind (of_pure _) fun _ ↦ .bind (blockLines _ _ _ _)
      fun _ ↦ of_pure _
  · exact .bind (blockBreaks _ _ _) fun _ ↦ .bind (of_pure _) fun _ ↦ .bind (blockLines _ _ _ _)
      fun _ ↦ of_pure _

theorem plainChars (flow : Bool) (fuel : Nat) : Stays text (plainChars flow fuel) := by
  induction fuel with
  | zero => exact of_pure []
  | succ fuel ih =>
    exact .bind of_get fun _ ↦ .ite (of_pure [])
      (.bind (advance 1) fun _ ↦ .bind ih fun _ ↦ of_pure _)

theorem plainBreaks (breaks : List Char) (fuel : Nat) : Stays text (plainBreaks breaks fuel) := by
  induction fuel generalizing breaks with
  | zero => exact of_pure _
  | succ fuel ih =>
    exact .bind peek fun _ ↦ .ite (.bind (advance 1) fun _ ↦ ih breaks)
      (.ite (.bind lineBreak fun _ ↦ .bind of_get fun _ ↦ .ite (of_pure none) (ih _)) (of_pure _))

theorem plainGap : Stays text plainGap := by
  refine .bind (span _) fun spaces ↦ .bind peek fun _ ↦ .ite ?_ (of_pure (spaces, false))
  refine .bind lineBreak fun first ↦ .bind of_get fun _ ↦ .ite (of_pure ([], true))
    (.bind of_get fun _ ↦ .bind (plainBreaks _ _) fun breaks ↦ ?_)
  cases breaks with
  | none => exact of_pure ([], true)
  | some breaks => exact of_pure (fold first breaks, true)

theorem plainParts (flow : Bool) (indent : Nat) (gap : List Char) (broken : Bool) (fuel : Nat) :
    Stays text (plainParts flow indent gap broken fuel) := by
  induction fuel generalizing gap broken with
  | zero => exact of_pure ([], broken)
  | succ fuel ih =>
    exact .bind peek fun _ ↦ .ite (of_pure _)
      (.bind (plainChars _ _) fun _ ↦ .ite (of_pure _)
        (.bind plainGap fun _ ↦ .bind of_get fun _ ↦ .ite (of_pure _)
          (.bind (ih _ _) fun _ ↦ of_pure _)))

theorem plainScalar (flow : Bool) (outer : Int) : Stays text (plainScalar flow outer) :=
  .bind of_get fun _ ↦ .bind (plainParts _ _ _ _ _) fun _ ↦ of_pure _

end Stays

abbrev Holding (J : Cursor → Prop) (text : List Char) {α : Type} (x : Lexing α) : Prop :=
  Keeps (fun s ↦ J s.cursor) (IsLexical text) x

abbrev Advances (text : List Char) {α : Type} (x : Lexing α) : Prop := Holding (IsIn text) text x

namespace Advances

open Lexing Keeps

theorem refuse {α : Type} : Advances text (Lexing.refuse : Lexing α) := of_throw .malformed

theorem ends_read {α : Type} {x : Scan α} {s : Lexer}
    (hx : Ends (IsIn text) (IsLexical text) x s.cursor) :
    Ends (fun s ↦ IsIn text s.cursor) (IsLexical text) (Lexing.read x) s := by
  obtain ⟨hkeep, hfault⟩ := hx
  obtain ⟨r, hr⟩ : ∃ r, exec x s.cursor = r := ⟨_, rfl⟩
  rw [hr] at hkeep hfault
  unfold Ends
  obtain ⟨e | a, c⟩ := r
  · have hexec : exec (Lexing.read x) s = (.error e, { s with cursor := c }) := by
      have hrun : x.run.run s.cursor = (.error e, c) := hr
      unfold Lexing.read
      rw [exec_bind_ok (exec_get s), hrun]
      rfl
    rw [hexec]
    exact ⟨hkeep, hfault⟩
  · rw [exec_read hr]
    exact ⟨hkeep, nofun⟩

theorem read {α : Type} {x : Scan α} (hx : Stays text x) : Advances text (Lexing.read x) :=
  fun s hs ↦ ends_read (hx s.cursor hs)

section Holding

variable {J : Cursor → Prop}

theorem emit (t : Token) : Holding J text (Lexing.emit t) := of_modify fun _ h ↦ h

theorem insertAt (place : Nat) (t : Token) : Holding J text (Lexing.insertAt place t) :=
  of_modify fun _ h ↦ h

theorem setKeyAllowed (b : Bool) : Holding J text (Lexing.setKeyAllowed b) := of_modify fun _ h ↦ h

theorem dropStaleKeys : Holding J text Lexing.dropStaleKeys := by
  refine fun s hs ↦ Ends.bind_ok (exec_get s) ?_
  dsimp only
  split
  · exact throw_bind .malformed s hs
  · exact ⟨hs, nofun⟩

theorem dropKey : Holding J text Lexing.dropKey := by
  refine fun s hs ↦ Ends.bind_ok (exec_get s) ?_
  dsimp only
  split
  · exact throw_bind .malformed s hs
  · exact ⟨hs, nofun⟩

theorem noteKey : Holding J text Lexing.noteKey :=
  .bind of_get fun _ ↦ .ite (.bind dropKey fun _ ↦ of_modify fun _ h ↦ h) (of_pure _)

theorem closeBlocks (column : Int) (outer : List Int) :
    Holding J text (Lexing.closeBlocks column outer) := by
  induction outer with
  | nil => exact of_pure _
  | cons indent outer ih =>
    refine fun s hs ↦ Ends.bind_ok (exec_get s) ?_
    split
    · exact Ends.bind_ok (exec_set _ s) (Keeps.bind (emit _) (fun _ ↦ ih) _ hs)
    · exact of_pure _ s hs

theorem unwind (column : Int) : Holding J text (Lexing.unwind column) :=
  .bind of_get fun _ ↦ .ite (closeBlocks _ _) (of_pure _)

theorem openBlock (column : Nat) : Holding J text (Lexing.openBlock column) := by
  refine fun s hs ↦ Ends.bind_ok (exec_get s) ?_
  split
  · exact ⟨hs, nofun⟩
  · exact ⟨hs, nofun⟩

theorem endBlocks : Holding J text Lexing.endBlocks :=
  .bind (unwind _) fun _ ↦ .bind dropKey fun _ ↦ setKeyAllowed _

end Holding

theorem skipToToken (fuel : Nat) : Advances text (Lexing.skipToToken fuel) := by
  induction fuel with
  | zero => exact of_pure _
  | succ fuel ih =>
    exact .bind (of_modify fun _ h ↦ h.skipSpaces.skipComment) fun _ ↦ .bind of_get fun _ ↦
      .ite (.bind (read .lineBreak) fun _ ↦ .ite (.bind (setKeyAllowed _) fun _ ↦ ih) ih)
        (of_pure _)

theorem documentMarker (t : Token) : Advances text (Lexing.documentMarker t) :=
  .bind endBlocks fun _ ↦ .bind (read (.advance 3)) fun _ ↦ emit t

theorem flowStart (t : Token) : Advances text (Lexing.flowStart t) :=
  .bind noteKey fun _ ↦ .bind (of_modify fun _ h ↦ h) fun _ ↦ .bind (read (.advance 1)) fun _ ↦
    emit t

theorem flowEnd (t : Token) : Advances text (Lexing.flowEnd t) := by
  refine .bind dropKey fun _ s hs ↦ Ends.bind_ok (exec_get s) ?_
  dsimp only
  split
  · exact throw_bind .malformed s hs
  · exact Ends.bind_ok (exec_set _ s) (Keeps.bind (read (.advance 1)) (fun _ ↦ emit t) _ hs)

theorem flowEntry : Advances text Lexing.flowEntry :=
  .bind (setKeyAllowed _) fun _ ↦ .bind dropKey fun _ ↦ .bind (read (.advance 1)) fun _ ↦ emit _

theorem startBlock (t : Token) : Advances text (Lexing.startBlock t) := by
  refine .bind of_get fun s ↦ .ite ?_ (of_pure _)
  refine .ite (throw_bind .malformed) (.bind (openBlock _) fun _ ↦ .ite (emit t) (of_pure _))

theorem blockEntry : Advances text Lexing.blockEntry :=
  .bind (startBlock _) fun _ ↦ .bind (setKeyAllowed _) fun _ ↦ .bind dropKey fun _ ↦
    .bind (read (.advance 1)) fun _ ↦ emit _

theorem key : Advances text Lexing.key :=
  .bind (startBlock _) fun _ ↦ .bind of_get fun _ ↦ .bind (setKeyAllowed _) fun _ ↦
    .bind dropKey fun _ ↦ .bind (read (.advance 1)) fun _ ↦ emit _

theorem value : Advances text Lexing.value := by
  have hend : Advances text (do
      Lexing.read (Scan.advance 1)
      Lexing.emit .value : Lexing Unit) := .bind (read (.advance 1)) fun _ ↦ emit _
  refine fun s hs ↦ Ends.bind_ok (exec_get s) ?_
  dsimp only
  split
  next k _ =>
    refine Ends.bind_ok (exec_set _ s) (Ends.bind_ok (exec_insertAt _ _ _) ?_)
    refine Keeps.ite (.bind (openBlock _) fun _ ↦ .ite ?_ ?_) ?_ _ hs
    · exact .bind (insertAt _ _) fun _ ↦ .bind (setKeyAllowed _) fun _ ↦ hend
    · exact .bind (setKeyAllowed _) fun _ ↦ hend
    · exact .bind (setKeyAllowed _) fun _ ↦ hend
  next =>
    exact Keeps.bind (startBlock _) (fun _ ↦ .bind (setKeyAllowed _) fun _ ↦ .bind dropKey
      fun _ ↦ hend) s hs

theorem item {x : Scan Token} (hx : Stays text x) : Advances text (Lexing.item x) :=
  .bind noteKey fun _ ↦ .bind (setKeyAllowed _) fun _ ↦ .bind (read hx) fun _ ↦ emit _

theorem plain : Advances text Lexing.plain :=
  .bind noteKey fun _ ↦ .bind of_get fun _ ↦ .bind (read (.plainScalar _ _)) fun _ ↦
    .bind (setKeyAllowed _) fun _ ↦ emit _

theorem block (folded : Bool) : Advances text (Lexing.block folded) :=
  .bind (setKeyAllowed _) fun _ ↦ .bind dropKey fun _ ↦ .bind of_get fun _ ↦
    .bind (read (.blockScalar _ _)) fun _ ↦ emit _

/-- Blocks end at a directive, but the cursor stays at its percent sign. -/
theorem directive {s : Lexer} (h : s.cursor.peek = '%') (hs : IsIn text s.cursor) :
    Ends (fun s ↦ IsIn text s.cursor) (IsLexical text) (do
      Lexing.endBlocks
      Lexing.emit (.directive (← Lexing.read Yaml.directive))
      return false) s := by
  have hblocks : Ends (fun s' ↦ s'.cursor = s.cursor) (IsLexical text) Lexing.endBlocks s :=
    endBlocks (J := (· = s.cursor)) s rfl
  refine Ends.bind (hblocks.weaken fun s' hs' ↦ hs' ▸ hs) fun _ s' hexec hs' ↦ ?_
  have hcursor : s'.cursor.peek = '%' := by
    have hsame := hblocks.1
    rw [hexec] at hsame
    exact hsame ▸ h
  refine Ends.bind (ends_read (Stays.directive hcursor hs')) fun d s'' _ hs'' ↦ ?_
  exact Keeps.bind (emit _) (fun _ ↦ of_pure false) s'' hs''

theorem token : Advances text Lexing.token := by
  have hend : ∀ {x : Lexing Unit}, Advances text x → Advances text (do
      x
      return false) := fun hx ↦ .bind hx fun _ ↦ of_pure false
  have hitem : ∀ {α : Type} {x : Scan α} (f : α → Token), Stays text x →
      Advances text (Lexing.item (do return f (← x))) :=
    fun f hx ↦ item (.bind hx fun _ ↦ of_pure _)
  refine fun s hs ↦ Ends.bind_ok (exec_get s) ?_
  refine .ite (fun _ ↦ ?_) fun _ ↦ .ite (fun hd ↦ ?_) fun _ ↦ ?_
  · exact Keeps.bind endBlocks (fun _ ↦ .bind (emit _) fun _ ↦ of_pure true) s hs
  · exact directive (beq_iff_eq.mp (Bool.and_eq_true_iff.mp hd).1) hs
  refine Keeps.ite ?_ (.ite ?_ (.ite ?_ (.ite ?_ (.ite ?_ (.ite ?_ (.ite ?_ (.ite ?_ (.ite ?_
    (.ite ?_ (.ite ?_ (.ite ?_ (.ite ?_ (.ite ?_ (.ite ?_ (.ite ?_ (.ite ?_ ?_)))))))))))))))) s hs
  · exact hend (documentMarker _)
  · exact hend (documentMarker _)
  · exact hend (flowStart _)
  · exact hend (flowStart _)
  · exact hend (flowEnd _)
  · exact hend (flowEnd _)
  · exact hend flowEntry
  · exact hend blockEntry
  · exact hend key
  · exact hend value
  · exact hend (hitem _ .anchorName)
  · exact hend (hitem _ .anchorName)
  · exact hend (hitem _ .tagName)
  · exact hend (block _)
  · exact hend (block _)
  · exact hend (hitem _ (.quotedScalar _))
  · exact hend plain
  · exact hend refuse

theorem next : Advances text Lexing.next :=
  .bind of_get fun _ ↦ .bind (skipToToken _) fun _ ↦ .bind dropStaleKeys fun _ ↦
    .bind of_get fun _ ↦ .bind (unwind _) fun _ ↦ token

end Advances

theorem Lexer.run_fault {s : Lexer} (hs : IsIn text s.cursor) (beyond : Option Fault) (fuel : Nat) :
    IsLexical text (s.run beyond fuel).fault ∨ beyond = some (s.run beyond fuel).fault := by
  induction fuel generalizing s with
  | zero => exact .inl .malformed
  | succ fuel ih =>
    rw [Lexing.run_succ]
    obtain ⟨hkeep, hfault⟩ := Advances.dropStaleKeys s hs
    obtain ⟨r, hr⟩ : ∃ r, exec Lexing.dropStaleKeys s = r := ⟨_, rfl⟩
    rw [hr] at hkeep hfault ⊢
    obtain ⟨f | u, s'⟩ := r
    · exact .inl (hfault f rfl)
    obtain ⟨hkeep', hfault'⟩ := Advances.next s' hkeep
    dsimp only
    generalize exec Lexing.next s' = r at *
    obtain ⟨result, s''⟩ := r
    dsimp only at hkeep' hfault' ⊢
    cases hlast : if s''.isAtEnd then beyond else none with
    | some f =>
      refine .inr ?_
      split at hlast
      · exact hlast
      · exact absurd hlast nofun
    | none =>
      obtain f | _ | _ := result
      · exact .inl (hfault' f rfl)
      · exact ih hkeep'
      · exact .inl .malformed

theorem Tokens.fault_ofSource (source : Source) :
    IsLexical source.text (ofSource source).fault ∨
      source.fault = some (ofSource source).fault := by
  refine Lexer.run_fault ?_ source.fault _
  have hstart : IsIn source.text (Cursor.ofText source.text) := List.suffix_refl _
  dsimp only
  split
  · exact hstart.skip 1
  · exact hstart

end WebAcl.Yaml
