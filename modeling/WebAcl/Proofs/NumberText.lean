import WebAcl.Number.Shortest
import WebAcl.Proofs.Outcome

namespace WebAcl.Number

def isNumberChar (c : Char) : Bool :=
  c.isDigit || ['.', 'e', '+', '-'].contains c

theorem isNumberChar_of_isDigit {c : Char} (h : c.isDigit = true) : isNumberChar c = true := by
  simp [isNumberChar, h]

theorem isNumberChar_toDigits {n : Nat} {c : Char} (h : c ∈ Nat.toDigits 10 n) :
    isNumberChar c = true :=
  isNumberChar_of_isDigit (Nat.isDigit_of_mem_toDigits (by decide) (by decide) h)

theorem isNumberChar_shortestDigits {m : Nat} {e : Int} {c : Char}
    (h : c ∈ (shortestDigits m e).1) : isNumberChar c = true := by
  simp only [shortestDigits] at h
  have hmem := (List.dropWhile_sublist _).mem (List.mem_reverse.mp h)
  exact isNumberChar_toDigits (List.mem_reverse.mp hmem)

theorem isNumberChar_positiveText {m : Nat} {e : Int} {c : Char} (h : c ∈ positiveText m e) :
    isNumberChar c = true := by
  have hdigits : ∀ {ds : List Char}, ds.Sublist (shortestDigits m e).1 → c ∈ ds →
      isNumberChar c = true := fun hs hc ↦ isNumberChar_shortestDigits (hs.mem hc)
  have hzeros : ∀ {n : Nat}, c ∈ List.replicate n '0' → isNumberChar c = true := by
    intro n hc
    rw [List.eq_of_mem_replicate hc]
    decide
  have hmarks : ∀ {cs : List Char}, cs.all isNumberChar = true → c ∈ cs → isNumberChar c = true :=
    fun hall hc ↦ List.all_eq_true.mp hall c hc
  unfold positiveText at h
  generalize shortestDigits m e = found at h hdigits
  obtain ⟨ds, point⟩ := found
  dsimp only at h hdigits
  split at h
  · simp only [List.mem_append] at h
    obtain (((h | h) | h) | h) | h := h
    · exact hdigits (List.take_sublist _ _) h
    · split at h
      · simp at h
      · obtain rfl | h := List.mem_cons.mp h
        · decide
        · exact hdigits (List.drop_sublist _ _) h
    · split at h <;> exact hmarks (by decide) h
    · exact hzeros h
    · exact isNumberChar_toDigits h
  · split at h
    · simp only [List.mem_cons, List.mem_append] at h
      obtain rfl | rfl | h | h := h
      · decide
      · decide
      · exact hzeros h
      · exact hdigits (List.Sublist.refl _) h
    · simp only [List.mem_append, List.mem_cons] at h
      obtain (h | h) | rfl | h := h
      · exact hdigits (List.take_sublist _ _) h
      · exact hzeros h
      · decide
      · split at h
        · exact hmarks (by decide) h
        · exact hdigits (List.drop_sublist _ _) h

theorem isNumberChar_int {i : Int} {c : Char} (h : c ∈ (toString i).toList) :
    isNumberChar c = true := by
  cases i with
  | ofNat n =>
    have h : c ∈ n.repr.toList := h
    exact isNumberChar_toDigits (Nat.toList_repr ▸ h)
  | negSucc n =>
    have h : c ∈ ("-" ++ (n + 1).repr).toList := h
    rw [String.toList_append, List.mem_append, Nat.toList_repr] at h
    obtain h | h := h
    · exact List.all_eq_true.mp (by decide : "-".toList.all isNumberChar = true) c h
    · exact isNumberChar_toDigits h

theorem isNumberChar_finite {negative : Bool} {m : Nat} {e : Int} {c : Char}
    (h : c ∈ (Binary64.finite negative m e).toText.toList) : isNumberChar c = true := by
  have hbody : c ∈ (if m = 0 then ['0', '.', '0'] else positiveText m e) →
      isNumberChar c = true := by
    intro h
    split at h
    · exact List.all_eq_true.mp (by decide : ['0', '.', '0'].all isNumberChar = true) c h
    · exact isNumberChar_positiveText h
  simp only [Binary64.toText, String.toList_ofList] at h
  cases negative with
  | false => exact hbody h
  | true =>
    obtain rfl | h := List.mem_cons.mp h
    · decide
    · exact hbody h

theorem int_ne_nil (i : Int) : (toString i).toList ≠ [] := by
  cases i with
  | ofNat n =>
    have hdigits : n.repr.toList ≠ [] := Nat.toList_repr ▸ Nat.toDigits_ne_nil
    exact hdigits
  | negSucc n =>
    have hsign : ("-" ++ (n + 1).repr).toList ≠ [] := by simp
    exact hsign

theorem positiveText_ne_nil (m : Nat) (e : Int) : positiveText m e ≠ [] := by
  unfold positiveText
  dsimp only
  repeat' split
  all_goals simp

theorem float_ne_nil (x : Binary64) : x.toText.toList ≠ [] := by
  cases x with
  | nan => decide
  | infinite negative => cases negative <;> decide
  | finite negative m e =>
    simp only [Binary64.toText, String.toList_ofList]
    cases negative with
    | true => exact List.cons_ne_nil _ _
    | false =>
      have hbody : (if m = 0 then ['0', '.', '0'] else positiveText m e) ≠ [] := by
        split
        · exact List.cons_ne_nil _ _
        · exact positiveText_ne_nil m e
      exact hbody

theorem eq_of_repr_eq {i j : Nat} (h : i.repr = j.repr) : i = j := by
  have hdigits : Nat.toDigits 10 i = Nat.toDigits 10 j := by
    rw [← Nat.toList_repr, ← Nat.toList_repr, h]
  rw [← @Nat.ofDigitChars_ten_toDigits i, hdigits, Nat.ofDigitChars_ten_toDigits]

theorem eq_of_toString_eq {i j : Int} (h : toString i = toString j) : i = j := by
  have hsign : ∀ m n : Nat, (Int.ofNat m).repr ≠ (Int.negSucc n).repr := by
    intro m n h
    have hmem : '-' ∈ m.repr.toList := by
      have hlist : m.repr.toList = ("-" ++ (n + 1).repr).toList := congrArg String.toList h
      simp [hlist]
    rw [Nat.toList_repr] at hmem
    exact absurd (Nat.isDigit_of_mem_toDigits (by decide) (by decide) hmem) (by decide)
  cases i with
  | ofNat m =>
    cases j with
    | ofNat n => exact congrArg Int.ofNat (eq_of_repr_eq h)
    | negSucc n => exact absurd h (hsign m n)
  | negSucc m =>
    cases j with
    | ofNat n => exact absurd h.symm (hsign n m)
    | negSucc n =>
      have hdigits : "-" ++ (m + 1).repr = "-" ++ (n + 1).repr := h
      have hsucc : m + 1 = n + 1 := eq_of_repr_eq (by simpa using hdigits)
      rw [Nat.succ.inj hsucc]

end WebAcl.Number
