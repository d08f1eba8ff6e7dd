import WebAcl.Proofs.NumberText
import WebAcl.Proofs.QuotedText
import WebAcl.Value.Text

namespace WebAcl

open Text Number

def Unbroken (s : String) : Prop :=
  '\n' ∉ s.toList

instance (s : String) : Decidable (Unbroken s) :=
  inferInstanceAs (Decidable ('\n' ∉ s.toList))

namespace Unbroken

variable {s t : String}

theorem append (hs : Unbroken s) (ht : Unbroken t) : Unbroken (s ++ t) := by
  rw [Unbroken, String.toList_append, List.mem_append, not_or]
  exact ⟨hs, ht⟩

theorem ofList {cs : List Char} (h : '\n' ∉ cs) : Unbroken (String.ofList cs) := by
  rwa [Unbroken, String.toList_ofList]

theorem of_isNumberChar (h : ∀ c ∈ s.toList, isNumberChar c = true) : Unbroken s :=
  fun hmem ↦ absurd (h _ hmem) (by decide)

theorem intercalate {separator : String} (hseparator : Unbroken separator) {ss : List String}
    (hss : ∀ s ∈ ss, Unbroken s) : Unbroken (separator.intercalate ss) := by
  induction ss with
  | nil => simp [Unbroken]
  | cons s ss ih =>
    obtain ⟨hs, hss⟩ := List.forall_mem_cons.mp hss
    cases ss with
    | nil => simpa using hs
    | cons t ss =>
      rw [String.intercalate_cons_cons]
      exact (hs.append hseparator).append (ih hss)

theorem int (i : Int) : Unbroken (toString i) :=
  .of_isNumberChar fun _ ↦ isNumberChar_int

theorem nat (n : Nat) : Unbroken (toString n) :=
  int n

theorem float (x : Binary64) : Unbroken x.toText := by
  cases x with
  | nan => decide
  | infinite negative => cases negative <;> decide
  | finite negative m e => exact .of_isNumberChar fun _ ↦ isNumberChar_finite

end Unbroken

theorem not_mem_hexDigits (width n : Nat) : '\n' ∉ hexDigits width n := by
  have hdigits : '\n' ∉ Nat.toDigits 16 n := by
    induction n using Nat.strongRecOn with
    | ind n ih =>
      rw [Nat.toDigits_eq_if (by decide)]
      split
      · simp
      · rw [List.mem_append, not_or]
        exact ⟨ih (n / 16) (by omega), by simp⟩
  unfold hexDigits
  rw [List.mem_append, not_or]
  exact ⟨fun hmem ↦ absurd (List.eq_of_mem_replicate hmem) (by decide), hdigits⟩

theorem not_mem_escapeCode (n : Nat) : '\n' ∉ escapeCode n := by
  unfold escapeCode
  split
  · simp [not_mem_hexDigits]
  · split <;> simp [not_mem_hexDigits]

theorem not_mem_quoteChar {q : Char} (hq : q ≠ '\n') (c : Char) : '\n' ∉ quoteChar q c := by
  unfold quoteChar
  split
  next hc =>
    have hne : c ≠ '\n' := by
      rintro rfl
      exact hc.elim (fun heq ↦ hq heq.symm) (by decide)
    simp [hne.symm]
  next =>
    split
    · decide
    · split
      · decide
      next hne =>
        split
        · decide
        · split
          · simpa using Ne.symm hne
          · exact not_mem_escapeCode _

theorem not_mem_quoteCode {q : Char} (hq : q ≠ '\n') (n : Nat) : '\n' ∉ quoteCode q n := by
  unfold quoteCode
  split
  · exact not_mem_escapeCode n
  · exact not_mem_quoteChar hq _

theorem not_mem_between {q : Char} (hq : q = '"' ∨ q = '\'') {cs : List Char} (h : '\n' ∉ cs) :
    '\n' ∉ q :: (cs ++ [q]) := by
  obtain rfl | rfl := hq <;> simp [h]

theorem unbroken_quoted (s : String) : Unbroken (quoted s) := by
  have hq : ∀ b : Bool, (if b then '"' else '\'') = '"' ∨ (if b then '"' else '\'') = '\'' := by
    decide
  refine .ofList (not_mem_between (hq _) fun hmem ↦ ?_)
  obtain ⟨n, -, hn⟩ := List.mem_flatMap.mp hmem
  refine not_mem_quoteCode ?_ n hn
  split <;> decide

theorem not_mem_inspectByte {q : Char} (hq : q ≠ '\n') (b : UInt8) : '\n' ∉ inspectByte q b := by
  unfold inspectByte
  dsimp only
  split
  next hc =>
    have hne : Char.ofNat b.toNat ≠ '\n' := by
      intro heq
      exact hc.elim (fun hq' ↦ hq (hq'.symm.trans heq)) fun hslash ↦ by simp [heq] at hslash
    simp [hne.symm]
  next =>
    split
    · decide
    · split
      · decide
      next hne =>
        split
        · decide
        · split
          · simpa using Ne.symm hne
          · simp [not_mem_hexDigits]

theorem unbroken_inspectBytes (bs : List UInt8) : Unbroken (inspectBytes bs) := by
  have hq : ∀ b : Bool, (if b then '"' else '\'') = '"' ∨ (if b then '"' else '\'') = '\'' := by
    decide
  refine .ofList (List.not_mem_cons_of_ne_of_not_mem (by decide)
    (not_mem_between (hq _) fun hmem ↦ ?_))
  obtain ⟨b, -, hb⟩ := List.mem_flatMap.mp hmem
  refine not_mem_inspectByte ?_ b hb
  split <;> decide

namespace Value

theorem unbroken_date (d : Date) : Unbroken d.inspect := by
  refine (Unbroken.append (by decide) (.intercalate (by decide) ?_)).append (by decide)
  exact List.forall_mem_map.mpr fun n _ ↦ .nat n

theorem unbroken_timestamp (t : Timestamp) : Unbroken t.inspect := by
  unfold Timestamp.inspect
  refine (Unbroken.append (by decide) (.intercalate (by decide) ?_)).append (by decide)
  refine List.forall_mem_append.mpr ⟨List.forall_mem_map.mpr fun n _ ↦ .nat n, ?_⟩
  split
  · exact nofun
  · exact List.forall_mem_singleton.mpr (by decide)
  next m _ _ =>
    have hdays : Unbroken (if m < 0 then "days=-1, " else "") := by
      split <;> decide
    refine List.forall_mem_singleton.mpr ?_
    exact ((((Unbroken.append (by decide) hdays).append (by decide)).append (.int _))).append
      (by decide)

theorem unbroken_tupleText {xs : List String} (h : ∀ x ∈ xs, Unbroken x) :
    Unbroken (tupleText xs) := by
  unfold tupleText
  split
  · exact (Unbroken.append (by decide) (h _ List.mem_cons_self)).append (by decide)
  · exact (Unbroken.append (by decide) (.intercalate (by decide) h)).append (by decide)

theorem unbroken_setText {xs : List String} (h : ∀ x ∈ xs, Unbroken x) :
    Unbroken (setText xs) := by
  unfold setText
  split
  · decide
  · exact (Unbroken.append (by decide) (.intercalate (by decide) h)).append (by decide)

mutual

theorem unbroken_inspect : ∀ v : Value, Unbroken v.inspect := by
  intro v
  cases v with
  | null | endless => decide
  | bool b => cases b <;> decide
  | int i => exact .int i
  | float x => exact .float x
  | str s => exact unbroken_quoted s
  | bytes bs => exact unbroken_inspectBytes bs
  | date d => exact unbroken_date d
  | timestamp t => exact unbroken_timestamp t
  | list xs =>
    exact (Unbroken.append (by decide) (.intercalate (by decide) (unbroken_inspectItems xs))).append
      (by decide)
  | tuple xs => exact unbroken_tupleText (unbroken_inspectItems xs)
  | set xs => exact unbroken_setText (unbroken_inspectItems xs)
  | map es | frozenMap es =>
    exact (Unbroken.append (by decide) (.intercalate (by decide)
      (unbroken_inspectEntries es))).append (by decide)

theorem unbroken_inspectItems : ∀ xs : List Value, ∀ s ∈ inspectItems xs, Unbroken s
  | [] => nofun
  | x :: xs => List.forall_mem_cons.mpr ⟨unbroken_inspect x, unbroken_inspectItems xs⟩

theorem unbroken_inspectEntries : ∀ es : List (Value × Value), ∀ s ∈ inspectEntries es, Unbroken s
  | [] => nofun
  | (k, v) :: es => List.forall_mem_cons.mpr
    ⟨((unbroken_inspect k).append (by decide)).append (unbroken_inspect v),
      unbroken_inspectEntries es⟩

end

end Value

end WebAcl
