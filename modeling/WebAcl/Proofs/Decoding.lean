import WebAcl.Yaml.Source
import Mathlib.Data.List.Basic

namespace WebAcl.Text

namespace Utf8

variable {a : UInt8} {rest more bs : List UInt8} {cs : List Char}

/-- The beginning of a run of bytes is a character or not, whatever follows; only a run that is too
short may be continued. -/
theorem start_append (a : UInt8) (rest more : List UInt8) :
    match start a rest with
    | .char c size => start a (rest ++ more) = .char c size ∧ size ≤ rest.length + 1
    | .fault bytes .truncated => bytes = a :: rest
    | .fault bytes defect => start a (rest ++ more) = .fault bytes defect := by
  unfold start
  obtain hlength | ⟨_ | _ | _ | n, hlength⟩ :
      tailLength? a = none ∨ ∃ n, tailLength? a = some n := by
    cases tailLength? a <;> simp
  · rw [hlength]
  · rw [hlength]
    simp
  · rw [hlength]
    cases rest with
    | nil => rfl
    | cons b rest => by_cases hb : mayFollow a b <;> simp [hb]
  · rw [hlength]
    obtain _ | ⟨b, _ | ⟨c, rest⟩⟩ := rest
    · rfl
    · by_cases hb : mayFollow a b <;> simp [hb]
    · by_cases hb : mayFollow a b <;> by_cases hc : isTail c <;> simp [hb, hc]
  · rw [hlength]
    obtain _ | ⟨b, _ | ⟨c, _ | ⟨d, rest⟩⟩⟩ := rest
    · rfl
    · by_cases hb : mayFollow a b <;> simp [hb]
    · by_cases hb : mayFollow a b <;> by_cases hc : isTail c <;> simp [hb, hc]
    · by_cases hb : mayFollow a b <;> by_cases hc : isTail c <;> by_cases hd : isTail d <;>
        simp [hb, hc, hd]

theorem charsFrom_char {c : Char} {size : Nat} (h : start a rest = .char c size) (p : Nat) :
    charsFrom p 0 (a :: rest) = (c :: (charsFrom (p + 1) (size - 1) rest).1,
      (charsFrom (p + 1) (size - 1) rest).2) := by
  rw [charsFrom, h]

theorem charsFrom_fault {bytes : List UInt8} {defect : Defect}
    (h : start a rest = .fault bytes defect) (p : Nat) :
    charsFrom p 0 (a :: rest) = ([], some ⟨bytes, p, defect⟩) := by
  rw [charsFrom, h]

theorem charsFrom_shift (p q skip : Nat) (bs : List UInt8) :
    charsFrom (p + q) skip bs = ((charsFrom q skip bs).1,
      (charsFrom q skip bs).2.map fun f ↦ { f with position := p + f.position }) := by
  induction bs generalizing q skip with
  | nil => rfl
  | cons a rest ih =>
    cases skip with
    | succ skip =>
      rw [charsFrom, charsFrom, Nat.add_assoc, ih]
    | zero =>
      cases hstart : start a rest with
      | char c size => rw [charsFrom_char hstart, charsFrom_char hstart, Nat.add_assoc, ih]
      | fault bytes defect => rw [charsFrom_fault hstart, charsFrom_fault hstart]; rfl

theorem charsFrom_eq (p : Nat) (bs : List UInt8) : charsFrom p 0 bs =
    ((chars bs).1, (chars bs).2.map fun f ↦ { f with position := p + f.position }) :=
  charsFrom_shift p 0 0 bs

theorem chars_of_none {p : Nat} (h : charsFrom p 0 bs = (cs, none)) : chars bs = (cs, none) := by
  rw [charsFrom_eq, Prod.mk.injEq, Option.map_eq_none_iff] at h
  exact Prod.ext h.1 h.2

theorem chars_of_some {p : Nat} {f : Fault} (h : charsFrom p 0 bs = (cs, some f)) :
    ∃ f', chars bs = (cs, some f') := by
  rw [charsFrom_eq, Prod.mk.injEq, Option.map_eq_some_iff] at h
  obtain ⟨hcs, f', hf', -⟩ := h
  exact ⟨f', Prod.ext hcs hf'⟩

theorem charsFrom_append_of_none {p skip : Nat} (h : charsFrom p skip bs = (cs, none))
    (hskip : skip ≤ bs.length) (more : List UInt8) : charsFrom p skip (bs ++ more) =
      (cs ++ (charsFrom (p + bs.length) 0 more).1, (charsFrom (p + bs.length) 0 more).2) := by
  induction bs generalizing p skip cs with
  | nil =>
    obtain rfl : skip = 0 := Nat.le_zero.mp hskip
    obtain rfl : [] = cs := (Prod.mk.inj h).1
    rfl
  | cons a rest ih =>
    rw [List.length_cons] at hskip
    have hposition : p + (a :: rest).length = p + 1 + rest.length := by
      rw [List.length_cons]
      omega
    rw [hposition, List.cons_append]
    cases skip with
    | succ skip => exact ih h (by omega)
    | zero =>
      have hstart := start_append a rest more
      cases hfirst : start a rest with
      | fault bytes defect => simp [charsFrom_fault hfirst] at h
      | char c size =>
        rw [hfirst] at hstart
        rw [charsFrom_char hfirst] at h
        obtain ⟨hcs, hnone⟩ := Prod.mk.inj h
        rw [charsFrom_char hstart.1, ih (Prod.ext rfl hnone) (by omega), ← hcs, List.cons_append]

theorem charsFrom_append_of_truncated {p skip : Nat} {f : Fault}
    (h : charsFrom p skip bs = (cs, some f)) (hf : f.defect = .truncated)
    (hskip : skip ≤ bs.length) (more : List UInt8) :
    ∃ q, charsFrom q 0 f.bytes = ([], some f) ∧ charsFrom p skip (bs ++ more) =
      (cs ++ (charsFrom q 0 (f.bytes ++ more)).1, (charsFrom q 0 (f.bytes ++ more)).2) := by
  induction bs generalizing p skip cs with
  | nil => exact absurd (Prod.mk.inj h).2 nofun
  | cons a rest ih =>
    rw [List.length_cons] at hskip
    cases skip with
    | succ skip => exact ih h (by omega)
    | zero =>
      have hstart := start_append a rest more
      cases hfirst : start a rest with
      | fault bytes defect =>
        rw [hfirst] at hstart
        have hwhole := h
        rw [charsFrom_fault hfirst] at h
        obtain ⟨rfl, hfault⟩ := Prod.mk.inj h
        obtain rfl := Option.some.inj hfault
        obtain rfl : defect = .truncated := hf
        obtain rfl : bytes = a :: rest := hstart
        exact ⟨p, hwhole, rfl⟩
      | char c size =>
        rw [hfirst] at hstart
        rw [charsFrom_char hfirst] at h
        obtain ⟨hcs, hsome⟩ := Prod.mk.inj h
        obtain ⟨q, hbytes, hrest⟩ := ih (Prod.ext rfl hsome) (by omega)
        refine ⟨q, hbytes, ?_⟩
        rw [List.cons_append, charsFrom_char hstart.1, hrest, ← hcs, List.cons_append]

theorem charsFrom_append_of_fault {p skip : Nat} {f : Fault}
    (h : charsFrom p skip bs = (cs, some f)) (hf : f.defect ≠ .truncated)
    (hskip : skip ≤ bs.length) (more : List UInt8) :
    (charsFrom p skip (bs ++ more)).2 = some f := by
  induction bs generalizing p skip cs with
  | nil => exact absurd (Prod.mk.inj h).2 nofun
  | cons a rest ih =>
    rw [List.length_cons] at hskip
    cases skip with
    | succ skip => exact ih h (by omega)
    | zero =>
      have hstart := start_append a rest more
      cases hfirst : start a rest with
      | fault bytes defect =>
        rw [hfirst] at hstart
        rw [charsFrom_fault hfirst] at h
        obtain rfl := Option.some.inj (Prod.mk.inj h).2
        rw [List.cons_append]
        cases defect with
        | truncated => exact absurd rfl hf
        | badStart => rw [charsFrom_fault hstart]
        | badContinuation => rw [charsFrom_fault hstart]
      | char c size =>
        rw [hfirst] at hstart
        rw [charsFrom_char hfirst] at h
        rw [List.cons_append, charsFrom_char hstart.1]
        exact ih (Prod.ext rfl (Prod.mk.inj h).2) (by omega)

end Utf8

variable {cs ds : List Char}

theorem unifyLineEnds_append (h : cs.getLast? = some '\r' → ds.head? ≠ some '\n') :
    unifyLineEnds (cs ++ ds) = unifyLineEnds cs ++ unifyLineEnds ds := by
  induction cs using unifyLineEnds.induct with
  | case1 => rfl
  | case2 cs ih =>
    have hlast : cs.getLast? = some '\r' → ds.head? ≠ some '\n' := fun hcs ↦
      h (by rw [List.getLast?_cons_cons, List.getLast?_cons, hcs]; rfl)
    rw [List.cons_append, List.cons_append, unifyLineEnds, unifyLineEnds, ih hlast,
      List.cons_append]
  | case3 c cs hne ih =>
    have hlast : cs.getLast? = some '\r' → ds.head? ≠ some '\n' := fun hcs ↦
      h (by rw [List.getLast?_cons, hcs]; rfl)
    have hne' : ∀ tail, c = '\r' → cs ++ ds = '\n' :: tail → False := by
      rintro tail rfl htail
      cases cs with
      | nil => exact h rfl (by rw [show ds = _ from htail]; rfl)
      | cons d cs => exact hne cs rfl (by rw [(List.cons.inj htail).1])
    rw [List.cons_append, unifyLineEnds.eq_3 _ _ hne', unifyLineEnds.eq_3 _ _ hne, ih hlast,
      List.cons_append]

end WebAcl.Text

namespace WebAcl.Yaml

open Text Utf8

variable {cs : List Char}

theorem holdReturn_append (cs : List Char) : (holdReturn cs).1 ++ (holdReturn cs).2 = cs := by
  unfold holdReturn
  split
  next h => exact List.dropLast_append_getLast? _ h
  next => exact List.append_nil cs

theorem unifyLineEnds_holdReturn (cs ds : List Char) : unifyLineEnds (cs ++ ds) =
    unifyLineEnds (holdReturn cs).1 ++ unifyLineEnds ((holdReturn cs).2 ++ ds) := by
  have hcut : (holdReturn cs).1.getLast? = some '\r' →
      ((holdReturn cs).2 ++ ds).head? ≠ some '\n' := by
    unfold holdReturn
    split
    next => exact fun _ ↦ by simp
    next h => exact fun hlast ↦ absurd hlast h
  rw [← unifyLineEnds_append hcut, ← List.append_assoc, holdReturn_append]

def IsIncomplete (bytes : List UInt8) : Prop :=
  bytes = [] ∨ ∃ f, chars bytes = ([], some f)

/-- Cutting bytes into chunks does not change their text. -/
theorem decodeChunks_eq {bytes : List UInt8} {held : List Char} {chunks : List (List UInt8)}
    (hbytes : IsIncomplete bytes) (h : chars (bytes ++ chunks.flatten) = (cs, none)) :
    decodeChunks bytes held chunks = (unifyLineEnds (held ++ cs), none) := by
  induction chunks generalizing bytes held cs with
  | nil =>
    rw [List.flatten_nil, List.append_nil] at h
    obtain rfl | ⟨f, hf⟩ := hbytes
    · obtain rfl : [] = cs := (Prod.mk.inj h).1
      simp [decodeChunks]
    · exact absurd (Prod.mk.inj (h.symm.trans hf)).2 nofun
  | cons chunk chunks ih =>
    rw [List.flatten_cons, ← List.append_assoc] at h
    obtain ⟨read, fault, hread⟩ : ∃ read fault, chars (bytes ++ chunk) = (read, fault) :=
      ⟨_, _, rfl⟩
    rw [decodeChunks, hread]
    dsimp only
    cases fault with
    | none =>
      have hwhole : chars (bytes ++ chunk ++ chunks.flatten) = _ :=
        charsFrom_append_of_none hread (Nat.zero_le _) chunks.flatten
      obtain ⟨hcs, hnone⟩ := Prod.mk.inj (hwhole.symm.trans h)
      have hlater := chars_of_none (Prod.ext rfl hnone)
      rw [ih (.inl rfl) hlater, ← hcs, ← List.append_assoc held,
        unifyLineEnds_holdReturn (held ++ read)]
    | some f =>
      by_cases hf : f.defect = .truncated
      · obtain ⟨q, hbytes, hwhole⟩ : ∃ q, _ ∧ chars (bytes ++ chunk ++ chunks.flatten) = _ :=
          charsFrom_append_of_truncated hread hf (Nat.zero_le _) chunks.flatten
        obtain ⟨hcs, hnone⟩ := Prod.mk.inj (hwhole.symm.trans h)
        have hlater := chars_of_none (Prod.ext rfl hnone)
        dsimp only
        rw [if_pos hf, ih (.inr (chars_of_some hbytes)) hlater, ← hcs, ← List.append_assoc held,
          unifyLineEnds_holdReturn (held ++ read)]
      · have hfault : (chars (bytes ++ chunk ++ chunks.flatten)).2 = some f :=
          charsFrom_append_of_fault hread hf (Nat.zero_le _) chunks.flatten
        rw [h] at hfault
        exact absurd hfault nofun

theorem flatten_partsOf {α : Type} {size fuel : Nat} {xs : List α} (hsize : 0 < size)
    (hfuel : xs.length ≤ fuel) : (partsOf size xs fuel).flatten = xs := by
  induction fuel generalizing xs with
  | zero =>
    rw [List.length_eq_zero_iff.mp (Nat.le_zero.mp hfuel)]
    rfl
  | succ fuel ih =>
    rw [partsOf]
    cases xs with
    | nil => rfl
    | cons x xs =>
      have hshorter : ((x :: xs).drop size).length ≤ fuel := by
        rw [List.length_drop]
        omega
      rw [List.isEmpty_cons, if_neg Bool.false_ne_true, List.flatten_cons, ih hshorter,
        List.take_append_drop]

theorem Source.ofPortions_eq {portions : List (List Char)}
    (h : ∀ p ∈ portions, ∀ c ∈ p, isAllowed c = true) (fault : Option Fault) :
    ofPortions fault portions = ⟨portions.flatten, fault⟩ := by
  induction portions with
  | nil => rfl
  | cons p ps ih =>
    obtain ⟨hp, hps⟩ := List.forall_mem_cons.mp h
    rw [ofPortions, if_pos (List.all_eq_true.mpr hp), ih hps, List.flatten_cons]

theorem Source.ofChars_eq (h : ∀ c ∈ cs, isAllowed c = true) : ofChars cs none = ⟨cs, none⟩ := by
  have hflatten : (cs.take (2 * readSize) ::
      partsOf readSize (cs.drop (cs.take (2 * readSize)).length) cs.length).flatten = cs := by
    rw [List.flatten_cons, flatten_partsOf (by decide) (by rw [List.length_drop]; omega),
      List.length_take, List.take_eq_take_min, List.take_append_drop]
  unfold ofChars
  dsimp only
  rw [Option.isNone_none, if_pos rfl, ofPortions_eq, hflatten]
  intro p hp c hc
  exact h c (hflatten ▸ List.mem_flatten_of_mem hp hc)

theorem decodeChunks_partsOf {bytes : List UInt8} (h : chars bytes = (cs, none)) :
    decodeChunks [] [] (partsOf chunkSize bytes bytes.length) = (unifyLineEnds cs, none) := by
  rw [decodeChunks_eq (.inl rfl)]
  · rfl
  · rw [List.nil_append, flatten_partsOf (by decide) (Nat.le_refl _), h]

theorem Source.ofBytes_eq {bytes : List UInt8} (h : chars bytes = (cs, none))
    (hallowed : ∀ c ∈ unifyLineEnds cs, isAllowed c = true) :
    ofBytes bytes = ⟨unifyLineEnds cs, none⟩ := by
  rw [ofBytes, decodeChunks_partsOf h]
  exact ofChars_eq hallowed

end WebAcl.Yaml
