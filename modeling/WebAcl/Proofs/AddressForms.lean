import WebAcl.Network.Cidr
import WebAcl.Proofs.DecimalText
import Mathlib.Algebra.Group.Nat.Defs

namespace WebAcl.Cidr

open Text

variable {cs : List Char}

theorem octet?_eq_some_iff {n : Nat} :
    octet? cs = some n ↔ n < 256 ∧ cs = Nat.toDigits 10 n := by
  have hdigits : ∀ n < 256, octet? (Nat.toDigits 10 n) = some n := by decide +kernel
  constructor
  · intro h
    unfold octet? at h
    split at h
    next => cases h
    next hcs =>
      simp only [Bool.or_eq_true, decide_eq_true_eq, Bool.and_eq_true, beq_iff_eq, bne_iff_ne,
        not_or, not_and, not_not] at hcs
      obtain ⟨hdecimal, hle⟩ := Option.filter_eq_some_iff.mp h
      obtain ⟨⟨zeros, rfl⟩, -⟩ := decimal?_eq_some_iff.mp hdecimal
      have hpos : 0 < (Nat.toDigits 10 n).length := Nat.length_toDigits_pos
      -- a zero before the number would be the only digit
      cases zeros with
      | zero => exact ⟨by simpa [Nat.lt_succ_iff] using hle, rfl⟩
      | succ zeros =>
        have hlength := hcs.2 (by simp [List.replicate_succ])
        simp only [List.length_append, List.length_replicate] at hlength
        omega
  · rintro ⟨hn, rfl⟩
    exact hdigits n hn

def dotted (n : Nat) : List Char :=
  ['.'].intercalate ([n / 0x1000000, n / 0x10000 % 0x100, n / 0x100 % 0x100, n % 0x100].map
    (Nat.toDigits 10))

theorem not_mem_toDigits {c : Char} (hc : c.isDigit = false) (n : Nat) :
    c ∉ Nat.toDigits 10 n := by
  intro h
  simp [Nat.isDigit_of_mem_toDigits (by decide) (by decide) h] at hc

theorem address4?_eq_some_iff {n : Nat} :
    address4? cs = some n ↔ n < 0x100000000 ∧ cs = dotted n := by
  unfold address4? dotted
  constructor
  · intro h
    split at h
    next a b c d hparts =>
      obtain ⟨-, -, rfl⟩ := splitOn_eq_iff.mp hparts
      simp only [Option.bind_eq_bind, Option.bind_eq_some_iff, octet?_eq_some_iff] at h
      obtain ⟨w, ⟨hw, rfl⟩, x, ⟨hx, rfl⟩, y, ⟨hy, rfl⟩, z, ⟨hz, rfl⟩, hn⟩ := h
      obtain rfl := Option.some.inj hn
      refine ⟨by omega, ?_⟩
      have hfirst : (((w * 256 + x) * 256 + y) * 256 + z) / 0x1000000 = w := by omega
      have hsecond : (((w * 256 + x) * 256 + y) * 256 + z) / 0x10000 % 0x100 = x := by omega
      have hthird : (((w * 256 + x) * 256 + y) * 256 + z) / 0x100 % 0x100 = y := by omega
      have hfourth : (((w * 256 + x) * 256 + y) * 256 + z) % 0x100 = z := by omega
      rw [hfirst, hsecond, hthird, hfourth]
      rfl
    next => cases h
  · rintro ⟨hn, rfl⟩
    have hoctet : ∀ m < 256, octet? (Nat.toDigits 10 m) = some m := fun m hm ↦
      octet?_eq_some_iff.mpr ⟨hm, rfl⟩
    rw [splitOn_eq_iff.mpr ⟨by simp, ?_, rfl⟩]
    · simp only [List.map_cons, List.map_nil, hoctet (n / 0x1000000) (by omega),
        hoctet (n / 0x10000 % 0x100) (by omega), hoctet (n / 0x100 % 0x100) (by omega),
        hoctet (n % 0x100) (by omega), Option.bind_eq_bind, Option.bind_some, Option.pure_def,
        Option.some.injEq]
      omega
    · intro p hp
      obtain ⟨m, -, rfl⟩ := List.mem_map.mp hp
      exact not_mem_toDigits (by decide) m

def IsLength (width : Nat) (cs : List Char) : Prop :=
  ∃ zeros, ∃ n ≤ width, cs = List.replicate zeros '0' ++ Nat.toDigits 10 n

/-- Ones and then zeros, or zeros and then ones, written as an IPv4 address. -/
def IsMask (cs : List Char) : Prop :=
  ∃ n ≤ 32, cs = dotted (2 ^ 32 - 2 ^ (32 - n)) ∨ cs = dotted (2 ^ (32 - n) - 1)

theorem isSome_length? {width : Nat} :
    (length? width cs).isSome = true ↔ IsLength width cs ∧ cs.length ≤ digitLimit := by
  simp only [length?, IsLength, Option.isSome_iff_exists, Option.filter_eq_some_iff,
    decimal?_eq_some_iff, decide_eq_true_eq]
  constructor
  · rintro ⟨n, ⟨⟨zeros, hcs⟩, hlength⟩, hn⟩
    exact ⟨⟨zeros, n, hn, hcs⟩, hlength⟩
  · rintro ⟨⟨zeros, n, hn, hcs⟩, hlength⟩
    exact ⟨n, ⟨⟨zeros, hcs⟩, hlength⟩, hn⟩

theorem isSome_maskLength? {mask : Nat} :
    (maskLength? mask).isSome = true ↔ ∃ n ≤ 32, mask = 2 ^ 32 - 2 ^ (32 - n) := by
  simp [maskLength?, List.find?_isSome, Nat.lt_succ_iff]

theorem isSome_length4? : (length4? cs).isSome = true ↔
    IsLength 32 cs ∧ cs.length ≤ digitLimit ∨ IsMask cs := by
  have hmask : ((address4? cs).bind fun mask ↦
      (maskLength? mask).or (maskLength? (0xffffffff - mask))).isSome = true ↔ IsMask cs := by
    simp only [Option.isSome_bind, Option.any_eq_true, Option.isSome_or, Bool.or_eq_true,
      isSome_maskLength?, address4?_eq_some_iff]
    constructor
    · rintro ⟨mask, ⟨hmask, rfl⟩, ⟨n, hn, rfl⟩ | ⟨n, hn, h⟩⟩
      · exact ⟨n, hn, .inl rfl⟩
      · refine ⟨n, hn, .inr ?_⟩
        have hpow : 2 ^ (32 - n) ≤ 2 ^ 32 := Nat.pow_le_pow_right (by decide) (by omega)
        have hpos : 0 < 2 ^ (32 - n) := Nat.two_pow_pos _
        congr 1
        omega
    · rintro ⟨n, hn, hcs⟩
      have hpow : 2 ^ (32 - n) ≤ 2 ^ 32 := Nat.pow_le_pow_right (by decide) (by omega)
      have hpos : 0 < 2 ^ (32 - n) := Nat.two_pow_pos _
      rcases hcs with rfl | rfl
      · exact ⟨_, ⟨by omega, rfl⟩, .inl ⟨n, hn, rfl⟩⟩
      · exact ⟨_, ⟨by omega, rfl⟩, .inr ⟨n, hn, by omega⟩⟩
  rw [length4?, Option.isSome_or, Bool.or_eq_true, isSome_length?, hmask]

def IsGroup (cs : List Char) : Prop :=
  cs ≠ [] ∧ cs.length ≤ 4 ∧ ∀ c ∈ cs, isHexDigit c = true

inductive IsGroups (tail : Bool) : Nat → List Char → Prop
  | none : IsGroups tail 0 []
  | last {g : List Char} (group : IsGroup g) : IsGroups tail 1 g
  | dotted {n : Nat} (allowed : tail = true) (small : n < 0x100000000) :
    IsGroups tail 2 (dotted n)
  | cons {n : Nat} {g gs : List Char} (group : IsGroup g) (rest : IsGroups tail (n + 1) gs) :
    IsGroups tail (n + 2) (g ++ ':' :: gs)

inductive IsAddress6 : List Char → Prop
  | full {gs : List Char} (groups : IsGroups true 8 gs) : IsAddress6 gs
  | gap {m n : Nat} {high low : List Char} (before : IsGroups false m high)
    (after : IsGroups true n low) (few : m + n < 8) : IsAddress6 (high ++ ':' :: ':' :: low)

theorem isSome_group? : (group? cs).isSome = true ↔ IsGroup cs := by
  simp [group?, IsGroup, and_assoc]

theorem mem_dotted {n : Nat} {c : Char} (h : c ∈ dotted n) : c.isDigit = true ∨ c = '.' := by
  rw [dotted, List.map_cons, List.map_cons, List.map_cons, List.map_cons, List.map_nil] at h
  by_cases hc : c.isDigit = true
  · exact .inl hc
  · have hnot : ∀ m, c ∉ Nat.toDigits 10 m := not_mem_toDigits (by simpa using hc)
    right
    simpa [List.intercalate, hnot] using h

theorem point_mem_dotted (n : Nat) : '.' ∈ dotted n := by
  simp [dotted, List.intercalate]

theorem IsGroup.not_mem {g : List Char} (h : IsGroup g) {c : Char} (hc : isHexDigit c = false) :
    c ∉ g := by
  intro hmem
  simp [h.2.2 c hmem] at hc

theorem colon_not_mem_dotted (n : Nat) : ':' ∉ dotted n := by
  intro h
  rcases mem_dotted h with h | h
  · exact absurd h (by decide)
  · exact absurd h (by decide)

theorem exists_groups? {tail : Bool} {n : Nat} (h : IsGroups tail n cs) (hn : 0 < n) :
    ∃ gs, groups? tail (cs.splitOn ':') = some gs ∧ gs.length = n := by
  induction h with
  | none => omega
  | @last g hg =>
    obtain ⟨v, hv⟩ := Option.isSome_iff_exists.mp (isSome_group?.mpr hg)
    have hpoint : '.' ∉ g := hg.not_mem (by decide)
    refine ⟨[v], ?_, rfl⟩
    rw [List.splitOn_eq_singleton (hg.not_mem (by decide)), groups?, if_neg (by simp [hpoint]), hv]
    rfl
  | @dotted n hallowed hsmall =>
    have haddress : address4? (dotted n) = some n := address4?_eq_some_iff.mpr ⟨hsmall, rfl⟩
    refine ⟨[n / 65536, n % 65536], ?_, rfl⟩
    rw [List.splitOn_eq_singleton (colon_not_mem_dotted n), groups?,
      if_pos (by simp [hallowed, point_mem_dotted]), haddress]
    rfl
  | @cons n g gs hg _ ih =>
    obtain ⟨v, hv⟩ := Option.isSome_iff_exists.mp (isSome_group?.mpr hg)
    obtain ⟨vs, hvs, hlength⟩ := ih (by omega)
    refine ⟨v :: vs, ?_, by simp [hlength]⟩
    rw [splitOn_append_cons (hg.not_mem (by decide)), groups?, hv, hvs]
    · rfl
    · exact List.splitOn_ne_nil _ _

theorem groups?_ne_nil {tail : Bool} {ps : List (List Char)} (h : ps ≠ []) :
    groups? tail ps ≠ some [] := by
  fun_cases groups? tail ps <;> simp_all [Option.bind_eq_some_iff]

theorem isGroups_of_groups? {tail : Bool} {ps : List (List Char)} {gs : List Nat}
    (hcs : cs.splitOn ':' = ps) (h : groups? tail ps = some gs) :
    IsGroups tail gs.length cs := by
  induction ps generalizing cs gs with
  | nil => exact absurd hcs (List.splitOn_ne_nil _ _)
  | cons p ps ih =>
    rcases (splitOn_eq_cons_iff.mp hcs).2 with ⟨rfl, rfl⟩ | ⟨rest, rfl, hrest⟩
    · rw [groups?] at h
      split at h
      next htail =>
        rw [Option.map_eq_some_iff] at h
        obtain ⟨n, hn, rfl⟩ := h
        obtain ⟨hsmall, rfl⟩ := address4?_eq_some_iff.mp hn
        exact .dotted (by simpa using (Bool.and_eq_true_iff.mp htail).1) hsmall
      next =>
        rw [Option.map_eq_some_iff] at h
        obtain ⟨n, hn, rfl⟩ := h
        exact .last (isSome_group?.mp (Option.isSome_iff_exists.mpr ⟨n, hn⟩))
    · have hne : ps ≠ [] := hrest ▸ List.splitOn_ne_nil _ _
      rw [groups?] at h
      · simp only [Option.bind_eq_bind, Option.bind_eq_some_iff, Option.pure_def,
          Option.some.injEq] at h
        obtain ⟨v, hv, vs, hvs, rfl⟩ := h
        have hgroup : IsGroup p := isSome_group?.mp (Option.isSome_iff_exists.mpr ⟨v, hv⟩)
        have htail := ih hrest hvs
        cases vs with
        | nil => exact absurd hvs (groups?_ne_nil hne)
        | cons w ws => exact .cons hgroup htail
      · exact hne

theorem groupsOf?_iff {tail : Bool} {n : Nat} :
    (∃ gs, groupsOf? tail cs = some gs ∧ gs.length = n) ↔ IsGroups tail n cs := by
  unfold groupsOf?
  cases cs with
  | nil =>
    constructor
    · rintro ⟨gs, hgs, rfl⟩
      obtain rfl := Option.some.inj hgs
      exact .none
    · intro h
      generalize hcs : ([] : List Char) = cs at h
      cases h with
      | none => exact ⟨[], rfl, rfl⟩
      | last hg => exact absurd hcs.symm hg.1
      | dotted => exact absurd (hcs ▸ point_mem_dotted _) List.not_mem_nil
      | cons => simp at hcs
  | cons c cs =>
    rw [List.isEmpty_cons, if_neg Bool.false_ne_true]
    constructor
    · rintro ⟨gs, hgs, rfl⟩
      exact isGroups_of_groups? rfl hgs
    · intro h
      cases n with
      | zero => cases h
      | succ n => exact exists_groups? h (by omega)

theorem splitGap?_append {g : List Char} (h : ':' ∉ g) (rest : List Char) :
    splitGap? (g ++ rest) = (splitGap? rest).map fun (high, low) ↦ (g ++ high, low) := by
  induction g with
  | nil => simp
  | cons c g ih =>
    obtain ⟨hc, hg⟩ := not_or.mp (List.mem_cons.not.mp h)
    rw [List.cons_append, splitGap?, ih hg, Option.map_map]
    · rfl
    · rintro _ rfl
      exact absurd rfl hc

theorem exists_cons_of_not_mem {g : List Char} (hne : g ≠ []) (h : ':' ∉ g) :
    ∃ c cs, g = c :: cs ∧ c ≠ ':' := by
  obtain ⟨c, cs, rfl⟩ := List.exists_cons_of_ne_nil hne
  exact ⟨c, cs, rfl, fun hc ↦ h (hc ▸ List.mem_cons_self)⟩

theorem IsGroups.exists_cons {tail : Bool} {n : Nat} (h : IsGroups tail (n + 1) cs) :
    ∃ c rest, cs = c :: rest ∧ c ≠ ':' := by
  cases h with
  | last hg => exact exists_cons_of_not_mem hg.1 (hg.not_mem (by decide))
  | dotted =>
    exact exists_cons_of_not_mem (List.ne_nil_of_mem (point_mem_dotted _)) (colon_not_mem_dotted _)
  | cons hg =>
    obtain ⟨c, cs, rfl, hc⟩ := exists_cons_of_not_mem hg.1 (hg.not_mem (by decide))
    exact ⟨c, _, rfl, hc⟩

theorem IsGroups.splitGap?_append {tail : Bool} {n : Nat} (h : IsGroups tail n cs)
    (rest : List Char) :
    splitGap? (cs ++ rest) = (splitGap? rest).map fun (high, low) ↦ (cs ++ high, low) := by
  induction h with
  | none => simp
  | last hg => exact Cidr.splitGap?_append (hg.not_mem (by decide)) rest
  | dotted => exact Cidr.splitGap?_append (colon_not_mem_dotted _) rest
  | @cons n g gs hg hgs ih =>
    obtain ⟨c, cs, rfl, hc⟩ := hgs.exists_cons
    have hcolon : splitGap? (':' :: (c :: cs ++ rest)) =
        (splitGap? (c :: cs ++ rest)).map fun (high, low) ↦ (':' :: high, low) := by
      rw [List.cons_append, splitGap?]
      rintro _ - h
      exact hc (List.cons.inj h).1
    rw [List.append_assoc, List.cons_append, Cidr.splitGap?_append (hg.not_mem (by decide)),
      hcolon, ih, Option.map_map, Option.map_map]
    congr 1
    funext ⟨high, low⟩
    simp

theorem eq_of_splitGap? {high low : List Char} (h : splitGap? cs = some (high, low)) :
    cs = high ++ ':' :: ':' :: low := by
  fun_induction splitGap? cs generalizing high with
  | case1 => cases h
  | case2 rest =>
    obtain ⟨rfl, rfl⟩ := Prod.mk.inj (Option.some.inj h)
    rfl
  | case3 c rest _ ih =>
    obtain ⟨⟨before, after⟩, hrest, heq⟩ := Option.map_eq_some_iff.mp h
    obtain ⟨rfl, rfl⟩ := Prod.mk.inj heq
    rw [ih hrest]
    rfl

theorem isSome_address6? : (address6? cs).isSome = true ↔ IsAddress6 cs := by
  unfold address6?
  constructor
  · intro h
    split at h
    next high low hgap =>
      obtain rfl := eq_of_splitGap? hgap
      simp only [Option.bind_eq_bind, Option.isSome_bind, Option.any_eq_true] at h
      obtain ⟨gs, hgs, gs', hgs', hfew⟩ := h
      refine .gap (groupsOf?_iff.mp ⟨gs, hgs, rfl⟩) (groupsOf?_iff.mp ⟨gs', hgs', rfl⟩) ?_
      by_contra hmany
      simp [hmany] at hfew
    next =>
      rw [Option.isSome_bind, Option.any_eq_true] at h
      obtain ⟨gs, hgs, height⟩ := h
      refine .full (groupsOf?_iff.mp ⟨gs, hgs, ?_⟩)
      by_contra hother
      simp [hother] at height
  · intro h
    cases h with
    | full groups =>
      obtain ⟨gs, hgs, hlength⟩ := groupsOf?_iff.mpr groups
      have hgap : splitGap? cs = none := by
        simpa [splitGap?] using groups.splitGap?_append []
      rw [hgap]
      simp [hgs, hlength]
    | @gap m n high low before after few =>
      obtain ⟨gs, hgs, rfl⟩ := groupsOf?_iff.mpr before
      obtain ⟨gs', hgs', rfl⟩ := groupsOf?_iff.mpr after
      have hgap : splitGap? (high ++ ':' :: ':' :: low) = some (high, low) := by
        simp [before.splitGap?_append, splitGap?]
      rw [hgap]
      simp [hgs, hgs', few]

end WebAcl.Cidr
