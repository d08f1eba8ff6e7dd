import WebAcl.Proofs.EqualScalars
import WebAcl.Proofs.FrozenCopies
import Mathlib.Data.List.Forall2
import Mathlib.Data.Multiset.Basic

namespace WebAcl.Value

structure KeysApart (es : List (Value × Value)) : Prop where
  isScalar : ∀ e ∈ es, e.1.IsScalar
  apart : es.Pairwise fun e f ↦ e.1.same f.1 = false

mutual

/-- Data with different scalars for the keys of every map. -/
def WellKeyed : Value → Prop
  | list xs | tuple xs => ItemsWellKeyed xs
  | map es | frozenMap es => KeysApart es ∧ EntriesWellKeyed es
  | _ => True

def ItemsWellKeyed : List Value → Prop
  | [] => True
  | x :: xs => WellKeyed x ∧ ItemsWellKeyed xs

def EntriesWellKeyed : List (Value × Value) → Prop
  | [] => True
  | (_, v) :: es => WellKeyed v ∧ EntriesWellKeyed es

end

mutual

/-- Equality of data where it does not count what can be changed: lists are compared with tuples
item by item, and maps with frozen maps up to the order of their entries. -/
def Agrees : Value → Value → Prop
  | list xs, w | tuple xs, w => ∃ ys, (w = list ys ∨ w = tuple ys) ∧ ItemsAgree xs ys
  | map es, w | frozenMap es, w =>
    ∃ fs, (w = map fs ∨ w = frozenMap fs) ∧ ∃ fs', fs'.Perm fs ∧ EntriesAgree es fs'
  | v, w => v.same w = true

def ItemsAgree : List Value → List Value → Prop
  | [], ys => ys = []
  | x :: xs, ys => ∃ y ys', ys = y :: ys' ∧ Agrees x y ∧ ItemsAgree xs ys'

def EntriesAgree : List (Value × Value) → List (Value × Value) → Prop
  | [], fs => fs = []
  | (k, v) :: es, fs =>
    ∃ l w fs', fs = (l, w) :: fs' ∧ k.same l = true ∧ Agrees v w ∧ EntriesAgree es fs'

end

/-- Lists of one length whose members have partners in the other list, no two of them the same,
match up to order. -/
theorem exists_perm_forall₂ {α β : Type} {R : α → β → Prop} {as : List α} {bs : List β}
    (hlength : as.length = bs.length) (hpartner : ∀ a ∈ as, ∃ b ∈ bs, R a b)
    (hunique : as.Pairwise fun a a' ↦ ∀ b ∈ bs, R a b → ¬ R a' b) :
    ∃ bs', bs'.Perm bs ∧ List.Forall₂ R as bs' := by
  induction as generalizing bs with
  | nil =>
    obtain rfl := List.length_eq_zero_iff.mp hlength.symm
    exact ⟨[], .nil, .nil⟩
  | cons a as ih =>
    obtain ⟨⟨b, hb, hab⟩, hpartner⟩ := List.forall_mem_cons.mp hpartner
    obtain ⟨hfirst, hunique⟩ := List.pairwise_cons.mp hunique
    obtain ⟨before, after, rfl⟩ := List.append_of_mem hb
    have hrest : ∀ a' ∈ as, ∃ b' ∈ before ++ after, R a' b' := by
      intro a' ha'
      obtain ⟨b', hb', hab'⟩ := hpartner a' ha'
      -- the partner of the first one is taken
      have hne : b' ≠ b := by
        rintro rfl
        exact hfirst a' ha' b' hb hab hab'
      exact ⟨b', by simpa [hne] using hb', hab'⟩
    have hlength' : as.length = (before ++ after).length := by
      simp only [List.length_append, List.length_cons] at hlength ⊢
      omega
    have hsub : ∀ b' ∈ before ++ after, b' ∈ before ++ b :: after := by
      intro b' hb'
      rw [List.mem_append] at hb' ⊢
      exact hb'.imp_right (List.mem_cons_of_mem b)
    obtain ⟨bs', hperm, hall⟩ := ih hlength' hrest
      (hunique.imp fun h b' hb' ↦ h b' (hsub b' hb'))
    exact ⟨b :: bs', (hperm.cons b).trans List.perm_middle.symm, .cons hab hall⟩

theorem exists_of_forall₂ {α β : Type} {R : α → β → Prop} {as : List α} {bs : List β}
    (h : List.Forall₂ R as bs) {a : α} (ha : a ∈ as) : ∃ b ∈ bs, R a b := by
  induction h with
  | nil => simp at ha
  | cons hab _ ih =>
    rcases List.mem_cons.mp ha with rfl | ha
    · exact ⟨_, List.mem_cons_self, hab⟩
    · obtain ⟨b, hb, h⟩ := ih ha
      exact ⟨b, List.mem_cons_of_mem _ hb, h⟩

theorem entriesAgree_iff_forall₂ {es fs : List (Value × Value)} : EntriesAgree es fs ↔
    List.Forall₂ (fun e f ↦ e.1.same f.1 = true ∧ Agrees e.2 f.2) es fs := by
  induction es generalizing fs with
  | nil => simp [EntriesAgree]
  | cons e es ih =>
    rw [EntriesAgree]
    cases fs with
    | nil => simp
    | cons f fs => simp [ih, and_assoc, Prod.ext_iff]

theorem entriesWellKeyed_iff {es : List (Value × Value)} :
    EntriesWellKeyed es ↔ ∀ e ∈ es, e.2.WellKeyed := by
  induction es with
  | nil => simp [EntriesWellKeyed]
  | cons e es ih => rw [EntriesWellKeyed, ih, List.forall_mem_cons]

theorem wellKeyed_record {fields : List (String × Value)} (hnames : (fields.map (·.1)).Nodup)
    (hvalues : ∀ f ∈ fields, f.2.WellKeyed) : (record fields).WellKeyed := by
  refine ⟨⟨?_, ?_⟩, ?_⟩
  · exact List.forall_mem_map.mpr fun _ _ ↦ ⟨trivial, nofun⟩
  · rw [List.pairwise_map]
    refine (List.pairwise_map.mp hnames).imp fun hne ↦ ?_
    simpa [same, sameScalar] using hne
  · exact entriesWellKeyed_iff.mpr (List.forall_mem_map.mpr hvalues)

def Partnered (es fs : List (Value × Value)) : Prop :=
  ∀ e ∈ es, ∃ f ∈ fs, e.1.same f.1 = true ∧ Agrees e.2 f.2

theorem KeysApart.not_same {es fs : List (Value × Value)} (hes : KeysApart es)
    (hfs : KeysApart fs) : es.Pairwise fun e e' ↦ ∀ f ∈ fs,
      e.1.same f.1 = true ∧ Agrees e.2 f.2 → ¬ (e'.1.same f.1 = true ∧ Agrees e'.2 f.2) := by
  refine hes.apart.imp_of_mem ?_
  rintro e e' he he' hapart f hf ⟨hef, -⟩ ⟨hef', -⟩
  have hse := hes.isScalar e he
  have hse' := hes.isScalar e' he'
  rw [hse.same_eq] at hef hapart
  rw [hse'.same_eq] at hef'
  -- a key that both equal would make them equal to each other
  have hback := sameScalar_symm hse' (hfs.isScalar f hf) hef'
  simp [sameScalar_trans hse hse' hef hback] at hapart

theorem partnered_iff {es fs : List (Value × Value)} (hes : KeysApart es) (hfs : KeysApart fs) :
    es.length = fs.length ∧ Partnered es fs ↔ ∃ fs', fs'.Perm fs ∧ EntriesAgree es fs' := by
  constructor
  · rintro ⟨hlength, hpartner⟩
    obtain ⟨fs', hperm, hall⟩ := exists_perm_forall₂ hlength hpartner (hes.not_same hfs)
    exact ⟨fs', hperm, entriesAgree_iff_forall₂.mpr hall⟩
  · rintro ⟨fs', hperm, hall⟩
    have hall := entriesAgree_iff_forall₂.mp hall
    refine ⟨hall.length_eq.trans hperm.length_eq, fun e he ↦ ?_⟩
    obtain ⟨f, hf, hef⟩ := exists_of_forall₂ hall he
    exact ⟨f, hperm.mem_iff.mp hf, hef⟩

theorem sameScalar_freeze (v w : Value) : v.sameScalar w.freeze = v.sameScalar w := by
  cases w with
  | list | tuple | map | frozenMap => cases v <;> rfl
  | _ => rfl

mutual

/-- Frozen copies are equal exactly if what they were made of agrees. -/
theorem same_freeze_iff : ∀ {v w : Value}, v.WellKeyed → w.WellKeyed →
    (v.freeze.same w.freeze = true ↔ Agrees v w) := by
  intro v w hv hw
  cases v with
  | list xs | tuple xs =>
    cases w with
    | list ys | tuple ys => simp [freeze, same, Agrees, sameItems_freezeItems_iff hv hw]
    | _ => simp [freeze, same, Agrees]
  | map es | frozenMap es =>
    cases w with
    | map fs | frozenMap fs =>
      have hpartner := entriesWithin_freezeEntries_iff hv.2 (entriesWellKeyed_iff.mp hw.2)
      have hlength (gs : List (Value × Value)) : (freezeEntries gs).length = gs.length := by
        rw [freezeEntries_eq_map, List.length_map]
      simp [freeze, same, Agrees, hlength, hpartner, partnered_iff hv.1 hw.1]
    | _ => simp [freeze, same, Agrees]
  | set xs => cases w <;> simp [freeze, same, Agrees]
  | _ => simp only [freeze, same, Agrees, sameScalar_freeze]

theorem sameItems_freezeItems_iff : ∀ {xs ys : List Value}, ItemsWellKeyed xs →
    ItemsWellKeyed ys → (sameItems (freezeItems xs) (freezeItems ys) = true ↔ ItemsAgree xs ys)
  | [], [], _, _ => by simp [freezeItems, sameItems, ItemsAgree]
  | [], _ :: _, _, _ => by simp [freezeItems, sameItems, ItemsAgree]
  | _ :: _, [], _, _ => by simp [freezeItems, sameItems, ItemsAgree]
  | x :: xs, y :: ys, ⟨hx, hxs⟩, ⟨hy, hys⟩ => by
    simp [freezeItems, sameItems, ItemsAgree, same_freeze_iff hx hy,
      sameItems_freezeItems_iff hxs hys]

theorem entriesWithin_freezeEntries_iff : ∀ {es fs : List (Value × Value)}, EntriesWellKeyed es →
    (∀ f ∈ fs, f.2.WellKeyed) →
      (entriesWithin (freezeEntries es) (freezeEntries fs) = true ↔ Partnered es fs)
  | [], _, _, _ => by simp [freezeEntries, entriesWithin, Partnered]
  | (k, v) :: es, fs, ⟨hv, hes⟩, hfs => by
    have hfirst : (freezeEntries fs).any (fun f ↦ k.same f.1 && v.freeze.same f.2) = true ↔
        ∃ f ∈ fs, k.same f.1 = true ∧ Agrees v f.2 := by
      rw [freezeEntries_eq_map, List.any_map, List.any_eq_true]
      refine exists_congr fun f ↦ and_congr_right fun hf ↦ ?_
      simp [same_freeze_iff hv (hfs f hf)]
    rw [freezeEntries, entriesWithin, Bool.and_eq_true, hfirst,
      entriesWithin_freezeEntries_iff hes hfs, Partnered, Partnered, List.forall_mem_cons]

end

/-- Hashes of scalars, tuples and sets that cannot be changed: those of scalars agree on equal
scalars, that of a tuple comes from the hashes of its items, and that of a set from the hashes of
its items in no order. -/
structure Hashing (H : Type) where
  scalar : Value → H
  sequence : List H → H
  collection : Multiset H → H
  scalar_eq : ∀ {v w : Value}, v.sameScalar w = true → scalar v = scalar w

variable {H : Type} (h : Hashing H)

mutual

/-- The hash of data that cannot be changed. That of a frozen map is the hash of the set of its
entries, each a pair. -/
def hash? : Value → Option H
  | tuple xs => (itemHashes? xs).map h.sequence
  | frozenMap es => (entryHashes? es).map (h.collection ∘ Multiset.ofList)
  | list _ | set _ | map _ | endless => none
  | v => some (h.scalar v)

def itemHashes? : List Value → Option (List H)
  | [] => some []
  | x :: xs => (hash? x).bind fun a ↦ (itemHashes? xs).map (a :: ·)

def entryHashes? : List (Value × Value) → Option (List H)
  | [] => some []
  | (k, v) :: es =>
    (hash? v).bind fun a ↦ (entryHashes? es).map (h.sequence [h.scalar k, a] :: ·)

end

theorem hash?_freeze_of_sameScalar {v w : Value} (hvw : v.sameScalar w = true) :
    hash? h w.freeze = some (h.scalar v) := by
  cases w with
  | list | tuple | set | map | frozenMap | endless =>
    cases v with
    | float x =>
      obtain ⟨hsome, hnone⟩ := by simpa [sameScalar, toInt?] using hvw
      simp [hnone] at hsome
    | _ => simp [sameScalar, toInt?] at hvw
  | _ => rw [freeze, hash?, h.scalar_eq hvw] <;> simp

theorem entryHashes?_perm {es fs : List (Value × Value)} (hperm : es.Perm fs) :
    (entryHashes? h es).map Multiset.ofList = (entryHashes? h fs).map Multiset.ofList := by
  induction hperm with
  | nil => rfl
  | cons e _ ih =>
    rw [entryHashes?, entryHashes?]
    cases hash? h e.2 with
    | none => rfl
    | some a =>
      have hcons := congrArg (Option.map fun m ↦ h.sequence [h.scalar e.1, a] ::ₘ m) ih
      simpa only [Option.bind_some, Option.map_map, Function.comp_def, Multiset.cons_coe]
        using hcons
  | swap e f es =>
    simp only [entryHashes?]
    cases hash? h e.2 <;> cases hash? h f.2 <;> cases entryHashes? h es <;>
      simp [List.Perm.swap]
  | trans _ _ ih ih' => exact ih.trans ih'

mutual

theorem hash?_freeze_eq : ∀ {v w : Value}, v.WellKeyed → Agrees v w →
    hash? h v.freeze = hash? h w.freeze := by
  intro v w hv hvw
  cases v with
  | list xs | tuple xs =>
    obtain ⟨ys, rfl | rfl, hall⟩ := hvw <;>
      rw [freeze, freeze, hash?, hash?, itemHashes?_freezeItems_eq hv hall]
  | map es | frozenMap es =>
    obtain ⟨fs, hw, fs', hperm, hall⟩ := hvw
    have hentries := entryHashes?_freezeEntries_eq hv.1.isScalar hv.2 hall
    have hmoved := entryHashes?_perm h (freezeEntries_eq_map fs' ▸ freezeEntries_eq_map fs ▸
      hperm.map _ : (freezeEntries fs').Perm (freezeEntries fs))
    have hsets := congrArg (Option.map h.collection) hmoved
    rw [Option.map_map, Option.map_map] at hsets
    obtain rfl | rfl := hw <;> rw [freeze, freeze, hash?, hash?, hentries, hsets]
  | set xs => cases w <;> simp_all [Agrees, same, freeze, hash?]
  | endless => simp [Agrees, same, sameScalar, toInt?] at hvw
  | _ =>
    rw [Agrees, same] at hvw <;> try simp
    rw [hash?_freeze_of_sameScalar h hvw]
    simp [freeze, hash?]

theorem itemHashes?_freezeItems_eq : ∀ {xs ys : List Value}, ItemsWellKeyed xs →
    ItemsAgree xs ys → itemHashes? h (freezeItems xs) = itemHashes? h (freezeItems ys)
  | [], _, _, rfl => rfl
  | x :: xs, _, ⟨hx, hxs⟩, ⟨y, ys, rfl, hxy, hall⟩ => by
    rw [freezeItems, freezeItems, itemHashes?, itemHashes?, hash?_freeze_eq hx hxy,
      itemHashes?_freezeItems_eq hxs hall]

theorem entryHashes?_freezeEntries_eq : ∀ {es fs : List (Value × Value)},
    (∀ e ∈ es, e.1.IsScalar) → EntriesWellKeyed es → EntriesAgree es fs →
      entryHashes? h (freezeEntries es) = entryHashes? h (freezeEntries fs)
  | [], _, _, _, rfl => rfl
  | (k, v) :: es, _, hkeys, ⟨hv, hes⟩, ⟨l, w, fs, rfl, hkl, hvw, hall⟩ => by
    obtain ⟨hk, hkeys⟩ := List.forall_mem_cons.mp hkeys
    rw [hk.same_eq] at hkl
    rw [freezeEntries, freezeEntries, entryHashes?, entryHashes?, hash?_freeze_eq hv hvw,
      entryHashes?_freezeEntries_eq hkeys hes hall, h.scalar_eq hkl]

end

variable {r : Recursion}

mutual

theorem isSome_hash?_freeze : ∀ {v : Value} {used : Nat}, r.fits used v = true →
    ((hash? h v.freeze).isSome ↔ v.firstSet? = none) := by
  intro v used hfits
  cases v with
  | list xs | tuple xs =>
    rw [Recursion.fits, Bool.and_eq_true] at hfits
    rw [freeze, hash?, firstSet?, Option.isSome_map, isSome_itemHashes? hfits.2]
  | map es | frozenMap es =>
    rw [Recursion.fits, Bool.and_eq_true] at hfits
    rw [freeze, hash?, firstSet?, Option.isSome_map, isSome_entryHashes? hfits.2]
  | set => simp [freeze, hash?, firstSet?]
  | endless => simp [Recursion.fits] at hfits
  | _ => simp [freeze, hash?, firstSet?]

theorem isSome_itemHashes? : ∀ {xs : List Value} {used : Nat}, r.itemsFit used xs = true →
    ((itemHashes? h (freezeItems xs)).isSome ↔ firstSetOfItems? xs = none)
  | [], _, _ => by simp [freezeItems, itemHashes?, firstSetOfItems?]
  | x :: xs, used, hfits => by
    rw [Recursion.itemsFit, Bool.and_eq_true] at hfits
    rw [freezeItems, itemHashes?, firstSetOfItems?, Option.or_eq_none_iff,
      ← isSome_hash?_freeze hfits.1, ← isSome_itemHashes? hfits.2]
    cases hash? h x.freeze <;> simp

theorem isSome_entryHashes? : ∀ {es : List (Value × Value)} {used : Nat},
    r.entriesFit used es = true →
      ((entryHashes? h (freezeEntries es)).isSome ↔ firstSetOfEntries? es = none)
  | [], _, _ => by simp [freezeEntries, entryHashes?, firstSetOfEntries?]
  | (k, v) :: es, used, hfits => by
    rw [Recursion.entriesFit, Bool.and_eq_true] at hfits
    rw [freezeEntries, entryHashes?, firstSetOfEntries?, Option.or_eq_none_iff,
      ← isSome_hash?_freeze hfits.1, ← isSome_entryHashes? hfits.2]
    cases hash? h v.freeze <;> simp

end

def bodyHash? (body : Value) : Option H :=
  (hash? h body.freeze).map fun a ↦ h.sequence [a]

end WebAcl.Value
