import WebAcl.Proofs.AllocatorRuns
import WebAcl.Proofs.Reports
import Mathlib.Data.Finset.Card

namespace WebAcl.Allocator

def unclaimed (a : Allocator) (k : Category) : Finset Int :=
  ((Band.of k).priorities.filter fun p ↦ p ∉ a.claimed.map Prod.fst).toFinset

/-- Members of a set of priorities, in ascending order and below all others. -/
structure LowestOf (free : Finset Int) (ps : List Int) : Prop where
  ascending : ps.Pairwise (· < ·)
  mem : ∀ p ∈ ps, p ∈ free
  lt : ∀ p ∈ ps, ∀ q ∈ free, q ∉ ps → p < q

def requested (k : Category) (count : Option Int) : Int :=
  count.getD ((Band.of k).width?.getD 0)

def exhaustion (k : Category) (requested : Int) (free : Nat) : Problem where
  cause := .bandExhausted (Choice.text k) requested free

/-- A request for a number of priorities is refused and nothing changes, if it asks for more than
are left; otherwise it gets so many, the lowest ones, and these are claimed. -/
def Grants (k : Category) (requested : Int) (s : Session)
    (r : Except Failure (List Int) × Session) : Prop :=
  if ((s.allocator.unclaimed k).card : Int) < requested then
    r = (.error (.problem (exhaustion k requested (s.allocator.unclaimed k).card)), s)
  else ∃ ps, r.1 = .ok ps ∧ ps.length = requested.toNat ∧ LowestOf (s.allocator.unclaimed k) ps ∧
    r.2.allocator = s.allocator.claim k ps

variable {k : Category} {s : Session} {count : Option Int}

theorem last_of_fixed (hk : (Band.of k).custom = false) : ∃ l, (Band.of k).last = some l := by
  cases k <;> simp [Band.of] at hk ⊢

theorem mem_priorities_iff {p : Int} (hk : (Band.of k).custom = false) :
    p ∈ (Band.of k).priorities ↔ k.Owns p := by
  refine ⟨fun h ↦ ⟨hk, Band.contains_of_mem_priorities h⟩, fun ⟨_, h⟩ ↦ ?_⟩
  obtain ⟨l, hl⟩ := last_of_fixed hk
  obtain ⟨hfirst, hlast⟩ := Band.contains_iff.mp h
  have hp := hlast l hl
  simp only [Band.priorities, Band.width?, hl, Option.map_some, Option.getD_some, List.mem_map,
    List.mem_range]
  exact ⟨(p - (Band.of k).first).toNat, by omega, by omega⟩

theorem mem_unclaimed_iff {a : Allocator} {p : Int} (hk : (Band.of k).custom = false) :
    p ∈ a.unclaimed k ↔ k.Owns p ∧ a.isClaimed p = false := by
  rw [unclaimed, List.mem_toFinset, List.mem_filter, mem_priorities_iff hk, decide_eq_true_iff,
    isClaimed_eq_false_iff]

theorem toFinset_free {a : Allocator} (hk : (Band.of k).custom = false) :
    (a.free (Band.of k)).toFinset = a.unclaimed k := by
  ext p
  rw [List.mem_toFinset, mem_free_iff, mem_priorities_iff hk, mem_unclaimed_iff hk]

theorem length_free {a : Allocator} (hk : (Band.of k).custom = false) :
    (a.free (Band.of k)).length = (a.unclaimed k).card := by
  have hnodup : (a.free (Band.of k)).Nodup := (pairwise_free a _).imp Int.ne_of_lt
  rw [← toFinset_free hk, List.toFinset_card_of_nodup hnodup]

theorem isWritable_card_unclaimed (a : Allocator) (hk : (Band.of k).custom = false) :
    Number.isWritable (a.unclaimed k).card = true := by
  have hle : (a.unclaimed k).card ≤ (Band.of k).priorities.length := by
    rw [← length_free hk]
    exact List.length_filter_le _ _
  have hband : (Band.of k).priorities.length ≤ 10 := by
    cases k <;> decide
  exact Number.isWritable_of_small (by omega) (by omega)

theorem lowestOf_take {ps : List Int} (hps : ps.Pairwise (· < ·)) (n : Nat) :
    LowestOf ps.toFinset (ps.take n) where
  ascending := hps.sublist (List.take_sublist n ps)
  mem p hp := List.mem_toFinset.mpr (List.mem_of_mem_take hp)
  lt p hp q hq hqn := by
    rw [← List.take_append_drop n ps, List.pairwise_append] at hps
    rw [List.mem_toFinset, ← List.take_append_drop n ps, List.mem_append] at hq
    exact hps.2.2 p hp q (hq.resolve_left hqn)

def portion (n : Int) (free : Nat) : Nat :=
  if n < 0 then free - n.natAbs else n.toNat

theorem takeCount_eq (n : Int) (ps : List Int) :
    takeCount n ps = ps.take (portion n ps.length) := by
  unfold takeCount portion
  split
  next h => rw [if_neg (Int.not_lt.mpr h)]
  next h => rw [if_pos (Int.not_le.mp h)]

theorem portion_eq_toNat_iff {n : Int} {free : Nat} :
    portion n free = n.toNat ↔ (n < 0 → free ≤ n.natAbs) := by
  unfold portion
  split <;> omega

theorem exec_allocate_of_lt (hk : (Band.of k).custom = false)
    (h : (s.allocator.unclaimed k).card < requested k count) :
    (Compiling.allocate k count).exec s = (.error (if Number.isWritable (requested k count) then
      .problem (exhaustion k (requested k count) (s.allocator.unclaimed k).card)
        else .crash .hugeInteger), s) := by
  have hcard := isWritable_card_unclaimed s.allocator hk
  rw [← length_free hk] at h hcard ⊢
  unfold requested at h ⊢
  simp only [Compiling.exec_allocate, allocate, fixedBand_of_fixed hk, Outcome.ok_bind, if_pos h,
    Outcome.throw_eq_error, Outcome.error_bind, Failure.ofProblem, Problem.Cause.isWritable, hcard,
    Bool.and_true, exhaustion]

theorem exec_allocate_of_le (hk : (Band.of k).custom = false)
    (h : requested k count ≤ (s.allocator.unclaimed k).card) :
    ∃ ps, ((Compiling.allocate k count).exec s).1 = .ok ps ∧
      ps.length = portion (requested k count) (s.allocator.unclaimed k).card ∧
      LowestOf (s.allocator.unclaimed k) ps ∧
      ((Compiling.allocate k count).exec s).2.allocator = s.allocator.claim k ps := by
  have hallocate : s.allocator.allocate k count = .ok (_, _) :=
    allocate_eq_ok_iff.mpr ⟨hk, length_free hk ▸ h, rfl, rfl⟩
  rw [takeCount_eq, length_free hk] at hallocate
  rw [Compiling.exec_allocate, hallocate]
  refine ⟨_, rfl, ?_, ?_, rfl⟩
  · rw [List.length_take, length_free hk]
    unfold requested at h ⊢
    unfold portion
    split <;> omega
  · rw [← toFinset_free hk]
    exact lowestOf_take (pairwise_free _ _) _

/-- A request that is refused is answered as it should be if its number can be written, and one
that is not refused if the number that it gets is the one it asks for. -/
theorem grants_iff (hk : (Band.of k).custom = false) :
    Grants k (requested k count) s ((Compiling.allocate k count).exec s) ↔
      (requested k count < 0 →
        (s.allocator.unclaimed k).card ≤ (requested k count).natAbs) ∧
      ((s.allocator.unclaimed k).card < requested k count →
        Number.isWritable (requested k count) = true) := by
  unfold Grants
  by_cases hlt : ((s.allocator.unclaimed k).card : Int) < requested k count
  · have hneg : ¬ requested k count < 0 := by omega
    rw [if_pos hlt, exec_allocate_of_lt hk hlt]
    cases Number.isWritable (requested k count) <;> simp [hlt, hneg]
  · obtain ⟨ps, hps, hlength, hlowest, hclaim⟩ := exec_allocate_of_le hk (Int.not_lt.mp hlt)
    rw [if_neg hlt, ← portion_eq_toNat_iff, ← hlength]
    simp only [hlt, false_implies, and_true]
    constructor
    · rintro ⟨qs, hqs, hcount, -⟩
      obtain rfl : ps = qs := Except.ok.inj (hps.symm.trans hqs)
      exact hcount
    · exact fun hcount ↦ ⟨ps, hps, hcount, hlowest, hclaim⟩

/-- A request is answered as it should be, whatever was claimed before, unless it is negative and
withholds fewer priorities than are left, or it has to be refused and is too long to be written into
the refusal. Such a negative request gets the lowest priorities that are left, except so many at the
end; the other one fails in another way, and nothing changes. -/
theorem allocate_exactly (s : Session) (hk : (Band.of k).custom = false) (count : Option Int) :
    let n := requested k count
    let free := s.allocator.unclaimed k
    let r := (Compiling.allocate k count).exec s
    (∀ p, p ∈ free ↔ k.Owns p ∧ p ∉ s.allocator.claimed.map Prod.fst) ∧
    (Grants k n s r ↔
      (n < 0 → free.card ≤ n.natAbs) ∧ (free.card < n → Number.isWritable n = true)) ∧
    (n < 0 → ∃ ps, r.1 = .ok ps ∧ ps.length = free.card - n.natAbs ∧ LowestOf free ps ∧
      r.2.allocator = s.allocator.claim k ps) ∧
    (free.card < n → Number.isWritable n = false → r = (.error (.crash .hugeInteger), s)) := by
  intro n free r
  refine ⟨fun p ↦ ?_, grants_iff hk, fun hneg ↦ ?_, fun hlt hlong ↦ ?_⟩
  · rw [mem_unclaimed_iff hk, isClaimed_eq_false_iff]
  · obtain ⟨ps, hps, hlength, hlowest, hclaim⟩ := exec_allocate_of_le hk
      (show requested k count ≤ (s.allocator.unclaimed k).card by omega)
    rw [portion, if_pos hneg] at hlength
    exact ⟨ps, hps, hlength, hlowest, hclaim⟩
  · have hr := exec_allocate_of_lt hk hlt
    rwa [hlong, if_neg Bool.false_ne_true] at hr

theorem allocate_exactly_holed :
    let s := (run [.slot .managed 0, .slot .managed 3] {}).2
    (Band.of .managed).custom = false ∧
      ((Compiling.allocate .managed (some 3)).exec s).1 = .ok [21, 22, 24] ∧
      Grants .managed 3 s ((Compiling.allocate .managed (some 3)).exec s) := by
  intro s
  have hgrants := (allocate_exactly s (k := .managed) rfl (some 3)).2.1
  exact ⟨rfl, by decide, hgrants.mpr ⟨by decide, by decide⟩⟩

/-- A request for one priority less than none takes one of the two that are left. -/
theorem negative_request_claims : ¬ ∀ (cs : List Call) (k : Category) (count : Option Int),
    (Band.of k).custom = false → Grants k (requested k count) (run cs {}).2
      ((Compiling.allocate k count).exec (run cs {}).2) := by
  intro hall
  have hgrants := hall [] .blockV4 (some (-1)) rfl
  rw [Grants, if_neg (by decide)] at hgrants
  obtain ⟨ps, hps, hlength, -, -⟩ := hgrants
  have htaken : ((Compiling.allocate .blockV4 (some (-1))).exec (run [] {}).2).1 = .ok [1] := by
    decide
  obtain rfl := Except.ok.inj (htaken.symm.trans hps)
  exact absurd hlength (by decide)

end WebAcl.Allocator
