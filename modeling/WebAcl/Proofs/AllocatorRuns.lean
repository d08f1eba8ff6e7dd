import WebAcl.Proofs.Session
import Mathlib.Data.List.Pairwise
import Mathlib.Data.List.Nodup

namespace WebAcl

theorem Band.pairwise_priorities (b : Band) : b.priorities.Pairwise (· < ·) := by
  rw [priorities, List.pairwise_map]
  refine List.pairwise_lt_range.imp fun {m n} hmn ↦ ?_
  omega

namespace Allocator

theorem takeCount_sublist (n : Int) (ps : List Int) : (takeCount n ps).Sublist ps := by
  unfold takeCount
  split <;> exact List.take_sublist _ _

theorem mem_free_iff {a : Allocator} {b : Band} {p : Int} :
    p ∈ a.free b ↔ p ∈ b.priorities ∧ a.isClaimed p = false := by
  simp [free]

theorem pairwise_free (a : Allocator) (b : Band) : (a.free b).Pairwise (· < ·) :=
  b.pairwise_priorities.sublist List.filter_sublist

theorem allocate_eq_ok_iff {k : Category} {a b : Allocator} {count : Option Int} {ps : List Int} :
    a.allocate k count = .ok (ps, b) ↔ (Band.of k).custom = false ∧
      count.getD ((Band.of k).width?.getD 0) ≤ (a.free (Band.of k)).length ∧
      ps = takeCount (count.getD ((Band.of k).width?.getD 0)) (a.free (Band.of k)) ∧
      b = a.claim k ps := by
  unfold allocate
  cases hk : (Band.of k).custom with
  | true => simp [fixedBand, hk]
  | false =>
    rw [fixedBand_of_fixed hk, Outcome.ok_bind]
    by_cases hn : ((a.free (Band.of k)).length : Int) < count.getD ((Band.of k).width?.getD 0)
    · have hle := Int.not_le.mpr hn
      simp [hn, hle]
    · have hle := Int.not_lt.mp hn
      simp only [hn, hle, if_false, Outcome.pure_eq_ok, Except.ok.injEq, Prod.mk.injEq, true_and]
      constructor
      · rintro ⟨rfl, rfl⟩
        exact ⟨rfl, rfl⟩
      · rintro ⟨rfl, rfl⟩
        exact ⟨rfl, rfl⟩

theorem isClaimed_eq_false_iff {a : Allocator} {p : Int} :
    a.isClaimed p = false ↔ p ∉ a.claimed.map Prod.fst := by
  rw [← Bool.not_eq_true, isClaimed_iff]
  simp

theorem of_allocate_eq_ok {k : Category} {a b : Allocator} {count : Option Int} {ps : List Int}
    (h : a.allocate k count = .ok (ps, b)) : ps.Pairwise (· < ·) ∧
      (∀ p ∈ ps, k.Owns p ∧ a.isClaimed p = false) ∧ b = a.claim k ps := by
  obtain ⟨hk, -, rfl, rfl⟩ := allocate_eq_ok_iff.mp h
  refine ⟨(pairwise_free _ _).sublist (takeCount_sublist _ _), fun p hp ↦ ?_, rfl⟩
  obtain ⟨hband, hfree⟩ := mem_free_iff.mp (mem_takeCount hp)
  exact ⟨⟨hk, Band.contains_of_mem_priorities hband⟩, hfree⟩

structure Sound (a : Allocator) : Prop where
  owns : ∀ p k, (p, k) ∈ a.claimed → k.Owns p
  nodup : (a.claimed.map Prod.fst).Nodup

theorem Sound.claim {a : Allocator} {k : Category} {ps : List Int} (ha : a.Sound)
    (hps : ps.Nodup) (hfree : ∀ p ∈ ps, k.Owns p ∧ a.isClaimed p = false) :
    (a.claim k ps).Sound where
  owns p l h := by
    simp only [Allocator.claim, List.mem_append, List.mem_map, Prod.mk.injEq] at h
    rcases h with h | ⟨q, hq, rfl, rfl⟩
    · exact ha.owns p l h
    · exact (hfree q hq).1
  nodup := by
    have hnew : ((ps.map (·, k)).map Prod.fst) = ps := by simp [Function.comp_def]
    rw [Allocator.claim, List.map_append, hnew, List.nodup_append']
    refine ⟨ha.nodup, hps, fun p hp hq ↦ ?_⟩
    exact isClaimed_eq_false_iff.mp (hfree p hq).2 hp

inductive Call where
  | allocate (category : Category) (count : Option Int)
  | slot (category : Category) (offset : Int)
  | claimCustom (category : Category) (priority : Int) (ruleName : String)

namespace Call

def category : Call → Category
  | .allocate k _ | .slot k _ | .claimCustom k _ _ => k

def serve : Call → Compiling (List Int)
  | .allocate k count => Compiling.allocate k count
  | .slot k offset => (fun p ↦ [p]) <$> Compiling.slot k offset
  | .claimCustom k p ruleName => (fun q ↦ [q]) <$> Compiling.ofProblem (checkCustom k p ruleName)

/-- The priorities that a call hands out. Those that users chose are returned as they came, they
are not handed out. -/
def handsOut : Call → Except Failure (List Int) → List (Int × Category)
  | .claimCustom .., _ => []
  | c, .ok ps => ps.map (·, c.category)
  | _, .error _ => []

/-- What is known of the priorities that a call returns, given what was handed out before it and
what is handed out in the whole run. -/
def Returns (earlier all : List (Int × Category)) : Call → List Int → Prop
  | .allocate k _, ps => ps.Pairwise (· < ·) ∧
      ∀ p ∈ ps, (Band.of k).contains p = true ∧ p ∉ earlier.map Prod.fst
  | .slot k _, ps => ∃ p, ps = [p] ∧ (Band.of k).contains p = true ∧ p ∉ earlier.map Prod.fst
  | .claimCustom k q _, ps => ps = [q] ∧ (Band.of k).custom = true ∧
      (Band.of k).contains q = true ∧ Band.fixedOf? q = none ∧ q ∉ all.map Prod.fst

variable {c : Call} {s : Session} {f : Failure} {ps : List Int}

theorem exec_serve_of_error (h : (c.serve.exec s).1 = .error f) : (c.serve.exec s).2 = s := by
  cases c with
  | allocate k count =>
    rw [serve, Compiling.exec_allocate] at h ⊢
    cases ha : s.allocator.allocate k count with
    | error e => rfl
    | ok r => simp [ha] at h
  | slot k offset =>
    rw [serve, Compiling.exec_map, Compiling.exec_slot] at h ⊢
    cases ha : s.allocator.slot k offset with
    | error e => rfl
    | ok r => simp [ha] at h
  | claimCustom k q ruleName => simp [serve]

theorem of_exec_allocate {k : Category} {count : Option Int}
    (h : ((allocate k count).serve.exec s).1 = .ok ps) : ps.Pairwise (· < ·) ∧
      (∀ p ∈ ps, k.Owns p ∧ s.allocator.isClaimed p = false) ∧
      ((allocate k count).serve.exec s).2.allocator = s.allocator.claim k ps := by
  rw [serve, Compiling.exec_allocate] at h ⊢
  cases ha : s.allocator.allocate k count with
  | error e => simp [ha] at h
  | ok r =>
    obtain ⟨qs, b⟩ := r
    obtain rfl : qs = ps := by simpa [ha] using h
    exact of_allocate_eq_ok ha

theorem of_exec_slot {k : Category} {offset : Int}
    (h : ((slot k offset).serve.exec s).1 = .ok ps) : ∃ p, ps = [p] ∧ k.Owns p ∧
      s.allocator.isClaimed p = false ∧
      ((slot k offset).serve.exec s).2.allocator = s.allocator.claim k ps := by
  rw [serve, Compiling.exec_map, Compiling.exec_slot] at h ⊢
  cases ha : s.allocator.slot k offset with
  | error e => simp [ha] at h
  | ok r =>
    obtain ⟨p, b⟩ := r
    obtain rfl : [p] = ps := by simpa [ha] using h
    obtain ⟨howns, hfree, -, rfl⟩ := slot_eq_ok_iff.mp ha
    exact ⟨p, rfl, howns, hfree, rfl⟩

theorem exec_claimCustom {k : Category} {q : Int} {ruleName : String} :
    ((claimCustom k q ruleName).serve.exec s).2 = s := by
  simp [serve]

theorem of_exec_claimCustom {k : Category} {q : Int} {ruleName : String}
    (h : ((claimCustom k q ruleName).serve.exec s).1 = .ok ps) : ps = [q] ∧
      (Band.of k).custom = true ∧ (Band.of k).contains q = true ∧ Band.fixedOf? q = none := by
  rw [serve, Compiling.exec_map, Compiling.exec_ofProblem] at h
  obtain ⟨r, hr, rfl⟩ := Outcome.map_eq_ok_iff.mp h
  obtain ⟨hk, -, hband, hfixed, rfl⟩ := checkCustom_eq_ok_iff.mp (Outcome.mapError_eq_ok_iff.mp hr)
  exact ⟨rfl, hk, hband, hfixed⟩

theorem claimed_exec (c : Call) (s : Session) : (c.serve.exec s).2.allocator.claimed =
    s.allocator.claimed ++ c.handsOut (c.serve.exec s).1 := by
  cases h : (c.serve.exec s).1 with
  | error f =>
    -- nothing is claimed and nothing is handed out
    rw [exec_serve_of_error h]
    cases c <;> simp [handsOut]
  | ok ps =>
    cases c with
    | allocate k count => rw [(of_exec_allocate h).2.2]; rfl
    | slot k offset =>
      obtain ⟨p, -, -, -, hclaim⟩ := of_exec_slot h
      rw [hclaim]
      rfl
    | claimCustom k q ruleName => rw [exec_claimCustom]; simp [handsOut]

theorem sound_exec (hs : s.allocator.Sound) (c : Call) : (c.serve.exec s).2.allocator.Sound := by
  cases h : (c.serve.exec s).1 with
  | error f => rwa [exec_serve_of_error h]
  | ok ps =>
    cases c with
    | allocate k count =>
      obtain ⟨hlt, hfree, hclaim⟩ := of_exec_allocate h
      rw [hclaim]
      exact hs.claim (hlt.imp Int.ne_of_lt) hfree
    | slot k offset =>
      obtain ⟨p, rfl, howns, hfree, hclaim⟩ := of_exec_slot h
      rw [hclaim]
      refine hs.claim (List.nodup_singleton p) fun q hq ↦ ?_
      rw [List.mem_singleton.mp hq]
      exact ⟨howns, hfree⟩
    | claimCustom k q ruleName => rwa [exec_claimCustom]

end Call

structure Served where
  call : Call
  result : Except Failure (List Int)

def run : List Call → Session → List Served × Session
  | [], s => ([], s)
  | c :: cs, s =>
    let (r, t) := c.serve.exec s
    let (served, u) := run cs t
    (⟨c, r⟩ :: served, u)

def handedOut (served : List Served) : List (Int × Category) :=
  served.flatMap fun e ↦ e.call.handsOut e.result

theorem run_append (cs ds : List Call) (s : Session) : run (cs ++ ds) s =
    ((run cs s).1 ++ (run ds (run cs s).2).1, (run ds (run cs s).2).2) := by
  induction cs generalizing s with
  | nil => rfl
  | cons c cs ih => simp [run, ih]

theorem claimed_run (cs : List Call) (s : Session) : (run cs s).2.allocator.claimed =
    s.allocator.claimed ++ handedOut (run cs s).1 := by
  induction cs generalizing s with
  | nil => simp [run, handedOut]
  | cons c cs ih => simp [run, handedOut, ih, c.claimed_exec]

theorem sound_run {s : Session} (hs : s.allocator.Sound) (cs : List Call) :
    (run cs s).2.allocator.Sound := by
  induction cs generalizing s with
  | nil => exact hs
  | cons c cs ih => exact ih (c.sound_exec hs)

theorem claimed_run_fresh (cs : List Call) :
    (run cs {}).2.allocator.claimed = handedOut (run cs {}).1 := by
  rw [claimed_run, List.nil_append]

theorem sound_run_fresh (cs : List Call) : (run cs {}).2.allocator.Sound :=
  sound_run ⟨by simp, by simp⟩ cs

/-- A call `c` somewhere in a run: the table before it holds exactly what was handed out until then,
each priority once and under the category that owns it. What `c` returns is new, in the band of its
category and ascending; a priority that a user chose is in the open band and is never handed out,
neither before nor after. Calls that fail and those that only check leave the table alone. -/
theorem call_in_run (before after : List Call) (c : Call) :
    let s := (run before {}).2
    let earlier := handedOut (run before {}).1
    let all := handedOut (run (before ++ c :: after) {}).1
    (run (before ++ c :: after) {}).1 =
      (run before {}).1 ++ ⟨c, (c.serve.exec s).1⟩ :: (run after (c.serve.exec s).2).1 ∧
    s.allocator.claimed = earlier ∧
    (c.serve.exec s).2.allocator.claimed = earlier ++ c.handsOut (c.serve.exec s).1 ∧
    (∀ ps, (c.serve.exec s).1 = .ok ps → c.Returns earlier all ps) ∧
    (∀ f, (c.serve.exec s).1 = .error f → (c.serve.exec s).2 = s) ∧
    (∀ k q ruleName, c = .claimCustom k q ruleName → (c.serve.exec s).2 = s) ∧
    (all.map Prod.fst).Nodup ∧ ∀ p k, (p, k) ∈ all → k.Owns p := by
  intro s earlier all
  have hs : s.allocator.claimed = earlier := claimed_run_fresh before
  have hall : (run (before ++ c :: after) {}).2.allocator.claimed = all := claimed_run_fresh _
  obtain ⟨howns, hnodup⟩ := sound_run_fresh (before ++ c :: after)
  rw [hall] at howns hnodup
  have hnew : ∀ {p}, s.allocator.isClaimed p = false → p ∉ earlier.map Prod.fst := by
    intro p hp
    rw [← hs]
    exact isClaimed_eq_false_iff.mp hp
  refine ⟨by rw [run_append]; rfl, hs, hs ▸ c.claimed_exec s, fun ps h ↦ ?_,
    fun f h ↦ c.exec_serve_of_error h, ?_, hnodup, howns⟩
  · cases c with
    | allocate k count =>
      obtain ⟨hlt, hfree, -⟩ := Call.of_exec_allocate h
      exact ⟨hlt, fun p hp ↦ ⟨(hfree p hp).1.2, hnew (hfree p hp).2⟩⟩
    | slot k offset =>
      obtain ⟨p, rfl, hp, hfree, -⟩ := Call.of_exec_slot h
      exact ⟨p, rfl, hp.2, hnew hfree⟩
    | claimCustom k q ruleName =>
      obtain ⟨rfl, hk, hband, hfixed⟩ := Call.of_exec_claimCustom h
      refine ⟨rfl, hk, hband, hfixed, fun hq ↦ ?_⟩
      -- whatever is handed out in the run is owned by a category with a fixed band
      obtain ⟨⟨p, l⟩, hl, rfl⟩ := List.mem_map.mp hq
      exact Band.fixedOf?_eq_none_iff.mp hfixed l (howns _ l hl)
  · rintro k q ruleName rfl
    exact Call.exec_claimCustom

/-- A negative count leaves out priorities at the end of the band; the slot that is asked for twice
is given once. -/
example : handedOut (run [.allocate .blockV4 (some (-1)), .slot .blockV4 1, .slot .blockV4 1,
    .claimCustom .preCustom 5 "office", .allocate .rateLimit none] {}).1 =
    [(1, .blockV4), (2, .blockV4), (30, .rateLimit)] := by
  decide

end Allocator

end WebAcl
