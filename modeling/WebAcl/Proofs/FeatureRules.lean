import WebAcl.Proofs.Features
import WebAcl.Proofs.Toggles

namespace WebAcl

open Compiling Text

namespace AddressList

def set (d : AddressList) (addresses : List String) (policyName : String) : IpSet :=
  ⟨d.logicalId, d.version, addresses, s!"{policyName} - {d.purpose}"⟩

theorem alone_build_none (k : Category) (policyName : String) :
    (build k none policyName).alone = .ok [] := by
  unfold build
  cases of? k <;> rfl

theorem priorities_of_of? {k : Category} {d : AddressList} (hd : of? k = some d) :
    (Band.of k).custom = false ∧
      (Band.of k).priorities = [(Band.of k).first, (Band.of k).first + 1] := by
  cases k <;> simp [of?] at hd <;> decide

theorem alone_build_some {k : Category} {d : AddressList} (hd : of? k = some d)
    (addresses : List String) (policyName : String) :
    (build k (some addresses) policyName).alone =
      (checkAddresses d.field d.version addresses).mapError .ofProblem >>= fun checked ↦
        .ok (d.rules k (d.set checked policyName) (Band.of k).first ((Band.of k).first + 1)) := by
  obtain ⟨hk, hp⟩ := priorities_of_of? hd
  have htake : ∀ s : Session, s.allocator = {} → ((allocate k (some 2)).exec s).1 =
      .ok [(Band.of k).first, (Band.of k).first + 1] := by
    intro s hs
    simpa [hp] using exec_allocate_untouched hk hs (n := 2) (by simp [hp])
  unfold build
  simp only [hd, alone, exec_bind, exec_ofProblem]
  cases checkAddresses d.field d.version addresses with
  | error e => rfl
  | ok checked =>
    cases h : checked.isEmpty <;> simp [exec_bind, htake, h, set]

theorem alone_build_eq_ok_iff {k : Category} {d : AddressList} (hd : of? k = some d)
    {addresses : Option (List String)} {policyName : String} {rules : List Rule} :
    (build k addresses policyName).alone = .ok rules ↔ addresses = none ∧ rules = [] ∨
      ∃ listed, addresses = some listed ∧ ∃ checked,
        checkAddresses d.field d.version listed = .ok checked ∧
          rules = d.rules k (d.set checked policyName) (Band.of k).first
            ((Band.of k).first + 1) := by
  cases addresses with
  | none => simp [alone_build_none, eq_comm]
  | some listed =>
    rw [alone_build_some hd]
    simp only [Outcome.bind_eq_ok_iff, Outcome.mapError_eq_ok_iff, Except.ok.injEq]
    simp [eq_comm]

end AddressList

namespace PatternList

def rule (d : PatternList) (k : Category) (patterns : List String) (policyName : String) :
    Rule where
  name := d.ruleName
  priority := (Band.of k).first
  statement := .regexSet ⟨d.logicalId, patterns, s!"{policyName} - {d.purpose}"⟩ d.matchField
    d.headerName
  category := k
  visibility := { metricName := d.metricName }
  action := some .allow

theorem alone_build_none [Machine] (k : Category) (policyName : String) :
    (build k none policyName).alone = .ok [] := by
  unfold build
  cases of? k <;> rfl

theorem priorities_of_of? {k : Category} {d : PatternList} (hd : of? k = some d) :
    (Band.of k).custom = false ∧ (Band.of k).priorities = [(Band.of k).first] := by
  cases k <;> simp [of?] at hd <;> decide

theorem alone_build_some [Machine] {k : Category} {d : PatternList} (hd : of? k = some d)
    (patterns : List String) (policyName : String) :
    (build k (some patterns) policyName).alone =
      checkPatterns d.field patterns >>= fun checked ↦ .ok [d.rule k checked policyName] := by
  obtain ⟨hk, hp⟩ := priorities_of_of? hd
  have htake : ∀ s : Session, s.allocator = {} → ((allocate k (some 1)).exec s).1 =
      .ok [(Band.of k).first] := by
    intro s hs
    simpa [hp] using exec_allocate_untouched hk hs (n := 1) (by simp [hp])
  unfold build
  simp only [hd, alone, exec_bind, exec_ofExcept]
  cases checkPatterns d.field patterns with
  | error e => rfl
  | ok checked =>
    cases h : checked.isEmpty <;> simp [exec_bind, htake, h, rule]

theorem alone_build_eq_ok_iff [Machine] {k : Category} {d : PatternList} (hd : of? k = some d)
    {patterns : Option (List String)} {policyName : String} {rules : List Rule} :
    (build k patterns policyName).alone = .ok rules ↔ patterns = none ∧ rules = [] ∨
      ∃ listed, patterns = some listed ∧ ∃ checked,
        checkPatterns d.field listed = .ok checked ∧ rules = [d.rule k checked policyName] := by
  cases patterns with
  | none => simp [alone_build_none, eq_comm]
  | some listed =>
    rw [alone_build_some hd]
    simp only [Outcome.bind_eq_ok_iff, Except.ok.injEq]
    simp [eq_comm]

end PatternList

namespace Config.RateLimit

def rule (r : RateLimit) (enforce : Bool) : Rule where
  name := ruleName
  priority := (Band.of .rateLimit).first
  statement := .rateBased r.threshold r.aggregation r.forwarded
  category := .rateLimit
  visibility := { metricName := ruleName }
  action := some (Mode.action enforce)
  modeSensitive := true

theorem alone_build (limit : Option RateLimit) (enforce : Bool) :
    (build limit enforce).alone = .ok (limit.map (rule · enforce)).toList := by
  cases limit with
  | none => rfl
  | some r =>
    have htake : ((allocate .rateLimit (some 1)).exec {}).1 = .ok [30] := by decide
    unfold build
    simp [alone, htake, rule, Band.of]

end Config.RateLimit

namespace Config.CustomRule

structure Passes [Machine] (k : Category) (r : CustomRule) : Prop where
  name : strip r.name ≠ ""
  statement : r.statement ≠ []
  priority : Allocator.checkCustom k r.priority r.name = .ok r.priority
  depth : Machine.copying.fits 0 r.body = true

def made (k : Category) (r : CustomRule) : Rule where
  name := r.name
  priority := r.priority
  statement := .ofBody r.body
  category := k
  visibility := {
    metricName := match r.metricName with
      | none | some "" => r.name
      | some name => name
    metricsEnabled := r.metricsEnabled
    samplingEnabled := r.samplingEnabled }
  action := r.action
  override := r.override

theorem copyOfBody_eq_ok_iff [Machine] {body : Value} {s : Statement} :
    Statement.copyOfBody body = .ok s ↔
      Machine.copying.fits 0 body = true ∧ s = .ofBody body := by
  unfold Statement.copyOfBody
  cases Machine.copying.fits 0 body <;> simp [eq_comm]

theorem toRule_eq_ok_iff [Machine] {k : Category} {i : Nat} {r : CustomRule} {rule : Rule} :
    r.toRule k i = .ok rule ↔ r.Passes k ∧ rule = r.made k := by
  unfold toRule
  by_cases hn : strip r.name = ""
  · simpa [hn] using fun h : r.Passes k ↦ absurd hn h.name
  · by_cases hs : r.statement = []
    · simpa [hn, hs] using fun h : r.Passes k ↦ absurd hs h.statement
    · simp only [hn, if_false, List.isEmpty_iff, hs, Outcome.bind_eq_ok_iff,
        Outcome.mapError_eq_ok_iff, copyOfBody_eq_ok_iff, Outcome.pure_eq_ok, Except.ok.injEq]
      constructor
      · rintro ⟨q, hq, _, ⟨hd, rfl⟩, rfl⟩
        obtain rfl := (Allocator.checkCustom_eq_ok_iff.mp hq).2.2.2.2
        exact ⟨⟨hn, hs, hq, hd⟩, rfl⟩
      · rintro ⟨h, rfl⟩
        exact ⟨_, h.priority, _, ⟨h.depth, rfl⟩, rfl⟩

theorem toRules_eq_ok_iff [Machine] {k : Category} {i : Nat} {rs : List CustomRule}
    {rules : List Rule} :
    toRules k i rs = .ok rules ↔ (∀ r ∈ rs, r.Passes k) ∧ rules = rs.map (made k) := by
  induction rs generalizing i rules with
  | nil => simp [toRules, eq_comm]
  | cons r rs ih =>
    simp only [toRules, Outcome.bind_eq_ok_iff, toRule_eq_ok_iff, ih, List.forall_mem_cons,
      List.map_cons, Outcome.pure_eq_ok, Except.ok.injEq]
    constructor
    · rintro ⟨_, ⟨hr, rfl⟩, _, ⟨hrs, rfl⟩, rfl⟩
      exact ⟨⟨hr, hrs⟩, rfl⟩
    · rintro ⟨⟨hr, hrs⟩, rfl⟩
      exact ⟨_, ⟨hr, rfl⟩, _, ⟨hrs, rfl⟩, rfl⟩

end Config.CustomRule

namespace Allocator

theorem slot_managed_eq_error {a : Allocator} {offset : Int} {p : Problem}
    (hfree : a.isClaimed ((Band.of .managed).first + offset) = false)
    (h : a.slot .managed offset = .error p) : (offset < 0 ∨ 6 < offset) ∧
      p = { cause := .bandExhausted (Choice.text Category.managed) (offset + 1) 7 } := by
  have hwidth : (Band.of .managed).width?.getD 0 = 7 := by decide
  rw [slot, fixedBand_of_fixed rfl, Outcome.ok_bind, hwidth] at h
  by_cases ho : offset < 0 ∨ 7 ≤ offset
  · simp only [ho, if_true, Outcome.throw_eq_error, Outcome.error_bind, Except.error.injEq] at h
    exact ⟨by omega, h.symm⟩
  · simp [ho, hfree] at h

end Allocator

namespace ManagedGroups

def placed (s : Selection) (enforce : Bool) (gs : List ManagedGroup) : List Rule :=
  gs.filterMap fun g ↦ (s.lookup g.key).map fun excluded ↦
    rule g excluded enforce ((Band.of .managed).first + g.slot)

theorem placed_cons (s : Selection) (enforce : Bool) (g : ManagedGroup) (gs : List ManagedGroup) :
    placed s enforce (g :: gs) = match s.lookup g.key with
      | none => placed s enforce gs
      | some excluded => rule g excluded enforce ((Band.of .managed).first + g.slot) ::
        placed s enforce gs := by
  unfold placed
  cases h : s.lookup g.key <;> simp [h]

theorem map_placed {α : Type} {s : Selection} {enforce : Bool} {gs : List ManagedGroup}
    (f : Rule → α) (h : ManagedGroup → α)
    (hf : ∀ g excluded, f (rule g excluded enforce ((Band.of .managed).first + g.slot)) = h g) :
    (placed s enforce gs).map f = (gs.filter fun g ↦ (s.lookup g.key).isSome).map h := by
  induction gs with
  | nil => rfl
  | cons g gs ih =>
    rw [placed_cons]
    cases hg : s.lookup g.key with
    | none => simpa [hg] using ih
    | some excluded => simpa [hg, hf] using ih

/-- Groups are given their slots one after the other, with the claims before and after. A group that
is off takes none, and one that is refused its slot leaves the claims of the groups before it. -/
inductive Placing (s : Selection) (enforce : Bool) :
    List ManagedGroup → Allocator → Except Failure (List Rule) → Allocator → Prop
  | done (a : Allocator) : Placing s enforce [] a (.ok []) a
  | off {g : ManagedGroup} {gs : List ManagedGroup} {a b : Allocator}
      {out : Except Failure (List Rule)} (hoff : s.lookup g.key = none)
      (rest : Placing s enforce gs a out b) : Placing s enforce (g :: gs) a out b
  | refused {g : ManagedGroup} (gs : List ManagedGroup) {a : Allocator} {excluded : List String}
      {p : Problem} (on : s.lookup g.key = some excluded)
      (refusal : a.slot .managed g.slot = .error p) :
      Placing s enforce (g :: gs) a (.error (.ofProblem p)) a
  | given {g : ManagedGroup} {gs : List ManagedGroup} {a b : Allocator} {excluded : List String}
      {out : Except Failure (List Rule)} (on : s.lookup g.key = some excluded)
      (owns : Category.managed.Owns ((Band.of .managed).first + g.slot))
      (free : a.isClaimed ((Band.of .managed).first + g.slot) = false)
      (rest : Placing s enforce gs (a.claim .managed [(Band.of .managed).first + g.slot]) out b) :
      Placing s enforce (g :: gs) a
        (List.cons (rule g excluded enforce ((Band.of .managed).first + g.slot)) <$> out) b

theorem placing_rules (s : Selection) (enforce : Bool) (gs : List ManagedGroup) (σ : Session) :
    Placing s enforce gs σ.allocator ((rules s enforce gs).exec σ).1
      ((rules s enforce gs).exec σ).2.allocator := by
  induction gs generalizing σ with
  | nil => exact .done _
  | cons g gs ih =>
    unfold rules
    cases hon : s.lookup g.key with
    | none => exact .off hon (ih σ)
    | some excluded =>
      simp only [bind_pure_comp, exec_bind, exec_slot]
      cases hslot : σ.allocator.slot .managed g.slot with
      | error p => exact .refused gs hon hslot
      | ok taken =>
        obtain ⟨p, a⟩ := taken
        obtain ⟨howns, hfree, rfl, rfl⟩ := Allocator.slot_eq_ok_iff.mp hslot
        simp only [exec_map]
        exact .given hon howns hfree (ih { σ with
          allocator := σ.allocator.claim .managed [(Band.of .managed).first + g.slot] })

section Placing

variable {s : Selection} {enforce : Bool} {gs : List ManagedGroup} {a b : Allocator}
  {out : Except Failure (List Rule)}

theorem Placing.eq_placed (h : Placing s enforce gs a out b) {rs : List Rule}
    (hout : out = .ok rs) :
    rs = placed s enforce gs ∧ ∀ r ∈ rs, Category.managed.Owns r.priority := by
  induction h generalizing rs with
  | done =>
    obtain rfl := Except.ok.inj hout
    exact ⟨rfl, List.forall_mem_nil _⟩
  | off hoff _ ih =>
    rw [placed_cons, hoff]
    exact ih hout
  | refused => cases hout
  | given on owns _ _ ih =>
    obtain ⟨tail, htail, rfl⟩ := Outcome.map_eq_ok_iff.mp hout
    obtain ⟨rfl, hrest⟩ := ih htail
    rw [placed_cons, on]
    exact ⟨rfl, List.forall_mem_cons.mpr ⟨owns, hrest⟩⟩

theorem free_of_slot_ne {g h : ManagedGroup} (hne : h.slot ≠ g.slot)
    (hfree : a.isClaimed ((Band.of .managed).first + h.slot) = false) :
    (a.claim .managed [(Band.of .managed).first + g.slot]).isClaimed
      ((Band.of .managed).first + h.slot) = false := by
  simpa [hfree] using hne

theorem Placing.eq_ok (h : Placing s enforce gs a out b) (hslots : (gs.map (·.slot)).Nodup)
    (hfree : ∀ g ∈ gs, (s.lookup g.key).isSome = true →
      Category.managed.Owns ((Band.of .managed).first + g.slot) ∧
        a.isClaimed ((Band.of .managed).first + g.slot) = false) :
    out = .ok (placed s enforce gs) := by
  induction h with
  | done => rfl
  | off hoff _ ih =>
    rw [placed_cons, hoff]
    exact ih (List.nodup_cons.mp hslots).2 (List.forall_mem_cons.mp hfree).2
  | refused gs on refusal =>
    obtain ⟨howns, hclaim⟩ := (List.forall_mem_cons.mp hfree).1 (by rw [on, Option.isSome_some])
    rw [Allocator.slot_eq_ok_iff.mpr ⟨howns, hclaim, rfl, rfl⟩] at refusal
    cases refusal
  | given on _ _ _ ih =>
    obtain ⟨hg, hslots⟩ := List.nodup_cons.mp hslots
    obtain ⟨-, hfree⟩ := List.forall_mem_cons.mp hfree
    rw [placed_cons, on, ih hslots fun h hh hon ↦ ?_]
    · rfl
    · have hne : h.slot ≠ _ := fun heq ↦ hg (List.mem_map.mpr ⟨h, hh, heq⟩)
      exact ⟨(hfree h hh hon).1, free_of_slot_ne hne (hfree h hh hon).2⟩

theorem Placing.eq_error (h : Placing s enforce gs a out b) (hslots : (gs.map (·.slot)).Nodup)
    (hfree : ∀ g ∈ gs, a.isClaimed ((Band.of .managed).first + g.slot) = false)
    {failure : Failure} (hout : out = .error failure) :
    ∃ g ∈ gs, (s.lookup g.key).isSome = true ∧ (g.slot < 0 ∨ 6 < g.slot) ∧ failure =
      .ofProblem { cause := .bandExhausted (Choice.text Category.managed) (g.slot + 1) 7 } := by
  induction h with
  | done => cases hout
  | off _ _ ih =>
    obtain ⟨h, hh, hfound⟩ :=
      ih (List.nodup_cons.mp hslots).2 (List.forall_mem_cons.mp hfree).2 hout
    exact ⟨h, List.mem_cons_of_mem _ hh, hfound⟩
  | refused gs on refusal =>
    obtain ⟨houtside, rfl⟩ :=
      Allocator.slot_managed_eq_error (List.forall_mem_cons.mp hfree).1 refusal
    exact ⟨_, List.mem_cons_self, by rw [on, Option.isSome_some], houtside,
      (Except.error.inj hout).symm⟩
  | @given g gs _ _ _ out _ _ _ _ ih =>
    obtain ⟨hg, hslots⟩ := List.nodup_cons.mp hslots
    obtain ⟨-, hfree⟩ := List.forall_mem_cons.mp hfree
    cases out with
    | ok rs => cases hout
    | error e =>
      obtain rfl := Except.error.inj hout
      obtain ⟨h, hh, hfound⟩ := ih hslots (fun h hh ↦ free_of_slot_ne
        (fun heq ↦ hg (List.mem_map.mpr ⟨h, hh, heq⟩)) (hfree h hh)) rfl
      exact ⟨h, List.mem_cons_of_mem _ hh, hfound⟩

end Placing

theorem rules_eq_placed {s : Selection} {enforce : Bool} {gs : List ManagedGroup}
    {σ : Session} {rs : List Rule} (h : ((rules s enforce gs).exec σ).1 = .ok rs) :
    rs = placed s enforce gs ∧ ∀ r ∈ rs, Category.managed.Owns r.priority :=
  (placing_rules s enforce gs σ).eq_placed h

theorem rules_eq_ok {s : Selection} {enforce : Bool} {gs : List ManagedGroup} {σ : Session}
    (hslots : (gs.map (·.slot)).Nodup)
    (hfree : ∀ g ∈ gs, (s.lookup g.key).isSome = true →
      Category.managed.Owns ((Band.of .managed).first + g.slot) ∧
        σ.allocator.isClaimed ((Band.of .managed).first + g.slot) = false) :
    ((rules s enforce gs).exec σ).1 = .ok (placed s enforce gs) :=
  (placing_rules s enforce gs σ).eq_ok hslots hfree

end ManagedGroups

end WebAcl
