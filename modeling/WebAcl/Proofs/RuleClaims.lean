import WebAcl.Proofs.AllocatorRuns
import WebAcl.Proofs.FeatureRules

namespace WebAcl

namespace Allocator

/-- The table has grown by claims on priorities that were free, each for the category it belongs
to. -/
structure Grows (a b : Allocator) (added : List (Int × Category)) : Prop where
  claimed_eq : b.claimed = a.claimed ++ added
  nodup : (added.map Prod.fst).Nodup
  owns : ∀ p k, (p, k) ∈ added → k.Owns p
  free : ∀ p k, (p, k) ∈ added → a.isClaimed p = false

namespace Grows

variable {a b c : Allocator} {added more : List (Int × Category)}

theorem refl (a : Allocator) : a.Grows a [] :=
  ⟨by simp, by simp, by simp, by simp⟩

theorem eq (h : a.Grows b []) : b = a := by
  have hclaimed := h.claimed_eq
  cases a
  cases b
  simpa using hclaimed

theorem claim {k : Category} {ps : List Int} (hps : ps.Nodup)
    (hfree : ∀ p ∈ ps, k.Owns p ∧ a.isClaimed p = false) :
    a.Grows (a.claim k ps) (ps.map (·, k)) where
  claimed_eq := rfl
  nodup := by simpa [Function.comp_def] using hps
  owns p l h := by
    obtain ⟨q, hq, heq⟩ := List.mem_map.mp h
    obtain ⟨rfl, rfl⟩ := Prod.mk.inj heq
    exact (hfree q hq).1
  free p l h := by
    obtain ⟨q, hq, heq⟩ := List.mem_map.mp h
    obtain ⟨rfl, rfl⟩ := Prod.mk.inj heq
    exact (hfree q hq).2

theorem free_before (h : a.Grows b added) {p : Int} (hfree : b.isClaimed p = false) :
    a.isClaimed p = false ∧ p ∉ added.map Prod.fst := by
  rw [isClaimed_eq_false_iff, h.claimed_eq, List.map_append, List.mem_append, not_or] at hfree
  exact ⟨isClaimed_eq_false_iff.mpr hfree.1, hfree.2⟩

theorem trans (h : a.Grows b added) (h' : b.Grows c more) : a.Grows c (added ++ more) where
  claimed_eq := by rw [h'.claimed_eq, h.claimed_eq, List.append_assoc]
  nodup := by
    rw [List.map_append, List.nodup_append']
    refine ⟨h.nodup, h'.nodup, fun p hp hp' ↦ ?_⟩
    obtain ⟨⟨p, k⟩, hmore, rfl⟩ := List.mem_map.mp hp'
    exact (h.free_before (h'.free p k hmore)).2 hp
  owns p k hp := (List.mem_append.mp hp).elim (h.owns p k) (h'.owns p k)
  free p k hp :=
    (List.mem_append.mp hp).elim (h.free p k) fun hmore ↦ (h.free_before (h'.free p k hmore)).1

theorem sound (ha : a.Sound) (h : a.Grows b added) : b.Sound where
  owns p k hp := by
    rw [h.claimed_eq] at hp
    exact (List.mem_append.mp hp).elim (ha.owns p k) (h.owns p k)
  nodup := by
    rw [h.claimed_eq, List.map_append, List.nodup_append']
    refine ⟨ha.nodup, h.nodup, fun p hp hp' ↦ ?_⟩
    obtain ⟨⟨p, k⟩, hadded, rfl⟩ := List.mem_map.mp hp'
    exact isClaimed_eq_false_iff.mp (h.free p k hadded) hp

end Grows

end Allocator

def Rule.claims (rules : List Rule) : List (Int × Category) :=
  rules.map fun r ↦ (r.priority, r.category)

open Compiling

/-- Rules were made and their priorities claimed, or they were not and nothing was. -/
def Settled (a : Allocator) (r : Except Failure (List Rule) × Session) : Prop :=
  match r.1 with
  | .ok rules => a.Grows r.2.allocator (Rule.claims rules)
  | .error _ => r.2.allocator = a

namespace Settled

variable {α : Type} {a : Allocator} {r : Except Failure (List Rule) × Session} {rules : List Rule}
  {s : Session} {k : Category}

theorem of_ok (h : r.1 = .ok rules) (hgrows : a.Grows r.2.allocator (Rule.claims rules)) :
    Settled a r := by
  unfold Settled
  rwa [h]

theorem grows (h : Settled a r) (hr : r.1 = .ok rules) :
    a.Grows r.2.allocator (Rule.claims rules) := by
  unfold Settled at h
  rwa [hr] at h

theorem allocator_eq {f : Failure} (h : Settled a r) (hr : r.1 = .error f) :
    r.2.allocator = a := by
  unfold Settled at h
  rwa [hr] at h

theorem nothing (s : Session) : Settled s.allocator (exec (pure []) s) :=
  .refl _

theorem fail (f : Failure) (s : Session) : Settled s.allocator (exec (throw f) s) :=
  rfl

theorem bind {x : Compiling α} {f : α → Compiling (List Rule)}
    (hx : (x.exec s).2.allocator = s.allocator)
    (hf : ∀ a t, Settled t.allocator ((f a).exec t)) : Settled s.allocator ((x >>= f).exec s) := by
  rw [exec_bind]
  cases (x.exec s).1 with
  | ok a => exact hx ▸ hf a (x.exec s).2
  | error e => exact hx

theorem allocate {n : Nat} {f : List Int → Compiling (List Rule)}
    (hf : ∀ ps : List Int, ps.length = n → ∀ t, ∃ rules, ((f ps).exec t).1 = .ok rules ∧
      Rule.claims rules = ps.map (·, k) ∧ ((f ps).exec t).2.allocator = t.allocator) :
    Settled s.allocator ((Compiling.allocate k (some n) >>= f).exec s) := by
  rw [exec_bind, exec_allocate]
  cases ha : s.allocator.allocate k (some n) with
  | error p => exact rfl
  | ok r =>
    obtain ⟨ps, b⟩ := r
    obtain ⟨hlt, hfree, rfl⟩ := Allocator.of_allocate_eq_ok ha
    obtain ⟨-, hle, htake, -⟩ := Allocator.allocate_eq_ok_iff.mp ha
    have hlength : ps.length = n := by
      rw [htake, Allocator.takeCount, Option.getD_some, if_pos (Int.natCast_nonneg n),
        List.length_take]
      rw [Option.getD_some] at hle
      omega
    obtain ⟨rules, hrules, hclaims, hsame⟩ := hf ps hlength _
    refine of_ok hrules ?_
    rw [hclaims, hsame]
    exact .claim (hlt.imp Int.ne_of_lt) hfree

end Settled

theorem AddressList.settled_build (k : Category) (addresses : Option (List String))
    (policyName : String) (s : Session) :
    Settled s.allocator ((build k addresses policyName).exec s) := by
  unfold build
  split
  · exact .nothing s
  · exact .fail _ s
  next d _ =>
    have hmake : ∀ (ps : List Int), ps.length = 2 → ∀ (set : IpSet),
        Rule.claims (d.rules k set (ps.getD 0 0) (ps.getD 1 0)) = ps.map (·, k) := by
      intro ps hps set
      obtain ⟨p, q, rfl⟩ := List.length_eq_two.mp hps
      rfl
    refine .bind (by simp) fun checked t ↦ ?_
    split
    · exact .bind rfl fun _ u ↦ .allocate fun ps hps v ↦ ⟨_, rfl, hmake ps hps _, rfl⟩
    · exact .allocate fun ps hps v ↦ ⟨_, rfl, hmake ps hps _, rfl⟩

theorem PatternList.settled_build [Machine] (k : Category) (patterns : Option (List String))
    (policyName : String) (s : Session) :
    Settled s.allocator ((build k patterns policyName).exec s) := by
  have hclaims : ∀ (ps : List Int), ps.length = 1 → [(ps.getD 0 0, k)] = ps.map (·, k) := by
    intro ps hps
    obtain ⟨p, rfl⟩ := List.length_eq_one_iff.mp hps
    rfl
  unfold build
  split
  · exact .nothing s
  · exact .fail _ s
  · refine .bind (by simp) fun checked t ↦ ?_
    split
    · exact .bind rfl fun _ u ↦ .allocate fun ps hps v ↦ ⟨_, rfl, hclaims ps hps, rfl⟩
    · exact .allocate fun ps hps v ↦ ⟨_, rfl, hclaims ps hps, rfl⟩

theorem Config.RateLimit.settled_build (limit : Option RateLimit) (enforce : Bool) (s : Session) :
    Settled s.allocator ((build limit enforce).exec s) := by
  unfold build
  split
  · exact .nothing s
  · refine .allocate fun ps hps v ↦ ⟨_, rfl, ?_, rfl⟩
    obtain ⟨p, rfl⟩ := List.length_eq_one_iff.mp hps
    rfl

/-- A toggle that cannot be followed: its group is unknown, or mandatory and to be switched off. -/
def Registry.Rejects (registry : Registry) (t : Config.GroupToggle) : Prop :=
  ∀ g, registry.group? t.name = some g → t.enabled = false ∧ g.mandatory = true

namespace ManagedGroups

theorem Placing.grows {s : Selection} {enforce : Bool} {gs : List ManagedGroup} {a b : Allocator}
    {out : Except Failure (List Rule)} (h : Placing s enforce gs a out b) :
    ∃ added, a.Grows b added ∧ ∀ rs, out = .ok rs → added = Rule.claims rs := by
  induction h with
  | done a =>
    refine ⟨[], .refl a, fun rs h ↦ ?_⟩
    obtain rfl := Except.ok.inj h
    rfl
  | off _ _ ih => exact ih
  | refused => exact ⟨[], .refl _, nofun⟩
  | @given g _ a _ _ _ _ owns free _ ih =>
    obtain ⟨more, hgrows, hok⟩ := ih
    let p := (Band.of .managed).first + g.slot
    have hclaim : a.Grows (a.claim .managed [p]) [(p, .managed)] :=
      .claim (List.nodup_singleton p) (by simpa using ⟨owns, free⟩)
    refine ⟨_, hclaim.trans hgrows, fun rs h ↦ ?_⟩
    obtain ⟨rest, hrest, rfl⟩ := Outcome.map_eq_ok_iff.mp h
    rw [hok rest hrest]
    rfl

theorem exec_build_of_rejects {registry : Registry} {toggles : List Config.GroupToggle}
    (h : ∃ t ∈ toggles, registry.Rejects t) (excludedCommon : List String) (enforce : Bool)
    (s : Session) :
    ∃ f, (build toggles excludedCommon enforce registry).exec s = (.error f, s) := by
  obtain ⟨t, ht, hrejects⟩ := h
  have hselect : ¬ ∃ selection, select registry toggles excludedCommon = .ok selection := by
    rw [exists_select_iff]
    intro hall
    obtain ⟨g, hg, hfollowed⟩ := hall t ht
    obtain ⟨hoff, hmandatory⟩ := hrejects g hg
    simp [hoff, hmandatory] at hfollowed
  unfold build
  rw [exec_bind, exec_ofProblem]
  cases hs : select registry toggles excludedCommon with
  | error p => exact ⟨_, rfl⟩
  | ok selection => exact absurd ⟨selection, hs⟩ hselect

theorem grows_build (toggles : List Config.GroupToggle) (excludedCommon : List String)
    (enforce : Bool) (registry : Registry) (s : Session) :
    ∃ added, s.allocator.Grows
        ((build toggles excludedCommon enforce registry).exec s).2.allocator added ∧
      ∀ rs, ((build toggles excludedCommon enforce registry).exec s).1 = .ok rs →
        added = Rule.claims rs := by
  unfold build
  simp only [exec_bind, exec_ofProblem]
  cases select registry toggles excludedCommon with
  | error p => exact ⟨[], .refl _, nofun⟩
  | ok selection =>
    obtain ⟨added, hgrows, hok⟩ := (placing_rules selection enforce registry.inOrder s).grows
    simp only [Outcome.mapError_ok]
    cases hr : ((rules selection enforce registry.inOrder).exec s).1 with
    | error e => exact ⟨added, hgrows, nofun⟩
    | ok rs =>
      refine ⟨added, hgrows, fun rs' h ↦ ?_⟩
      obtain rfl := Except.ok.inj h
      exact hok rs hr

end ManagedGroups

inductive Maker where
  | addressList (k : Category) (addresses : Option (List String)) (policyName : String)
  | patternList (k : Category) (patterns : Option (List String)) (policyName : String)
  | managedGroups (toggles : List Config.GroupToggle) (excludedCommon : List String)
    (enforce : Bool) (registry : Registry)
  | rateLimit (limit : Option Config.RateLimit) (enforce : Bool)
  | customRules (k : Category) (rules : List Config.CustomRule)

namespace Maker

def make [Machine] : Maker → Compiling (List Rule)
  | addressList k addresses policyName => AddressList.build k addresses policyName
  | patternList k patterns policyName => PatternList.build k patterns policyName
  | managedGroups toggles excludedCommon enforce registry =>
    ManagedGroups.build toggles excludedCommon enforce registry
  | rateLimit limit enforce => Config.RateLimit.build limit enforce
  | customRules k rules => Compiling.ofExcept (Config.CustomRule.build k rules)

def claims : Maker → List Rule → List (Int × Category)
  | customRules .., _ => []
  | _, rules => Rule.claims rules

def IsOff : Maker → Prop
  | addressList _ addresses _ => addresses = none
  | patternList _ patterns _ => patterns = none
  | rateLimit limit _ => limit = none
  | _ => False

/-- Whatever fails does so before anything is claimed. Groups are given their slots if no toggle is
rejected. -/
def FailsEarly : Maker → Prop
  | managedGroups toggles _ _ registry => ∃ t ∈ toggles, registry.Rejects t
  | _ => True

theorem grows_make [Machine] (m : Maker) (s : Session) :
    ∃ added, s.allocator.Grows (m.make.exec s).2.allocator added ∧
      (∀ rules, (m.make.exec s).1 = .ok rules → added = m.claims rules) ∧
      ∀ f, (m.make.exec s).1 = .error f → m.FailsEarly → added = [] := by
  have hsettled : ∀ {x : Compiling (List Rule)}, Settled s.allocator (x.exec s) → ∃ added,
      s.allocator.Grows (x.exec s).2.allocator added ∧
      (∀ rules, (x.exec s).1 = .ok rules → added = Rule.claims rules) ∧
      ∀ f, (x.exec s).1 = .error f → True → added = [] := by
    intro x h
    cases hr : (x.exec s).1 with
    | ok rules =>
      refine ⟨_, h.grows hr, fun rules' heq ↦ ?_, nofun⟩
      rw [Except.ok.inj heq]
    | error f => exact ⟨[], h.allocator_eq hr ▸ .refl _, nofun, fun _ _ _ ↦ rfl⟩
  cases m with
  | addressList k addresses policyName => exact hsettled (AddressList.settled_build ..)
  | patternList k patterns policyName => exact hsettled (PatternList.settled_build ..)
  | rateLimit limit enforce => exact hsettled (Config.RateLimit.settled_build ..)
  | customRules k rules =>
    simp only [make, exec_ofExcept]
    exact ⟨[], .refl _, fun _ _ ↦ rfl, fun _ _ _ ↦ rfl⟩
  | managedGroups toggles excludedCommon enforce registry =>
    by_cases hrejects : ∃ t ∈ toggles, registry.Rejects t
    · obtain ⟨f, hf⟩ := ManagedGroups.exec_build_of_rejects hrejects excludedCommon enforce s
      simp only [make, hf]
      exact ⟨[], .refl _, nofun, fun _ _ _ ↦ rfl⟩
    · obtain ⟨added, hgrows, hok⟩ :=
        ManagedGroups.grows_build toggles excludedCommon enforce registry s
      exact ⟨added, hgrows, hok, fun _ _ hearly ↦ absurd hearly hrejects⟩

theorem exec_make_of_isOff [Machine] {m : Maker} (h : m.IsOff) (s : Session) :
    m.make.exec s = (.ok [], s) := by
  cases m with
  | addressList k addresses policyName =>
    obtain rfl : addresses = none := h
    simp only [make, AddressList.build]
    cases AddressList.of? k <;> rfl
  | patternList k patterns policyName =>
    obtain rfl : patterns = none := h
    simp only [make, PatternList.build]
    cases PatternList.of? k <;> rfl
  | rateLimit limit enforce =>
    obtain rfl : limit = none := h
    rfl
  | managedGroups | customRules => exact h.elim

end Maker

inductive Task where
  | call (c : Allocator.Call)
  | make (m : Maker)

namespace Task

def perform [Machine] (s : Session) : Task → Session
  | call c => (c.serve.exec s).2
  | make m => (m.make.exec s).2

def after [Machine] (tasks : List Task) : Session :=
  tasks.foldl perform {}

theorem sound_perform [Machine] {s : Session} (hs : s.allocator.Sound) (t : Task) :
    (t.perform s).allocator.Sound := by
  cases t with
  | call c => exact c.sound_exec hs
  | make m =>
    obtain ⟨added, hgrows, -, -⟩ := m.grows_make s
    exact hgrows.sound hs

theorem sound_after [Machine] (tasks : List Task) : (after tasks).allocator.Sound := by
  suffices ∀ s : Session, s.allocator.Sound → (tasks.foldl perform s).allocator.Sound from
    this {} ⟨by simp, by simp⟩
  induction tasks with
  | nil => exact fun s hs ↦ hs
  | cons t ts ih => exact fun s hs ↦ ih _ (t.sound_perform hs)

end Task

/-- Making rules, after whatever was done with the table: if they are made, the table has grown by
claims on their priorities, each for the category of its rule, or by none if they are rules of the
user. If they are not, the table is as it was, unless managed groups fail for another reason than a
toggle, and a toggle that is rejected does make them fail. A feature that is switched off changes
nothing. -/
theorem claims_of_making [Machine] (tasks : List Task) (m : Maker) :
    let s := Task.after tasks
    let r := m.make.exec s
    s.allocator.Sound ∧
    (∀ rules, r.1 = .ok rules → s.allocator.Grows r.2.allocator (m.claims rules)) ∧
    (∀ f, r.1 = .error f → m.FailsEarly → r.2.allocator = s.allocator) ∧
    (∀ toggles excludedCommon enforce registry,
      m = .managedGroups toggles excludedCommon enforce registry →
      (∃ t ∈ toggles, registry.Rejects t) → ∃ f, r.1 = .error f) ∧
    (∀ k rules, m = .customRules k rules → r.2.allocator = s.allocator) ∧
    (m.IsOff → r = (.ok [], s)) := by
  intro s r
  obtain ⟨added, hgrows, hok, herror⟩ := m.grows_make s
  refine ⟨Task.sound_after tasks, fun rules h ↦ ?_, fun f h hearly ↦ ?_, ?_, ?_,
    fun hoff ↦ m.exec_make_of_isOff hoff s⟩
  · rw [← hok rules h]
    exact hgrows
  · rw [herror f h hearly] at hgrows
    exact hgrows.eq
  · rintro toggles excludedCommon enforce registry rfl hrejects
    obtain ⟨f, hf⟩ := ManagedGroups.exec_build_of_rejects hrejects excludedCommon enforce s
    exact ⟨f, congrArg Prod.fst hf⟩
  · rintro k rules rfl
    exact congrArg (·.2.allocator) (exec_ofExcept (Config.CustomRule.build k rules) s)

section

open UsualMachine

/-- A rate limit is made; a second one finds its band full. A block list with a bad last address
and a group that does not exist leave no trace. -/
example : (Task.after [
    .make (.rateLimit (some { threshold := 100 }) true),
    .make (.rateLimit (some { threshold := 200 }) true),
    .make (.addressList .blockV4 (some ["10.0.0.0/8", "10.0.0.0"]) "acme"),
    .make (.managedGroups [{ name := "php" }, { name := "nix" }] [] true .builtIn),
    .call (.slot .blockV4 1)]).allocator.claimed = [(30, .rateLimit), (2, .blockV4)] := by
  decide

end

end WebAcl
