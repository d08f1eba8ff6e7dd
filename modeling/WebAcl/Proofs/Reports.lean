import Mathlib.Algebra.Group.Nat.Defs
import WebAcl.Proofs.ExactAcceptance

namespace WebAcl

open Compiling Text Outcome

/-- A report says that a configuration cannot be compiled, and why. -/
def Problem.IsReport (p : Problem) : Prop :=
  p.isCompilation = true ∧ p.message ≠ ""

theorem Problem.Cause.message_ne_empty {c : Cause}
    (h : c ∉ [.general, .compilation, .configuration, .brokenInvariant]) : c.message ≠ "" := by
  cases c with
  | general | compilation | configuration | brokenInvariant => simp at h
  | configFile path =>
    dsimp only [message]
    split <;> simp [toString]
  | _ =>
    dsimp only [message]
    simp [toString]

theorem Problem.isReport_of_cause {p : Problem} (hkind : p.isCompilation = true)
    (h : p.cause ∉ [.general, .compilation, .configuration, .brokenInvariant]) : p.IsReport := by
  refine ⟨hkind, ?_⟩
  unfold message
  split
  · exact Cause.message_ne_empty h
  · assumption

theorem Problem.isReport_of_note {p : Problem} (hkind : p.isCompilation = true)
    (h : p.note ≠ "") : p.IsReport :=
  ⟨hkind, by simp [message, h]⟩

inductive Failure.IsReportOr (P : Crash → Prop) : Failure → Prop
  | report {p : Problem} (isReport : p.IsReport) : IsReportOr P (.problem p)
  | crash {x : Crash} (holds : P x) : IsReportOr P (.crash x)

theorem Failure.isReportOr_ofProblem {P : Crash → Prop} {p : Problem} (h : p.IsReport)
    (hlong : p.cause.isWritable = false → P .hugeInteger) : (ofProblem p).IsReportOr P := by
  unfold ofProblem
  split
  next => exact .report h
  next hw => exact .crash (hlong (by simpa using hw))

theorem Number.isWritable_of_lt {i : Int} {n : Nat} (hn : n ≤ digitLimit)
    (h : i.natAbs < 10 ^ n) : Number.isWritable i = true := by
  -- for every exponent, since the power at the limit itself would be evaluated
  have hpow : ∀ {m : Nat}, n ≤ m → i.natAbs < Nat.pow 10 m := fun hm ↦
    Nat.lt_of_lt_of_le h (Nat.pow_le_pow_right (by decide) hm)
  have hlimit := hpow hn
  rw [isWritable, decide_eq_true_eq]
  exact hlimit

theorem Number.isWritable_of_small {i : Int} (hlow : -1000 ≤ i) (hhigh : i ≤ 1000) :
    Number.isWritable i = true :=
  isWritable_of_lt (n := 4) (by decide) (by omega)

namespace Config

/-- Why a compilation crashes instead of reporting a problem. -/
inductive CrashesBy [Machine] (registry : Registry) (c : Config) : Crash → Prop
  | pattern {k : Category} {listed : List String} {pattern : String} {fault : Regex.Fault}
      {crash : Crash} (listed_eq : c.patterns? k = some listed) (mem : pattern ∈ listed)
      (faulty : Regex.check Machine.release pattern.toList = .error fault)
      (crashes : fault.crash? = some crash) : CrashesBy registry c crash
  | statement {r : CustomRule} (mem : r ∈ c.userRules)
      (deep : ¬ Machine.copying.fits 0 r.body = true) : CrashesBy registry c .nestedTooDeep
  | priority {r : CustomRule} (mem : r ∈ c.userRules)
      (long : Number.isWritable r.priority = false) : CrashesBy registry c .hugeInteger
  | slot {g : ManagedGroup} (mem : g ∈ registry.groups)
      (long : Number.isWritable (g.slot + 1) = false) : CrashesBy registry c .hugeInteger

end Config

theorem Allocator.isReport_slot {a : Allocator} {offset : Int} {p : Problem}
    (h : a.slot .managed offset = .error p) :
    p.IsReport ∧ (p.cause.isWritable = false → Number.isWritable (offset + 1) = false) := by
  have hwidth : Number.isWritable ((Band.of .managed).width?.getD 0) = true :=
    Number.isWritable_of_small (by decide) (by decide)
  unfold slot at h
  rw [fixedBand_of_fixed rfl, ok_bind] at h
  dsimp only at h
  generalize (Band.of .managed).width?.getD 0 = width at h hwidth
  split at h
  · simp only [throw_eq_error, error_bind, Except.error.injEq] at h
    subst h
    exact ⟨Problem.isReport_of_cause rfl (by simp),
      by simp [Problem.Cause.isWritable, hwidth]⟩
  · split at h
    · simp only [throw_eq_error, error_bind, Except.error.injEq] at h
      subst h
      exact ⟨Problem.isReport_of_note rfl (by simp [toString]), by simp [Problem.Cause.isWritable]⟩
    · simp at h

theorem ManagedGroups.Placing.onlyFails {P : Failure → Prop} {s : Selection} {enforce : Bool}
    {gs : List ManagedGroup} {a b : Allocator} {out : Except Failure (List Rule)}
    (hplacing : Placing s enforce gs a out b)
    (h : ∀ g ∈ gs, ∀ a p, Allocator.slot a .managed g.slot = .error p → P (.ofProblem p)) :
    OnlyFails P out := by
  induction hplacing with
  | done => exact .ok _
  | off _ _ ih => exact ih (List.forall_mem_cons.mp h).2
  | refused gs _ refusal => exact .error ((List.forall_mem_cons.mp h).1 _ _ refusal)
  | @given _ _ _ _ _ out _ _ _ _ ih =>
    have hrest := ih (List.forall_mem_cons.mp h).2
    cases out with
    | ok rs => exact .ok _
    | error f => exact .error (hrest f rfl)

theorem RuleList.isReportOr_breach? {P : Crash → Prop} {enforce : Bool} {r : Rule}
    {failure : Failure} (hlong : Number.isWritable r.priority = false → P .hugeInteger)
    (h : breach? enforce r = some failure) : failure.IsReportOr P := by
  have hnote : ∀ {message}, message ≠ "" →
      some (.problem (invariantProblem message)) = some failure → failure.IsReportOr P := by
    rintro message hne hsome
    obtain rfl := Option.some.inj hsome
    exact .report (Problem.isReport_of_note rfl hne)
  unfold breach? at h
  extract_lets band refused mismatch at h
  have hmismatch : ∀ {kind text}, mismatch kind text = some failure → _ :=
    hnote (by simp [toString])
  split at h
  · split at h
    · exact hnote (by simp [toString]) h
    next hpriority =>
      obtain rfl := Option.some.inj h
      exact .crash (hlong (by simpa using hpriority))
  · split at h
    · exact hnote (by simp [toString]) h
    · exact hnote (by simp [toString]) h
    all_goals
      split at h
      · exact hmismatch h
      · simp at h

namespace Config

variable {registry : Registry} {c : Config}

/-- Only the user can choose a priority that is too long to be written. -/
theorem crashesBy_of_long_priority [Machine] {name : String} {out : Category → List Rule}
    (hout : ∀ k, (c.feature registry name k).alone = .ok (out k)) {r : Rule}
    (hr : r ∈ Choice.all.flatMap out) (hlong : Number.isWritable r.priority = false) :
    c.CrashesBy registry .hugeInteger := by
  obtain ⟨k, -, hr⟩ := List.mem_flatMap.mp hr
  cases hk : (Band.of k).custom with
  | true =>
    obtain ⟨-, heq⟩ := (alone_custom_eq_ok_iff hk).mp (hout k)
    rw [heq] at hr
    obtain ⟨u, hu, rfl⟩ := List.mem_map.mp hr
    have hmem : u ∈ c.userRules := by
      cases k <;> simp_all [customRules, userRules]
    exact .priority hmem hlong
  | false =>
    have hcontains := Band.contains_iff.mp (madeFor_of_feature (hout k) r hr).contains
    have hbounds : -1000 ≤ r.priority ∧ r.priority ≤ 1000 := by
      cases k <;> simp [Band.of] at hk hcontains <;> omega
    simp [Number.isWritable_of_small hbounds.1 hbounds.2] at hlong

theorem covers_isReportOr [Machine] (registry : Registry) (c : Config) :
    c.Covers registry (Failure.IsReportOr (c.CrashesBy registry)) where
  field _ _ _ := .report (Problem.isReport_of_cause rfl (by simp))
  address _ _ _ := .report (Problem.isReport_of_cause rfl (by simp))
  pattern _ _ _ := .report (Problem.isReport_of_cause rfl (by simp))
  crash _ _ _ _ _ hlist hmem hfault hcrash := .crash (.pattern hlist hmem hfault hcrash)
  collision _ hr _ _ :=
    Failure.isReportOr_ofProblem (Problem.isReport_of_cause rfl (by simp)) (.priority hr)
  deep _ hr hdeep := .crash (.statement hr hdeep)
  mandatory _ := .report (Problem.isReport_of_cause rfl (by simp))
  slots s _ := by
    refine (ManagedGroups.placing_rules ..).onlyFails fun g hg a p hp ↦ ?_
    have hmem : g ∈ registry.groups := List.mem_mergeSort.mp hg
    obtain ⟨hreport, hlong⟩ := Allocator.isReport_slot hp
    exact Failure.isReportOr_ofProblem hreport fun h ↦ .slot hmem (hlong h)
  arrangement name out hout := by
    refine RuleList.onlyFails_arrange (fun _ ↦ ?_) (fun r hr _ ↦ ?_) fun r hr _ hbreach ↦ ?_
    · exact .report (Problem.isReport_of_cause rfl (by simp))
    · exact Failure.isReportOr_ofProblem (Problem.isReport_of_cause rfl (by simp))
        (crashesBy_of_long_priority hout hr)
    · exact RuleList.isReportOr_breach? (crashesBy_of_long_priority hout hr) hbreach

end Config

theorem PatternList.checkPattern_malformed [Machine] (field : String) {pattern message : String}
    {position : Option Nat}
    (h : Regex.check Machine.release pattern.toList = .error (.malformed message position)) :
    ∃ reason, checkPattern field pattern =
      .error (.problem { cause := .invalidPattern field pattern reason }) := by
  unfold checkPattern
  dsimp only
  split
  · exact ⟨_, rfl⟩
  · split
    · exact ⟨_, rfl⟩
    · rw [h]
      exact ⟨_, rfl⟩

namespace Config

/-- Every failure of a compilation is a report or has one of the known reasons to be a crash. A
malformed pattern is reported, with its field, if nothing before it fails. -/
theorem failure_of_compile [Machine] (registry : Registry) (c : Config) :
    (∀ failure, c.compile registry = .error failure →
      failure.IsReportOr (c.CrashesBy registry)) ∧
    ∀ (k : Category) (d : PatternList) (earlier later : List Category)
      (before after : List String) (pattern message : String) (position : Option Nat),
      PatternList.of? k = some d → Choice.all = earlier ++ k :: later → strip c.name ≠ "" →
      (∀ l ∈ earlier, ∃ rules, (c.feature registry (strip c.name) l).alone = .ok rules) →
      c.patterns? k = some (before ++ pattern :: after) →
      (∀ q ∈ before, ∃ checked, PatternList.checkPattern d.field q = .ok checked) →
      Regex.check Machine.release pattern.toList = .error (.malformed message position) →
      ∃ reason, c.compile registry =
        .error (.problem { cause := .invalidPattern d.field pattern reason }) := by
  refine ⟨(covers_isReportOr registry c).onlyFails_compile, ?_⟩
  intro k d earlier later before after pattern message position hd hall hname hearlier hlist
    hbefore hfault
  obtain ⟨reason, hrefused⟩ := PatternList.checkPattern_malformed d.field hfault
  have hchecked : PatternList.checkPatterns d.field (before ++ pattern :: after) = _ :=
    mapM_eq_error hbefore hrefused
  have hfeature : (c.feature registry (strip c.name) k).alone =
      .error (.problem { cause := .invalidPattern d.field pattern reason }) := by
    have hbuild : c.feature registry (strip c.name) k =
        PatternList.build k (c.patterns? k) (strip c.name) := by
      cases k <;> first | rfl | simp [PatternList.of?] at hd
    rw [hbuild, hlist, PatternList.alone_build_some hd, hchecked, error_bind]
  refine ⟨reason, ?_⟩
  rw [compile_eq, if_neg hname, hall, mapM_eq_error hearlier hfeature, error_bind]

def unclosed : Config where
  name := "acme"
  allowedPaths := some ["^/a", "["]

section

open UsualMachine

theorem unclosed_reported : ∃ reason, unclosed.compile .builtIn =
    .error (.problem { cause := .invalidPattern "allowed_paths" "[" reason }) := by
  have hearlier : ∀ k ∈ [Category.preCustom, .blockV4, .blockV6],
      ∃ rules, (unclosed.feature .builtIn (strip "acme") k).alone = .ok rules := by
    simp only [List.forall_mem_cons]
    exact ⟨⟨[], rfl⟩, ⟨[], rfl⟩, ⟨[], rfl⟩, List.forall_mem_nil _⟩
  have hfault : Regex.check Machine.release "[".toList =
      .error (.malformed "unterminated character set" (some 0)) := by decide
  have hbefore : ∀ q ∈ ["^/a"], ∃ checked,
      PatternList.checkPattern "allowed_paths" q = .ok checked := by
    simp only [List.forall_mem_cons]
    exact ⟨⟨"^/a", by decide⟩, List.forall_mem_nil _⟩
  exact (failure_of_compile .builtIn unclosed).2 .allowPath _ _ _ ["^/a"] [] "[" _ _
    rfl rfl (by decide) hearlier rfl hbefore hfault

end

def uncountable : Config where
  name := "acme"
  allowedPaths := some ["a\x7b4294967295\x7d"]

section

open UsualMachine

/-- A count that is beyond every limit makes the compilation crash, and is not reported. -/
theorem uncountable_crashes : uncountable.Validated ∧
    uncountable.compile .builtIn = .error (.crash .hugeCount) ∧
      ¬ ∀ failure, uncountable.compile .builtIn = .error failure →
        ∃ p, failure = .problem p ∧ p.isCompilation = true := by
  have hfails : uncountable.compile .builtIn = .error (.crash .hugeCount) := by
    have hname : strip uncountable.name = "acme" := by decide
    have hcheck : PatternList.checkPatterns "allowed_paths" ["a\x7b4294967295\x7d"] =
        .error (.crash .hugeCount) := by decide +kernel
    have hpath : (uncountable.feature .builtIn "acme" .allowPath).alone =
        .error (.crash .hugeCount) := by
      rw [feature]
      change (PatternList.build .allowPath (some ["a\x7b4294967295\x7d"]) "acme").alone = _
      rw [PatternList.alone_build_some rfl, hcheck, error_bind]
    have hearlier : ∀ k ∈ [Category.preCustom, .blockV4, .blockV6],
        ∃ rules, (uncountable.feature .builtIn "acme" k).alone = .ok rules := by
      simp only [List.forall_mem_cons]
      exact ⟨⟨[], rfl⟩, ⟨[], rfl⟩, ⟨[], rfl⟩, List.forall_mem_nil _⟩
    rw [compile_eq, hname, if_neg (by decide)]
    have hall := @mapM_eq_error _ _ _ _ _ _ _
      [.allowV4, .allowV6, .allowUserAgent, .managed, .rateLimit, .postCustom] hearlier hpath
    simp only [List.cons_append, List.nil_append] at hall
    simp only [Choice.all, hall, error_bind]
  refine ⟨⟨by decide, by decide, by decide⟩, hfails, fun h ↦ ?_⟩
  obtain ⟨p, hp, -⟩ := h _ hfails
  simp at hp

end

end Config

end WebAcl
