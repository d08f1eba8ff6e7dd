import WebAcl.Proofs.Arrangement

namespace WebAcl

open Outcome

structure Rule.Fits (enforce : Bool) (r : Rule) : Prop where
  inBand : (Band.of r.category).contains r.priority = true
  oneOutcome : r.HasOneOutcome
  followsMode : r.FollowsMode enforce

/-- A problem whose message has a number in it; without the number there is no message. -/
def Failure.naming (number : Int) (p : Problem) : Failure :=
  if Number.isWritable number then .problem p else .crash .hugeInteger

theorem Failure.ofProblem_duplicatePriority (priority : Int) (names : List String) :
    ofProblem { cause := .duplicatePriority priority names } =
      naming priority { cause := .duplicatePriority priority names } := rfl

theorem Number.isWritable_of_le {n : Nat} (h : Nat.pow 10 Text.digitLimit ≤ n) :
    Number.isWritable n = false := by
  unfold Number.isWritable
  rw [Int.natAbs_natCast, decide_eq_false_iff_not, Nat.not_lt]
  exact h

namespace RuleList

variable {rules : List Rule} {enforce : Bool}

def wrongMode (r : Rule) (kind text : String) : Problem :=
  invariantProblem s!"Rule '{r.name}' {kind} {text} does not match mode"

inductive Misfit (enforce : Bool) (r : Rule) : Failure → Prop
  | band (outside : (Band.of r.category).contains r.priority = false) :
    Misfit enforce r (.naming r.priority (invariantProblem
      (s!"Rule '{r.name}' priority {r.priority} is outside band " ++
        s!"'{Choice.text r.category}' ({(Band.of r.category).label})")))
  | outcome (inBand : (Band.of r.category).contains r.priority = true)
    (notOne : ¬ r.HasOneOutcome) :
    Misfit enforce r (.problem (invariantProblem
      s!"Rule '{r.name}' must have exactly one of action or override action"))
  | action {a : RuleAction} (inBand : (Band.of r.category).contains r.priority = true)
    (action_eq : r.action = some a) (override_eq : r.override = none)
    (sensitive : r.modeSensitive = true) (other : a ≠ Mode.action enforce) :
    Misfit enforce r (.problem (wrongMode r "action" (Choice.text a)))
  | override {o : OverrideAction} (inBand : (Band.of r.category).contains r.priority = true)
    (action_eq : r.action = none) (override_eq : r.override = some o)
    (sensitive : r.modeSensitive = true) (other : o ≠ Mode.override enforce) :
    Misfit enforce r (.problem (wrongMode r "override" (Choice.text o)))

structure Orderly (enforce : Bool) (rules : List Rule) : Prop where
  names : (rules.map (·.name)).Nodup
  priorities : (rules.map (·.priority)).Nodup
  fits : ∀ r ∈ rules, r.Fits enforce

/-- Why a list of rules is refused, with the rule at which this shows. -/
inductive Refuses (enforce : Bool) (rules : List Rule) : Failure → Prop
  | name {before after : List Rule} {r : Rule} (split : rules = before ++ r :: after)
    (fresh : (before.map (·.name)).Nodup) (taken : r.name ∈ before.map (·.name)) :
    Refuses enforce rules (.problem { cause := .duplicateName r.name })
  | priority {before after : List Rule} {r : Rule} (names : (rules.map (·.name)).Nodup)
    (split : rules = before ++ r :: after)
    (single : ∀ s ∈ before, (rules.map (·.priority)).count s.priority = 1)
    (shared : 1 < (rules.map (·.priority)).count r.priority) :
    Refuses enforce rules (.naming r.priority
      { cause := .duplicatePriority r.priority (namesAt rules r.priority) })
  | misfit {before after : List Rule} {r : Rule} {failure : Failure}
    (names : (rules.map (·.name)).Nodup) (priorities : (rules.map (·.priority)).Nodup)
    (split : rules = before ++ r :: after) (fit : ∀ s ∈ before, s.Fits enforce)
    (misfit : Misfit enforce r failure) : Refuses enforce rules failure

theorem breach?_eq_none_iff_fits {r : Rule} : breach? enforce r = none ↔ r.Fits enforce := by
  rw [breach?_eq_none_iff]
  exact ⟨fun ⟨h, h', h''⟩ ↦ ⟨h, h', h''⟩, fun h ↦ ⟨h.inBand, h.oneOutcome, h.followsMode⟩⟩

theorem misfit_of_breach? {r : Rule} {failure : Failure} (h : breach? enforce r = some failure) :
    Misfit enforce r failure := by
  unfold breach? at h
  extract_lets band refused mismatch at h
  cases hb : band.contains r.priority with
  | false =>
    have hband : Misfit enforce r _ := .band hb
    rw [hb, Bool.not_false, if_pos rfl] at h
    unfold Failure.naming at hband
    cases hw : Number.isWritable r.priority with
    | false =>
      rw [hw, if_neg Bool.false_ne_true] at h hband
      obtain rfl := Option.some.inj h
      exact hband
    | true =>
      rw [hw, if_pos rfl] at h hband
      obtain rfl := Option.some.inj h
      exact hband
  | true =>
    rw [hb, Bool.not_true, if_neg Bool.false_ne_true] at h
    split at h
    next ha ho =>
      obtain rfl := Option.some.inj h
      exact .outcome hb (by simp [Rule.HasOneOutcome, ha, ho])
    next ha ho =>
      obtain rfl := Option.some.inj h
      exact .outcome hb (by simp [Rule.HasOneOutcome, ha, ho])
    next a ha ho =>
      split at h
      next hs =>
        obtain rfl := Option.some.inj h
        simp only [Bool.and_eq_true, bne_iff_ne] at hs
        exact .action hb ha ho hs.1 hs.2
      next => cases h
    next o ha ho =>
      split at h
      next hs =>
        obtain rfl := Option.some.inj h
        simp only [Bool.and_eq_true, bne_iff_ne] at hs
        exact .override hb ha ho hs.1 hs.2
      next => cases h

theorem breach?_of_misfit {r : Rule} {failure : Failure} (h : Misfit enforce r failure) :
    breach? enforce r = some failure := by
  cases h with
  | band outside =>
    cases hw : Number.isWritable r.priority <;> simp [breach?, outside, hw, Failure.naming]
  | outcome inBand notOne =>
    unfold Rule.HasOneOutcome at notOne
    cases ha : r.action <;> cases ho : r.override <;> simp_all [breach?]
  | action inBand ha ho sensitive other =>
    simp [breach?, inBand, ha, ho, sensitive, other, wrongMode]
  | override inBand ha ho sensitive other =>
    simp [breach?, inBand, ha, ho, sensitive, other, wrongMode]

theorem repeatedName?_append {seen : List String} {before rest : List Rule}
    (hfresh : (before.map (·.name)).Nodup) (hnew : ∀ s ∈ before, s.name ∉ seen) :
    repeatedName? seen (before ++ rest) = repeatedName? (seen ++ before.map (·.name)) rest := by
  induction before generalizing seen with
  | nil => simp
  | cons b before ih =>
    obtain ⟨hb, hfresh⟩ := List.nodup_cons.mp hfresh
    obtain ⟨hbseen, hnew⟩ := List.forall_mem_cons.mp hnew
    have hnew' : ∀ s ∈ before, s.name ∉ seen ++ [b.name] := by
      intro s hs h
      rcases List.mem_append.mp h with h | h
      · exact hnew s hs h
      · exact hb (List.mem_map.mpr ⟨s, hs, List.mem_singleton.mp h⟩)
    rw [List.cons_append, repeatedName?, if_neg (by simpa using hbseen), ih hfresh hnew']
    simp

theorem exists_split_of_repeatedName? {seen : List String} {name : String}
    (h : repeatedName? seen rules = some name) : ∃ before r after, rules = before ++ r :: after ∧
      (before.map (·.name)).Nodup ∧ (∀ s ∈ before, s.name ∉ seen) ∧
      r.name ∈ seen ++ before.map (·.name) ∧ r.name = name := by
  induction rules generalizing seen with
  | nil => cases h
  | cons r rs ih =>
    rw [repeatedName?] at h
    by_cases hr : r.name ∈ seen
    · rw [if_pos (by simpa using hr), Option.some.injEq] at h
      exact ⟨[], r, rs, rfl, .nil, by simp, List.mem_append_left _ hr, h⟩
    · rw [if_neg (by simpa using hr)] at h
      obtain ⟨before, s, after, rfl, hfresh, hnew, htaken, hname⟩ := ih h
      refine ⟨r :: before, s, after, rfl, ?_, ?_, by simpa using htaken, hname⟩
      · refine List.nodup_cons.mpr ⟨fun hmem ↦ ?_, hfresh⟩
        obtain ⟨t, ht, hrt⟩ := List.mem_map.mp hmem
        exact hnew t ht (List.mem_append_right _ (List.mem_singleton.mpr hrt))
      · exact List.forall_mem_cons.mpr
          ⟨hr, fun t ht hmem ↦ hnew t ht (List.mem_append_left _ hmem)⟩

theorem repeatedPriority?_eq_some_iff {priority : Int} {names : List String} :
    repeatedPriority? rules = some (priority, names) ↔
      ∃ before r after, rules = before ++ r :: after ∧
        (∀ s ∈ before, (rules.map (·.priority)).count s.priority = 1) ∧
        1 < (rules.map (·.priority)).count r.priority ∧
        priority = r.priority ∧ names = namesAt rules r.priority := by
  simp only [repeatedPriority?, Option.map_eq_some_iff, List.find?_eq_some_iff_append,
    length_namesAt, decide_eq_true_eq, Prod.mk.injEq]
  constructor
  · rintro ⟨r, ⟨hshared, before, after, hsplit, hsingle⟩, rfl, rfl⟩
    refine ⟨before, r, after, hsplit, fun s hs ↦ ?_, hshared, rfl, rfl⟩
    have hle := hsingle s hs
    have hpos : 0 < (rules.map (·.priority)).count s.priority := by
      refine List.count_pos_iff.mpr (List.mem_map.mpr ⟨s, ?_, rfl⟩)
      exact hsplit ▸ List.mem_append_left _ hs
    simp only [Bool.not_eq_true', decide_eq_false_iff_not] at hle
    omega
  · rintro ⟨before, r, after, hsplit, hsingle, hshared, rfl, rfl⟩
    refine ⟨r, ⟨hshared, before, after, hsplit, fun s hs ↦ ?_⟩, rfl, rfl⟩
    simp [hsingle s hs]

/-- The three checks come one after the other; the last one, of the order, finds nothing. -/
theorem arrange_eq_error_iff {failure : Failure} :
    arrange rules enforce = .error failure ↔
      (∃ name, repeatedName? [] rules = some name ∧
        failure = .problem { cause := .duplicateName name }) ∨
      ((rules.map (·.name)).Nodup ∧ ∃ priority names,
        repeatedPriority? rules = some (priority, names) ∧
          failure = .naming priority { cause := .duplicatePriority priority names }) ∨
      ((rules.map (·.name)).Nodup ∧ (rules.map (·.priority)).Nodup ∧
        rules.findSome? (breach? enforce) = some failure) := by
  have hname : repeatedName? [] rules = none ↔ _ := repeatedName?_eq_none_iff
  simp only [List.not_mem_nil, not_false_eq_true, implies_true, and_true] at hname
  rw [← hname, ← repeatedPriority?_eq_none_iff, arrange]
  cases hn : repeatedName? [] rules with
  | some name => simp [eq_comm]
  | none =>
    cases hp : repeatedPriority? rules with
    | some found =>
      obtain ⟨priority, names⟩ := found
      simp [eq_comm, Failure.ofProblem_duplicatePriority]
    | none =>
      have hd := descent?_eq_none (sorted_pairwise_lt (repeatedPriority?_eq_none_iff.mp hp))
      cases rules.findSome? (breach? enforce) <;> simp [hd]

theorem failure_arrange_iff {failure : Failure} :
    arrange rules enforce = .error failure ↔ Refuses enforce rules failure := by
  rw [arrange_eq_error_iff]
  constructor
  · rintro (⟨name, hname, rfl⟩ | ⟨hnames, priority, names, hfound, hfailure⟩ |
      ⟨hnames, hpriorities, hfound⟩)
    · obtain ⟨before, r, after, hsplit, hfresh, -, htaken, rfl⟩ :=
        exists_split_of_repeatedName? hname
      exact .name hsplit hfresh htaken
    · obtain ⟨before, r, after, hsplit, hsingle, hshared, rfl, rfl⟩ :=
        repeatedPriority?_eq_some_iff.mp hfound
      rw [hfailure]
      exact .priority hnames hsplit hsingle hshared
    · obtain ⟨before, r, after, hsplit, hbreach, hfit⟩ := List.findSome?_eq_some_iff.mp hfound
      exact .misfit hnames hpriorities hsplit
        (fun s hs ↦ breach?_eq_none_iff_fits.mp (hfit s hs)) (misfit_of_breach? hbreach)
  · intro h
    cases h with
    | @name before after r hsplit hfresh htaken =>
      refine .inl ⟨r.name, ?_, rfl⟩
      rw [hsplit, repeatedName?_append hfresh (fun _ _ ↦ List.not_mem_nil), repeatedName?,
        if_pos (by simpa using htaken)]
    | priority hnames hsplit hsingle hshared =>
      refine .inr (.inl ⟨hnames, _, _, ?_, rfl⟩)
      exact repeatedPriority?_eq_some_iff.mpr ⟨_, _, _, hsplit, hsingle, hshared, rfl, rfl⟩
    | misfit hnames hpriorities hsplit hfit hmisfit =>
      refine .inr (.inr ⟨hnames, hpriorities, ?_⟩)
      exact List.findSome?_eq_some_iff.mpr ⟨_, _, _, hsplit, breach?_of_misfit hmisfit,
        fun s hs ↦ breach?_eq_none_iff_fits.mpr (hfit s hs)⟩

theorem arrange_eq_ok_iff_orderly {ordered : List Rule} :
    arrange rules enforce = .ok ordered ↔ Orderly enforce rules ∧ ordered.Perm rules ∧
      ordered.Pairwise fun r s ↦ r.priority < s.priority := by
  rw [arrange_eq_ok_iff]
  constructor
  · rintro ⟨hnames, hpriorities, hbreach, rfl⟩
    exact ⟨⟨hnames, hpriorities, fun r hr ↦ breach?_eq_none_iff_fits.mp (hbreach r hr)⟩,
      sorted_perm rules, sorted_pairwise_lt hpriorities⟩
  · rintro ⟨h, hperm, hascending⟩
    refine ⟨h.names, h.priorities, fun r hr ↦ breach?_eq_none_iff_fits.mpr (h.fits r hr), ?_⟩
    exact eq_of_perm_of_ascending (hperm.trans (sorted_perm rules).symm) hascending
      (sorted_pairwise_lt h.priorities)

/-- The final check of a list of rules. It accepts exactly the orderly lists, and gives the only
rearrangement in which the priorities ascend; what it gives depends on the rules only, and passes
the check unchanged. It refuses every other list for its first fault in the order of the checks, or
because that fault has a priority that cannot be written. Once no priority repeats, the sorted
rules ascend. -/
theorem arrange_exactly (rules : List Rule) (enforce : Bool) :
    (∀ ordered, arrange rules enforce = .ok ordered ↔ Orderly enforce rules ∧
      ordered.Perm rules ∧ ordered.Pairwise fun r s ↦ r.priority < s.priority) ∧
    ((∃ ordered, arrange rules enforce = .ok ordered) ↔ Orderly enforce rules) ∧
    (∀ ordered, arrange rules enforce = .ok ordered → arrange ordered enforce = .ok ordered ∧
      ∀ rules', rules'.Perm rules → arrange rules' enforce = .ok ordered) ∧
    (∀ failure, arrange rules enforce = .error failure ↔ Refuses enforce rules failure) ∧
    ((rules.map (·.priority)).Nodup → descent? (sorted rules) = none) := by
  refine ⟨fun _ ↦ arrange_eq_ok_iff_orderly, ⟨?_, ?_⟩, ?_, fun _ ↦ failure_arrange_iff, ?_⟩
  · rintro ⟨ordered, h⟩
    exact (arrange_eq_ok_iff_orderly.mp h).1
  · intro h
    exact ⟨sorted rules, arrange_eq_ok_iff_orderly.mpr
      ⟨h, sorted_perm rules, sorted_pairwise_lt h.priorities⟩⟩
  · intro ordered h
    have hperm : ordered.Perm rules := (arrange_eq_ok_iff_orderly.mp h).2.1
    exact ⟨arrange_perm hperm.symm h, fun _ h' ↦ arrange_perm h'.symm h⟩
  · exact fun h ↦ descent?_eq_none (sorted_pairwise_lt h)

def blocking (name : String) (priority : Int) : Rule :=
  { name := name
    priority := priority
    statement := .custom (.record [])
    category := .postCustom
    visibility := { metricName := name }
    action := some .block }

theorem arrange_exactly_two :
    arrange [blocking "b" 41, blocking "a" 35] false =
        .ok [blocking "a" 35, blocking "b" 41] ∧
      arrange [blocking "a" 35, blocking "b" 41] false =
        .ok [blocking "a" 35, blocking "b" 41] := by
  obtain ⟨hok, -, hagain, -⟩ := arrange_exactly [blocking "b" 41, blocking "a" 35] false
  have horderly : Orderly false [blocking "b" 41, blocking "a" 35] := {
    names := by decide
    priorities := by decide
    fits := by
      intro r hr
      rw [← breach?_eq_none_iff_fits]
      rcases List.mem_pair.mp hr with rfl | rfl <;> rfl }
  have harranged := (hok [blocking "a" 35, blocking "b" 41]).mpr
    ⟨horderly, .swap .., by simp [blocking]⟩
  exact ⟨harranged, (hagain _ harranged).1⟩

theorem arrange_shared {priority : Int} :
    arrange [blocking "q" priority, blocking "r" priority] enforce =
      .error (Failure.naming priority { cause := .duplicatePriority priority ["q", "r"] }) := by
  apply failure_arrange_iff.mpr
  have hsplit : [blocking "q" priority, blocking "r" priority] =
      [] ++ blocking "q" priority :: [blocking "r" priority] := rfl
  have hrefuses : Refuses enforce [blocking "q" priority, blocking "r" priority] _ :=
    .priority (by simp [blocking]) hsplit (by simp) (by simp [blocking])
  simpa [namesAt, blocking] using hrefuses

/-- Two rules share a priority, but no report says so: it would have to name the priority. -/
theorem arrange_shared_unreported :
    arrange [blocking "q" (Nat.pow 10 Text.digitLimit : Nat),
        blocking "r" (Nat.pow 10 Text.digitLimit : Nat)] false =
      .error (Failure.crash .hugeInteger) := by
  rw [arrange_shared, Failure.naming,
    if_neg (by rw [Number.isWritable_of_le (Nat.le_refl _)]; exact Bool.false_ne_true)]

end RuleList

end WebAcl
