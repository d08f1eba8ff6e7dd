import WebAcl.Config.Basic
import Mathlib.Logic.Basic

namespace WebAcl

namespace Checked

variable {α β : Type}

theorem map_eq_valid_iff {f : α → β} {x : Checked α} {b : β} :
    f <$> x = .valid b ↔ ∃ a, x = .valid a ∧ f a = b := by
  change x.map f = .valid b ↔ _
  cases x <;> simp [map]

theorem apply_eq_valid_iff {f : Checked (α → β)} {x : Checked α} {b : β} :
    f <*> x = .valid b ↔ ∃ g, f = .valid g ∧ ∃ a, x = .valid a ∧ g a = b := by
  change f.apply x = .valid b ↔ _
  cases f <;> cases x <;> simp [apply]

theorem andThen_eq_valid_iff {x : Checked α} {f : α → Checked β} {b : β} :
    x.andThen f = .valid b ↔ ∃ a, x = .valid a ∧ f a = .valid b := by
  cases x <;> simp [andThen]

theorem under_eq_valid_iff {step : Issue.Step} {x : Checked α} {a : α} :
    x.under step = .valid a ↔ x = .valid a := by
  cases x <;> simp [under]

theorem also_eq_valid_iff {x : Checked α} {is : List Issue} {a : α} :
    x.also is = .valid a ↔ is = [] ∧ x = .valid a := by
  cases is <;> simp [also]

theorem all_eq_valid_iff {xs : List (Checked α)} {as : List α} :
    all xs = .valid as ↔ xs = as.map .valid := by
  induction xs generalizing as with
  | nil => cases as <;> simp [all]
  | cons x xs ih =>
    have hseq := apply_eq_valid_iff (f := x.map List.cons) (x := all xs) (b := as)
    change all (x :: xs) = .valid as ↔ _ at hseq
    rw [hseq]
    cases x with
    | invalid is => cases as <;> simp [map]
    | valid a =>
      cases as with
      | nil => simp [map]
      | cons b bs =>
        simp only [map, valid.injEq, List.map_cons, List.cons.injEq, exists_eq_left', ih]
        constructor
        · rintro ⟨_, hxs, rfl, rfl⟩
          exact ⟨rfl, hxs⟩
        · rintro ⟨rfl, hxs⟩
          exact ⟨_, hxs, rfl, rfl⟩

end Checked

namespace Lax

open Checked

variable {α : Type} {v : Value}

theorem map_of_record {name : String} {fields : List String}
    {read : List (Value × Value) → Checked α} {a : α} (h : record name fields read v = .valid a) :
    ∃ entries, v = .map entries ∧ read entries = .valid a := by
  cases v with
  | map entries =>
    unfold record at h
    dsimp only at h
    split at h
    · simp [Checked.fail] at h
    · exact ⟨entries, rfl, (also_eq_valid_iff.mp h).2⟩
  | _ => simp [record, Checked.fail] at h

theorem field_eq_valid_iff {entries : List (Value × Value)} {name : String}
    {read : Value → Checked α} {default : Option α} {a : α} :
    field entries name read default = .valid a ↔
      (∃ w, Value.lookup? (.str name) entries = some w ∧ read w = .valid a) ∨
        Value.lookup? (.str name) entries = none ∧ default = some a := by
  unfold field
  cases Value.lookup? (.str name) entries with
  | some w => simp [under_eq_valid_iff]
  | none => cases default <;> simp [Checked.fail, under]

theorem field_valid {entries : List (Value × Value)} {name : String} {read : Value → Checked α}
    {default : Option α} {a : α} (h : field entries name read default = .valid a) :
    default = some a ∨ ∃ w, read w = .valid a := by
  obtain ⟨w, -, hw⟩ | ⟨-, hdefault⟩ := field_eq_valid_iff.mp h
  · exact .inr ⟨w, hw⟩
  · exact .inl hdefault

theorem optional_valid {read : Value → Checked α} {a : α} (h : optional read v = .valid (some a)) :
    ∃ w, read w = .valid a := by
  cases v with
  | null => simp [optional] at h
  | _ =>
    obtain ⟨b, hb, hab⟩ := map_eq_valid_iff.mp h
    exact ⟨_, Option.some.inj hab ▸ hb⟩

theorem list_eq_valid_iff {read : Value → Checked α} {as : List α} :
    list read v = .valid as ↔ ∃ xs, items? v = some xs ∧ xs.map read = as.map .valid := by
  unfold list
  cases items? v with
  | none => simp [Checked.fail]
  | some xs =>
    simp only [Option.some.injEq, exists_eq_left', all_eq_valid_iff]
    simp only [List.ext_getElem_iff, List.length_mapIdx, List.length_map, List.getElem_mapIdx,
      List.getElem_map, under_eq_valid_iff]

theorem item_of_list {read : Value → Checked α} {as : List α} (h : list read v = .valid as) :
    ∃ xs, items? v = some xs ∧ ∀ a ∈ as, ∃ x ∈ xs, read x = .valid a := by
  obtain ⟨xs, hitems, hread⟩ := list_eq_valid_iff.mp h
  refine ⟨xs, hitems, fun a ha ↦ ?_⟩
  have hmem : Checked.valid a ∈ xs.map read := by
    rw [hread]
    exact List.mem_map_of_mem ha
  exact List.mem_map.mp hmem

end Lax

namespace Config

open Checked Lax

/-- What a configuration satisfies if it was read from data. -/
structure Validated (c : Config) : Prop where
  outcomes : ∀ r ∈ c.preRules ++ c.postRules, r.action.isSome = !r.override.isSome
  threshold : ∀ limit, c.rateLimit = some limit →
    leastThreshold ≤ limit.threshold ∧ limit.threshold ≤ greatestThreshold
  retention : c.logSink.retentionDays ∈ retentionPeriods

theorem CustomRule.checkOutcome_eq_valid_iff {r r' : CustomRule} :
    r.checkOutcome = .valid r' ↔ r.action.isSome = (!r.override.isSome) ∧ r = r' := by
  unfold checkOutcome
  cases r.action <;> cases r.override <;> simp [Checked.fail]

theorem CustomRule.outcome_of_ofValue {v : Value} {r : CustomRule}
    (h : CustomRule.ofValue v = .valid r) : r.action.isSome = !r.override.isSome := by
  obtain ⟨r', -, h⟩ := andThen_eq_valid_iff.mp h
  obtain ⟨houtcome, rfl⟩ := checkOutcome_eq_valid_iff.mp h
  exact houtcome

theorem boundedInteger_valid {least most i : Int} {v : Value}
    (h : boundedInteger least most v = .valid i) : least ≤ i ∧ i ≤ most := by
  obtain ⟨j, -, h⟩ := andThen_eq_valid_iff.mp h
  split at h
  · simp [Checked.fail] at h
  · split at h
    · simp [Checked.fail] at h
    · obtain rfl := valid.inj h
      omega

theorem RateLimit.threshold_of_ofValue {v : Value} {limit : RateLimit}
    (h : RateLimit.ofValue v = .valid limit) :
    leastThreshold ≤ limit.threshold ∧ limit.threshold ≤ greatestThreshold := by
  obtain ⟨entries, -, h⟩ := map_of_record h
  simp only [apply_eq_valid_iff, map_eq_valid_iff] at h
  obtain ⟨_, ⟨threshold, hthreshold, rfl⟩, aggregation, -, rfl⟩ := h
  obtain hdefault | ⟨w, hw⟩ := field_valid hthreshold
  · simp at hdefault
  · exact boundedInteger_valid hw

theorem retention_valid {v : Value} {days : Int} (h : retention v = .valid days) :
    days ∈ retentionPeriods := by
  obtain ⟨i, -, h⟩ := andThen_eq_valid_iff.mp h
  split at h
  next hmem =>
    obtain rfl := valid.inj h
    simpa using hmem
  · simp [Checked.fail] at h

theorem logSink_valid {v : Value} {sink : LogSink} (h : logSinkOfValue v = .valid sink) :
    sink.retentionDays ∈ retentionPeriods := by
  obtain ⟨entries, -, h⟩ := map_of_record h
  simp only [apply_eq_valid_iff, map_eq_valid_iff] at h
  obtain ⟨_, ⟨_, ⟨enabled, -, rfl⟩, days, hdays, rfl⟩, policy, -, rfl⟩ := h
  obtain hdefault | ⟨w, hw⟩ := field_valid hdays
  · obtain rfl := Option.some.inj hdefault
    change (365 : Int) ∈ retentionPeriods
    decide
  · exact retention_valid hw

/-- The parts of a configuration that was read were read themselves, unless they are defaults. -/
theorem parts_of_ofValue {v : Value} {c : Config} (h : Config.ofValue v = .valid c) :
    (∀ r ∈ c.preRules ++ c.postRules, ∃ w, CustomRule.ofValue w = .valid r) ∧
      (∀ limit, c.rateLimit = some limit → ∃ w, RateLimit.ofValue w = .valid limit) ∧
        (c.logSink = {} ∨ ∃ w, logSinkOfValue w = .valid c.logSink) := by
  obtain ⟨entries, -, hfields⟩ := map_of_record h
  clear h
  simp only [apply_eq_valid_iff, map_eq_valid_iff] at hfields
  -- all other fields hold any value that their types allow
  obtain ⟨_, ⟨_, ⟨_, ⟨_, ⟨_, hfields, limit, hlimit, rfl⟩, pre, hpre, rfl⟩, post, hpost, rfl⟩, sink,
    hsink, rfl⟩, _, -, rfl⟩ := hfields
  obtain ⟨_, ⟨_, ⟨_, ⟨_, ⟨_, hfields, _, -, rfl⟩, _, -, rfl⟩, _, -, rfl⟩, _, -, rfl⟩, _, -, rfl⟩ :=
    hfields
  obtain ⟨_, ⟨_, ⟨_, ⟨_, ⟨_, hfields, _, -, rfl⟩, _, -, rfl⟩, _, -, rfl⟩, _, -, rfl⟩, _, -, rfl⟩ :=
    hfields
  obtain ⟨_, ⟨_, ⟨_, -, rfl⟩, _, -, rfl⟩, _, -, rfl⟩ := hfields
  have hrules : ∀ {name rules},
      field entries name (list CustomRule.ofValue) (some []) = .valid rules →
        ∀ r ∈ rules, ∃ w, CustomRule.ofValue w = .valid r := by
    intro name rules hread r hr
    obtain hdefault | ⟨w, hw⟩ := field_valid hread
    · obtain rfl := Option.some.inj hdefault
      simp at hr
    · obtain ⟨_, -, hitem⟩ := item_of_list hw
      obtain ⟨x, -, hx⟩ := hitem r hr
      exact ⟨x, hx⟩
  refine ⟨fun r hr ↦ ?_, ?_, ?_⟩
  · exact (List.mem_append.mp hr).elim (hrules hpre r) (hrules hpost r)
  · rintro _ rfl
    obtain hdefault | ⟨w, hw⟩ := field_valid hlimit
    · simp at hdefault
    · exact optional_valid hw
  · obtain hdefault | hread := field_valid hsink
    · exact .inl (Option.some.inj hdefault).symm
    · exact .inr hread

theorem validated_of_ofValue {v : Value} {c : Config} (h : Config.ofValue v = .valid c) :
    c.Validated := by
  obtain ⟨hrules, hlimit, hsink⟩ := parts_of_ofValue h
  refine ⟨fun r hr ↦ ?_, fun limit hlimits ↦ ?_, ?_⟩
  · obtain ⟨w, hw⟩ := hrules r hr
    exact CustomRule.outcome_of_ofValue hw
  · obtain ⟨w, hw⟩ := hlimit limit hlimits
    exact RateLimit.threshold_of_ofValue hw
  · obtain hdefault | ⟨w, hw⟩ := hsink
    · rw [hdefault]
      change (365 : Int) ∈ retentionPeriods
      decide
    · exact logSink_valid hw

end Config

end WebAcl
