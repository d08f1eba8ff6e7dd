import WebAcl.Proofs.EqualStatements
import WebAcl.Proofs.ExactAcceptance
import WebAcl.Proofs.MadeStatements
import WebAcl.Proofs.RoundTrip
import Mathlib.Algebra.BigOperators.Group.Multiset.Basic

namespace WebAcl

open Value

/-- Data that can be frozen where it is met, and the copy thawed. -/
structure Value.IsWithinReach [Machine] (v : Value) : Prop where
  freezing : Machine.copying.fits 0 v = true
  thawing : Machine.thawing.fits 0 v.freeze = true

namespace Config

variable [Machine] {registry : Registry} {c : Config}

theorem exists_emitted {p : Policy} (h : c.compile registry = .ok p) {k : Category}
    {r : CustomRule} (hr : r ∈ c.customRules k) (hloose : r.body.IsLoose) :
    ∃ rule ∈ p.rules, rule.name = r.name ∧ rule.category = k ∧
      (rule.statement.isCopyable = true ↔ Machine.thawing.fits 0 r.body.freeze = true) ∧
      ∀ resolve, ∃ fields, rule.toValue resolve = .map fields ∧
        lookup? (.str "Statement") fields = some r.body := by
  refine ⟨r.made k, made_mem_rules h hr, rfl, rfl, Iff.rfl, fun resolve ↦ ⟨_, rfl, ?_⟩⟩
  have hbody : (r.made k).statement.toValue resolve = r.body := thaw_freeze_of_isLoose hloose
  simp [lookup?, List.find?, same, sameScalar, hbody]

end Config

namespace Statement

/-- Data within reach is kept by the statement made of it. It comes back from a frozen copy in its
order, freezing again changes nothing, and whatever compiles is emitted as it is configured. Two
statements are equal exactly if their bodies agree; equal statements have equal hashes, and there is
a hash unless there is a set in the body. -/
theorem ofBody_faithful [Machine] {v w : Value} (hv : v.IsWithinReach) (hw : w.IsWithinReach)
    (hvkeys : v.WellKeyed) (hwkeys : w.WellKeyed) :
    (copyOfBody v = .ok (ofBody v) ∧ copyOfBody w = .ok (ofBody w)) ∧
      ((ofBody v).isCopyable = true ∧ (ofBody w).isCopyable = true) ∧
      (v.IsLoose → v.freeze.thaw = v ∧ ∀ resolve, (ofBody v).toValue resolve = v) ∧
      v.freeze.thaw.freeze = v.freeze ∧ v.freeze.freeze = v.freeze ∧
      (∀ (registry : Registry) (c : Config) (p : Policy), c.compile registry = .ok p →
        ∀ k, ∀ r ∈ c.customRules k, r.body.IsLoose →
          ∃ rule ∈ p.rules, rule.name = r.name ∧ rule.category = k ∧
            (rule.statement.isCopyable = true ↔ Machine.thawing.fits 0 r.body.freeze = true) ∧
            ∀ resolve, ∃ fields, rule.toValue resolve = .map fields ∧
              lookup? (.str "Statement") fields = some r.body) ∧
      ((ofBody v).same (ofBody w) = true ↔ Agrees v w) ∧
      ∀ {H : Type} (h : Hashing H),
        ((ofBody v).same (ofBody w) = true → bodyHash? h v = bodyHash? h w) ∧
          ((bodyHash? h v).isSome ↔ v.firstSet? = none) := by
  have hcopy {u : Value} (hu : u.IsWithinReach) : copyOfBody u = .ok (ofBody u) :=
    Config.CustomRule.copyOfBody_eq_ok_iff.mpr ⟨hu.freezing, rfl⟩
  have hsame : (ofBody v).same (ofBody w) = true ↔ Agrees v w := same_freeze_iff hvkeys hwkeys
  refine ⟨⟨hcopy hv, hcopy hw⟩, ⟨hv.thawing, hw.thawing⟩, fun hloose ↦ ?_, ?_, freeze_freeze v, ?_,
    hsame, fun h ↦ ⟨?_, ?_⟩⟩
  · exact ⟨thaw_freeze_of_isLoose hloose, fun _ ↦ thaw_freeze_of_isLoose hloose⟩
  · rw [freeze_thaw, freeze_freeze]
  · intro registry c p hp k r hr hloose
    exact Config.exists_emitted hp hr hloose
  · intro heq
    rw [bodyHash?, bodyHash?, hash?_freeze_eq h hvkeys (hsame.mp heq)]
  · rw [bodyHash?, Option.isSome_map, isSome_hash?_freeze h hv.freezing]

def lengthHashing : Hashing Int where
  scalar
    | .str s => s.length
    | v => v.toInt?.getD 0
  sequence hs := hs.foldl (fun a b ↦ 31 * a + b) 7
  collection hs := hs.sum
  scalar_eq := by
    intro v w h
    rcases sameScalar_cases h with rfl | ⟨t, t', rfl, rfl, -⟩ | ⟨x, y, rfl, rfl⟩ | ⟨i, hi, hi'⟩
    · rfl
    · rfl
    · exact congrArg (·.getD 0) (toInt?_eq_of_sameScalar_float h)
    · cases v <;> cases w <;> simp_all [toInt?]

def limitFirst : Value :=
  .record [("Size", .int 1), ("Fields", .list [.record [("Name", .str "a"), ("Any", .bool true)]])]

/-- The same statement with the keys of its maps in another order and other kinds of numbers. -/
def fieldsFirst : Value :=
  .record [("Fields", .list [.record [("Any", .int 1), ("Name", .str "a")]]),
    ("Size", .float (.finite false (2 ^ 52) (-52)))]

theorem wellKeyed_limitFirst : limitFirst.WellKeyed :=
  wellKeyed_record (by decide) (by
    simp [WellKeyed, ItemsWellKeyed, wellKeyed_record])

theorem wellKeyed_fieldsFirst : fieldsFirst.WellKeyed :=
  wellKeyed_record (by decide) (by
    simp [WellKeyed, ItemsWellKeyed, wellKeyed_record])

section

open UsualMachine

theorem ofBody_faithful_limitFirst :
    (limitFirst.IsWithinReach ∧ fieldsFirst.IsWithinReach ∧
      limitFirst.WellKeyed ∧ fieldsFirst.WellKeyed) ∧
    limitFirst.freeze.thaw = limitFirst ∧ (ofBody limitFirst).same (ofBody fieldsFirst) = true ∧
      bodyHash? lengthHashing limitFirst = bodyHash? lengthHashing fieldsFirst ∧
        (bodyHash? lengthHashing limitFirst).isSome ∧
          ∃ p, Config.sampler.compile .builtIn = .ok p ∧
            ∃ rule ∈ p.rules, rule.name = "office" := by
  have hv : limitFirst.IsWithinReach := ⟨by decide, by decide⟩
  have hw : fieldsFirst.IsWithinReach := ⟨by decide, by decide⟩
  have hsame : (ofBody limitFirst).same (ofBody fieldsFirst) = true := by decide +kernel
  obtain ⟨-, -, hloose, -, -, hemitted, -, hhash⟩ :=
    ofBody_faithful hv hw wellKeyed_limitFirst wellKeyed_fieldsFirst
  obtain ⟨p, hp⟩ := Config.exists_compile_sampler
  obtain ⟨rule, hrule, hname, -⟩ := hemitted .builtIn Config.sampler p hp .preCustom _
    List.mem_cons_self
    (by simp [Config.CustomRule.body, Value.record, strings, IsLoose, EntriesLoose, ItemsLoose])
  refine ⟨⟨hv, hw, wellKeyed_limitFirst, wellKeyed_fieldsFirst⟩, (hloose ?_).1, hsame,
    (hhash lengthHashing).1 hsame, (hhash lengthHashing).2.mpr (by decide), p, hp, rule, hrule,
    hname⟩
  simp [limitFirst, Value.record, IsLoose, EntriesLoose, ItemsLoose]

theorem not_fits_nestedLists {r : Recursion} {n used : Nat}
    (h : r.room < used + n * r.step "list") : r.fits used (Config.nestedLists n) = false := by
  induction n generalizing used with
  | zero =>
    have hroom : ¬ used + r.own "NoneType" ≤ r.room := by omega
    exact Bool.and_eq_false_iff.mpr (.inl (decide_eq_false hroom))
  | succ n ih =>
    have hinner : r.room < used + r.step "list" + n * r.step "list" := by
      rw [Nat.add_one_mul] at h
      omega
    rw [Config.nestedLists, Recursion.fits, Recursion.itemsFit, ih hinner]
    simp

theorem isLoose_nestedLists (n : Nat) : (Config.nestedLists n).IsLoose := by
  induction n with
  | zero => trivial
  | succ n ih => exact ⟨ih, trivial⟩

theorem wellKeyed_nestedLists (n : Nat) : (Config.nestedLists n).WellKeyed := by
  induction n with
  | zero => trivial
  | succ n ih => exact ⟨ih, trivial⟩

/-- Of lists that are nested too deep no statement can be made. -/
theorem not_copyOfBody_nested : (Value.record [("A", Config.nestedLists 520)]).IsLoose ∧
    (Value.record [("A", Config.nestedLists 520)]).WellKeyed ∧
      copyOfBody (.record [("A", Config.nestedLists 520)]) = .error .nestedTooDeep := by
  refine ⟨⟨isLoose_nestedLists 520, trivial⟩, ?_, if_neg ?_⟩
  · exact wellKeyed_record (by decide) (List.forall_mem_singleton.mpr (wellKeyed_nestedLists 520))
  · rw [Value.record, List.map_singleton, Recursion.fits, Recursion.entriesFit,
      not_fits_nestedLists (by decide)]
    simp

end

end Statement

end WebAcl
