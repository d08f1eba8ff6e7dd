import WebAcl.Proofs.Outcome
import WebAcl.Proofs.Rereading

namespace WebAcl

open Outcome

namespace Lax

open Checked

variable {entries before : List (String × Value)} {key : String} {v : Value}

theorem insertText_of_not_mem (h : key ∉ entries.map (·.1)) :
    insertText key v entries = entries ++ [(key, v)] := by
  induction entries with
  | nil => rfl
  | cons e es ih =>
    rw [List.map_cons, List.mem_cons, not_or] at h
    rw [insertText, if_neg (Ne.symm h.1), ih h.2, List.cons_append]

theorem keys_insertText_of_mem (h : key ∈ entries.map (·.1)) :
    (insertText key v entries).map (·.1) = entries.map (·.1) := by
  induction entries with
  | nil => simp at h
  | cons e es ih =>
    rw [insertText]
    split
    next heq => simp [heq]
    next hne =>
      obtain heq | hes := List.mem_cons.mp h
      · exact absurd heq.symm hne
      · rw [List.map_cons, ih hes, List.map_cons]

theorem nodup_insertText (h : (entries.map (·.1)).Nodup) :
    ((insertText key v entries).map (·.1)).Nodup := by
  by_cases hmem : key ∈ entries.map (·.1)
  · rwa [keys_insertText_of_mem hmem]
  · rw [insertText_of_not_mem hmem, List.map_append, List.nodup_append]
    refine ⟨h, by simp, fun s hs t ht heq ↦ hmem ?_⟩
    obtain rfl : t = key := by simpa using ht
    rwa [heq] at hs

def gatherTexts (entries : List (String × Value)) : List (String × Value) :=
  entries.foldl (fun out e ↦ insertText e.1 e.2 out) []

theorem nodup_foldl_insertText (h : (before.map (·.1)).Nodup) :
    ((entries.foldl (fun out e ↦ insertText e.1 e.2 out) before).map (·.1)).Nodup := by
  induction entries generalizing before with
  | nil => exact h
  | cons e es ih => exact ih (nodup_insertText h)

theorem nodup_gatherTexts (entries : List (String × Value)) :
    ((gatherTexts entries).map (·.1)).Nodup :=
  nodup_foldl_insertText List.nodup_nil

theorem length_foldl_insertText (entries before : List (String × Value)) :
    (entries.foldl (fun out e ↦ insertText e.1 e.2 out) before).length ≤
      before.length + entries.length := by
  induction entries generalizing before with
  | nil => simp
  | cons e es ih =>
    have hone : (insertText e.1 e.2 before).length ≤ before.length + 1 := by
      by_cases hmem : e.1 ∈ before.map (·.1)
      · have hkeys := congrArg List.length (keys_insertText_of_mem (v := e.2) hmem)
        simp only [List.length_map] at hkeys
        omega
      · rw [insertText_of_not_mem hmem]
        simp
    have hrest := ih (insertText e.1 e.2 before)
    simp only [List.foldl_cons, List.length_cons]
    omega

theorem foldl_insertText_eq_append (h : (entries.foldl (fun out e ↦ insertText e.1 e.2 out)
    before).length = before.length + entries.length) :
    entries.foldl (fun out e ↦ insertText e.1 e.2 out) before = before ++ entries := by
  induction entries generalizing before with
  | nil => simp
  | cons e es ih =>
    have hnew : e.1 ∉ before.map (·.1) := by
      intro hmem
      have hkeys := congrArg List.length (keys_insertText_of_mem (v := e.2) hmem)
      have hle := length_foldl_insertText es (insertText e.1 e.2 before)
      simp only [List.length_map] at hkeys
      simp only [List.foldl_cons, List.length_cons] at h
      omega
    rw [List.foldl_cons, insertText_of_not_mem hnew] at h ⊢
    rw [ih (by simpa [Nat.add_assoc, Nat.add_comm 1] using h), List.append_assoc,
      List.singleton_append]

theorem foldl_insertText_of_nodup (h : ((before ++ entries).map (·.1)).Nodup) :
    entries.foldl (fun out e ↦ insertText e.1 e.2 out) before = before ++ entries := by
  induction entries generalizing before with
  | nil => simp
  | cons e es ih =>
    have hnew : e.1 ∉ before.map (·.1) := by
      rw [List.map_append, List.nodup_append] at h
      exact fun hmem ↦ h.2.2 _ hmem e.1 (by simp) rfl
    rw [List.foldl_cons, insertText_of_not_mem hnew, ih (by simpa using h)]
    simp

theorem gatherTexts_of_nodup (h : (entries.map (·.1)).Nodup) : gatherTexts entries = entries :=
  @foldl_insertText_of_nodup _ [] (by simpa using h)

/-- Gathering gives as many entries only if it gives the same ones. -/
theorem gatherTexts_eq_iff {entries' : List (String × Value)}
    (hlength : entries.length = entries'.length) (hnodup : (entries'.map (·.1)).Nodup) :
    gatherTexts entries = entries' ↔ entries = entries' := by
  constructor
  · intro h
    have hkept : (gatherTexts entries).length = ([] : List (String × Value)).length +
        entries.length := by
      rw [h, ← hlength, List.length_nil, Nat.zero_add]
    rw [← h]
    exact (foldl_insertText_eq_append hkept).symm
  · rintro rfl
    exact gatherTexts_of_nodup hnodup

end Lax

namespace Value

open Lax Text

theorem gathered_eq (entries : List (String × Value)) :
    gathered entries = (gatherTexts entries).map fun e ↦ (str e.1, e.2) := by
  have hinsert : ∀ (key : String) (v : Value) (es : List (String × Value)),
      insert (str key) v (es.map fun e ↦ (str e.1, e.2)) =
        (insertText key v es).map fun e ↦ (str e.1, e.2) := by
    intro key v es
    induction es with
    | nil => rfl
    | cons e es ih =>
      rw [List.map_cons, insert, insertText, same_str]
      by_cases heq : e.1 = key
      · simp [heq]
      · simp [heq, ih]
  have hfold : ∀ es before : List (String × Value),
      es.foldl (fun out e ↦ insert (str e.1) e.2 out) (before.map fun e ↦ (str e.1, e.2)) =
        (es.foldl (fun out e ↦ insertText e.1 e.2 out) before).map fun e ↦ (str e.1, e.2) := by
    intro es
    induction es with
    | nil => exact fun _ ↦ rfl
    | cons e es ih =>
      intro before
      rw [List.foldl_cons, hinsert, ih, List.foldl_cons]
  exact hfold entries []

mutual

/-- How deep the parts of a value are nested, the value itself included. -/
def nesting : Value → Nat
  | list xs | tuple xs | set xs => itemsNesting xs + 1
  | map es | frozenMap es => entriesNesting es + 1
  | _ => 1

def itemsNesting : List Value → Nat
  | [] => 0
  | x :: xs => max x.nesting (itemsNesting xs)

def entriesNesting : List (Value × Value) → Nat
  | [] => 0
  | (_, v) :: es => max v.nesting (entriesNesting es)

end

mutual

/-- Data that its plain form repeats exactly, at any depth that is not too great: it has no other
kinds of values than JSON, its numbers are finite, and its keys are whole characters. -/
def IsExact : Value → Prop
  | null | bool _ | int _ | str _ => True
  | float x => x.toRatio?.isSome = true
  | list xs => ItemsExact xs
  | map es => (es.map (·.1)).Nodup ∧ EntriesExact es
  | _ => False

def ItemsExact : List Value → Prop
  | [] => True
  | x :: xs => IsExact x ∧ ItemsExact xs

def EntriesExact : List (Value × Value) → Prop
  | [] => True
  | (k, v) :: es => (∃ s, k = str s ∧ replaceHalves s = s) ∧ IsExact v ∧ EntriesExact es

end

theorem keys_fields (fields : List (String × Value)) :
    (fields.map fun e ↦ (str e.1, e.2)).map (·.1) = (fields.map (·.1)).map str := by
  simp

theorem gathered_eq_iff {fields : List (String × Value)} {es : List (Value × Value)}
    (hlength : fields.length = es.length) :
    gathered fields = es ↔ (es.map (·.1)).Nodup ∧ (fields.map fun e ↦ (str e.1, e.2)) = es := by
  rw [gathered_eq]
  constructor
  · intro h
    have hkept : fields.length = (gatherTexts fields).length := by
      rw [hlength, ← h, List.length_map]
    have hsame := (gatherTexts_eq_iff hkept (nodup_gatherTexts fields)).mp rfl
    rw [← hsame] at h
    refine ⟨?_, h⟩
    rw [← h, keys_fields, hsame]
    exact (nodup_gatherTexts fields).map fun _ _ ↦ Value.str.inj
  · rintro ⟨hnodup, rfl⟩
    rw [keys_fields] at hnodup
    rw [gatherTexts_of_nodup hnodup.of_map]

theorem length_plainEntries {depth : Nat} {es : List (Value × Value)}
    {fields : List (String × Value)} (h : plainEntries depth es = .ok fields) :
    fields.length = es.length := by
  induction es generalizing fields with
  | nil =>
    obtain rfl : [] = fields := by simpa [plainEntries] using h
    rfl
  | cons e es ih =>
    simp only [plainEntries, bind_eq_ok_iff, pure_eq_ok, Except.ok.injEq] at h
    obtain ⟨s, -, v, -, rest, hrest, rfl⟩ := h
    rw [List.length_cons, ih hrest, List.length_cons]

mutual

theorem plain_eq_self_iff (depth : Nat) : ∀ v : Value,
    plain depth v = .ok v ↔ v.IsExact ∧ depth + v.nesting < plainDepth := by
  intro v
  by_cases hdeep : plainDepth ≤ depth + 1
  · have hnesting : 1 ≤ v.nesting := by cases v <;> simp [nesting]
    rw [plain.eq_def, if_pos hdeep]
    simp only [reduceCtorEq, false_iff, not_and]
    omega
  · have hdepth : depth + 1 < plainDepth := by omega
    rw [plain.eq_def, if_neg hdeep]
    cases v with
    | null | bool | int | str => simp [IsExact, nesting, hdepth]
    | float x =>
      cases hfinite : x.toRatio?.isSome <;> simp [IsExact, nesting, hdepth, hfinite]
    | list xs =>
      have hitems := plainItems_eq_self_iff (depth + 1) hdepth xs
      have hnesting : depth + (itemsNesting xs + 1) = depth + 1 + itemsNesting xs := by omega
      simp only [map_eq_ok_iff, list.injEq, exists_eq_right, hitems, IsExact, nesting, hnesting]
    | map es =>
      have hentries := plainEntries_eq_self_iff (depth + 1) hdepth es
      have hnesting : depth + (entriesNesting es + 1) = depth + 1 + entriesNesting es := by omega
      simp only [map_eq_ok_iff, map.injEq, IsExact, nesting, hnesting]
      rw [and_assoc, ← hentries]
      constructor
      · rintro ⟨fields, hfields, hgathered⟩
        obtain ⟨hnodup, hsame⟩ := (gathered_eq_iff (length_plainEntries hfields)).mp hgathered
        exact ⟨hnodup, fields, hfields, hsame⟩
      · rintro ⟨hnodup, fields, hfields, hsame⟩
        exact ⟨fields, hfields,
          (gathered_eq_iff (length_plainEntries hfields)).mpr ⟨hnodup, hsame⟩⟩
    | bytes | tuple | set | frozenMap =>
      simp only [IsExact, false_and, iff_false]
      intro h
      obtain ⟨_, -, heq⟩ := map_eq_ok_iff.mp h
      cases heq
    | date | timestamp | endless => simp [IsExact]

theorem plainItems_eq_self_iff (depth : Nat) (hdepth : depth < plainDepth) : ∀ xs : List Value,
    plainItems depth xs = .ok xs ↔ ItemsExact xs ∧ depth + itemsNesting xs < plainDepth
  | [] => by simp [plainItems, ItemsExact, itemsNesting, hdepth]
  | x :: xs => by
    have hx := plain_eq_self_iff depth x
    have hxs := plainItems_eq_self_iff depth hdepth xs
    simp only [plainItems, bind_eq_ok_iff, pure_eq_ok, Except.ok.injEq, List.cons.injEq, ItemsExact,
      itemsNesting]
    constructor
    · rintro ⟨_, hplain, _, hplains, rfl, rfl⟩
      obtain ⟨hexact, hlt⟩ := hx.mp hplain
      obtain ⟨hexacts, hlts⟩ := hxs.mp hplains
      exact ⟨⟨hexact, hexacts⟩, by omega⟩
    · rintro ⟨⟨hexact, hexacts⟩, hlt⟩
      exact ⟨x, hx.mpr ⟨hexact, by omega⟩, xs, hxs.mpr ⟨hexacts, by omega⟩, rfl, rfl⟩

theorem plainEntries_eq_self_iff (depth : Nat) (hdepth : depth < plainDepth) :
    ∀ es : List (Value × Value),
      (∃ fields, plainEntries depth es = .ok fields ∧ (fields.map fun e ↦ (str e.1, e.2)) = es) ↔
        EntriesExact es ∧ depth + entriesNesting es < plainDepth
  | [] => by simp [plainEntries, EntriesExact, entriesNesting, hdepth]
  | (k, v) :: es => by
    have hv := plain_eq_self_iff depth v
    have hes := plainEntries_eq_self_iff depth hdepth es
    simp only [plainEntries, bind_eq_ok_iff, pure_eq_ok, Except.ok.injEq, EntriesExact,
      entriesNesting]
    constructor
    · rintro ⟨_, ⟨s, hkey, w, hplain, fields, hfields, rfl⟩, heq⟩
      simp only [List.map_cons, List.cons.injEq, Prod.mk.injEq] at heq
      obtain ⟨⟨rfl, rfl⟩, hsame⟩ := heq
      obtain ⟨hexact, hlt⟩ := hv.mp hplain
      obtain ⟨hexacts, hlts⟩ := hes.mp ⟨fields, hfields, hsame⟩
      exact ⟨⟨⟨s, rfl, Except.ok.inj hkey⟩, hexact, hexacts⟩, by omega⟩
    · rintro ⟨⟨⟨s, rfl, hkey⟩, hexact, hexacts⟩, hlt⟩
      obtain ⟨fields, hfields, hsame⟩ := hes.mpr ⟨hexacts, by omega⟩
      refine ⟨(s, v) :: fields, ⟨s, congrArg Except.ok hkey, v, hv.mpr ⟨hexact, by omega⟩, fields,
        hfields, rfl⟩, ?_⟩
      rw [List.map_cons, hsame]

end

end Value

namespace Config

open Checked Lax

def CustomRule.WellFormed (r : CustomRule) : Prop :=
  r.action.isSome = (!r.override.isSome) ∧ (r.statement.map (·.1)).Nodup

def singleRule (key : String) (v : Value) : CustomRule where
  name := "r"
  priority := 0
  statement := [(key, v)]
  action := some .block

def single (key : String) (v : Value) : Config where
  name := "acme"
  preRules := [singleRule key v]

def nestedLists : Nat → Value
  | 0 => .null
  | n + 1 => .list [nestedLists n]

end Config

end WebAcl
