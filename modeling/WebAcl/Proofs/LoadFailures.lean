import WebAcl.Config.Source
import WebAcl.Proofs.Complaints
import WebAcl.Proofs.Decoding
import WebAcl.Proofs.DocumentFaults
import WebAcl.Proofs.LexicalFaults
import WebAcl.Proofs.Outcome

namespace WebAcl

open Outcome

namespace Yaml

open Text

theorem Source.fault_ofPortions {fault : Option Fault} {portions : List (List Char)} {f : Fault}
    (h : (ofPortions fault portions).fault = some f) : fault = some f ∨ f = .malformed := by
  induction portions with
  | nil => exact .inl h
  | cons p ps ih =>
    rw [ofPortions] at h
    split at h
    · exact ih h
    · exact .inr (Option.some.inj h).symm

theorem Source.fault_ofBytes {bytes : List UInt8} {f : Fault} (h : (ofBytes bytes).fault = some f) :
    f = .malformed ∨ ∃ g, f = .crash (.undecodable g) ∧ (Utf8.chars bytes).2 ≠ none := by
  obtain hfault | hmalformed := fault_ofPortions h
  · obtain ⟨g, hg, rfl⟩ := Option.map_eq_some_iff.mp hfault
    refine .inr ⟨g, rfl, fun hnone ↦ ?_⟩
    rw [decodeChunks_partsOf (Prod.ext rfl hnone)] at hg
    exact absurd hg nofun
  · exact .inl hmalformed

end Yaml

def Failure.IsConfigFile : Failure → Prop
  | .problem p => p.cause.kind = .configFile
  | .crash _ => False

namespace Config

open Text Yaml

/-- What breaks off the loading of a file, with the part of the file that causes it. -/
inductive Escapes [Machine] (host : Host) (path : Path) : Crash → Prop
  | directory (h : host.hasDirectory path = true) : Escapes host path .isDirectory
  | undecodable (bytes : List UInt8) (hread : host.read path = .ok bytes)
    (h : (Utf8.chars bytes).2 ≠ none) (f : Utf8.Fault) : Escapes host path (.undecodable f)
  | characters (bytes : List UInt8) (hread : host.read path = .ok bytes) {c : Crash}
    (h : IsLexical (Source.ofBytes bytes).text (.crash c)) : Escapes host path c
  | nodes (bytes : List UInt8) (hread : host.read path = .ok bytes) {c : Crash}
    (h : IsNodeFault (Tokens.ofSource (.ofBytes bytes)).list (.crash c)) : Escapes host path c
  | unspeakable (entries : List (Value × Value)) (hread : readEntries host path = .ok entries)
    {name : String} (hname : name ∈ ["pre_rules", "post_rules"]) {rules : Value}
    (hrules : Value.lookup? (.str name) entries = some rules) {items : List Value}
    (hitems : Lax.items? rules = some items) {v : Value} (hv : v ∈ items)
    (h : CustomRule.IsUnspeakable v) : Escapes host path .unencodable

variable {host : Host} {given : Option Path} {stem : String} {path : Path}

theorem onlyFails_source : OnlyFails Failure.IsConfigFile (source host given) := by
  unfold source
  split
  · exact .error rfl
  · split
    · exact .ok _
    · exact .error rfl

theorem onlyFails_ofHost :
    OnlyFails Failure.IsConfigFile ((Overrides.ofHost host stem).mapError .problem) := by
  have htruth : ∀ name text, OnlyFails (fun p : Problem ↦ p.cause.kind = .configFile)
      (Overrides.truth name text) := by
    intro name text
    unfold Overrides.truth
    dsimp only
    split
    · exact .ok _
    · split
      · exact .ok _
      · exact .error rfl
  unfold Overrides.ofHost
  refine OnlyFails.mapError (.bind ?_ fun _ _ ↦ .ok _) fun _ hp ↦ hp
  cases host.lookup? (stem ++ "ENFORCE") with
  | none => exact .ok _
  | some text =>
    rw [Option.mapM_some, map_eq_pure_bind]
    exact (htruth _ text).bind fun _ _ ↦ .ok _

theorem lookup?_apply (o : Overrides) {name : String} (h : name ∈ ["pre_rules", "post_rules"])
    (entries : List (Value × Value)) :
    Value.lookup? (.str name) (o.apply entries) = Value.lookup? (.str name) entries := by
  have hne : name ≠ "enforce" ∧ name ≠ "scope" := by
    revert name
    decide
  obtain ⟨_ | b, _ | s⟩ := o <;>
    simp [Overrides.apply, Value.lookup?_insert_of_ne hne.1, Value.lookup?_insert_of_ne hne.2]

theorem read_of_has {c : Crash} (hhas : host.has path = true) (h : host.read path = .error c) :
    c = .isDirectory ∧ host.hasDirectory path = true := by
  unfold Host.has Host.holds at hhas
  unfold Host.hasDirectory Host.holds
  unfold Host.read at h
  cases hfollow : host.follow path with
  | error c' =>
    rw [hfollow] at hhas
    exact absurd hhas Bool.false_ne_true
  | ok l =>
    rw [hfollow] at hhas h
    dsimp only at hhas ⊢
    rw [ok_bind, FileTree.read] at h
    rw [FileTree.has] at hhas
    cases hcontents : host.tree.contents? l with
    | some bytes =>
      rw [hcontents] at h
      exact absurd h nofun
    | none =>
      rw [hcontents] at h hhas
      have hdirectory : host.tree.isDirectory l = true := hhas
      dsimp only at h
      rw [hdirectory, if_pos rfl] at h
      exact ⟨(Except.error.inj h).symm, hdirectory⟩

theorem has_of_source (h : source host given = .ok path) : host.has path = true := by
  unfold source at h
  split at h
  next => exact absurd h nofun
  next path' _ =>
    split at h
    next hhas =>
      obtain rfl := Except.ok.inj h
      exact hhas
    next => exact absurd h nofun

section

variable [Machine]

theorem escapes_of_load {bytes : List UInt8} {c : Crash} (hread : host.read path = .ok bytes)
    (h : Yaml.load levels (.ofBytes bytes) = .error (.crash c)) : Escapes host path c := by
  obtain hbehind | hnodes := load_fault h
  · have hfault := Tokens.fault_ofSource (.ofBytes bytes)
    rw [← hbehind] at hfault
    obtain hlexical | hsource := hfault
    · exact .characters bytes hread hlexical
    · obtain heq | ⟨f, heq, hbytes⟩ := Source.fault_ofBytes hsource
      · exact absurd heq nofun
      · obtain rfl := Fault.crash.inj heq
        exact .undecodable bytes hread hbytes f
  · exact .nodes bytes hread hnodes

def IsLoadFailure (host : Host) (given : Option Path) (f : Failure) : Prop :=
  f.IsConfigFile ∨ ∃ path c, source host given = .ok path ∧ f = .crash c ∧ Escapes host path c

theorem onlyFails_readEntries (hsource : source host given = .ok path) :
    OnlyFails (IsLoadFailure host given) (readEntries host path) := by
  have hhas := has_of_source hsource
  unfold readEntries
  refine .bind ?_ fun bytes hread ↦ ?_
  · cases hread : host.read path with
    | ok bytes => exact .ok _
    | error c =>
      obtain ⟨rfl, hdirectory⟩ := read_of_has hhas hread
      exact .error (.inr ⟨path, _, hsource, rfl, .directory hdirectory⟩)
  · rw [mapError_eq_ok_iff] at hread
    split
    next => exact .error (.inl rfl)
    next c hload => exact .error (.inr ⟨path, c, hsource, rfl, escapes_of_load hread hload⟩)
    next => exact .ok _
    next => exact .error (.inl rfl)

theorem isLoadFailure_ofEntries (hsource : source host given = .ok path)
    {entries : List (Value × Value)} (hread : readEntries host path = .ok entries)
    (o : Overrides) : OnlyFails (IsLoadFailure host given) (ofEntries path (o.apply entries)) := by
  unfold ofEntries
  split
  next => exact .ok _
  next issues hissues =>
    refine .error ?_
    unfold refusal
    split
    next hany =>
      obtain ⟨i, hi, hcomplaint⟩ := List.any_eq_true.mp hany
      have hbad : (ofValue (.map (o.apply entries))).Unencodable := by
        rw [hissues]
        exact ⟨i, hi, hcomplaint⟩
      obtain ⟨name, hname, rules, hlookup, items, hitems, v, hv, hrule⟩ := unencodable_ofValue hbad
      rw [lookup?_apply o hname] at hlookup
      exact .inr ⟨path, _, hsource, rfl,
        .unspeakable entries hread hname hlookup hitems hv hrule⟩
    next => exact .inl rfl

/-- Whatever is at the path of a configuration and in the environment, loading gives a configuration
or a problem with the file, unless one of the causes is there that let another failure escape. -/
theorem failure_of_load {f : Failure} (h : load host given stem = .error f) :
    f.IsConfigFile ∨
      ∃ path c, source host given = .ok path ∧ f = .crash c ∧ Escapes host path c := by
  have hproblem : ∀ {α : Type} {x : Except Failure α}, OnlyFails Failure.IsConfigFile x →
      OnlyFails (IsLoadFailure host given) x := fun hx f hf ↦ .inl (hx f hf)
  unfold load loadLogged at h
  dsimp only at h
  split at h
  next f' heq =>
    obtain rfl := Except.error.inj h
    refine OnlyFails.bind (hproblem onlyFails_source) (fun path hsource ↦ ?_) _ heq
    exact (onlyFails_readEntries hsource).bind fun entries _ ↦
      (hproblem onlyFails_ofHost).bind fun overrides _ ↦ .ok _
  next path entries o heq =>
    simp only [bind_eq_ok_iff, pure_eq_ok, Except.ok.injEq] at heq
    obtain ⟨path', hsource, entries', hread, o', -, hall⟩ := heq
    obtain ⟨rfl, rfl, rfl⟩ := by simpa using hall
    exact isLoadFailure_ofEntries hsource hread _ f h

end

def policyHost (text : String) : Host where
  tree := { files := [(["policy.yml", "work"], text.toList.map (·.toNat.toUInt8))] }
  directory := ["work"]

def policyPath : Path := ⟨false, ["policy.yml"]⟩

def mistypedText : String := "name: acme\nenforce: !!bool x\n"

def crash? : Except Failure Config → Option Crash
  | .error (.crash c) => some c
  | _ => none

theorem eq_error_of_crash? {loaded : Except Failure Config} {c : Crash}
    (h : crash? loaded = some c) : loaded = .error (.crash c) := by
  unfold crash? at h
  split at h
  next c' =>
    obtain rfl := Option.some.inj h
    rfl
  next => exact absurd h nofun

section

open UsualMachine

theorem load_mistyped : load (policyHost mistypedText) (some policyPath) variableStem =
    .error (.crash (.noSuchKey "x")) :=
  eq_error_of_crash? (by decide +kernel)

theorem failure_of_load_mistyped :
    load (policyHost mistypedText) (some policyPath) variableStem =
        .error (.crash (.noSuchKey "x")) ∧
      ((Failure.crash (.noSuchKey "x")).IsConfigFile ∨
        ∃ path c, source (policyHost mistypedText) (some policyPath) = .ok path ∧
          Failure.crash (.noSuchKey "x") = .crash c ∧ Escapes (policyHost mistypedText) path c) :=
  ⟨load_mistyped, failure_of_load load_mistyped⟩

/-- The failure of a conversion is no problem with the file. -/
theorem mistyped_escapes : ¬ ∀ host given stem, (∃ c, load host given stem = .ok c) ∨
    ∃ p, load host given stem = .error (.problem p) ∧ p.cause.kind = .configFile := by
  intro hall
  obtain ⟨c, hc⟩ | ⟨p, hp, -⟩ := hall (policyHost mistypedText) (some policyPath) variableStem
  · rw [load_mistyped] at hc
    exact absurd hc nofun
  · rw [load_mistyped] at hp
    exact absurd hp nofun

end

end Config

end WebAcl
