import WebAcl.Proofs.Outcome
import WebAcl.Yaml.Node

namespace WebAcl.Yaml

open Outcome

variable {α β : Type} {P : Fault → Prop} {T : String → Prop} {V E : Prop}

abbrev Builds (P : Fault → Prop) {α : Type} (x : Built α) : Prop :=
  Yields (fun e ↦ P e.2) (fun _ ↦ True) x

abbrev Lists (P : Fault → Prop) (x : Except Fault (List BuiltEntry)) : Prop :=
  Yields P (fun es ↦ ∀ e ∈ es, Builds P e) x

namespace Builds

theorem here {x : Except Fault α} {Q : α → Prop} (h : Yields P Q x) : Builds P (.here x) :=
  (h.mono fun _ _ ↦ trivial).mapError fun _ he ↦ he

theorem malformed (hP : P .malformed) (level : Nat) : Builds P (.malformed level : Built α) := hP

theorem below {x : Built α} (h : Builds P x) : Builds P x.below := h.mapError fun _ he ↦ he

theorem map {x : Built α} (h : Builds P x) (f : α → β) : Builds P (x.map f) :=
  Yields.map h fun _ _ ↦ trivial

theorem pair {x : Built α} {y : Built β} (hx : Builds P x) (hy : Builds P y) :
    Builds P (.pair x y) := by
  cases x with
  | ok a =>
    cases y with
    | ok b => exact trivial
    | error f => exact hy
  | error e =>
    cases y with
    | ok b => exact hx
    | error f =>
      change P (if f.1 < e.1 then f else e).2
      split
      · exact hy
      · exact hx

theorem all {xs : List (Built α)} (h : ∀ x ∈ xs, Builds P x) : Builds P (.all xs) := by
  induction xs with
  | nil => exact trivial
  | cons x xs ih =>
    obtain ⟨hx, hxs⟩ := List.forall_mem_cons.mp h
    exact map (pair hx (ih hxs)) _

theorem asKey (hP : P .malformed) {x : Built Value} (h : Builds P x) : Builds P x.asKey := by
  unfold Built.asKey
  split
  · split
    · exact trivial
    · exact malformed hP 0
  · exact h
  · exact malformed hP 0

end Builds

namespace Node

/-- A node made of scalars, lists and maps, and of collections that are met again inside themselves.
-/
inductive Made [Machine] : Node → Prop
  | scalar (tag : Tag) (text : String) : Made (.scalar tag text)
  | list (tag : Tag) {items : List Node} (h : ∀ n ∈ items, Made n) : Made (.list tag items)
  | map (tag : Tag) {entries : List (Node × Node)} (hkeys : ∀ e ∈ entries, Made e.1)
    (hvalues : ∀ e ∈ entries, Made e.2) : Made (.map tag entries)
  | endless : Made .endless
  | again {n : Node} (h : Made n) (taking : Bool) : Made (n.again taking)

/-- Whatever a node is used for, it has only faults of a kind, and its text as a scalar, if it has
one, is one of some texts. The text is asked for only if some node has the type of a mark of values,
and has a fault of its own only if some collection is met again inside itself. -/
structure Sound [Machine] (P : Fault → Prop) (T : String → Prop) (V E : Prop) (n : Node) :
    Prop where
  tag : n.tag = .value → V
  value : Builds P n.value
  text : Yields (fun f ↦ P f ∨ E ∧ f = .crash .nestedTooDeep) T n.text
  entries : Lists P n.entries
  taken : Lists P n.taken
  own : Lists P n.own
  pair : Builds P n.pair
  made : n.Made

/-- The kind covers breaking the rules of the language, and the text of what is met again inside
itself where it is asked for. -/
structure Kind (P : Fault → Prop) (V E : Prop) : Prop where
  malformed : P .malformed
  endless : V → E → P (.crash .nestedTooDeep)

namespace Sound

theorem scalar [Machine] (hP : Kind P V E) {tag : Tag} {text : String} (htag : tag = .value → V)
    (htext : T text) (hvalue : Yields P (fun _ ↦ True) (scalarValue tag text)) :
    Sound P T V E (.scalar tag text) where
  tag := htag
  value := by
    unfold Node.scalar
    dsimp only
    split
    case h_6 => exact .here hvalue
    all_goals exact .malformed hP.malformed 1
  text := htext
  entries := hP.malformed
  taken := hP.malformed
  own := hP.malformed
  pair := hP.malformed
  made := .scalar tag text

theorem fromAll {xs : List (Except Fault (List BuiltEntry))} (h : ∀ x ∈ xs, Lists P x) :
    Lists P (fromAll xs) := by
  induction xs with
  | nil => exact fun _ ↦ nofun
  | cons x xs ih =>
    obtain ⟨hx, hxs⟩ := List.forall_mem_cons.mp h
    refine hx.bind fun head hhead ↦ (ih hxs).bind fun rest hrest e he ↦ ?_
    exact (List.mem_append.mp he).elim (hrest e) (hhead e)

theorem list [Machine] (hP : Kind P V E) {tag : Tag} {ns : List Node} (htag : tag = .value → V)
    (h : ∀ n ∈ ns, Sound P T V E n) : Sound P T V E (.list tag ns) where
  tag := htag
  value := by
    have hvalues : Builds P (.all (ns.map (·.value))) :=
      .all (List.forall_mem_map.mpr fun n hn ↦ (h n hn).value)
    have hpairs : Builds P (.all (ns.map (·.pair))) :=
      .all (List.forall_mem_map.mpr fun n hn ↦ (h n hn).pair)
    unfold Node.list
    dsimp only
    split
    · exact hvalues.below.map _
    · exact hpairs.below.map _
    · exact hpairs.below.map _
    · exact .malformed hP.malformed 1
    · exact .malformed hP.malformed 1
    · exact .malformed hP.malformed 0
  text := .inl hP.malformed
  entries := hP.malformed
  taken := fromAll (List.forall_mem_map.mpr fun n hn ↦ (h n hn).entries)
  own := fromAll (List.forall_mem_map.mpr fun n hn ↦ (h n hn).own)
  pair := hP.malformed
  made := .list tag fun n hn ↦ (h n hn).made

variable {es : List (Node × Node)}

theorem textOf [Machine] {n : Node} (hP : Kind P V E) (h : Sound P T V E n) (hvalue : V) :
    Yields P T n.text := by
  refine h.text.weaken fun f hf ↦ ?_
  obtain hf | ⟨hendless, rfl⟩ := hf
  · exact hf
  · exact hP.endless hvalue hendless

theorem textOfEntries [Machine] (hP : Kind P V E)
    (h : ∀ e ∈ es, Sound P T V E e.1 ∧ Sound P T V E e.2) : Yields P T (textOfEntries es) := by
  induction es with
  | nil => exact hP.malformed
  | cons e es ih =>
    obtain ⟨⟨hk, hv⟩, hes⟩ := List.forall_mem_cons.mp h
    unfold Node.textOfEntries
    split
    next hmark => exact hv.textOf hP (hk.tag hmark)
    next => exact ih hes

theorem flatEntries [Machine] (hP : Kind P V E)
    (h : ∀ e ∈ es, Sound P T V E e.1 ∧ Sound P T V E e.2) :
    Yields P (fun r ↦ (∀ e ∈ r.1, Builds P e) ∧ ∀ e ∈ r.2, Builds P e) (flatEntries es) := by
  induction es with
  | nil => exact ⟨nofun, nofun⟩
  | cons e es ih =>
    obtain ⟨⟨hk, hv⟩, hes⟩ := List.forall_mem_cons.mp h
    unfold Node.flatEntries
    split
    · refine hv.taken.bind fun taken htaken ↦ (ih hes).bind fun (merged, own) hrest ↦ ?_
      exact ⟨fun e he ↦ (List.mem_append.mp he).elim (htaken e) (hrest.1 e), hrest.2⟩
    · have hkey : Builds P (if e.1.tag = .value then .here (e.1.text.map .str)
          else e.1.value.asKey) := by
        split
        next hmark =>
          have htext := hk.textOf hP (hk.tag hmark)
          exact .here (Yields.map (R := fun _ ↦ True) htext fun _ _ ↦ trivial)
        next => exact .asKey hP.malformed hk.value
      refine (ih hes).bind fun (merged, own) hrest ↦ ⟨hrest.1, ?_⟩
      exact List.forall_mem_cons.mpr ⟨.pair hkey hv.value, hrest.2⟩

theorem scalarOf {tag : Tag} {text : Except Fault String} (htext : Yields P T text)
    (htime : tag = .timestamp →
      P (.crash (.badType "expected string or bytes-like object, got 'list'")))
    (hvalue : ∀ s, T s → Yields P (fun _ ↦ True) (scalarValue tag s)) :
    Yields P (fun _ ↦ True) (scalarOf tag text) := by
  refine htext.bind fun s hs ↦ ?_
  split
  next htag => exact htime htag
  next => exact hvalue s hs

theorem map [Machine] (hP : Kind P V E) {tag : Tag} (htag : tag = .value → V)
    (h : ∀ e ∈ es, Sound P T V E e.1 ∧ Sound P T V E e.2)
    (htime : tag = .timestamp →
      P (.crash (.badType "expected string or bytes-like object, got 'list'")))
    (hvalue : isScalarTag tag = true → ∀ s, T s → Yields P (fun _ ↦ True) (scalarValue tag s)) :
    Sound P T V E (.map tag es) := by
  have hall : Lists P (Node.map tag es).entries :=
    (flatEntries hP h).map fun r hr e he ↦ (List.mem_append.mp he).elim (hr.1 e) (hr.2 e)
  have hbuilt : Builds P (.below ((Built.here (Node.map tag es).entries).bind Built.all)) :=
    .below (Yields.bind (hall.mapError fun _ he ↦ he) fun _ hes ↦ Builds.all hes)
  have htext := textOfEntries hP h
  have hown : Lists P (Node.map tag es).own := (flatEntries hP h).map fun r hr ↦ hr.2
  refine ⟨htag, ?_, ?_, hall, hall, hown, ?_, .map tag (fun e he ↦ (h e he).1.made) fun e he ↦
    (h e he).2.made⟩
  · unfold Node.map at hbuilt ⊢
    dsimp only at hbuilt ⊢
    split
    · exact hbuilt.map _
    · exact hbuilt.map _
    · exact .malformed hP.malformed 1
    · exact .malformed hP.malformed 1
    · exact .malformed hP.malformed 1
    · split
      next hscalar => exact .here (scalarOf htext htime (hvalue hscalar))
      next => exact .malformed hP.malformed 0
  · exact htext.weaken fun f hf ↦ .inl hf
  · unfold Node.map
    dsimp only
    split
    next k v =>
      obtain ⟨hk, hv⟩ := h (k, v) List.mem_cons_self
      exact (Builds.pair hk.value hv.value).map _
    next => exact .malformed hP.malformed 0

theorem endless [Machine] (h : E) : Sound P T V E .endless where
  tag := nofun
  value := trivial
  text := .inr ⟨h, rfl⟩
  entries := List.forall_mem_singleton.mpr trivial
  taken := List.forall_mem_singleton.mpr trivial
  own := fun _ ↦ nofun
  pair := trivial
  made := .endless

theorem again [Machine] {n : Node} (h : Sound P T V E n) (taking : Bool) :
    Sound P T V E (n.again taking) := by
  have hmade := h.made.again taking
  unfold Node.again at hmade ⊢
  split
  next htaking =>
    rw [if_pos htaking] at hmade
    exact { h with
      entries := h.entries.bind fun _ _ ↦ h.own
      taken := h.taken.bind fun _ _ ↦ h.own
      made := hmade }
  next => exact h

end Sound

end Node

end WebAcl.Yaml
