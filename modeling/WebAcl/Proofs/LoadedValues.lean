import WebAcl.Proofs.DocumentFaults
import WebAcl.Proofs.Parts

namespace WebAcl

namespace Value

variable {v key : Value} {es : List (Value × Value)}

theorem isLoaded_list {xs : List Value} (h : ∀ x ∈ xs, x.IsLoaded) : (list xs).IsLoaded :=
  isLoaded_iff.mpr ⟨trivial, h⟩

theorem isLoaded_tuple {xs : List Value} (h : ∀ x ∈ xs, x.IsLoaded) : (tuple xs).IsLoaded :=
  isLoaded_iff.mpr ⟨trivial, h⟩

theorem isLoaded_set {xs : List Value} (h : ∀ x ∈ xs, x.IsAtom) : (set xs).IsLoaded :=
  isLoaded_iff.mpr ⟨h, fun x hx ↦ (h x hx).isLoaded⟩

theorem isLoaded_map_iff :
    (map es).IsLoaded ↔ ∀ e ∈ es, e.1.IsAtom ∧ e.2.IsLoaded := by
  rw [isLoaded_iff]
  constructor
  · rintro ⟨hkeys, hinner⟩ e he
    exact ⟨hkeys e he, hinner e.2 (List.mem_append_right _ (List.mem_map_of_mem he))⟩
  · intro h
    refine ⟨fun e he ↦ (h e he).1, fun w hw ↦ ?_⟩
    obtain hkey | hvalue := List.mem_append.mp hw
    · obtain ⟨e, he, rfl⟩ := List.mem_map.mp hkey
      exact (h e he).1.isLoaded
    · obtain ⟨e, he, rfl⟩ := List.mem_map.mp hvalue
      exact (h e he).2

theorem isLoaded_insert (hes : (map es).IsLoaded) (hkey : key.IsAtom) (hv : v.IsLoaded) :
    (map (insert key v es)).IsLoaded := by
  rw [isLoaded_map_iff] at hes ⊢
  induction es with
  | nil => exact List.forall_mem_singleton.mpr ⟨hkey, hv⟩
  | cons e es ih =>
    obtain ⟨he, hes⟩ := List.forall_mem_cons.mp hes
    rw [insert]
    split
    · exact List.forall_mem_cons.mpr ⟨⟨he.1, hv⟩, hes⟩
    · exact List.forall_mem_cons.mpr ⟨he, ih hes⟩

end Value

namespace Yaml

open Outcome Value

variable {α β : Type} {Q : α → Prop} {R : β → Prop}

abbrev Results {ε : Type} (Q : α → Prop) (x : Except ε α) : Prop :=
  Yields (fun _ ↦ True) Q x

def IsEntry (e : Value × Value) : Prop :=
  isEndless e.1 = false → e.1.IsAtom ∧ e.2.IsLoaded

abbrev Enters (es : List BuiltEntry) : Prop :=
  ∀ e ∈ es, Results IsEntry e

namespace Results

theorem of_any {ε : Type} {x : Except ε α} {f : α → Except ε β} (h : ∀ a, Results R (f a)) :
    Results R (x >>= f) := by
  cases x with
  | ok a => exact h a
  | error e => trivial

theorem pair {x : Built α} {y : Built β} (hx : Results Q x) (hy : Results R y) :
    Results (fun p ↦ Q p.1 ∧ R p.2) (Built.pair x y) := by
  cases x with
  | ok a =>
    cases y with
    | ok b => exact ⟨hx, hy⟩
    | error e => trivial
  | error e => cases y <;> trivial

theorem all {xs : List (Built α)} (h : ∀ x ∈ xs, Results Q x) :
    Results (fun as ↦ ∀ a ∈ as, Q a) (Built.all xs) := by
  induction xs with
  | nil => exact nofun
  | cons x xs ih =>
    obtain ⟨hx, hxs⟩ := List.forall_mem_cons.mp h
    exact (pair hx (ih hxs)).map fun _ hp ↦ List.forall_mem_cons.mpr hp

theorem below {x : Built α} (h : Results Q x) : Results Q x.below :=
  Yields.mapError h fun _ _ ↦ trivial

theorem here {x : Except Fault α} (h : Results Q x) : Results Q (Built.here x) :=
  Yields.mapError h fun _ _ ↦ trivial

/-- Whatever may be a key is an atom, if the value of a node that may be one is. -/
theorem asKey {x : Built Value} (h : Results (fun v ↦ isKey v = true → v.IsAtom) x) :
    Results IsAtom x.asKey := by
  unfold Built.asKey
  split
  · split
    next hkey => exact h hkey
    next => trivial
  · trivial
  · trivial

end Results

theorem isLoaded_fillMap {entries : List (Value × Value)}
    (h : ∀ e ∈ entries, e.1.IsAtom ∧ e.2.IsLoaded) : (Value.map (fillMap entries)).IsLoaded := by
  suffices ∀ before, (Value.map before).IsLoaded →
      (Value.map (entries.foldl (fun es e ↦ Value.insert e.1 e.2 es) before)).IsLoaded from
    this [] (isLoaded_map_iff.mpr nofun)
  induction entries with
  | nil => exact fun before hbefore ↦ hbefore
  | cons e entries ih =>
    intro before hbefore
    obtain ⟨he, h⟩ := List.forall_mem_cons.mp h
    exact ih h _ (isLoaded_insert hbefore he.1 he.2)

theorem isAtom_fillSet [Machine] {entries : List (Value × Value)}
    (h : ∀ e ∈ entries, e.1.IsAtom ∧ e.2.IsLoaded) : ∀ x ∈ fillSet entries, x.IsAtom := by
  intro x hx
  obtain ⟨e, he, rfl⟩ := List.mem_map.mp ((Machine.setOrder_perm _).mem_iff.mp hx)
  exact (isLoaded_map_iff.mp (isLoaded_fillMap h) e he).1

theorem isLoaded_endless : endless.IsLoaded := isLoaded_iff.mpr ⟨trivial, nofun⟩

theorem isLoaded_collected {make : List (Value × Value) → Value} {entries : List (Value × Value)}
    (hmake : (∀ e ∈ entries, e.1.IsAtom ∧ e.2.IsLoaded) →
      (make entries).IsLoaded ∧ isKey (make entries) = false)
    (h : ∀ e ∈ entries, IsEntry e) :
    (collected make entries).IsLoaded ∧
      (isKey (collected make entries) = true → (collected make entries).IsAtom) := by
  unfold collected
  split
  · exact ⟨isLoaded_endless, fun hkey ↦ absurd hkey Bool.false_ne_true⟩
  next hnone =>
    simp only [List.any_eq_true, not_exists, not_and, Bool.not_eq_true] at hnone
    obtain ⟨hloaded, hkey⟩ := hmake fun e he ↦ h e he (hnone e he)
    exact ⟨hloaded, fun hiskey ↦ absurd (hkey.symm.trans hiskey) Bool.false_ne_true⟩

theorem isAtom_timestampValue (text : String) : Results IsAtom (timestampValue text) := by
  unfold timestampValue
  split
  · trivial
  · dsimp only
    split
    · exact .of_any fun _ ↦ trivial
    · repeat' first
        | exact trivial
        | refine .of_any fun _ ↦ ?_
        | split

theorem isAtom_scalarValue (tag : Tag) (text : String) :
    Results IsAtom (scalarValue tag text) := by
  cases tag with
  | timestamp => exact isAtom_timestampValue text
  | str | null => trivial
  | bool | int | float | binary => exact .of_any fun _ ↦ trivial
  | _ => trivial

namespace Node

/-- What a node stands for in each of its uses comes from a text. It can be a key only if it is an
atom. -/
structure Loads (n : Node) : Prop where
  value : Results (fun v ↦ v.IsLoaded ∧ (isKey v = true → v.IsAtom)) n.value
  entries : Results Enters n.entries
  taken : Results Enters n.taken
  own : Results Enters n.own
  pair : Results IsLoaded n.pair

namespace Loads

theorem scalar (tag : Tag) (text : String) : Loads (.scalar tag text) where
  value := by
    unfold Node.scalar
    dsimp only
    split
    case h_6 =>
      exact (Results.here (isAtom_scalarValue tag text)).mono fun v hv ↦ ⟨hv.isLoaded, fun _ ↦ hv⟩
    all_goals trivial
  entries := trivial
  taken := trivial
  own := trivial
  pair := trivial

theorem fromAll {xs : List (Except Fault (List BuiltEntry))} (h : ∀ x ∈ xs, Results Enters x) :
    Results Enters (fromAll xs) := by
  induction xs with
  | nil => exact fun _ ↦ nofun
  | cons x xs ih =>
    obtain ⟨hx, hxs⟩ := List.forall_mem_cons.mp h
    refine hx.bind fun head hhead ↦ (ih hxs).bind fun rest hrest e he ↦ ?_
    exact (List.mem_append.mp he).elim (hrest e) (hhead e)

theorem list (tag : Tag) {ns : List Node} (h : ∀ n ∈ ns, Loads n) : Loads (.list tag ns) where
  value := by
    have hvalues := Results.all (List.forall_mem_map.mpr fun n hn ↦ (h n hn).value)
    have hpairs := Results.all (List.forall_mem_map.mpr fun n hn ↦ (h n hn).pair)
    unfold Node.list
    dsimp only
    split
    · exact (Results.below hvalues).map fun xs hxs ↦
        ⟨isLoaded_list fun x hx ↦ (hxs x hx).1, nofun⟩
    · exact (Results.below hpairs).map fun xs hxs ↦ ⟨isLoaded_list hxs, nofun⟩
    · exact (Results.below hpairs).map fun xs hxs ↦ ⟨isLoaded_list hxs, nofun⟩
    all_goals trivial
  entries := trivial
  taken := fromAll (List.forall_mem_map.mpr fun n hn ↦ (h n hn).entries)
  own := fromAll (List.forall_mem_map.mpr fun n hn ↦ (h n hn).own)
  pair := trivial

variable {es : List (Node × Node)}

theorem flatEntries (h : ∀ e ∈ es, Loads e.1 ∧ Loads e.2) :
    Results (fun r ↦ Enters r.1 ∧ Enters r.2) (flatEntries es) := by
  induction es with
  | nil => exact ⟨nofun, nofun⟩
  | cons e es ih =>
    obtain ⟨⟨hk, hv⟩, hes⟩ := List.forall_mem_cons.mp h
    unfold Node.flatEntries
    split
    · refine hv.taken.bind fun taken htaken ↦ (ih hes).bind fun rest hrest ↦ ?_
      exact ⟨fun e he ↦ (List.mem_append.mp he).elim (htaken e) (hrest.1 e), hrest.2⟩
    · have hkey : Results IsAtom (if e.1.tag = .value then Built.here (e.1.text.map .str)
          else e.1.value.asKey) := by
        split
        · cases htext : e.1.text <;> trivial
        · exact .asKey (hk.value.mono fun _ hv ↦ hv.2)
      refine (ih hes).bind fun rest hrest ↦ ⟨hrest.1, ?_⟩
      exact List.forall_mem_cons.mpr
        ⟨(Results.pair hkey hv.value).mono fun _ hp _ ↦ ⟨hp.1, hp.2.1⟩, hrest.2⟩

theorem isAtom_scalarOf (tag : Tag) (text : Except Fault String) :
    Results IsAtom (scalarOf tag text) := by
  refine .of_any fun s ↦ ?_
  split
  · trivial
  · exact isAtom_scalarValue tag s

theorem map [Machine] (tag : Tag) (h : ∀ e ∈ es, Loads e.1 ∧ Loads e.2) : Loads (.map tag es) := by
  have hall : Results Enters (Node.map tag es).entries :=
    (flatEntries h).map fun r hr e he ↦ (List.mem_append.mp he).elim (hr.1 e) (hr.2 e)
  have hown : Results Enters (Node.map tag es).own := (flatEntries h).map fun r hr ↦ hr.2
  have hbuilt : Results (fun entries ↦ ∀ e ∈ entries, IsEntry e)
      (Built.below ((Built.here (Node.map tag es).entries).bind Built.all)) :=
    .below (Yields.bind (Results.here hall) fun _ hes ↦ Results.all hes)
  refine ⟨?_, hall, hall, hown, ?_⟩
  · -- the tag says whether the entries make a map or, by their keys, a set
    unfold Node.map at hbuilt ⊢
    dsimp only at hbuilt ⊢
    split
    · exact hbuilt.map fun _ ↦ isLoaded_collected fun hes ↦ ⟨isLoaded_fillMap hes, rfl⟩
    · exact hbuilt.map fun _ ↦
        isLoaded_collected fun hes ↦ ⟨isLoaded_set (isAtom_fillSet hes), rfl⟩
    · trivial
    · trivial
    · trivial
    · split
      · exact (Results.here (isAtom_scalarOf tag _)).mono fun v hv ↦ ⟨hv.isLoaded, fun _ ↦ hv⟩
      · trivial
  · unfold Node.map
    dsimp only
    split
    next k v =>
      obtain ⟨hk, hv⟩ := h (k, v) List.mem_cons_self
      refine (Results.pair hk.value hv.value).map fun p hp ↦ isLoaded_tuple ?_
      exact List.forall_mem_cons.mpr ⟨hp.1.1, List.forall_mem_singleton.mpr hp.2.1⟩
    next => trivial

theorem endless : Loads .endless where
  value := ⟨isLoaded_endless, nofun⟩
  entries := List.forall_mem_singleton.mpr nofun
  taken := List.forall_mem_singleton.mpr nofun
  own := fun _ ↦ nofun
  pair := isLoaded_endless

theorem again {n : Node} (h : Loads n) (taking : Bool) : Loads (n.again taking) := by
  unfold Node.again
  split
  · exact { h with
      entries := h.entries.bind fun _ _ ↦ h.own
      taken := h.taken.bind fun _ _ ↦ h.own }
  · exact h

end Loads

theorem Made.loads [Machine] {n : Node} (h : n.Made) : n.Loads := by
  induction h with
  | scalar tag text => exact .scalar tag text
  | list tag _ ih => exact .list tag ih
  | map tag _ _ ihkeys ihvalues => exact .map tag fun e he ↦ ⟨ihkeys e he, ihvalues e he⟩
  | endless => exact .endless
  | again _ taking ih => exact ih.again taking

end Node

/-- The data of a text consists of lists, pairs, maps, sets and atoms. -/
theorem isLoaded_of_load [Machine] {levels : Nat} {source : Source} {v : Value}
    (h : load levels source = .ok v) : v.IsLoaded := by
  unfold load at h
  generalize Tokens.ofSource source = ts at h
  obtain ⟨root, hroot, hv⟩ := bind_eq_ok_iff.mp h
  have hcomes : Yields (IsFault ts) (OptionComes ts) (.ok root) :=
    hroot ▸ Compose.yields_root levels
  cases root with
  | none =>
    obtain rfl := Except.ok.inj hv
    exact IsAtom.isLoaded trivial
  | some n =>
    have hvalue := (hcomes n rfl).made.loads.value
    rw [mapError_eq_ok_iff.mp hv] at hvalue
    exact hvalue.1

end Yaml

end WebAcl
