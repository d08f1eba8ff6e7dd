import WebAcl.Compile.Session
import WebAcl.Proofs.Bands

namespace WebAcl

namespace Compiling

variable {α β : Type}

def exec (x : Compiling α) (s : Session) : Except Failure α × Session :=
  x.run.run s

/-- What a step gives in a compilation of its own. -/
def alone (x : Compiling α) : Except Failure α :=
  (x.exec {}).1

@[simp] theorem exec_pure (a : α) (s : Session) : exec (pure a) s = (.ok a, s) := rfl

@[simp] theorem exec_throw (f : Failure) (s : Session) :
    exec (throw f : Compiling α) s = (.error f, s) := rfl

theorem exec_bind (x : Compiling α) (f : α → Compiling β) (s : Session) :
    (x >>= f).exec s = match (x.exec s).1 with
      | .ok a => (f a).exec (x.exec s).2
      | .error e => (.error e, (x.exec s).2) := by
  simp only [exec, ExceptT.run_bind, StateT.run_bind]
  change (match x.run.run s with | (r, t) => _) = _
  rcases x.run.run s with ⟨_ | _, t⟩ <;> rfl

@[simp] theorem exec_map (f : α → β) (x : Compiling α) (s : Session) :
    (f <$> x).exec s = (f <$> (x.exec s).1, (x.exec s).2) := by
  rw [map_eq_pure_bind, exec_bind]
  rcases x.exec s with ⟨_ | _, t⟩ <;> rfl

@[simp] theorem exec_get (s : Session) : exec (get : Compiling Session) s = (.ok s, s) := rfl

@[simp] theorem exec_modify (f : Session → Session) (s : Session) :
    exec (modify f : Compiling Unit) s = (.ok (), f s) := rfl

@[simp] theorem exec_note (level : Log.Level) (message : String) (s : Session) :
    (note level message).exec s =
      (.ok (), { s with log := s.log ++ [⟨level, "wafpolicy.waf.builders", message⟩] }) := rfl

@[simp] theorem exec_log (level : Log.Level) (logger message : String) (s : Session) :
    (Compiling.log level logger message).exec s =
      (.ok (), { s with log := s.log ++ [⟨level, logger, message⟩] }) := rfl

@[simp] theorem exec_ofExcept (x : Except Failure α) (s : Session) :
    (ofExcept x).exec s = (x, s) := by
  cases x <;> rfl

@[simp] theorem exec_ofProblem (x : Except Problem α) (s : Session) :
    (ofProblem x).exec s = (x.mapError .ofProblem, s) := by
  cases x <;> rfl

theorem exec_allocate (k : Category) (count : Option Int) (s : Session) :
    (allocate k count).exec s = match s.allocator.allocate k count with
      | .ok (ps, a) => (.ok ps, ⟨a, s.log ++ [⟨.debug, "wafpolicy.waf.bands",
          s!"Allocated {Value.tupleText (ps.map toString)} in band {Choice.text k}"⟩]⟩)
      | .error p => (.error (.ofProblem p), s) := by
  simp only [allocate, exec_bind, exec_get, exec_ofProblem]
  cases s.allocator.allocate k count <;> rfl

theorem exec_slot (k : Category) (offset : Int) (s : Session) :
    (slot k offset).exec s = match s.allocator.slot k offset with
      | .ok (p, a) => (.ok p, { s with allocator := a })
      | .error p => (.error (.ofProblem p), s) := by
  simp only [slot, exec_bind, exec_get, exec_ofProblem]
  cases s.allocator.slot k offset <;> rfl

end Compiling

def Session.AgreesOn (k : Category) (s t : Session) : Prop :=
  ∀ p, k.Owns p → s.allocator.isClaimed p = t.allocator.isClaimed p

namespace Compiling

variable {α β : Type} {k : Category}

/-- A step that depends on the claims on the priorities of one category only, and that makes claims
on no others. -/
structure ConfinedTo (k : Category) (x : Compiling α) : Prop where
  result_eq : ∀ {s t : Session}, s.AgreesOn k t → (x.exec s).1 = (x.exec t).1
  agreesOn : ∀ {s t : Session}, s.AgreesOn k t → (x.exec s).2.AgreesOn k (x.exec t).2
  frame : ∀ (s : Session) (p : Int), ¬ k.Owns p →
    (x.exec s).2.allocator.isClaimed p = s.allocator.isClaimed p

namespace ConfinedTo

theorem of_allocator_eq {x : Compiling α} {r : Except Failure α}
    (h : ∀ s, (x.exec s).1 = r ∧ (x.exec s).2.allocator = s.allocator) : x.ConfinedTo k where
  result_eq {s t} _ := (h s).1.trans (h t).1.symm
  agreesOn {s t} hst p hp := by rw [(h s).2, (h t).2]; exact hst p hp
  frame s p _ := by rw [(h s).2]

theorem pure (a : α) : (Pure.pure a : Compiling α).ConfinedTo k :=
  of_allocator_eq (r := .ok a) fun _ ↦ ⟨rfl, rfl⟩

theorem throw (f : Failure) : (MonadExcept.throw f : Compiling α).ConfinedTo k :=
  of_allocator_eq (r := .error f) fun _ ↦ ⟨rfl, rfl⟩

theorem note (level : Log.Level) (message : String) :
    (Compiling.note level message).ConfinedTo k :=
  of_allocator_eq (r := .ok ()) fun _ ↦ ⟨rfl, rfl⟩

theorem ofExcept (x : Except Failure α) : (Compiling.ofExcept x).ConfinedTo k :=
  of_allocator_eq (r := x) fun _ ↦ by simp

theorem ofProblem (x : Except Problem α) : (Compiling.ofProblem x).ConfinedTo k :=
  of_allocator_eq (r := x.mapError .ofProblem) fun _ ↦ by simp

theorem bind {x : Compiling α} {f : α → Compiling β} (hx : x.ConfinedTo k)
    (hf : ∀ a, (f a).ConfinedTo k) : (x >>= f).ConfinedTo k where
  result_eq {s t} h := by
    have ha := hx.agreesOn h
    rw [exec_bind, exec_bind, hx.result_eq h]
    cases (x.exec t).1 with
    | ok a => exact (hf a).result_eq ha
    | error e => rfl
  agreesOn {s t} h := by
    have ha := hx.agreesOn h
    rw [exec_bind, exec_bind, hx.result_eq h]
    cases (x.exec t).1 with
    | ok a => exact (hf a).agreesOn ha
    | error e => exact ha
  frame s p hp := by
    have hr := hx.frame s p hp
    rw [exec_bind]
    cases (x.exec s).1 with
    | ok a => exact ((hf a).frame _ p hp).trans hr
    | error e => exact hr

theorem allocate (count : Option Int) : (Compiling.allocate k count).ConfinedTo k where
  result_eq {s t} h := by
    rw [exec_allocate, exec_allocate]
    rcases Allocator.allocate_congr h count with ⟨e, hs, ht⟩ | ⟨ps, hs, ht, -⟩ <;> rw [hs, ht]
  agreesOn {s t} h := by
    rw [exec_allocate, exec_allocate]
    rcases Allocator.allocate_congr h count with ⟨e, hs, ht⟩ | ⟨ps, hs, ht, -⟩ <;> rw [hs, ht]
    · exact h
    · intro p hp
      simp [h p hp]
  frame s p hp := by
    rw [exec_allocate]
    rcases Allocator.allocate_congr (k := k) (fun _ _ ↦ rfl) count with
      ⟨e, hs, -⟩ | ⟨ps, hs, -, hps⟩ <;> rw [hs]
    have : p ∉ ps := fun h ↦ hp (hps p h)
    simp [this]

theorem slot (offset : Int) : (Compiling.slot k offset).ConfinedTo k where
  result_eq {s t} h := by
    rw [exec_slot, exec_slot]
    rcases Allocator.slot_congr h offset with ⟨e, hs, ht⟩ | ⟨q, hs, ht, -⟩ <;> rw [hs, ht]
  agreesOn {s t} h := by
    rw [exec_slot, exec_slot]
    rcases Allocator.slot_congr h offset with ⟨e, hs, ht⟩ | ⟨q, hs, ht, -⟩ <;> rw [hs, ht]
    · exact h
    · intro p hp
      simp [h p hp]
  frame s p hp := by
    rw [exec_slot]
    rcases Allocator.slot_congr (k := k) (fun _ _ ↦ rfl) offset with
      ⟨e, hs, -⟩ | ⟨q, hs, -, hq⟩ <;> rw [hs]
    have : p ≠ q := fun h ↦ hp (h ▸ hq)
    simp [this]

end ConfinedTo

theorem exec_allocate_untouched {k : Category} {s : Session} (hk : (Band.of k).custom = false)
    (hs : s.allocator = {}) {n : Nat} (hn : n ≤ (Band.of k).priorities.length) :
    ((allocate k (some n)).exec s).1 = .ok ((Band.of k).priorities.take n) := by
  have hfree : ({} : Allocator).free (Band.of k) = (Band.of k).priorities :=
    List.filter_eq_self.mpr fun _ _ ↦ rfl
  simp [exec_allocate, hs, Allocator.allocate, Allocator.fixedBand_of_fixed hk, hfree,
    Nat.not_lt.mpr hn, Allocator.takeCount]

theorem alone_bind (x : Compiling α) (f : α → Compiling β) :
    (x >>= f).alone = x.alone >>= fun a ↦ ((f a).exec (x.exec {}).2).1 := by
  unfold alone
  rw [exec_bind]
  cases (x.exec {}).1 <;> rfl

theorem ConfinedTo.exec_eq_alone {x : Compiling α} (hx : x.ConfinedTo k) {s : Session}
    (hs : s.AgreesOn k {}) : (x.exec s).1 = x.alone :=
  hx.result_eq hs

/-- Steps of different categories, one after the other, give what each gives on its own. -/
theorem exec_mapM {f : Category → Compiling α} (hf : ∀ k, (f k).ConfinedTo k)
    {ks : List Category} (hks : ks.Nodup) {s : Session} (hs : ∀ k ∈ ks, s.AgreesOn k {}) :
    ((ks.mapM f).exec s).1 = ks.mapM fun k ↦ (f k).alone := by
  induction ks generalizing s with
  | nil => rfl
  | cons k ks ih =>
    obtain ⟨hk, hks⟩ := List.nodup_cons.mp hks
    have hr := (hf k).exec_eq_alone (hs k List.mem_cons_self)
    -- the first step leaves the priorities of all later ones unclaimed
    have ht : ∀ l ∈ ks, ((f k).exec s).2.AgreesOn l {} := by
      intro l hl p hp
      have hkp : ¬ k.Owns p := fun h ↦ hk (h.unique hp ▸ hl)
      rw [(hf k).frame s p hkp]
      exact hs l (List.mem_cons_of_mem _ hl) p hp
    rw [List.mapM_cons, List.mapM_cons, exec_bind, ← hr]
    cases ((f k).exec s).1 with
    | error e => rfl
    | ok a =>
      simp only [Outcome.ok_bind, exec_bind, ← ih hks ht]
      cases ((ks.mapM f).exec ((f k).exec s).2).1 <;> rfl

end Compiling

end WebAcl
