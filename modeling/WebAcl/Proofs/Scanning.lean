import WebAcl.Yaml.Token
import Mathlib.Data.List.Basic

namespace WebAcl.Yaml

section Steps

variable {σ α β : Type}

def exec (x : ExceptT Fault (StateM σ) α) (s : σ) : Except Fault α × σ :=
  x.run.run s

variable {x : ExceptT Fault (StateM σ) α} {f : α → ExceptT Fault (StateM σ) β} {s s' : σ}

@[simp] theorem exec_pure (a : α) (s : σ) :
    exec (pure a : ExceptT Fault (StateM σ) α) s = (.ok a, s) := rfl

@[simp] theorem exec_throw (e : Fault) (s : σ) :
    exec (throw e : ExceptT Fault (StateM σ) α) s = (.error e, s) := rfl

@[simp] theorem exec_get (s : σ) :
    exec (get : ExceptT Fault (StateM σ) σ) s = (.ok s, s) := rfl

@[simp] theorem exec_set (t s : σ) :
    exec (set t : ExceptT Fault (StateM σ) PUnit) s = (.ok ⟨⟩, t) := rfl

@[simp] theorem exec_modify (g : σ → σ) (s : σ) :
    exec (modify g : ExceptT Fault (StateM σ) PUnit) s = (.ok ⟨⟩, g s) := rfl

theorem exec_bind (x : ExceptT Fault (StateM σ) α) (f : α → ExceptT Fault (StateM σ) β) (s : σ) :
    exec (x >>= f) s = match exec x s with
      | (.ok a, s') => exec (f a) s'
      | (.error e, s') => (.error e, s') := by
  change (ExceptT.bindCont f (exec x s).1).run (exec x s).2 = _
  obtain ⟨result, s'⟩ := exec x s
  cases result <;> rfl

@[simp] theorem exec_map (g : α → β) (x : ExceptT Fault (StateM σ) α) (s : σ) :
    exec (g <$> x) s = ((exec x s).1.map g, (exec x s).2) := by
  rw [map_eq_pure_bind, exec_bind]
  obtain ⟨result, s'⟩ := exec x s
  cases result <;> rfl

theorem exec_bind_ok {a : α} (h : exec x s = (.ok a, s')) :
    exec (x >>= f) s = exec (f a) s' := by
  rw [exec_bind, h]

end Steps

namespace Cursor

variable (c : Cursor)

@[simp] theorem rest_step : c.step.rest = c.rest.drop 1 := by
  unfold step
  cases h : c.rest with
  | nil => simp [h]
  | cons d rest =>
    dsimp only
    split <;> first | rfl | (split <;> rfl)

@[simp] theorem size_step : c.step.size = c.size := by
  unfold step
  cases h : c.rest with
  | nil => rfl
  | cons d rest =>
    dsimp only
    split <;> first | rfl | (split <;> rfl)

@[simp] theorem rest_skip (n : Nat) : (c.skip n).rest = c.rest.drop n := by
  induction n generalizing c with
  | zero => rfl
  | succ n ih => rw [skip, ih, rest_step, List.drop_drop, Nat.add_comm]

@[simp] theorem size_skip (n : Nat) : (c.skip n).size = c.size := by
  induction n generalizing c with
  | zero => rfl
  | succ n ih => rw [skip, ih, size_step]

@[simp] theorem skip_zero : c.skip 0 = c := rfl

theorem skip_skip (n m : Nat) : (c.skip n).skip m = c.skip (n + m) := by
  induction n generalizing c with
  | zero => rw [skip, Nat.zero_add]
  | succ n ih => rw [skip, ih, Nat.succ_add, skip]

variable {c}

theorem peek_of_rest {d : Char} {cs : List Char} (h : c.rest = d :: cs) : c.peek = d := by
  rw [peek, ahead, h]
  rfl

theorem peek_of_nil (h : c.rest = []) : c.peek = nul := by
  rw [peek, ahead, h]
  rfl

theorem rest_of_peek {d : Char} (h : c.peek = d) (hd : d ≠ nul) :
    c.rest = d :: (c.skip 1).rest := by
  cases hrest : c.rest with
  | nil => exact absurd (h.symm.trans (peek_of_nil hrest)) hd
  | cons e rest =>
    obtain rfl : e = d := (peek_of_rest hrest).symm.trans h
    rw [rest_skip, hrest]
    rfl

theorem index_skip {n : Nat} (h : n ≤ c.rest.length) : (c.skip n).index = c.index + n := by
  induction n generalizing c with
  | zero => rfl
  | succ n ih =>
    have hlength : n ≤ c.step.rest.length := by
      rw [rest_step, List.length_drop]
      omega
    have hstep : c.step.index = c.index + 1 := by
      cases hrest : c.rest with
      | nil => simp [hrest] at h
      | cons d cs =>
        unfold step
        rw [hrest]
        dsimp only
        split <;> first | rfl | (split <;> rfl)
    rw [skip, ih hlength, hstep]
    omega

theorem line_skip {n : Nat} (h : ∀ d ∈ c.rest.take n, isBreak d = false) :
    (c.skip n).line = c.line := by
  induction n generalizing c with
  | zero => rfl
  | succ n ih =>
    cases hrest : c.rest with
    | nil =>
      have hstep : c.step = c := by
        unfold step
        rw [hrest]
      rw [skip, hstep, ih (by simp [hrest])]
    | cons d cs =>
      rw [hrest, List.take_succ_cons, List.forall_mem_cons] at h
      have hstep : c.step.line = c.line := by
        unfold step
        rw [hrest]
        dsimp only
        rw [h.1]
        split
        · contradiction
        · split <;> rfl
      rw [skip, ih (by simpa [hrest] using h.2), hstep]

end Cursor

section Primitives

variable (c : Cursor)

@[simp] theorem exec_peek : exec Scan.peek c = (.ok c.peek, c) := rfl

@[simp] theorem exec_advance (n : Nat) : exec (Scan.advance n) c = (.ok (), c.skip n) := rfl

@[simp] theorem exec_span (p : Char → Bool) :
    exec (Scan.span p) c = (.ok (c.rest.takeWhile p), c.skip (c.rest.takeWhile p).length) := rfl

@[simp] theorem exec_lineBreak :
    exec Scan.lineBreak c = (.ok c.lineBreak.1, c.lineBreak.2) := rfl

theorem exec_require {b : Bool} (h : b = true) (c : Cursor) :
    exec (Scan.require b) c = (.ok (), c) := by
  rw [h]
  rfl

end Primitives

end WebAcl.Yaml
