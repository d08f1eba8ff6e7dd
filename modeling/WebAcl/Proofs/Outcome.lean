import Mathlib.Logic.Basic

namespace WebAcl.Outcome

variable {ε α β : Type}

@[simp] theorem ok_bind (a : α) (f : α → Except ε β) : (Except.ok a >>= f) = f a := rfl

@[simp] theorem error_bind (e : ε) (f : α → Except ε β) :
    (Except.error e >>= f) = .error e := rfl

@[simp] theorem pure_eq_ok (a : α) : (pure a : Except ε α) = .ok a := rfl

@[simp] theorem throw_eq_error (e : ε) : (throw e : Except ε α) = .error e := rfl

@[simp] theorem map_ok (f : α → β) (a : α) : (f <$> (Except.ok a : Except ε α)) = .ok (f a) := rfl

@[simp] theorem map_error (f : α → β) (e : ε) :
    (f <$> (Except.error e : Except ε α)) = .error e := rfl

@[simp] theorem mapError_ok {ε' : Type} (f : ε → ε') (a : α) :
    (Except.ok a : Except ε α).mapError f = .ok a := rfl

@[simp] theorem mapError_error {ε' : Type} (f : ε → ε') (e : ε) :
    (Except.error e : Except ε α).mapError f = .error (f e) := rfl

theorem bind_eq_ok_iff {x : Except ε α} {f : α → Except ε β} {b : β} :
    (x >>= f) = .ok b ↔ ∃ a, x = .ok a ∧ f a = .ok b := by
  cases x <;> simp

theorem map_eq_ok_iff {x : Except ε α} {f : α → β} {b : β} :
    x.map f = .ok b ↔ ∃ a, x = .ok a ∧ f a = b := by
  cases x <;> simp [Except.map]

theorem exists_bind_iff {x : Except ε α} {f : α → Except ε β} :
    (∃ b, (x >>= f) = .ok b) ↔ ∃ a, x = .ok a ∧ ∃ b, f a = .ok b := by
  cases x <;> simp

theorem exists_map_iff {x : Except ε α} {f : α → β} :
    (∃ b, x.map f = .ok b) ↔ ∃ a, x = .ok a := by
  cases x <;> simp [Except.map]

/-- Steps with like results go on alike if what follows makes no difference between them. -/
theorem map_bind_congr {γ δ : Type} {f : α → γ} {g : β → δ} {x x' : Except ε α}
    {k k' : α → Except ε β} (hx : f <$> x = f <$> x')
    (hk : ∀ a a', f a = f a' → g <$> k a = g <$> k' a') :
    g <$> (x >>= k) = g <$> (x' >>= k') := by
  cases x with
  | error e => cases x' <;> simp_all
  | ok a =>
    cases x' with
    | error e => simp at hx
    | ok a' => exact hk a a' (by simpa using hx)

theorem mapError_eq_ok_iff {ε' : Type} {x : Except ε α} {f : ε → ε'} {a : α} :
    x.mapError f = .ok a ↔ x = .ok a := by
  cases x <;> simp

theorem mapError_bind {ε' : Type} (f : ε → ε') (x : Except ε α) (k : α → Except ε β) :
    (x >>= k).mapError f = x.mapError f >>= fun a ↦ (k a).mapError f := by
  cases x <;> rfl

theorem mapError_mapM {ε' : Type} (f : ε → ε') (k : α → Except ε β) (xs : List α) :
    (xs.mapM k).mapError f = xs.mapM fun x ↦ (k x).mapError f := by
  induction xs with
  | nil => rfl
  | cons x xs ih =>
    rw [List.mapM_cons, List.mapM_cons, mapError_bind, ← ih]
    congr 1
    funext y
    rw [mapError_bind]
    rfl

theorem mapM_eq_ok {f : α → Except ε β} {g : α → β} {xs : List α}
    (h : ∀ x ∈ xs, f x = .ok (g x)) : xs.mapM f = .ok (xs.map g) := by
  induction xs with
  | nil => rfl
  | cons x xs ih =>
    rw [List.mapM_cons, h x List.mem_cons_self, ih fun y hy ↦ h y (List.mem_cons_of_mem _ hy)]
    rfl

theorem exists_eq_ok_of_mapM {f : α → Except ε β} {xs : List α} {ys : List β}
    (h : xs.mapM f = .ok ys) : ∀ x ∈ xs, ∃ y, f x = .ok y := by
  induction xs generalizing ys with
  | nil => simp
  | cons x xs ih =>
    rw [List.mapM_cons] at h
    obtain ⟨y, hy, h⟩ := bind_eq_ok_iff.mp h
    obtain ⟨zs, hzs, -⟩ := bind_eq_ok_iff.mp h
    exact List.forall_mem_cons.mpr ⟨⟨y, hy⟩, ih hzs⟩

theorem exists_mapM_iff {f : α → Except ε β} {xs : List α} :
    (∃ ys, xs.mapM f = .ok ys) ↔ ∀ x ∈ xs, ∃ y, f x = .ok y := by
  refine ⟨fun ⟨ys, hys⟩ ↦ exists_eq_ok_of_mapM hys, fun h ↦ ?_⟩
  induction xs with
  | nil => exact ⟨[], rfl⟩
  | cons x xs ih =>
    obtain ⟨⟨y, hy⟩, hxs⟩ := List.forall_mem_cons.mp h
    obtain ⟨ys, hys⟩ := ih hxs
    exact ⟨y :: ys, by rw [List.mapM_cons, hy, ok_bind, hys, ok_bind, pure_eq_ok]⟩

theorem exists_of_mem_mapM {f : α → Except ε β} {xs : List α} {ys : List β}
    (h : xs.mapM f = .ok ys) : ∀ y ∈ ys, ∃ x ∈ xs, f x = .ok y := by
  induction xs generalizing ys with
  | nil =>
    obtain rfl : [] = ys := by simpa using h
    simp
  | cons x xs ih =>
    rw [List.mapM_cons] at h
    obtain ⟨z, hz, h⟩ := bind_eq_ok_iff.mp h
    obtain ⟨zs, hzs, h⟩ := bind_eq_ok_iff.mp h
    obtain rfl := Except.ok.inj h
    refine List.forall_mem_cons.mpr ⟨⟨x, List.mem_cons_self, hz⟩, fun y hy ↦ ?_⟩
    obtain ⟨x', hx', heq⟩ := ih hzs y hy
    exact ⟨x', List.mem_cons_of_mem _ hx', heq⟩

theorem exists_first_cons_iff {A : α → Prop} {R : Nat → α → Prop} {x : α} {xs : List α} :
    (∃ before y after, x :: xs = before ++ y :: after ∧ (∀ z ∈ before, A z) ∧ R before.length y) ↔
      R 0 x ∨ A x ∧ ∃ before y after, xs = before ++ y :: after ∧ (∀ z ∈ before, A z) ∧
        R (before.length + 1) y := by
  constructor
  · rintro ⟨before, y, after, heq, hbefore, hy⟩
    cases before with
    | nil =>
      obtain ⟨rfl, -⟩ := List.cons.inj heq
      exact .inl hy
    | cons z before =>
      obtain ⟨rfl, rfl⟩ := List.cons.inj heq
      obtain ⟨hx, hbefore⟩ := List.forall_mem_cons.mp hbefore
      exact .inr ⟨hx, before, y, after, rfl, hbefore, hy⟩
  · rintro (hx | ⟨hx, before, y, after, rfl, hbefore, hy⟩)
    · exact ⟨[], x, xs, rfl, List.forall_mem_nil _, hx⟩
    · exact ⟨x :: before, y, after, rfl, List.forall_mem_cons.mpr ⟨hx, hbefore⟩, hy⟩

theorem mapM_eq_error_iff {f : α → Except ε β} {e : ε} {xs : List α} :
    xs.mapM f = .error e ↔ ∃ before x after, xs = before ++ x :: after ∧
      (∀ z ∈ before, ∃ y, f z = .ok y) ∧ f x = .error e := by
  induction xs with
  | nil => simp
  | cons x xs ih =>
    rw [List.mapM_cons, @exists_first_cons_iff _ _ fun _ z ↦ f z = .error e, ← ih]
    cases f x with
    | error e' => simp
    | ok y => cases xs.mapM f <;> simp

theorem mapM_eq_error {f : α → Except ε β} {x : α} {e : ε} {xs ys : List α}
    (h : ∀ z ∈ xs, ∃ y, f z = .ok y) (hx : f x = .error e) :
    (xs ++ x :: ys).mapM f = .error e :=
  mapM_eq_error_iff.mpr ⟨xs, x, ys, rfl, h, hx⟩

theorem mapM_eq_map {γ : Type} {f : α → Except ε γ} {h : α → Except ε β} {g : β → γ} {xs : List α}
    (hf : ∀ x, f x = g <$> h x) : xs.mapM f = List.map g <$> xs.mapM h := by
  induction xs with
  | nil => rfl
  | cons x xs ih =>
    rw [List.mapM_cons, List.mapM_cons, hf, ih]
    cases h x with
    | error e => rfl
    | ok y => cases xs.mapM h <;> rfl

/-- Whatever error a computation ends in, it is of a kind. -/
def OnlyFails (P : ε → Prop) (x : Except ε α) : Prop :=
  ∀ e, x = .error e → P e

namespace OnlyFails

variable {P : ε → Prop}

theorem ok (a : α) : OnlyFails P (.ok a : Except ε α) := by
  simp [OnlyFails]

theorem error {e : ε} (h : P e) : OnlyFails P (.error e : Except ε α) := by
  simpa [OnlyFails] using h

theorem bind {x : Except ε α} {f : α → Except ε β} (hx : OnlyFails P x)
    (hf : ∀ a, x = .ok a → OnlyFails P (f a)) : OnlyFails P (x >>= f) := by
  cases x with
  | ok a => exact hf a rfl
  | error e => exact error (hx e rfl)

theorem mapM {f : α → Except ε β} {xs : List α} (h : ∀ x ∈ xs, OnlyFails P (f x)) :
    OnlyFails P (xs.mapM f) := by
  induction xs with
  | nil => exact ok _
  | cons x xs ih =>
    obtain ⟨hx, hxs⟩ := List.forall_mem_cons.mp h
    rw [List.mapM_cons]
    exact hx.bind fun _ _ ↦ (ih hxs).bind fun _ _ ↦ ok _

theorem mapError {ε' : Type} {Q : ε' → Prop} {x : Except ε α} {f : ε → ε'} (hx : OnlyFails P x)
    (hf : ∀ e, P e → Q (f e)) : OnlyFails Q (x.mapError f) := by
  cases x with
  | ok a => exact ok a
  | error e => exact error (hf e (hx e rfl))

end OnlyFails

def Yields (P : ε → Prop) (Q : α → Prop) : Except ε α → Prop
  | .ok a => Q a
  | .error e => P e

namespace Yields

variable {P : ε → Prop} {Q : α → Prop} {R : β → Prop} {x : Except ε α}

theorem onlyFails (hx : Yields P Q x) : OnlyFails P x := by
  rintro e rfl
  exact hx

theorem bind {f : α → Except ε β} (hx : Yields P Q x) (hf : ∀ a, Q a → Yields P R (f a)) :
    Yields P R (x >>= f) := by
  cases x with
  | ok a => exact hf a hx
  | error e => exact hx

theorem map {f : α → β} (hx : Yields P Q x) (hf : ∀ a, Q a → R (f a)) : Yields P R (x.map f) := by
  cases x with
  | ok a => exact hf a hx
  | error e => exact hx

theorem mapError {ε' : Type} {P' : ε' → Prop} {g : ε → ε'} (hx : Yields P Q x)
    (hg : ∀ e, P e → P' (g e)) : Yields P' Q (x.mapError g) := by
  cases x with
  | ok a => exact hx
  | error e => exact hg e hx

theorem weaken {P' : ε → Prop} (hx : Yields P Q x) (h : ∀ e, P e → P' e) : Yields P' Q x := by
  cases x with
  | ok a => exact hx
  | error e => exact h e hx

theorem mono {Q' : α → Prop} (hx : Yields P Q x) (h : ∀ a, Q a → Q' a) : Yields P Q' x := by
  cases x with
  | ok a => exact h a hx
  | error e => exact hx

end Yields

end WebAcl.Outcome
