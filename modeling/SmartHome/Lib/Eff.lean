/-! # Computations that change a state and may raise

`Eff σ ε α` is a program over a state `σ`: it returns a value or raises an exception, and what it did to
the state before it raised stays done. `attempt` is the handler. The rules say what a program keeps
between its first and its last state, whatever its outcome. -/

namespace SmartHome

theorem except_bind_eq_ok {ε α β : Type} {x : Except ε α} {f : α → Except ε β} {b : β} :
    (x >>= f) = .ok b ↔ ∃ a, x = .ok a ∧ f a = .ok b := by
  cases x with
  | error e => exact ⟨fun h => (by cases h), fun ⟨_, h, _⟩ => (by cases h)⟩
  | ok a => exact ⟨fun h => ⟨a, rfl, h⟩, fun ⟨_, h, hf⟩ => (by cases h; exact hf)⟩

/-- A program over the state `σ` that returns an `α` or raises an `ε`. -/
def Eff (σ ε α : Type) : Type := σ → Except ε α × σ

namespace Eff

variable {σ ε α β : Type}

instance : Monad (Eff σ ε) where
  pure a := fun s => (.ok a, s)
  bind m f := fun s =>
    match m s with
    | (.ok a, t) => f a t
    | (.error e, t) => (.error e, t)

/-- The program ends with an exception. -/
def raise (e : ε) : Eff σ ε α := fun s => (.error e, s)

/-- `try` and `except`. -/
def attempt (m : Eff σ ε α) (handler : ε → Eff σ ε α) : Eff σ ε α := fun s =>
  match m s with
  | (.ok a, t) => (.ok a, t)
  | (.error e, t) => handler e t

/-- A look at the state. -/
def gets (f : σ → α) : Eff σ ε α := fun s => (.ok (f s), s)

/-- A change of the state. -/
def modify (f : σ → σ) : Eff σ ε Unit := fun s => (.ok (), f s)

/-- The program with another exception in the place of each that it raises. -/
def mapError {δ : Type} (f : ε → δ) (m : Eff σ ε α) : Eff σ δ α := fun s => ((m s).1.mapError f, (m s).2)

/-- A result that is known, as a program. -/
def ofExcept : Except ε α → Eff σ ε α
  | .ok a => pure a
  | .error e => raise e

/-- A program over a part of the state, run on the whole state. -/
def zoom {τ : Type} (view : τ → σ) (put : σ → τ → τ) (m : Eff σ ε α) : Eff τ ε α := fun t =>
  ((m (view t)).1, put (m (view t)).2 t)

/-! ### How programs run -/

@[simp] theorem pure_run (a : α) (s : σ) : (pure a : Eff σ ε α) s = (.ok a, s) := rfl
@[simp] theorem raise_run (e : ε) (s : σ) : (raise e : Eff σ ε α) s = (.error e, s) := rfl
@[simp] theorem gets_run (f : σ → α) (s : σ) : (gets f : Eff σ ε α) s = (.ok (f s), s) := rfl
@[simp] theorem modify_run (f : σ → σ) (s : σ) : (modify f : Eff σ ε Unit) s = (.ok (), f s) := rfl

@[simp] theorem ofExcept_ok_run (a : α) (s : σ) : (ofExcept (.ok a) : Eff σ ε α) s = (.ok a, s) := rfl
@[simp] theorem ofExcept_error_run (e : ε) (s : σ) : (ofExcept (.error e) : Eff σ ε α) s = (.error e, s) := rfl

theorem mapError_of_ok {δ : Type} {f : ε → δ} {m : Eff σ ε α} {s t : σ} {a : α} (h : m s = (.ok a, t)) :
    m.mapError f s = (.ok a, t) := by
  rw [mapError, h]
  rfl

theorem mapError_of_error {δ : Type} {f : ε → δ} {m : Eff σ ε α} {s t : σ} {e : ε} (h : m s = (.error e, t)) :
    m.mapError f s = (.error (f e), t) := by
  rw [mapError, h]
  rfl

theorem bind_run (m : Eff σ ε α) (f : α → Eff σ ε β) (s : σ) :
    (m >>= f) s = match m s with
      | (.ok a, t) => f a t
      | (.error e, t) => (.error e, t) := rfl

@[simp] theorem bind_of_ok {m : Eff σ ε α} {f : α → Eff σ ε β} {s t : σ} {a : α} (h : m s = (.ok a, t)) :
    (m >>= f) s = f a t := by
  rw [bind_run, h]

@[simp] theorem bind_of_error {m : Eff σ ε α} {f : α → Eff σ ε β} {s t : σ} {e : ε} (h : m s = (.error e, t)) :
    (m >>= f) s = (.error e, t) := by
  rw [bind_run, h]

@[simp] theorem pure_bind_run (a : α) (f : α → Eff σ ε β) (s : σ) : ((pure a : Eff σ ε α) >>= f) s = f a s := rfl

@[simp] theorem gets_bind_run (g : σ → α) (f : α → Eff σ ε β) (s : σ) :
    ((gets g : Eff σ ε α) >>= f) s = f (g s) s := rfl

@[simp] theorem modify_bind_run (g : σ → σ) (f : Unit → Eff σ ε β) (s : σ) :
    ((modify g : Eff σ ε Unit) >>= f) s = f () (g s) := rfl

theorem attempt_of_ok {m : Eff σ ε α} {handler : ε → Eff σ ε α} {s t : σ} {a : α} (h : m s = (.ok a, t)) :
    m.attempt handler s = (.ok a, t) := by
  rw [attempt, h]

theorem attempt_of_error {m : Eff σ ε α} {handler : ε → Eff σ ε α} {s t : σ} {e : ε} (h : m s = (.error e, t)) :
    m.attempt handler s = handler e t := by
  rw [attempt, h]

theorem attempt_pure_state (m : Eff σ ε α) (a : α) (s : σ) : ((m.attempt fun _ => pure a) s).2 = (m s).2 := by
  unfold attempt
  rcases m s with ⟨e | b, t⟩ <;> rfl

theorem attempt_pure_run (m : Eff σ ε α) (a : α) (s : σ) :
    (m.attempt fun _ => pure a) s = (.ok ((m s).1.toOption.getD a), (m s).2) := by
  unfold attempt
  rcases m s with ⟨e | b, t⟩ <;> rfl

theorem bind_eq_ok {m : Eff σ ε α} {f : α → Eff σ ε β} {s u : σ} {b : β} :
    (m >>= f) s = (.ok b, u) ↔ ∃ a t, m s = (.ok a, t) ∧ f a t = (.ok b, u) := by
  constructor
  · intro h
    rcases hm : m s with ⟨_ | a, t⟩
    · rw [bind_of_error hm] at h
      cases h
    · rw [bind_of_ok hm] at h
      exact ⟨a, t, rfl, h⟩
  · rintro ⟨a, t, hm, hf⟩
    rw [bind_of_ok hm, hf]

/-! ### Programs over a part of the state -/

/-- `view` and `put` read and write one part of a state. -/
structure IsPart {τ : Type} (view : τ → σ) (put : σ → τ → τ) : Prop where
  view_put : ∀ s t, view (put s t) = s
  put_put : ∀ s s' t, put s' (put s t) = put s' t
  put_view : ∀ t, put (view t) t = t

section
variable {τ : Type} {view : τ → σ} {put : σ → τ → τ}

theorem zoom_bind (h : IsPart view put) (m : Eff σ ε α) (f : α → Eff σ ε β) :
    zoom view put (m >>= f) = zoom view put m >>= fun a => zoom view put (f a) := by
  funext t
  rcases hm : m (view t) with ⟨e | a, s⟩
  · have hzoom : zoom view put m t = (.error e, put s t) := by rw [zoom, hm]
    rw [bind_of_error hzoom, zoom, bind_of_error hm]
  · have hzoom : zoom view put m t = (.ok a, put s t) := by rw [zoom, hm]
    rw [bind_of_ok hzoom, zoom, bind_of_ok hm, zoom, h.view_put, h.put_put]

theorem zoom_eq_ok {m : Eff σ ε α} {t u : τ} {a : α} (h : zoom view put m t = (.ok a, u)) :
    ∃ s, m (view t) = (.ok a, s) ∧ u = put s t := by
  obtain ⟨hresult, rfl⟩ := Prod.mk.inj h
  exact ⟨(m (view t)).2, Prod.ext hresult rfl, rfl⟩

theorem zoom_pure (h : IsPart view put) (a : α) : zoom view put (pure a : Eff σ ε α) = pure a := by
  funext t
  rw [zoom, pure_run, pure_run, h.put_view]

theorem zoom_raise (h : IsPart view put) (e : ε) : zoom view put (raise e : Eff σ ε α) = raise e := by
  funext t
  rw [zoom, raise_run, raise_run, h.put_view]

theorem zoom_gets (h : IsPart view put) (f : σ → α) :
    zoom view put (gets f : Eff σ ε α) = gets fun t => f (view t) := by
  funext t
  rw [zoom, gets_run, gets_run, h.put_view]

theorem zoom_attempt (h : IsPart view put) (m : Eff σ ε α) (handler : ε → Eff σ ε α) :
    zoom view put (m.attempt handler) = (zoom view put m).attempt fun e => zoom view put (handler e) := by
  funext t
  simp only [zoom, attempt]
  rcases m (view t) with ⟨e | a, s⟩
  · simp only [h.view_put, h.put_put]
  · rfl

end

/-! ### What a program keeps -/

/-- Whatever its outcome, `m` leads from a state to one that `R` relates it to. -/
def Keeps (R : σ → σ → Prop) (m : Eff σ ε α) : Prop := ∀ s, R s (m s).2

namespace Keeps
variable {R : σ → σ → Prop}

theorem pure (refl : ∀ s, R s s) (a : α) : Keeps R (Pure.pure a : Eff σ ε α) := fun s => refl s

theorem raise (refl : ∀ s, R s s) (e : ε) : Keeps R (Eff.raise e : Eff σ ε α) := fun s => refl s

theorem gets (refl : ∀ s, R s s) (f : σ → α) : Keeps R (Eff.gets f : Eff σ ε α) := fun s => refl s

theorem bind (trans : ∀ {s t u}, R s t → R t u → R s u) {m : Eff σ ε α} {f : α → Eff σ ε β} (hm : Keeps R m)
    (hf : ∀ a, Keeps R (f a)) : Keeps R (m >>= f) := fun s => by
  have h := hm s
  rcases hs : m s with ⟨_ | a, t⟩ <;> rw [hs] at h
  · rw [bind_of_error hs]
    exact h
  · rw [bind_of_ok hs]
    exact trans h (hf a t)

theorem ofExcept (refl : ∀ s, R s s) (e : Except ε α) : Keeps R (Eff.ofExcept e : Eff σ ε α) := by
  cases e with
  | ok a => exact pure refl a
  | error e => exact raise refl e

theorem mapError {δ : Type} {f : ε → δ} {m : Eff σ ε α} (hm : Keeps R m) : Keeps R (m.mapError f) := hm

theorem attempt (trans : ∀ {s t u}, R s t → R t u → R s u) {m : Eff σ ε α} {handler : ε → Eff σ ε α}
    (hm : Keeps R m) (hh : ∀ e, Keeps R (handler e)) : Keeps R (m.attempt handler) := fun s => by
  have h := hm s
  unfold Eff.attempt
  rcases hs : m s with ⟨e | a, t⟩ <;> rw [hs] at h
  · exact trans h (hh e t)
  · exact h

end Keeps

/-! ### Programs that always return -/

/-- The program never ends with an exception. -/
def Succeeds (m : Eff σ ε α) : Prop := ∀ s, ∃ a t, m s = (.ok a, t)

namespace Succeeds

theorem pure (a : α) : Succeeds (Pure.pure a : Eff σ ε α) := fun s => ⟨a, s, rfl⟩

theorem bind {m : Eff σ ε α} {f : α → Eff σ ε β} (hm : Succeeds m) (hf : ∀ a, Succeeds (f a)) : Succeeds (m >>= f) := by
  intro s
  obtain ⟨a, t, hs⟩ := hm s
  rw [bind_of_ok hs]
  exact hf a t

theorem mapError {δ : Type} {f : ε → δ} {m : Eff σ ε α} (hm : Succeeds m) : Succeeds (m.mapError f) := by
  intro s
  obtain ⟨a, t, hs⟩ := hm s
  exact ⟨a, t, mapError_of_ok hs⟩

end Succeeds

end Eff
end SmartHome
