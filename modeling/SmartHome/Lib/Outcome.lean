import SmartHome.Lib.Eff

/-! # What programs leave behind when they raise

A program raises cleanly when each exception leaves a state that is related to the first one. The last step of a
program may write, if it raises cleanly itself; what stands before it has to keep the relation, and what stands behind
it must not raise. Beside it stand the rules for a program on a part of the state. -/

namespace SmartHome.Eff
variable {σ τ ε α β : Type}

/-- When `m` raises, it leaves a state that `R` relates the first one to. -/
def OnError (R : σ → σ → Prop) (m : Eff σ ε α) : Prop := ∀ s t e, m s = (.error e, t) → R s t

namespace OnError
variable {R : σ → σ → Prop} {m : Eff σ ε α} {f : α → Eff σ ε β}

theorem of_keeps (hm : Keeps R m) : OnError R m := by
  intro s t e hrun
  have hkept := hm s
  rw [hrun] at hkept
  exact hkept

theorem bind (trans : ∀ {s t u}, R s t → R t u → R s u) (hm : Keeps R m) (hf : ∀ a, OnError R (f a)) :
    OnError R (m >>= f) := by
  intro s u e hrun
  have hkept := hm s
  rcases hs : m s with ⟨e' | a, t⟩ <;> rw [hs] at hkept
  · rw [bind_of_error hs] at hrun
    cases hrun
    exact hkept
  · rw [bind_of_ok hs] at hrun
    exact trans hkept (hf a _ _ _ hrun)

/-- What follows the last write does not raise. -/
theorem andThen (hm : OnError R m) (hf : ∀ a, Succeeds (f a)) : OnError R (m >>= f) := by
  intro s u e hrun
  rcases hs : m s with ⟨e' | a, t⟩
  · rw [bind_of_error hs] at hrun
    cases hrun
    exact hm _ _ _ hs
  · obtain ⟨b, v, hsucceeds⟩ := hf a t
    rw [bind_of_ok hs, hsucceeds] at hrun
    cases hrun

theorem zoom {view : τ → σ} {put : σ → τ → τ} {Q : τ → τ → Prop} (hput : ∀ t s, R (view t) s → Q t (put s t))
    (hm : OnError R m) : OnError Q (Eff.zoom view put m) := by
  intro t u e hrun
  obtain ⟨hresult, rfl⟩ := Prod.mk.inj hrun
  exact hput t _ (hm _ _ _ (Prod.ext hresult rfl))

end OnError

theorem Succeeds.modify (f : σ → σ) : Succeeds (Eff.modify f : Eff σ ε Unit) := fun s => ⟨(), f s, rfl⟩

theorem Keeps.zoom {view : τ → σ} {put : σ → τ → τ} {R : σ → σ → Prop} {Q : τ → τ → Prop} {m : Eff σ ε α}
    (hput : ∀ t s, R (view t) s → Q t (put s t)) (hm : Keeps R m) : Keeps Q (Eff.zoom view put m) := fun t =>
  hput t _ (hm (view t))

end SmartHome.Eff
