import Mathlib.Data.List.Induction
import SmartHome.Lib.Run

/-! # What has happened in a run

Properties of a run that look back: that an event has happened, and invariants of the events so far together with
the state they led to. -/

namespace SmartHome.Run

variable {σ ε : Type} {step : σ → ε → Option σ} {P : σ → ε → Prop} {s : σ} {es fs : List ε} {e : ε}

/-- Some event of the run met `P` in the state it was taken from. -/
def Once (step : σ → ε → Option σ) (P : σ → ε → Prop) (s : σ) (es : List ε) : Prop :=
  ∃ before e t, before ++ [e] <+: es ∧ run step s before = some t ∧ P t e

theorem not_once_nil : ¬ Once step P s [] := by
  rintro ⟨before, e, t, hpre, -, -⟩
  exact List.concat_ne_nil e before (List.prefix_nil.mp hpre)

theorem Once.later (h : Once step P s es) (hpre : es <+: fs) : Once step P s fs := by
  obtain ⟨before, e, t, hbefore, hrun, hP⟩ := h
  exact ⟨before, e, t, hbefore.trans hpre, hrun, hP⟩

theorem once_concat : Once step P s (es ++ [e]) ↔ Once step P s es ∨ ∃ t, run step s es = some t ∧ P t e := by
  constructor
  · rintro ⟨before, e', t, hpre, hrun, hP⟩
    rcases List.prefix_concat_iff.mp hpre with heq | hpre
    · obtain ⟨rfl, hlast⟩ := List.append_inj' heq rfl
      cases hlast
      exact Or.inr ⟨t, hrun, hP⟩
    · exact Or.inl ⟨before, e', t, hpre, hrun, hP⟩
  · rintro (hbefore | ⟨t, hrun, hP⟩)
    · exact hbefore.later (List.prefix_append es [e])
    · exact ⟨es, e, t, List.prefix_rfl, hrun, hP⟩

/-- The events, each with the state it was taken from. -/
def trace (step : σ → ε → Option σ) : σ → List ε → List (σ × ε)
  | _, [] => []
  | s, e :: es => (s, e) :: (step s e).elim [] fun t => trace step t es

theorem trace_cons {t : σ} (h : step s e = some t) : trace step s (e :: es) = (s, e) :: trace step t es := by
  rw [trace, h, Option.elim_some]

/-- An invariant of the events so far and the state they led to. -/
theorem history_of_run {I : List ε → σ → Prop} (hnil : I [] s)
    (hstep : ∀ {es e t u}, run step s es = some t → I es t → step t e = some u → I (es ++ [e]) u) {t : σ}
    (hrun : run step s es = some t) : I es t := by
  induction es using List.reverseRecOn generalizing t with
  | nil =>
    cases hrun
    exact hnil
  | append_singleton es e ih =>
    obtain ⟨u, hbefore, hlast⟩ := run_append.mp hrun
    obtain ⟨v, hv, hlast⟩ := run_cons.mp hlast
    cases hlast
    exact hstep hbefore (ih hbefore) hv

end SmartHome.Run
