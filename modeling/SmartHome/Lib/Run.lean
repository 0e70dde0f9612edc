/-! # Runs of a machine

A machine is a step function that says what an event does to a state, or that the event cannot happen
in it. A run is a list of events. The rules below carry a property of single steps over to whole runs,
for runs without restriction and for runs whose every step meets a guard. -/

namespace SmartHome.Run

variable {σ ε : Type} {step : σ → ε → Option σ}

/-- The state after the events, when each of them can happen in its turn. -/
def run (step : σ → ε → Option σ) : σ → List ε → Option σ
  | s, [] => some s
  | s, e :: es => (step s e).bind fun t => run step t es

/-- Every event of the run meets `ok` in the state it is taken from. -/
def Meets (step : σ → ε → Option σ) (ok : σ → ε → Prop) : σ → List ε → Prop
  | _, [] => True
  | s, e :: es => ok s e ∧ ∀ t, step s e = some t → Meets step ok t es

/-- The run comes by this state. -/
def Visits (step : σ → ε → Option σ) (s : σ) (es : List ε) (t : σ) : Prop :=
  ∃ pre, pre <+: es ∧ run step s pre = some t

@[simp] theorem run_nil {s : σ} : run step s [] = some s := rfl

theorem run_cons {s u : σ} {e : ε} {es : List ε} :
    run step s (e :: es) = some u ↔ ∃ t, step s e = some t ∧ run step t es = some u := by
  simp only [run, Option.bind_eq_some_iff]

theorem run_append {s u : σ} {es fs : List ε} :
    run step s (es ++ fs) = some u ↔ ∃ t, run step s es = some t ∧ run step t fs = some u := by
  induction es generalizing s with
  | nil => simp
  | cons e es ih =>
    simp only [List.cons_append, run_cons, ih]
    constructor
    · rintro ⟨t, ht, v, hv, hu⟩
      exact ⟨v, ⟨t, ht, hv⟩, hu⟩
    · rintro ⟨v, ⟨t, ht, hv⟩, hu⟩
      exact ⟨t, ht, v, hv, hu⟩

theorem Meets.initial {ok : σ → ε → Prop} {s : σ} {es pre : List ε} (hpre : pre <+: es) (h : Meets step ok s es) :
    Meets step ok s pre := by
  induction pre generalizing s es with
  | nil => trivial
  | cons e pre ih =>
    obtain ⟨rest, rfl⟩ := hpre
    exact ⟨h.1, fun t ht => ih (List.prefix_append pre rest) (h.2 t ht)⟩

/-- An invariant kept by the steps that meet the guard holds at the end of a guarded run. -/
theorem invariant_of_meets {ok : σ → ε → Prop} {I : σ → Prop}
    (hstep : ∀ {s e t}, I s → ok s e → step s e = some t → I t) {s t : σ} {es : List ε} (hs : I s)
    (hm : Meets step ok s es) (hr : run step s es = some t) : I t := by
  induction es generalizing s with
  | nil =>
    cases hr
    exact hs
  | cons e es ih =>
    obtain ⟨u, hu, hr⟩ := run_cons.mp hr
    exact ih (hstep hs hm.1 hu) (hm.2 u hu) hr

/-- An invariant kept by the steps that meet the guard holds in every state a guarded run visits. -/
theorem invariant_of_visits {ok : σ → ε → Prop} {I : σ → Prop}
    (hstep : ∀ {s e t}, I s → ok s e → step s e = some t → I t) {s t : σ} {es : List ε} (hs : I s)
    (hm : Meets step ok s es) (hv : Visits step s es t) : I t := by
  obtain ⟨pre, hpre, hr⟩ := hv
  exact invariant_of_meets hstep hs (hm.initial hpre) hr

theorem meets_of_mem {ok : σ → ε → Prop} {s : σ} {es : List ε} (h : ∀ e ∈ es, ∀ s, ok s e) : Meets step ok s es := by
  induction es generalizing s with
  | nil => trivial
  | cons e es ih =>
    rw [List.forall_mem_cons] at h
    exact ⟨h.1 s, fun t _ => ih h.2⟩

theorem Meets.and {ok ok' : σ → ε → Prop} {s : σ} {es : List ε} (h : Meets step ok s es) (h' : Meets step ok' s es) :
    Meets step (fun s e => ok s e ∧ ok' s e) s es := by
  induction es generalizing s with
  | nil => trivial
  | cons e es ih => exact ⟨⟨h.1, h'.1⟩, fun t ht => ih (h.2 t ht) (h'.2 t ht)⟩

/-- A guard on the events alone is met by a run exactly if all its events meet it. -/
theorem meets_iff_forall {ok : ε → Prop} (htotal : ∀ s e, ∃ t, step s e = some t) {s : σ} {es : List ε} :
    Meets step (fun _ e => ok e) s es ↔ ∀ e ∈ es, ok e := by
  constructor
  · intro h
    induction es generalizing s with
    | nil => exact List.forall_mem_nil _
    | cons e es ih =>
      obtain ⟨t, ht⟩ := htotal s e
      exact List.forall_mem_cons.mpr ⟨h.1, ih (h.2 t ht)⟩
  · exact fun h => meets_of_mem fun e he _ => h e he

/-- An invariant kept by all steps holds in every state a run visits. -/
theorem invariant_of_steps {I : σ → Prop} (hstep : ∀ {s e t}, I s → step s e = some t → I t) {s t : σ} {es : List ε}
    (hs : I s) (hv : Visits step s es t) : I t :=
  invariant_of_visits (fun h _ => hstep h) hs (meets_of_mem fun _ _ _ => trivial) hv

/-- Where a step keeps the invariant exactly if it meets the guard, a run keeps it in every state exactly if all
    its steps do. -/
theorem invariant_iff_meets {ok : σ → ε → Prop} {I : σ → Prop} (htotal : ∀ s e, ∃ t, step s e = some t)
    (hstep : ∀ {s e t}, I s → step s e = some t → (I t ↔ ok s e)) {s : σ} {es : List ε} (hs : I s) :
    (∀ t, Visits step s es t → I t) ↔ Meets step ok s es := by
  constructor
  · intro h
    induction es generalizing s with
    | nil => trivial
    | cons e es ih =>
      obtain ⟨u, hu⟩ := htotal s e
      have hvisit : ∀ t, Visits step u es t → Visits step s (e :: es) t := by
        rintro t ⟨pre, hpre, hr⟩
        exact ⟨e :: pre, List.cons_prefix_cons.mpr ⟨rfl, hpre⟩, run_cons.mpr ⟨u, hu, hr⟩⟩
      have hnext : I u := h u (hvisit u ⟨[], List.nil_prefix, rfl⟩)
      refine ⟨(hstep hs hu).mp hnext, fun t ht => ?_⟩
      obtain rfl := Option.some.inj (hu.symm.trans ht)
      exact ih hnext fun t hv => h t (hvisit t hv)
  · intro hm t hv
    exact invariant_of_visits (fun hI hok hu => (hstep hI hu).mpr hok) hs hm hv

theorem Meets.imp {ok ok' : σ → ε → Prop} {I : σ → Prop}
    (hstep : ∀ {s e t}, I s → ok s e → step s e = some t → I t) (himp : ∀ {s e}, I s → ok s e → ok' s e) {s : σ}
    {es : List ε} (hs : I s) (hm : Meets step ok s es) : Meets step ok' s es := by
  induction es generalizing s with
  | nil => trivial
  | cons e es ih => exact ⟨himp hs hm.1, fun t ht => ih (hstep hs hm.1 ht) (hm.2 t ht)⟩

theorem meets_iff {ok ok' : σ → ε → Prop} {I : σ → Prop}
    (hstep : ∀ {s e t}, I s → ok s e → step s e = some t → I t) (hiff : ∀ {s e}, I s → (ok s e ↔ ok' s e)) {s : σ}
    {es : List ε} (hs : I s) : Meets step ok s es ↔ Meets step ok' s es := by
  induction es generalizing s with
  | nil => exact Iff.rfl
  | cons e es ih =>
    constructor
    · rintro ⟨hok, hrest⟩
      exact ⟨(hiff hs).mp hok, fun t ht => (ih (hstep hs hok ht)).mp (hrest t ht)⟩
    · rintro ⟨hok, hrest⟩
      have hok := (hiff hs).mpr hok
      exact ⟨hok, fun t ht => (ih (hstep hs hok ht)).mpr (hrest t ht)⟩

end SmartHome.Run
