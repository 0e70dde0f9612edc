import SmartHome.Scheduler.Failures

/-! # Overlapping requests on one schedule

Updates and deletes of one schedule, cut at their `await` points, over PostgreSQL's READ COMMITTED: a SELECT
sees the committed row or the transaction's own version, and an UPDATE or DELETE waits for the transaction that
holds the row's lock. Operations on the job table take effect at once. -/

namespace SmartHome
open Run Request

/-- The requests on one schedule. -/
inductive OverlapRequest where
  | update (data : ScheduleUpdate)
  | delete

/-- How far a request has come. -/
inductive Pc where
  | idle
  | loaded (row : Schedule)
  | removed
  | flushed
  | refreshed (row : Schedule)
  | synced
  | done

/-- The row and the job of one schedule, and the requests on it. -/
structure Overlap (T : Type) where
  committed : Option Schedule
  job : Option (Job T)
  /-- The transaction that holds the row's lock, with its version of the row. -/
  lock : Option (ℕ × Option Schedule)
  pc : ℕ → Pc

/-- The steps of the requests, in any order. -/
inductive OverlapEvent where
  | select (i : ℕ)
  | remove (i : ℕ)
  | write (i : ℕ)
  | refresh (i : ℕ)
  | sync (i : ℕ) (now : DateTime)
  | commit (i : ℕ)
  /-- A database call of the request raises. -/
  | fail (i : ℕ)

namespace Overlap
variable {T : Type}

/-- No request has begun. -/
def initial (row : Option Schedule) (job : Option (Job T)) : Overlap T where
  committed := row
  job
  lock := none
  pc _ := .idle

/-- The request is at this point now. -/
def setPc (i : ℕ) (pc : Pc) (o : Overlap T) : Overlap T := { o with pc := Function.update o.pc i pc }

/-- The request holds the lock of the row. -/
def holds (o : Overlap T) (i : ℕ) : Bool :=
  match o.lock with
  | some (j, _) => j == i
  | none => false

/-- The row as the transaction sees it. -/
def visible (o : Overlap T) (i : ℕ) : Option Schedule :=
  match o.lock with
  | some (j, version) => if j = i then version else o.committed
  | none => o.committed

/-- The lock after the end of the request's transaction. -/
def release (o : Overlap T) (i : ℕ) : Option (ℕ × Option Schedule) := if o.holds i then none else o.lock

/-- The exception path of `get_db`. -/
def rollback (i : ℕ) (o : Overlap T) : Overlap T := setPc i .done { o with lock := o.release i }

/-- The commit of the request. -/
def commit (i : ℕ) (o : Overlap T) : Overlap T :=
  setPc i .done { o with
    committed := o.visible i
    lock := o.release i }

/-- The UPDATE of `ScheduleRepository.update`, for an object loaded as `loaded`. -/
def update (i : ℕ) (data : ScheduleUpdate) (loaded : Schedule) (o : Overlap T) : Option (Overlap T) :=
  if (data.changes loaded).isEmpty then some (o.setPc i .flushed)
  else match o.lock, o.committed with
    | some _, _ => none
    | none, some row => some (setPc i .flushed { o with lock := some (i, some ((data.changes loaded).apply row)) })
    | none, none => some (o.rollback i)

/-- The DELETE of `ScheduleRepository.delete`; that it matches no row is no error. -/
def delete (i : ℕ) (o : Overlap T) : Option (Overlap T) :=
  match o.lock, o.committed with
  | some _, _ => none
  | none, some _ => some (setPc i .flushed { o with lock := some (i, none) })
  | none, none => some (o.setPc i .flushed)

/-- What a step does, if the request is at the point for it and the lock is free. -/
def step (aps : Apscheduler T) (requests : ℕ → OverlapRequest) (o : Overlap T) : OverlapEvent → Option (Overlap T)
  | .select i =>
    match o.pc i, o.committed with
    | .idle, some row => some (o.setPc i (.loaded row))
    | .idle, none => some (o.rollback i)
    | _, _ => none
  | .remove i =>
    match requests i, o.pc i with
    | .delete, .loaded _ => some (setPc i .removed { o with job := none })
    | _, _ => none
  | .write i =>
    match requests i, o.pc i with
    | .update data, .loaded row => o.update i data row
    | .delete, .removed => o.delete i
    | _, _ => none
  | .refresh i =>
    match requests i, o.pc i with
    | .update _, .flushed =>
      match o.visible i with
      | some row => some (o.setPc i (.refreshed row))
      | none => some (o.rollback i)
    | _, _ => none
  | .sync i now =>
    match requests i, o.pc i with
    | .update _, .refreshed row =>
      match syncEffect aps now row with
      | .ok f => some (setPc i .synced { o with job := f.after o.job })
      | .error _ => some (o.rollback i)
    | _, _ => none
  | .commit i =>
    match requests i, o.pc i with
    | .update _, .synced => some (o.commit i)
    | .delete, .flushed => some (o.commit i)
    | _, _ => none
  | .fail i =>
    match o.pc i with
    | .done => none
    | _ => some (o.rollback i)

/-- No request is on its way. -/
def Quiet (o : Overlap T) : Prop := ∀ i, o.pc i = .idle ∨ o.pc i = .done

/-- The delete is between the removal of the job and its end. -/
def Deleting (requests : ℕ → OverlapRequest) (o : Overlap T) (i : ℕ) : Prop :=
  requests i = .delete ∧ (o.pc i = .removed ∨ o.pc i = .flushed)

/-- The row that the job was last made from, deletes aside: that of a synchronised update that is still to
    commit, and the committed one otherwise. -/
def target (o : Overlap T) : Option Schedule :=
  match o.lock with
  | some (i, version) =>
    match o.pc i with
    | .synced => version
    | _ => o.committed
  | none => o.committed

end Overlap

/-- What the job of a row is made from, if the row is to have one. -/
def wanted (row : Option Schedule) : Option (Uuid × String × PyDict × PyDict) :=
  row.bind fun row =>
    if row.isEnabled then some (row.id, row.triggerType, row.triggerConfig, row.actionConfig) else none

open Overlap

/-- The order of the steps keeps the job and the row together: no update synchronises an enabled row while a
    delete is under way, or from a row that is out of date, or with an unknown trigger type; and no request fails
    after it has changed the job table to something that the remaining row does not call for. -/
def Orderly {T : Type} (aps : Apscheduler T) (requests : ℕ → OverlapRequest) (o : Overlap T) : OverlapEvent → Prop
  | .sync i now => ∀ row f, o.pc i = .refreshed row → syncEffect aps now row = .ok f →
      (row.isEnabled = true → Supported row.triggerType ∧ ∀ j, ¬ o.Deleting requests j) ∧
      (o.holds i = false → (∃ j, o.Deleting requests j) ∨ wanted o.target = wanted (some row))
  | .fail i =>
      (o.pc i = .synced → o.holds i = true → (∃ j, o.Deleting requests j) ∨ wanted o.committed = wanted o.target) ∧
      (o.Deleting requests i → (∃ j, j ≠ i ∧ o.Deleting requests j) ∨ wanted o.target = none)
  | _ => True

section
variable {T : Type} {aps : Apscheduler T} {requests : ℕ → OverlapRequest} {o q : Overlap T} {i j : ℕ}

/-! ### Jobs and rows -/

theorem agreeAt_iff_wanted {row : Option Schedule} {job : Option (Job T)} :
    AgreeAt aps row job ↔
      match wanted row with
      | none => job = none
      | some (id, triggerType, config, action) =>
        ∃ built trigger, buildTrigger aps built triggerType config = .ok (some trigger) ∧
          job = some { trigger, task := .jobFunc id action } := by
  rcases row with _ | row
  · rfl
  · cases henabled : row.isEnabled <;> simp [AgreeAt, wanted, henabled]

theorem agreeAt_congr {row row' : Option Schedule} {job : Option (Job T)} (h : wanted row = wanted row') :
    AgreeAt aps row job ↔ AgreeAt aps row' job := by
  rw [agreeAt_iff_wanted, agreeAt_iff_wanted, h]

theorem agreeAt_none_of_wanted {row : Option Schedule} (h : wanted row = none) :
    AgreeAt aps row (none : Option (Job T)) := by
  rw [agreeAt_iff_wanted, h]

theorem agreeAt_of_sync {row : Schedule} {now : DateTime} {f : JobEffect T} {job : Option (Job T)}
    (h : syncEffect aps now row = .ok f) (hsupported : row.isEnabled = true → Supported row.triggerType) :
    AgreeAt aps (some row) (f.after job) := by
  rcases henabled : row.isEnabled with _ | _
  · rw [syncEffect_of_disabled henabled] at h
    cases h
    exact (agreeAt_disabled henabled).mpr rfl
  · rw [syncEffect_of_enabled henabled] at h
    rcases registerEffect_eq_ok.mp h with ⟨hbuild, -⟩ | ⟨trigger, hbuild, rfl⟩
    · exact absurd hbuild (buildTrigger_ne_none_of_supported (hsupported henabled))
    · exact agreeAt_registered _ _ henabled hbuild

theorem after_of_sync_disabled {row : Schedule} {now : DateTime} {f : JobEffect T} {job : Option (Job T)}
    (h : syncEffect aps now row = .ok f) (hdisabled : row.isEnabled = false) : f.after job = none := by
  rw [syncEffect_of_disabled hdisabled] at h
  cases h
  rfl

/-! ### Program counters and the lock -/

@[simp] theorem setPc_pc_self (o : Overlap T) (i : ℕ) (pc : Pc) : (o.setPc i pc).pc i = pc :=
  Function.update_self ..

theorem setPc_pc_of_ne (o : Overlap T) (pc : Pc) (h : j ≠ i) : (o.setPc i pc).pc j = o.pc j :=
  Function.update_of_ne h ..

@[simp] theorem setPc_committed (o : Overlap T) (i : ℕ) (pc : Pc) : (o.setPc i pc).committed = o.committed := rfl
@[simp] theorem setPc_job (o : Overlap T) (i : ℕ) (pc : Pc) : (o.setPc i pc).job = o.job := rfl
@[simp] theorem setPc_lock (o : Overlap T) (i : ℕ) (pc : Pc) : (o.setPc i pc).lock = o.lock := rfl

theorem holds_eq_true_iff : o.holds i = true ↔ ∃ version, o.lock = some (i, version) := by
  unfold holds
  rcases o.lock with _ | ⟨j, version⟩ <;> simp

theorem holds_of_lock {version : Option Schedule} (h : o.lock = some (j, version)) : o.holds i = (j == i) := by
  rw [holds, h]

theorem holds_of_lock_none (h : o.lock = none) : o.holds i = false := by
  rw [holds, h]

theorem visible_of_holds_eq_false (h : o.holds i = false) : o.visible i = o.committed := by
  unfold visible
  rcases hlock : o.lock with _ | ⟨j, version⟩
  · rfl
  · rw [holds_of_lock hlock, beq_eq_false_iff_ne] at h
    simp [h]

theorem visible_of_lock {version : Option Schedule} (h : o.lock = some (i, version)) : o.visible i = version := by
  simp [visible, h]

theorem release_of_holds (h : o.holds i = true) : o.release i = none := by
  rw [release, if_pos h]

theorem release_of_holds_eq_false (h : o.holds i = false) : o.release i = o.lock := by
  rw [release, h, if_neg Bool.false_ne_true]

theorem ne_of_holds (hi : o.holds i = false) (hj : o.holds j = true) : j ≠ i := by
  rintro rfl
  rw [hj] at hi
  cases hi

theorem deleting_congr (h : q.pc j = o.pc j) : q.Deleting requests j ↔ o.Deleting requests j := by
  rw [Deleting, Deleting, h]

/-- A step of request `i` that neither makes it a delete under way nor ends one changes nothing for the others. -/
theorem deleting_of_step (hother : ∀ j, j ≠ i → q.pc j = o.pc j)
    (hself : q.Deleting requests i ↔ o.Deleting requests i) (j : ℕ) :
    q.Deleting requests j ↔ o.Deleting requests j := by
  by_cases hj : j = i
  · subst hj
    exact hself
  · exact deleting_congr (hother j hj)

theorem none_deleting (hself : ¬ o.Deleting requests i) (hother : ∀ j, j ≠ i → ¬ o.Deleting requests j) (j : ℕ) :
    ¬ o.Deleting requests j := by
  by_cases hj : j = i
  · subst hj
    exact hself
  · exact hother j hj

theorem not_deleting_of_update {data : ScheduleUpdate} (hrequest : requests i = .update data) (o : Overlap T) :
    ¬ o.Deleting requests i := by
  rintro ⟨hdelete, -⟩
  rw [hrequest] at hdelete
  cases hdelete

theorem target_of_lock_none (h : o.lock = none) : o.target = o.committed := by
  rw [target, h]

theorem target_of_synced {version : Option Schedule} (h : o.lock = some (i, version)) (hpc : o.pc i = .synced) :
    o.target = version := by
  simp [target, h, hpc]

theorem target_of_not_synced {i : ℕ} {version : Option Schedule} (h : o.lock = some (i, version)) (hpc : o.pc i ≠ .synced) :
    o.target = o.committed := by
  simp only [target, h]

theorem target_congr (hcommitted : q.committed = o.committed) (hlock : q.lock = o.lock)
    (hpc : ∀ i, o.holds i = true → q.pc i = o.pc i) : q.target = o.target := by
  unfold target
  rw [hlock, hcommitted]
  rcases h : o.lock with _ | ⟨i, version⟩
  · rfl
  · simp only [hpc i (holds_eq_true_iff.mpr ⟨version, h⟩)]

/-! ### The invariant -/

/-- What holds in every state that overlapping requests reach. -/
structure Ordered (aps : Apscheduler T) (requests : ℕ → OverlapRequest) (o : Overlap T) : Prop where
  held : ∀ i version, o.lock = some (i, version) → o.committed ≠ none ∧
    (o.pc i = .flushed ∨ (∃ row, o.pc i = .refreshed row ∧ version = some row) ∨ o.pc i = .synced)
  erased : ∀ i version, o.lock = some (i, version) → requests i = .delete → version = none
  /-- A delete that has nothing to delete. -/
  gone : ∀ i, requests i = .delete → o.pc i = .flushed → o.holds i = false → o.committed = none
  deleted : ∀ i, o.Deleting requests i → o.job = none
  agrees : (∀ i, ¬ o.Deleting requests i) → AgreeAt aps o.target o.job

theorem Ordered.not_holds (h : Ordered aps requests o) (hflushed : o.pc i ≠ .flushed)
    (hrefreshed : ∀ row, o.pc i ≠ .refreshed row) (hsynced : o.pc i ≠ .synced) : o.holds i = false := by
  by_contra hholds
  obtain ⟨version, hlock⟩ := holds_eq_true_iff.mp (Bool.not_eq_false _ |>.mp hholds)
  rcases (h.held i version hlock).2 with hpc | ⟨row, hpc, -⟩ | hpc
  · exact hflushed hpc
  · exact hrefreshed row hpc
  · exact hsynced hpc

/-- A request without the lock moves on, and is no delete under way before or after. -/
theorem Ordered.move (h : Ordered aps requests o) {pc : Pc} (hholds : o.holds i = false)
    (hbefore : ¬ o.Deleting requests i) (hafter : ¬ (o.setPc i pc).Deleting requests i) :
    Ordered aps requests (o.setPc i pc) := by
  have hother : ∀ j, o.holds j = true → (o.setPc i pc).pc j = o.pc j :=
    fun j hj => setPc_pc_of_ne o pc (ne_of_holds hholds hj)
  have hdeleting : ∀ j, (o.setPc i pc).Deleting requests j ↔ o.Deleting requests j :=
    deleting_of_step (fun _ hj => setPc_pc_of_ne o pc hj) (iff_of_false hafter hbefore)
  refine ⟨fun j version hlock => ?_, h.erased, fun j hdelete hpc hj => ?_, fun j hj => ?_, fun hnone => ?_⟩
  · rw [hother j (holds_eq_true_iff.mpr ⟨version, hlock⟩)]
    exact h.held j version hlock
  · have hdel : (o.setPc i pc).Deleting requests j := ⟨hdelete, Or.inr hpc⟩
    by_cases hji : j = i
    · subst hji
      exact absurd hdel hafter
    · rw [setPc_pc_of_ne o pc hji] at hpc
      exact h.gone j hdelete hpc hj
  · exact h.deleted j ((hdeleting j).mp hj)
  · rw [target_congr (q := o.setPc i pc) (o := o) rfl rfl hother]
    exact h.agrees fun j hj => hnone j ((hdeleting j).mpr hj)

/-- A request ends, by a commit or by a rollback: the job has to agree with what is left, unless another delete
    is under way. -/
theorem Ordered.finish (h : Ordered aps requests o) (hdone : q.pc i = .done) (hpc : ∀ j, j ≠ i → q.pc j = o.pc j)
    (hlock : q.lock = o.release i) (hjob : q.job = o.job) (hcommitted : o.holds i = false → q.committed = o.committed)
    (hagrees : (∀ j, j ≠ i → ¬ o.Deleting requests j) → AgreeAt aps q.target o.job) : Ordered aps requests q := by
  have hdeleting : ∀ j, q.Deleting requests j ↔ j ≠ i ∧ o.Deleting requests j := by
    intro j
    by_cases hj : j = i
    · subst hj
      simp [Deleting, hdone]
    · simp only [ne_eq, hj, not_false_eq_true, true_and]
      exact deleting_congr (hpc j hj)
  -- Another holder keeps its lock, and then `i` has none.
  have hlocked : ∀ j version, q.lock = some (j, version) → j ≠ i ∧ o.lock = some (j, version) ∧ o.holds i = false := by
    intro j version hq
    rw [hlock] at hq
    rcases hholds : o.holds i with _ | _
    · rw [release_of_holds_eq_false hholds] at hq
      refine ⟨?_, hq, rfl⟩
      rintro rfl
      rw [holds_of_lock hq, beq_self_eq_true] at hholds
      cases hholds
    · rw [release_of_holds hholds] at hq
      cases hq
  refine ⟨fun j version hq => ?_, fun j version hq => ?_, fun j hdelete hflushed hj => ?_, fun j hj => ?_,
    fun hnone => ?_⟩
  · obtain ⟨hji, ho, hholds⟩ := hlocked j version hq
    rw [hcommitted hholds, hpc j hji]
    exact h.held j version ho
  · exact h.erased j version (hlocked j version hq).2.1
  · obtain ⟨hji, -⟩ := (hdeleting j).mp ⟨hdelete, Or.inr hflushed⟩
    rw [hpc j hji] at hflushed
    rcases hholds : o.holds i with _ | _
    · rw [hcommitted hholds]
      have hlock : q.lock = o.lock := hlock.trans (release_of_holds_eq_false hholds)
      rw [holds, hlock] at hj
      exact h.gone j hdelete hflushed hj
    · obtain ⟨version, ho⟩ := holds_eq_true_iff.mp hholds
      have hnot : o.holds j = false := by
        rw [holds_of_lock ho]
        exact beq_eq_false_iff_ne.mpr fun hij => hji hij.symm
      exact absurd (h.gone j hdelete hflushed hnot) (h.held i version ho).1
  · rw [hjob]
    exact h.deleted j ((hdeleting j).mp hj).2
  · rw [hjob]
    exact hagrees fun j hji hj => hnone j ((hdeleting j).mpr ⟨hji, hj⟩)

theorem Ordered.rollback (h : Ordered aps requests o)
    (hagrees : (∀ j, j ≠ i → ¬ o.Deleting requests j) → AgreeAt aps (o.rollback i).target o.job) :
    Ordered aps requests (o.rollback i) :=
  h.finish (setPc_pc_self _ i .done) (fun _ hj => setPc_pc_of_ne _ .done hj) rfl rfl (fun _ => rfl) hagrees

theorem Ordered.commit (h : Ordered aps requests o)
    (hagrees : (∀ j, j ≠ i → ¬ o.Deleting requests j) → AgreeAt aps (o.commit i).target o.job) :
    Ordered aps requests (o.commit i) :=
  h.finish (setPc_pc_self _ i .done) (fun _ hj => setPc_pc_of_ne _ .done hj) rfl rfl
    (fun hholds => visible_of_holds_eq_false hholds) hagrees

theorem rollback_target (h : o.holds i = true → o.pc i ≠ .synced) : (o.rollback i).target = o.target := by
  rcases hholds : o.holds i with _ | _
  · exact target_congr (q := o.rollback i) rfl (release_of_holds_eq_false hholds) fun j hj =>
      setPc_pc_of_ne _ .done (ne_of_holds hholds hj)
  · obtain ⟨version, hlock⟩ := holds_eq_true_iff.mp hholds
    have hreleased : (o.rollback i).lock = none := release_of_holds hholds
    rw [target_of_lock_none hreleased, target_of_not_synced hlock (h hholds)]
    rfl

theorem Ordered.rollback_early (h : Ordered aps requests o) (hdelete : ¬ o.Deleting requests i)
    (hsynced : o.holds i = true → o.pc i ≠ .synced) : Ordered aps requests (o.rollback i) := by
  refine h.rollback fun hnone => ?_
  rw [rollback_target hsynced]
  exact h.agrees (none_deleting hdelete hnone)

/-! ### The steps -/

theorem ordered_select (h : Ordered aps requests o) (hstep : step aps requests o (.select i) = some q) :
    Ordered aps requests q := by
  simp only [step] at hstep
  split at hstep
  next row hpc hcommitted =>
    cases hstep
    refine h.move (h.not_holds ?_ ?_ ?_) ?_ ?_ <;> simp [hpc, Deleting]
  next hpc hcommitted =>
    cases hstep
    refine h.rollback_early ?_ ?_ <;> simp [hpc, Deleting]
  · cases hstep

theorem ordered_remove (h : Ordered aps requests o) (hstep : step aps requests o (.remove i) = some q) :
    Ordered aps requests q := by
  simp only [step] at hstep
  split at hstep
  next row hrequest hpc =>
    cases hstep
    have hholds : o.holds i = false := by
      refine h.not_holds ?_ ?_ ?_ <;> simp [hpc]
    refine ⟨fun j version hlock => ?_, h.erased, fun j hdelete hflushed hj => ?_, fun j hj => rfl, fun hnone => ?_⟩
    · rw [setPc_pc_of_ne _ _ (ne_of_holds hholds (holds_eq_true_iff.mpr ⟨version, hlock⟩))]
      exact h.held j version hlock
    · by_cases hji : j = i
      · subst hji
        rw [setPc_pc_self] at hflushed
        cases hflushed
      · rw [setPc_pc_of_ne _ _ hji] at hflushed
        exact h.gone j hdelete hflushed hj
    · exact absurd ⟨hrequest, Or.inl (setPc_pc_self _ i .removed)⟩ (hnone i)
  · cases hstep

theorem Ordered.acquire (h : Ordered aps requests o) {version : Option Schedule} (hlock : o.lock = none)
    (hcommitted : o.committed ≠ none) (herased : requests i = .delete → version = none)
    (hdeletes : o.Deleting requests i ↔ requests i = .delete) :
    Ordered aps requests (setPc i .flushed { o with lock := some (i, version) }) := by
  have hdeleting : ∀ j, (setPc i .flushed { o with lock := some (i, version) }).Deleting requests j ↔
      o.Deleting requests j := by
    refine deleting_of_step (fun _ hj => setPc_pc_of_ne _ .flushed hj) ?_
    rw [hdeletes]
    simp [Deleting]
  have hholds : ∀ j, o.holds j = false := fun j => holds_of_lock_none hlock
  refine ⟨fun j other hq => ?_, fun j other hq => ?_, fun j hdelete hflushed hj => ?_, fun j hj => ?_, fun hnone => ?_⟩
  · cases hq
    exact ⟨hcommitted, Or.inl (setPc_pc_self _ i .flushed)⟩
  · cases hq
    exact herased
  · have hji : j ≠ i := by
      rintro rfl
      simp [holds] at hj
    rw [setPc_pc_of_ne _ .flushed hji] at hflushed
    exact h.gone j hdelete hflushed (hholds j)
  · exact h.deleted j ((hdeleting j).mp hj)
  · have htarget := h.agrees fun j hj => hnone j ((hdeleting j).mpr hj)
    rw [target_of_lock_none hlock] at htarget
    have htarget' : (setPc i .flushed { o with lock := some (i, version) }).target = o.committed := by
      have hpc : (setPc i .flushed { o with lock := some (i, version) }).pc i ≠ .synced := by
        rw [setPc_pc_self]
        exact Pc.noConfusion
      exact target_of_not_synced rfl hpc
    rw [htarget']
    exact htarget

theorem ordered_update {data : ScheduleUpdate} {row : Schedule} (h : Ordered aps requests o)
    (hrequest : requests i = .update data) (hpc : o.pc i = .loaded row) (hstep : o.update i data row = some q) :
    Ordered aps requests q := by
  have hnot := not_deleting_of_update (T := T) hrequest
  have hholds : o.holds i = false := by
    refine h.not_holds ?_ ?_ ?_ <;> simp [hpc]
  unfold update at hstep
  split at hstep
  · cases hstep
    exact h.move hholds (hnot o) (hnot _)
  · split at hstep
    · cases hstep
    next current hlock hcommitted =>
      cases hstep
      refine h.acquire hlock (by simp [hcommitted]) (fun hdelete => ?_) (by simp [Deleting, hrequest])
      rw [hrequest] at hdelete
      cases hdelete
    · cases hstep
      exact h.rollback_early (hnot o) (by simp [hholds])

theorem ordered_delete (h : Ordered aps requests o) (hrequest : requests i = .delete) (hpc : o.pc i = .removed)
    (hstep : o.delete i = some q) : Ordered aps requests q := by
  have hdel : o.Deleting requests i := ⟨hrequest, Or.inl hpc⟩
  unfold delete at hstep
  split at hstep
  · cases hstep
  next current hlock hcommitted =>
    cases hstep
    exact h.acquire hlock (by simp [hcommitted]) (fun _ => rfl) (by simp [Deleting, hrequest, hpc])
  next hlock hcommitted =>
    cases hstep
    have hdeleting : ∀ j, (o.setPc i .flushed).Deleting requests j ↔ o.Deleting requests j := by
      refine deleting_of_step (fun _ hj => setPc_pc_of_ne o .flushed hj) ?_
      simp [Deleting, hrequest, hpc]
    refine ⟨fun j version hq => ?_, fun j version hq => ?_, fun _ _ _ _ => hcommitted,
      fun j hj => h.deleted j ((hdeleting j).mp hj), fun hnone => absurd ((hdeleting i).mpr hdel) (hnone i)⟩
    · rw [setPc_lock, hlock] at hq
      cases hq
    · rw [setPc_lock, hlock] at hq
      cases hq

theorem ordered_write (h : Ordered aps requests o) (hstep : step aps requests o (.write i) = some q) :
    Ordered aps requests q := by
  simp only [step] at hstep
  split at hstep
  next data row hrequest hpc => exact ordered_update h hrequest hpc hstep
  next hrequest hpc => exact ordered_delete h hrequest hpc hstep
  · cases hstep

theorem ordered_refresh (h : Ordered aps requests o) (hstep : step aps requests o (.refresh i) = some q) :
    Ordered aps requests q := by
  simp only [step] at hstep
  split at hstep
  next data hrequest hpc =>
    have hnot := not_deleting_of_update (T := T) hrequest
    split at hstep
    next row hvisible =>
      cases hstep
      rcases hholds : o.holds i with _ | _
      · exact h.move hholds (hnot o) (hnot _)
      · obtain ⟨version, hlock⟩ := holds_eq_true_iff.mp hholds
        rw [visible_of_lock hlock] at hvisible
        have hdeleting : ∀ j, (o.setPc i (.refreshed row)).Deleting requests j ↔ o.Deleting requests j :=
          deleting_of_step (fun _ hj => setPc_pc_of_ne o _ hj) (iff_of_false (hnot _) (hnot _))
        refine ⟨fun j other hq => ?_, h.erased, fun j hdelete hflushed hj => ?_,
          fun j hj => h.deleted j ((hdeleting j).mp hj), fun hnone => ?_⟩
        · rw [setPc_lock, hlock] at hq
          cases hq
          exact ⟨(h.held i version hlock).1, Or.inr (Or.inl ⟨row, setPc_pc_self o i _, hvisible⟩)⟩
        · have hji : j ≠ i := by
            rintro rfl
            rw [hrequest] at hdelete
            cases hdelete
          rw [setPc_pc_of_ne o _ hji] at hflushed
          exact h.gone j hdelete hflushed hj
        · have htarget := h.agrees fun j hj => hnone j ((hdeleting j).mpr hj)
          rw [target_of_not_synced hlock (by simp [hpc])] at htarget
          rw [target_of_not_synced (o := o.setPc i (.refreshed row)) hlock (by simp)]
          exact htarget
    · cases hstep
      exact h.rollback_early (hnot o) (by simp [hpc])
  · cases hstep

theorem ordered_sync {now : DateTime} (h : Ordered aps requests o) (hok : Orderly aps requests o (.sync i now))
    (hstep : step aps requests o (.sync i now) = some q) : Ordered aps requests q := by
  simp only [step] at hstep
  split at hstep
  next data row hrequest hpc =>
    have hnot := not_deleting_of_update (T := T) hrequest
    split at hstep
    next f hsync =>
      cases hstep
      obtain ⟨henabled, hcurrent⟩ := hok row f hpc hsync
      have hdeleting : ∀ j, (setPc i .synced { o with job := f.after o.job }).Deleting requests j ↔
          o.Deleting requests j :=
        deleting_of_step (fun _ hj => setPc_pc_of_ne _ _ hj) (iff_of_false (hnot _) (hnot _))
      refine ⟨fun j version hq => ?_, h.erased, fun j hdelete hflushed hj => ?_, fun j hj => ?_, fun hnone => ?_⟩
      · obtain ⟨hcommitted, hheld⟩ := h.held j version hq
        by_cases hji : j = i
        · subst hji
          exact ⟨hcommitted, Or.inr (Or.inr (setPc_pc_self _ j _))⟩
        · rw [setPc_pc_of_ne _ _ hji]
          exact ⟨hcommitted, hheld⟩
      · have hji : j ≠ i := by
          rintro rfl
          rw [hrequest] at hdelete
          cases hdelete
        rw [setPc_pc_of_ne _ _ hji] at hflushed
        exact h.gone j hdelete hflushed hj
      · -- Under a delete, only a disabled row is synchronised.
        have hdisabled : row.isEnabled = false := by
          by_contra hne
          exact (henabled (Bool.not_eq_false _ |>.mp hne)).2 j ((hdeleting j).mp hj)
        exact after_of_sync_disabled hsync hdisabled
      · have hagrees : AgreeAt aps (some row) (f.after o.job) :=
          agreeAt_of_sync hsync fun henable => (henabled henable).1
        rcases hholds : o.holds i with _ | _
        · have htarget : (setPc i .synced { o with job := f.after o.job }).target = o.target :=
            target_congr rfl rfl fun j hj => setPc_pc_of_ne _ _ (ne_of_holds hholds hj)
          rw [htarget]
          rcases hcurrent hholds with ⟨j, hj⟩ | hwanted
          · exact absurd ((hdeleting j).mpr hj) (hnone j)
          · exact (agreeAt_congr hwanted).mpr hagrees
        · obtain ⟨version, hlock⟩ := holds_eq_true_iff.mp hholds
          have htarget : (setPc i .synced { o with job := f.after o.job }).target = version :=
            target_of_synced hlock (setPc_pc_self _ i .synced)
          rw [htarget]
          rcases (h.held i version hlock).2 with hflushed | ⟨row', hrefreshed, rfl⟩ | hsynced
          · rw [hpc] at hflushed
            cases hflushed
          · rw [hpc] at hrefreshed
            cases hrefreshed
            exact hagrees
          · rw [hpc] at hsynced
            cases hsynced
    · cases hstep
      exact h.rollback_early (hnot o) (by simp [hpc])
  · cases hstep

theorem commit_target_of_holds {version : Option Schedule} (hlock : o.lock = some (i, version)) :
    (o.commit i).target = version := by
  have hreleased : (o.commit i).lock = none := release_of_holds (holds_eq_true_iff.mpr ⟨version, hlock⟩)
  rw [target_of_lock_none hreleased]
  exact visible_of_lock hlock

theorem commit_target_of_not_holds (hholds : o.holds i = false) : (o.commit i).target = o.target :=
  target_congr (q := o.commit i) (visible_of_holds_eq_false hholds) (release_of_holds_eq_false hholds)
    fun _ hj => setPc_pc_of_ne _ _ (ne_of_holds hholds hj)

theorem ordered_commit (h : Ordered aps requests o) (hstep : step aps requests o (.commit i) = some q) :
    Ordered aps requests q := by
  simp only [step] at hstep
  split at hstep
  next data hrequest hpc =>
    cases hstep
    refine h.commit fun hnone => ?_
    have hagrees : AgreeAt aps o.target o.job :=
      h.agrees (none_deleting (not_deleting_of_update hrequest o) hnone)
    rcases hholds : o.holds i with _ | _
    · rwa [commit_target_of_not_holds hholds]
    · obtain ⟨version, hlock⟩ := holds_eq_true_iff.mp hholds
      rw [target_of_synced hlock hpc] at hagrees
      rwa [commit_target_of_holds hlock]
  next hrequest hpc =>
    cases hstep
    refine h.commit fun _ => ?_
    have hjob : o.job = none := h.deleted i ⟨hrequest, Or.inr hpc⟩
    have htarget : (o.commit i).target = none := by
      rcases hholds : o.holds i with _ | _
      · -- Nothing was there to delete, so nobody holds the lock.
        have hcommitted := h.gone i hrequest hpc hholds
        have hlock : o.lock = none := by
          by_contra hne
          obtain ⟨⟨j, version⟩, hlock⟩ := Option.ne_none_iff_exists'.mp hne
          exact (h.held j version hlock).1 hcommitted
        rw [commit_target_of_not_holds hholds, target_of_lock_none hlock, hcommitted]
      · obtain ⟨version, hlock⟩ := holds_eq_true_iff.mp hholds
        rw [commit_target_of_holds hlock, h.erased i version hlock hrequest]
    rw [htarget, hjob]
    rfl
  · cases hstep

theorem ordered_fail (h : Ordered aps requests o) (hok : Orderly aps requests o (.fail i))
    (hstep : step aps requests o (.fail i) = some q) : Ordered aps requests q := by
  obtain ⟨hsynced, hdeleting⟩ := hok
  have hq : o.rollback i = q := by
    simp only [step] at hstep
    split at hstep
    · cases hstep
    · exact Option.some.inj hstep
  subst hq
  by_cases hdel : o.Deleting requests i
  · refine h.rollback fun hnone => ?_
    have hpc : o.pc i ≠ .synced := by
      rcases hdel.2 with hpc | hpc <;> simp [hpc]
    rw [rollback_target fun _ => hpc, h.deleted i hdel]
    rcases hdeleting hdel with ⟨j, hji, hj⟩ | hwanted
    · exact absurd hj (hnone j hji)
    · exact agreeAt_none_of_wanted hwanted
  · by_cases hlate : o.holds i = true ∧ o.pc i = .synced
    · refine h.rollback fun hnone => ?_
      have hall : ∀ j, ¬ o.Deleting requests j := none_deleting hdel hnone
      have hreleased : (o.rollback i).lock = none := release_of_holds hlate.1
      rw [target_of_lock_none hreleased]
      rcases hsynced hlate.2 hlate.1 with ⟨j, hj⟩ | hwanted
      · exact absurd hj (hall j)
      · exact (agreeAt_congr hwanted).mpr (h.agrees hall)
    · exact h.rollback_early hdel fun hholds hpc => hlate ⟨hholds, hpc⟩

theorem ordered_step {e : OverlapEvent} (h : Ordered aps requests o) (hok : Orderly aps requests o e)
    (hstep : step aps requests o e = some q) : Ordered aps requests q := by
  cases e with
  | select i => exact ordered_select h hstep
  | remove i => exact ordered_remove h hstep
  | write i => exact ordered_write h hstep
  | refresh i => exact ordered_refresh h hstep
  | sync i now => exact ordered_sync h hok hstep
  | commit i => exact ordered_commit h hstep
  | fail i => exact ordered_fail h hok hstep

theorem ordered_initial {row : Option Schedule} {job : Option (Job T)} (h : AgreeAt aps row job) :
    Ordered aps requests (initial row job) := by
  refine ⟨?_, ?_, ?_, ?_, fun _ => h⟩
  · rintro i version ⟨⟩
  · rintro i version ⟨⟩
  · rintro i _ ⟨⟩
  · rintro i ⟨-, hpc | hpc⟩ <;> cases hpc

theorem Ordered.agrees_of_quiet (h : Ordered aps requests o) (hquiet : o.Quiet) : AgreeAt aps o.committed o.job := by
  have hlock : o.lock = none := by
    by_contra hne
    obtain ⟨⟨i, version⟩, hlock⟩ := Option.ne_none_iff_exists'.mp hne
    have hheld := (h.held i version hlock).2
    rcases hquiet i with hpc | hpc <;> simp [hpc] at hheld
  have hnone : ∀ i, ¬ o.Deleting requests i := by
    rintro i ⟨-, hdel⟩
    rcases hquiet i with hpc | hpc <;> simp [hpc] at hdel
  have hagrees := h.agrees hnone
  rwa [target_of_lock_none hlock] at hagrees

end

/-- However updates and deletes of a schedule overlap, as long as their steps are in order, the job agrees with
    the committed row once all of them have ended. -/
theorem overlapping_requests_agree {T : Type} (aps : Apscheduler T) (requests : ℕ → OverlapRequest)
    (row : Option Schedule) (job : Option (Job T)) (es : List OverlapEvent) (q : Overlap T)
    (hstart : AgreeAt aps row job) (horder : Meets (step aps requests) (Orderly aps requests) (initial row job) es)
    (hrun : run (step aps requests) (initial row job) es = some q) (hquiet : q.Quiet) :
    AgreeAt aps q.committed q.job := by
  have hq : Ordered aps requests q :=
    invariant_of_meets (I := Ordered aps requests) ordered_step (ordered_initial hstart) horder hrun
  exact hq.agrees_of_quiet hquiet

/-! ### One request alone -/

section
variable {T : Type} {aps : Apscheduler T} {requests : ℕ → OverlapRequest} {o q : Overlap T} {i : ℕ} {s : Stores T}
  {r : Request} {id : Uuid}

theorem run_to_synced (aps : Apscheduler T) {data : ScheduleUpdate} {row : Schedule} {now : DateTime} {f : JobEffect T}
    (hrequest : requests i = .update data) (hpc : o.pc i = .idle) (hlock : o.lock = none)
    (hcommitted : o.committed = some row) (hsync : syncEffect aps now (data.updated row) = .ok f) :
    ∃ q, run (step aps requests) o [.select i, .write i, .refresh i, .sync i now] = some q ∧ q.pc i = .synced ∧
      q.job = f.after o.job ∧ q.committed = some row ∧ q.visible i = some (data.updated row) ∧ q.release i = none := by
  have hselect : step aps requests o (.select i) = some (o.setPc i (.loaded row)) := by
    simp [step, hpc, hcommitted]
  have hwrite : ∃ p, step aps requests (o.setPc i (.loaded row)) (.write i) = some p ∧ p.pc i = .flushed ∧
      p.job = o.job ∧ p.committed = some row ∧ p.visible i = some (data.updated row) ∧ p.release i = none := by
    rcases hempty : (data.changes row).isEmpty with _ | _
    · refine ⟨setPc i .flushed { o.setPc i (.loaded row) with lock := some (i, some (data.updated row)) }, ?_, ?_, rfl,
        hcommitted, visible_of_lock rfl, release_of_holds (holds_eq_true_iff.mpr ⟨_, rfl⟩)⟩
      · simp [step, hrequest, Overlap.update, hempty, hlock, hcommitted, ScheduleUpdate.updated]
      · simp
    · have hsame : data.updated row = row := ScheduleUpdate.apply_of_isEmpty hempty row
      refine ⟨(o.setPc i (.loaded row)).setPc i .flushed, ?_, ?_, rfl, hcommitted, ?_, ?_⟩
      · simp [step, hrequest, Overlap.update, hempty]
      · simp
      · simp [visible, hlock, hcommitted, hsame]
      · simp [release, hlock]
  obtain ⟨p, hp, hpflushed, hpjob, hpcommitted, hpvisible, hprelease⟩ := hwrite
  have hrefresh : step aps requests p (.refresh i) = some (p.setPc i (.refreshed (data.updated row))) := by
    simp [step, hrequest, hpflushed, hpvisible]
  have hsynced : step aps requests (p.setPc i (.refreshed (data.updated row))) (.sync i now) =
      some (setPc i .synced { p.setPc i (.refreshed (data.updated row)) with job := f.after p.job }) := by
    simp [step, hrequest, hsync]
  refine ⟨_, run_cons.mpr ⟨_, hselect, run_cons.mpr ⟨p, hp, run_cons.mpr ⟨_, hrefresh, run_cons.mpr ⟨_, hsynced, rfl⟩⟩⟩⟩,
    setPc_pc_self _ i .synced, ?_, hpcommitted, hpvisible, hprelease⟩
  rw [setPc_job, hpjob]

/-- A request that changes nothing ends in a rollback. -/
theorem solo_fail (hpc : o.pc i = .idle) (hlock : o.lock = none) (hcommitted : o.committed = s.rows.find id)
    (hjob : o.job = s.job id) :
    ∃ es q, run (step aps requests) o es = some q ∧ q.pc i = .done ∧ q.lock = none ∧
      q.committed = s.rows.find id ∧ q.job = s.job id := by
  refine ⟨[.fail i], o.rollback i, ?_, setPc_pc_self _ i .done, ?_, hcommitted, hjob⟩
  · simp [run_cons, step, hpc]
  · exact (release_of_holds_eq_false (holds_of_lock_none hlock)).trans hlock

/-- An update that runs alone does to the row and the job what the request does to the stores. -/
theorem solo_update {data : ScheduleUpdate} (hbody : r.body = .update id data) (hrequest : requests i = .update data)
    (hpc : o.pc i = .idle) (hlock : o.lock = none) (hcommitted : o.committed = s.rows.find id)
    (hjob : o.job = s.job id) :
    ∃ es q, run (step aps requests) o es = some q ∧ q.pc i = .done ∧ q.lock = none ∧
      q.committed = (r.handle aps s).2.rows.find id ∧ q.job = (r.handle aps s).2.job id := by
  rcases handle_cases aps r s with ⟨-, e, he⟩ | ⟨p, hplan, hstate, -, hrow⟩
  · rw [he]
    exact solo_fail hpc hlock hcommitted hjob
  · obtain ⟨-, row, hfind, f, hsync, rfl⟩ := (plan_update_iff hbody).mp hplan
    obtain ⟨p, hrun, hpsynced, hpjob, hpcommitted, hpvisible, hprelease⟩ :=
      run_to_synced aps hrequest hpc hlock (hcommitted.trans hfind) hsync
    rw [hstate]
    rcases hcommit : r.fails .commit with _ | e
    · rw [hcommit] at hrow
      refine ⟨_ ++ [.commit i], p.commit i, run_append.mpr ⟨p, hrun, ?_⟩, setPc_pc_self _ i .done, hprelease, ?_, ?_⟩
      · simp [run_cons, step, hrequest, hpsynced]
      · exact hpvisible.trans (Plan.finish_find_self (s := s) hrow rfl).symm
      · rw [Plan.finish_job_self, ← hjob]
        exact hpjob
    · refine ⟨_ ++ [.fail i], p.rollback i, run_append.mpr ⟨p, hrun, ?_⟩, setPc_pc_self _ i .done, hprelease, ?_, ?_⟩
      · simp [run_cons, step, hpsynced]
      · rw [Plan.finish_of_late (by simp), JobEffect.apply_rows, hfind]
        exact hpcommitted
      · rw [Plan.finish_job_self, ← hjob]
        exact hpjob

theorem run_to_removed (aps : Apscheduler T) {row : Schedule} (hrequest : requests i = .delete)
    (hpc : o.pc i = .idle) (hlock : o.lock = none) (hcommitted : o.committed = some row) :
    ∃ q, run (step aps requests) o [.select i, .remove i] = some q ∧ q.pc i = .removed ∧ q.job = none ∧
      q.committed = some row ∧ q.lock = none := by
  have hselect : step aps requests o (.select i) = some (o.setPc i (.loaded row)) := by
    simp [step, hpc, hcommitted]
  have hremove : step aps requests (o.setPc i (.loaded row)) (.remove i) =
      some (setPc i .removed { o.setPc i (.loaded row) with job := none }) := by
    simp [step, hrequest]
  exact ⟨_, run_cons.mpr ⟨_, hselect, run_cons.mpr ⟨_, hremove, rfl⟩⟩, setPc_pc_self _ i .removed, rfl, hcommitted, hlock⟩

theorem solo_delete (hbody : r.body = .delete id) (hrequest : requests i = .delete) (hpc : o.pc i = .idle)
    (hlock : o.lock = none) (hcommitted : o.committed = s.rows.find id) (hjob : o.job = s.job id) :
    ∃ es q, run (step aps requests) o es = some q ∧ q.pc i = .done ∧ q.lock = none ∧
      q.committed = (r.handle aps s).2.rows.find id ∧ q.job = (r.handle aps s).2.job id := by
  rcases handle_cases aps r s with ⟨-, e, he⟩ | ⟨p, hplan, hstate, -, hrow⟩
  · rw [he]
    exact solo_fail hpc hlock hcommitted hjob
  · obtain ⟨-, row, hfind, rfl⟩ := (plan_delete_iff hbody).mp hplan
    obtain ⟨p, hrun, hpremoved, hpjob, hpcommitted, hplock⟩ :=
      run_to_removed aps hrequest hpc hlock (hcommitted.trans hfind)
    rw [hstate]
    rcases hlate : (r.fails .flush).orElse fun _ => r.fails .commit with _ | e
    · rw [hlate] at hrow
      have hwrite : step aps requests p (.write i) = some (setPc i .flushed { p with lock := some (i, none) }) := by
        simp [step, hrequest, hpremoved, Overlap.delete, hplock, hpcommitted]
      have hend : step aps requests (setPc i .flushed { p with lock := some (i, none) }) (.commit i) =
          some (Overlap.commit i (setPc i .flushed { p with lock := some (i, none) })) := by
        simp [step, hrequest]
      refine ⟨_ ++ [.write i, .commit i], _, run_append.mpr ⟨p, hrun, run_cons.mpr ⟨_, hwrite, run_cons.mpr
        ⟨_, hend, rfl⟩⟩⟩, setPc_pc_self _ i .done, ?_, ?_, ?_⟩
      · exact release_of_holds (holds_eq_true_iff.mpr ⟨none, rfl⟩)
      · rw [Plan.finish_find_self hrow rfl]
        exact visible_of_lock (o := setPc i .flushed { p with lock := some (i, none) }) rfl
      · rw [Plan.finish_job_self]
        exact hpjob
    · have hend : step aps requests p (.fail i) = some (p.rollback i) := by
        simp [step, hpremoved]
      refine ⟨_ ++ [.fail i], _, run_append.mpr ⟨p, hrun, run_cons.mpr ⟨_, hend, rfl⟩⟩, setPc_pc_self _ i .done,
        ?_, ?_, ?_⟩
      · exact (release_of_holds_eq_false (holds_of_lock_none hplock)).trans hplock
      · rw [Plan.finish_of_late (by simp), JobEffect.apply_rows, hfind]
        exact hpcommitted
      · rw [Plan.finish_job_self]
        exact hpjob

end

/-! ### A run -/

/-- A delete overlaps with an update. -/
def deleteAndRename : ℕ → OverlapRequest
  | 0 => .delete
  | _ => .update { name := some "Nachts alles aus" }

/-- The update takes the lock before the delete does, and adds the job after the delete has removed it. -/
def renameUnderDelete : List OverlapEvent :=
  [.select 0, .select 1, .write 1, .remove 0, .refresh 1, .sync 1 0, .commit 1, .write 0, .commit 0]

/-- The job of the schedule for the night. -/
def nightJob : Job ClockTrigger where
  trigger := .daily 22 0
  task := .jobFunc 1 nightSchedule.actionConfig

theorem nightJob_agrees : AgreeAt clockTriggers (some nightSchedule) (some nightJob) :=
  agreeAt_registered nightSchedule 0 rfl rfl

theorem rename_under_delete_leaves_orphan :
    AgreeAt clockTriggers (some nightSchedule) (some nightJob) ∧
      ∃ q, run (step clockTriggers deleteAndRename) (initial (some nightSchedule) (some nightJob)) renameUnderDelete =
          some q ∧ q.Quiet ∧ ¬ AgreeAt clockTriggers q.committed q.job := by
  refine ⟨nightJob_agrees, _, rfl, ?_, ?_⟩
  · intro i
    match i with
    | 0 => exact Or.inr rfl
    | 1 => exact Or.inr rfl
    | i + 2 => exact Or.inl rfl
  · rintro ⟨⟩

theorem rename_alone_agrees :
    ∃ q, run (step clockTriggers deleteAndRename) (initial (some nightSchedule) (some nightJob))
        [.select 1, .write 1, .refresh 1, .sync 1 0, .commit 1] = some q ∧ AgreeAt clockTriggers q.committed q.job := by
  refine ⟨_, rfl, overlapping_requests_agree clockTriggers deleteAndRename (some nightSchedule) (some nightJob)
    [.select 1, .write 1, .refresh 1, .sync 1 0, .commit 1] _ nightJob_agrees ?_ rfl ?_⟩
  · refine ⟨trivial, ?_⟩
    rintro _ ⟨⟩
    refine ⟨trivial, ?_⟩
    rintro _ ⟨⟩
    refine ⟨trivial, ?_⟩
    rintro _ ⟨⟩
    refine ⟨?_, ?_⟩
    · rintro row f ⟨⟩ -
      refine ⟨fun _ => ⟨Or.inl rfl, ?_⟩, by rintro ⟨⟩⟩
      intro j hj
      match j with
      | 0 => rcases hj.2 with hpc | hpc <;> cases hpc
      | j + 1 => cases hj.1
    · rintro _ ⟨⟩
      refine ⟨trivial, ?_⟩
      rintro _ ⟨⟩
      trivial
  · intro i
    match i with
    | 0 => exact Or.inl rfl
    | 1 => exact Or.inr rfl
    | i + 2 => exact Or.inl rfl

end SmartHome
