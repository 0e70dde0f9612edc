import SmartHome.Lib.Run
import Mathlib.Data.List.Nodup
import Mathlib.Order.Basic

/-! # Revisions of a store

A script takes the store from one revision to the next, and back. The scripts of a history follow each other; the
store remembers its revision. A command is one transaction: where one of its scripts fails, nothing happens. -/

namespace SmartHome.Revisions

variable {σ : Type}

/-- A script, with the revision it leads to and the one it starts from. -/
structure Script (σ : Type) where
  revision : String
  downRevision : Option String
  upgrade : σ → Option σ
  downgrade : σ → Option σ

/-- A store and the revision it remembers; none before the first script. -/
structure Versioned (σ : Type) where
  version : Option String
  store : σ

section Commands
variable (scripts : List (Script σ))

/-- The script that follows the revision of the store. -/
def upgradeOne (v : Versioned σ) : Option (Versioned σ) :=
  (scripts.find? fun script => script.downRevision == v.version).bind fun script =>
    (script.upgrade v.store).map fun store => { version := some script.revision, store }

/-- The script that led to the revision of the store, taken back. -/
def downgradeOne (v : Versioned σ) : Option (Versioned σ) :=
  (scripts.find? fun script => some script.revision == v.version).bind fun script =>
    (script.downgrade v.store).map fun store => { version := script.downRevision, store }

/-- No script follows the revision of the store. -/
def isHead (v : Versioned σ) : Bool := !scripts.any fun script => script.downRevision == v.version

/-- A change of the revision. -/
inductive Command where
  /-- `upgrade head`. -/
  | upgradeHead
  /-- `upgrade +n`. -/
  | upgrade (n : ℕ)
  /-- `downgrade -n`. -/
  | downgrade (n : ℕ)
  /-- `downgrade base`. -/
  | downgradeBase
  deriving DecidableEq, Repr

/-- `f`, `n` times. -/
def repeated (f : Versioned σ → Option (Versioned σ)) : ℕ → Versioned σ → Option (Versioned σ)
  | 0, v => some v
  | n + 1, v => (f v).bind (repeated f n)

/-- `f` until `last`, `bound` times at most. -/
def repeatedUntil (last : Versioned σ → Bool) (f : Versioned σ → Option (Versioned σ)) :
    ℕ → Versioned σ → Option (Versioned σ)
  | 0, v => some v
  | bound + 1, v => if last v then some v else (f v).bind (repeatedUntil last f bound)

/-- What a command makes of the store, if it does not fail. -/
def execute (v : Versioned σ) : Command → Option (Versioned σ)
  | .upgradeHead => repeatedUntil (isHead scripts) (upgradeOne scripts) scripts.length v
  -- `+0` and `-0` are refused: such a target must produce a script
  | .upgrade n => if n = 0 then none else repeated (upgradeOne scripts) n v
  | .downgrade n => if n = 0 then none else repeated (downgradeOne scripts) n v
  | .downgradeBase => repeatedUntil (fun v => v.version.isNone) (downgradeOne scripts) scripts.length v

end Commands

/-! ## Histories -/

/-- The revision after the first `i` scripts. -/
def versionAt (scripts : List (Script σ)) : ℕ → Option String
  | 0 => none
  | i + 1 => scripts[i]?.map Script.revision

/-- Each script follows the one before it. -/
structure Linear (scripts : List (Script σ)) : Prop where
  nodup : (scripts.map Script.revision).Nodup
  follows : ∀ i (h : i < scripts.length), scripts[i].downRevision = versionAt scripts i

section History
variable {scripts : List (Script σ)} (h : Linear scripts) {v w : Versioned σ} {i j n : ℕ}

theorem versionAt_succ (hi : i < scripts.length) : versionAt scripts (i + 1) = some scripts[i].revision := by
  rw [versionAt, List.getElem?_eq_getElem hi, Option.map_some]

include h

theorem Linear.versionAt_inj (hi : i ≤ scripts.length) (hj : j ≤ scripts.length)
    (heq : versionAt scripts i = versionAt scripts j) : i = j := by
  cases i with
  | zero =>
    cases j with
    | zero => rfl
    | succ j =>
      rw [versionAt_succ hj] at heq
      cases heq
  | succ i =>
    cases j with
    | zero =>
      rw [versionAt_succ hi] at heq
      cases heq
    | succ j =>
      rw [versionAt, versionAt, ← List.getElem?_map, ← List.getElem?_map] at heq
      have hlength : i < (scripts.map Script.revision).length := by rwa [List.length_map]
      exact congrArg (· + 1) ((List.getElem?_inj hlength h.nodup).mp heq)

theorem Linear.find_next (hi : i < scripts.length) :
    scripts.find? (fun script => script.downRevision == versionAt scripts i) = some scripts[i] := by
  rw [List.find?_eq_some_iff_getElem]
  refine ⟨beq_iff_eq.mpr (h.follows i hi), i, hi, rfl, fun j hj => ?_⟩
  have hj' := Nat.lt_trans hj hi
  rw [Bool.not_eq_true', beq_eq_false_iff_ne, h.follows j hj']
  exact fun heq => Nat.ne_of_lt hj (h.versionAt_inj (Nat.le_of_lt hj') (Nat.le_of_lt hi) heq)

theorem Linear.find_last (hi : i < scripts.length) :
    scripts.find? (fun script => some script.revision == versionAt scripts (i + 1)) = some scripts[i] := by
  rw [List.find?_eq_some_iff_getElem]
  refine ⟨beq_iff_eq.mpr (versionAt_succ hi).symm, i, hi, rfl, fun j hj => ?_⟩
  have hj' := Nat.lt_trans hj hi
  rw [Bool.not_eq_true', beq_eq_false_iff_ne, ← versionAt_succ hj']
  exact fun heq => Nat.ne_of_lt hj (Nat.succ.inj (h.versionAt_inj hj' hi heq))

/-- What a command does in the revision `i`. -/
theorem Linear.upgradeOne_at (hi : i < scripts.length) (hv : v.version = versionAt scripts i) :
    upgradeOne scripts v = (scripts[i].upgrade v.store).map fun store => ⟨versionAt scripts (i + 1), store⟩ := by
  rw [upgradeOne, hv, h.find_next hi, versionAt_succ hi, Option.bind_some]

theorem Linear.downgradeOne_at (hi : i < scripts.length) (hv : v.version = versionAt scripts (i + 1)) :
    downgradeOne scripts v = (scripts[i].downgrade v.store).map fun store => ⟨versionAt scripts i, store⟩ := by
  rw [downgradeOne, hv, h.find_last hi, ← h.follows i hi, Option.bind_some]

theorem Linear.isHead_eq (hi : i ≤ scripts.length) (hv : v.version = versionAt scripts i) :
    isHead scripts v = decide (i = scripts.length) := by
  rw [isHead, hv, ← List.isSome_find?]
  rcases Nat.lt_or_eq_of_le hi with hlt | rfl
  · rw [h.find_next hlt, decide_eq_false (Nat.ne_of_lt hlt)]
    rfl
  · have hnone : scripts.find? (fun script => script.downRevision == versionAt scripts scripts.length) = none := by
      rw [List.find?_eq_none]
      intro script hmem hsame
      obtain ⟨j, hj, rfl⟩ := List.getElem_of_mem hmem
      rw [beq_iff_eq, h.follows j hj] at hsame
      exact Nat.ne_of_lt hj (h.versionAt_inj (Nat.le_of_lt hj) hi hsame)
    rw [hnone, decide_eq_true rfl]
    rfl

theorem Linear.not_upgradeOne (hv : v.version = versionAt scripts scripts.length) : upgradeOne scripts v = none := by
  have hhead : isHead scripts v = true := by rw [h.isHead_eq (Nat.le_refl _) hv, decide_eq_true rfl]
  rw [isHead, Bool.not_eq_true', ← List.isSome_find?, Option.isSome_eq_false_iff, Option.isNone_iff_eq_none] at hhead
  rw [upgradeOne, hhead, Option.bind_none]

end History

theorem not_downgradeOne {scripts : List (Script σ)} {v : Versioned σ} (hv : v.version = versionAt scripts 0) :
    downgradeOne scripts v = none := by
  have hnone : scripts.find? (fun script => some script.revision == v.version) = none :=
    List.find?_eq_none.mpr fun script _ => by rw [hv]; exact Bool.false_ne_true
  rw [downgradeOne, hnone, Option.bind_none]

/-! ## What holds in each revision -/

/-- From the revision `floor` on no upgrade fails on a store that is as its revision says, and it leaves one that is
    as the next revision says. -/
structure SoundUp (scripts : List (Script σ)) (floor : ℕ) (At : ℕ → σ → Prop) : Prop where
  linear : Linear scripts
  upgrade : ∀ i (h : i < scripts.length) s, floor ≤ i → At i s → ∃ t, scripts[i].upgrade s = some t ∧ At (i + 1) t

/-- The same of the downgrades. -/
structure Sound (scripts : List (Script σ)) (floor : ℕ) (At : ℕ → σ → Prop) : Prop
    extends SoundUp scripts floor At where
  downgrade : ∀ i (h : i < scripts.length) s, floor ≤ i → At (i + 1) s → ∃ t, scripts[i].downgrade s = some t ∧ At i t

/-- The store is in the revision `i`, and as this revision says. -/
structure Standing (scripts : List (Script σ)) (floor : ℕ) (At : ℕ → σ → Prop) (i : ℕ) (v : Versioned σ) : Prop where
  above : floor ≤ i
  below : i ≤ scripts.length
  version : v.version = versionAt scripts i
  store : At i v.store

section Upgrades
variable {scripts : List (Script σ)} {floor : ℕ} {At : ℕ → σ → Prop} (h : SoundUp scripts floor At) {v : Versioned σ}
  {i n : ℕ}
include h

theorem SoundUp.upgradeOne (hv : Standing scripts floor At i v) (hi : i < scripts.length) :
    ∃ w, upgradeOne scripts v = some w ∧ Standing scripts floor At (i + 1) w := by
  obtain ⟨t, hupgrade, hAt⟩ := h.upgrade i hi v.store hv.above hv.store
  refine ⟨⟨versionAt scripts (i + 1), t⟩, ?_, Nat.le_succ_of_le hv.above, hi, rfl, hAt⟩
  rw [h.linear.upgradeOne_at hi hv.version, hupgrade, Option.map_some]

theorem SoundUp.repeated_upgradeOne (hv : Standing scripts floor At i v) (hn : i + n ≤ scripts.length) :
    ∃ w, repeated (Revisions.upgradeOne scripts) n v = some w ∧ Standing scripts floor At (i + n) w := by
  induction n generalizing i v with
  | zero => exact ⟨v, rfl, hv⟩
  | succ n ih =>
    obtain ⟨u, hu, hstanding⟩ := h.upgradeOne hv (by omega)
    obtain ⟨w, hw, hend⟩ := ih hstanding (by omega)
    refine ⟨w, ?_, (by omega : i + (n + 1) = i + 1 + n) ▸ hend⟩
    rw [repeated, hu]
    exact hw

/-- There is no revision after the last one. -/
theorem SoundUp.not_repeated_upgradeOne (hv : Standing scripts floor At i v) (hn : scripts.length < i + n) :
    repeated (Revisions.upgradeOne scripts) n v = none := by
  induction n generalizing i v with
  | zero => exact absurd hv.below (Nat.not_le_of_lt hn)
  | succ n ih =>
    rw [repeated]
    rcases Nat.lt_or_eq_of_le hv.below with hi | rfl
    · obtain ⟨u, hu, hstanding⟩ := h.upgradeOne hv hi
      rw [hu]
      exact ih hstanding (by omega)
    · rw [h.linear.not_upgradeOne hv.version, Option.bind_none]

/-- `upgrade head` takes every store to the last revision. -/
theorem SoundUp.execute_upgradeHead (hv : Standing scripts floor At i v) :
    ∃ w, execute scripts v .upgradeHead = some w ∧ Standing scripts floor At scripts.length w := by
  have hbounded : ∀ {bound i v}, Standing scripts floor At i v → scripts.length ≤ i + bound →
      ∃ w, repeatedUntil (isHead scripts) (Revisions.upgradeOne scripts) bound v = some w ∧
        Standing scripts floor At scripts.length w := by
    intro bound
    induction bound with
    | zero =>
      intro i v hv hbound
      obtain rfl : i = scripts.length := Nat.le_antisymm hv.below hbound
      exact ⟨v, rfl, hv⟩
    | succ bound ih =>
      intro i v hv hbound
      rw [repeatedUntil, h.linear.isHead_eq hv.below hv.version]
      rcases Nat.lt_or_eq_of_le hv.below with hi | rfl
      · obtain ⟨u, hu, hstanding⟩ := h.upgradeOne hv hi
        rw [decide_eq_false (Nat.ne_of_lt hi), hu]
        exact ih hstanding (by omega)
      · rw [decide_eq_true rfl]
        exact ⟨v, rfl, hv⟩
  exact hbounded hv (Nat.le_add_left _ _)

end Upgrades

section Downgrades
variable {scripts : List (Script σ)} {floor : ℕ} {At : ℕ → σ → Prop} (h : Sound scripts floor At) {v : Versioned σ}
  {i n : ℕ}
include h

theorem Sound.downgradeOne (hv : Standing scripts floor At (i + 1) v) (hi : floor ≤ i) :
    ∃ w, downgradeOne scripts v = some w ∧ Standing scripts floor At i w := by
  obtain ⟨t, hdowngrade, hAt⟩ := h.downgrade i hv.below v.store hi hv.store
  refine ⟨⟨versionAt scripts i, t⟩, ?_, hi, Nat.le_of_succ_le hv.below, rfl, hAt⟩
  rw [h.linear.downgradeOne_at hv.below hv.version, hdowngrade, Option.map_some]

theorem Sound.repeated_downgradeOne (hv : Standing scripts floor At (i + n) v) (hi : floor ≤ i) :
    ∃ w, repeated (Revisions.downgradeOne scripts) n v = some w ∧ Standing scripts floor At i w := by
  induction n generalizing v with
  | zero => exact ⟨v, rfl, hv⟩
  | succ n ih =>
    obtain ⟨u, hu, hstanding⟩ := h.downgradeOne hv (Nat.le_add_right_of_le hi)
    obtain ⟨w, hw, hend⟩ := ih hstanding
    refine ⟨w, ?_, hend⟩
    rw [repeated, hu]
    exact hw

end Downgrades

section Base
variable {scripts : List (Script σ)} {At : ℕ → σ → Prop} (h : Sound scripts 0 At) {v : Versioned σ} {i n : ℕ}
include h

/-- There is no revision before the first one. -/
theorem Sound.not_repeated_downgradeOne (hv : Standing scripts 0 At i v) (hn : i < n) :
    repeated (Revisions.downgradeOne scripts) n v = none := by
  induction n generalizing i v with
  | zero => exact absurd hn (Nat.not_lt_zero i)
  | succ n ih =>
    rw [repeated]
    cases i with
    | zero => rw [not_downgradeOne hv.version, Option.bind_none]
    | succ i =>
      obtain ⟨u, hu, hstanding⟩ := h.downgradeOne hv (Nat.zero_le i)
      rw [hu]
      exact ih hstanding (by omega)

theorem Sound.execute_downgradeBase (hv : Standing scripts 0 At i v) :
    ∃ w, execute scripts v .downgradeBase = some w ∧ Standing scripts 0 At 0 w := by
  have hbounded : ∀ {bound i v}, Standing scripts 0 At i v → i ≤ bound →
      ∃ w, repeatedUntil (fun v => v.version.isNone) (Revisions.downgradeOne scripts) bound v = some w ∧
        Standing scripts 0 At 0 w := by
    intro bound
    induction bound with
    | zero =>
      intro i v hv hbound
      obtain rfl := Nat.le_zero.mp hbound
      exact ⟨v, rfl, hv⟩
    | succ bound ih =>
      intro i v hv hbound
      rw [repeatedUntil, hv.version]
      cases i with
      | zero => exact ⟨v, rfl, hv⟩
      | succ i =>
        obtain ⟨u, hu, hstanding⟩ := h.downgradeOne hv (Nat.zero_le i)
        rw [versionAt_succ hv.below, hu]
        exact ih hstanding (by omega)
  exact hbounded hv hv.below

/-- A command over some revisions succeeds exactly if there are enough of them. -/
theorem Sound.execute_upgrade_iff (hv : Standing scripts 0 At i v) :
    (∃ w, execute scripts v (.upgrade n) = some w) ↔ 0 < n ∧ i + n ≤ scripts.length := by
  rw [execute, Nat.pos_iff_ne_zero]
  split
  case isTrue hzero => exact ⟨fun ⟨_, hw⟩ => (Option.some_ne_none _ hw.symm).elim, fun hn => absurd hzero hn.1⟩
  case isFalse hne =>
    constructor
    · rintro ⟨w, hw⟩
      refine ⟨hne, ?_⟩
      by_contra hn
      rw [h.not_repeated_upgradeOne hv (Nat.lt_of_not_le hn)] at hw
      cases hw
    · rintro ⟨-, hn⟩
      obtain ⟨w, hw, -⟩ := h.repeated_upgradeOne hv hn
      exact ⟨w, hw⟩

theorem Sound.execute_downgrade_iff (hv : Standing scripts 0 At i v) :
    (∃ w, execute scripts v (.downgrade n) = some w) ↔ 0 < n ∧ n ≤ i := by
  rw [execute, Nat.pos_iff_ne_zero]
  split
  case isTrue hzero => exact ⟨fun ⟨_, hw⟩ => (Option.some_ne_none _ hw.symm).elim, fun hn => absurd hzero hn.1⟩
  case isFalse hne =>
    constructor
    · rintro ⟨w, hw⟩
      refine ⟨hne, ?_⟩
      by_contra hn
      rw [h.not_repeated_downgradeOne hv (Nat.lt_of_not_le hn)] at hw
      cases hw
    · rintro ⟨-, hn⟩
      rw [← Nat.sub_add_cancel hn] at hv
      obtain ⟨w, hw, -⟩ := h.repeated_downgradeOne hv (Nat.zero_le _)
      exact ⟨w, hw⟩

end Base

/-! ## Runs -/

/-- What happens to a store. -/
inductive Event (σ : Type) where
  | command (c : Command)
  /-- The application writes. -/
  | write (store : σ)

/-- A command that fails leaves everything as it is. -/
def step (scripts : List (Script σ)) (v : Versioned σ) : Event σ → Option (Versioned σ)
  | .command c => some ((execute scripts v c).getD v)
  | .write store => some { v with store }

/-- The lowest revision on the way of a command from the revision `i`. -/
def Event.lowest (i : ℕ) : Event σ → ℕ
  | .command (.downgrade n) => i - n
  | .command .downgradeBase => 0
  | .command .upgradeHead | .command (.upgrade _) | .write _ => i

/-- The event does not go below the revision `floor`. -/
def Above (scripts : List (Script σ)) (floor : ℕ) (v : Versioned σ) (e : Event σ) : Prop :=
  ∀ i ≤ scripts.length, v.version = versionAt scripts i → floor ≤ e.lowest i

/-- What the application writes is as the revision says. -/
def Fitting (At : ℕ → σ → Prop) (v : Versioned σ) (e : Event σ) : Prop :=
  ∀ store, e = .write store → ∀ i, At i v.store → At i store

section Runs
variable {scripts : List (Script σ)} {floor : ℕ} {At : ℕ → σ → Prop} (h : Sound scripts floor At) {v w : Versioned σ}
  {e : Event σ} {es : List (Event σ)} {i : ℕ}
include h

theorem Sound.standing_of_step (hv : Standing scripts floor At i v) (habove : Above scripts floor v e)
    (hfitting : Fitting At v e) (hstep : step scripts v e = some w) : ∃ j, Standing scripts floor At j w := by
  have hlowest : floor ≤ e.lowest i := habove i hv.below hv.version
  cases e with
  | write store =>
    cases hstep
    exact ⟨i, hv.above, hv.below, hv.version, hfitting store rfl i hv.store⟩
  | command c =>
    cases hstep
    cases c with
    | upgradeHead =>
      obtain ⟨w, hw, hstanding⟩ := h.execute_upgradeHead hv
      rw [hw]
      exact ⟨_, hstanding⟩
    | upgrade n =>
      rw [execute]
      split
      case isTrue => exact ⟨i, hv⟩
      case isFalse =>
        rcases Nat.lt_or_ge scripts.length (i + n) with hn | hn
        · rw [h.not_repeated_upgradeOne hv hn]
          exact ⟨i, hv⟩
        · obtain ⟨w, hw, hstanding⟩ := h.repeated_upgradeOne hv hn
          rw [hw]
          exact ⟨_, hstanding⟩
    | downgrade n =>
      rw [execute]
      split
      case isTrue => exact ⟨i, hv⟩
      case isFalse =>
        rcases Nat.lt_or_ge i n with hn | hn
        · obtain rfl : floor = 0 := Nat.le_zero.mp (Nat.sub_eq_zero_of_le (Nat.le_of_lt hn) ▸ hlowest)
          rw [h.not_repeated_downgradeOne hv hn]
          exact ⟨i, hv⟩
        · rw [← Nat.sub_add_cancel hn] at hv
          obtain ⟨w, hw, hstanding⟩ := h.repeated_downgradeOne hv hlowest
          rw [hw]
          exact ⟨_, hstanding⟩
    | downgradeBase =>
      obtain rfl : floor = 0 := Nat.le_zero.mp hlowest
      obtain ⟨w, hw, hstanding⟩ := h.execute_downgradeBase hv
      rw [hw]
      exact ⟨_, hstanding⟩

/-- In a run that stays above the floor, the store is in every revision as this revision says. -/
theorem Sound.standing_of_run (hv : Standing scripts floor At i v)
    (habove : Run.Meets (step scripts) (fun v e => Above scripts floor v e ∧ Fitting At v e) v es)
    (hrun : Run.run (step scripts) v es = some w) : ∃ j, Standing scripts floor At j w :=
  Run.invariant_of_meets (I := fun v => ∃ i, Standing scripts floor At i v)
    (fun ⟨_, hv⟩ hok hstep => h.standing_of_step hv hok.1 hok.2 hstep) ⟨i, hv⟩ habove hrun

end Runs
end SmartHome.Revisions
