import Mathlib.Data.List.Nodup

/-! # Keyed tables and references between them

A table is a list of rows. Its keys are unique, and its rows refer to rows of another table by their keys. An
insertion, an update that keeps the keys and a deletion keep both; a deletion takes the rows that refer to the deleted
one with it. -/

namespace SmartHome.Keyed
variable {ρ τ κ : Type}

/-- No two rows have the same key. -/
def Unique (key : ρ → κ) (rows : List ρ) : Prop := (rows.map key).Nodup

namespace Unique
variable {key : ρ → κ} {rows : List ρ}

theorem insert (h : Unique key rows) {row : ρ} (hnew : ∀ other ∈ rows, key other ≠ key row) :
    Unique key (rows ++ [row]) := by
  unfold Unique
  rw [List.map_append, List.map_singleton]
  refine List.nodup_append.mpr ⟨h, List.nodup_singleton _, fun a ha b hb => ?_⟩
  obtain ⟨other, hother, rfl⟩ := List.mem_map.mp ha
  rw [List.mem_singleton.mp hb]
  exact hnew other hother

theorem update (h : Unique key rows) {f : ρ → ρ} (hkey : ∀ row, key (f row) = key row) : Unique key (rows.map f) := by
  have hkeys : key ∘ f = key := funext hkey
  unfold Unique
  rw [List.map_map, hkeys]
  exact h

theorem delete (h : Unique key rows) (p : ρ → Bool) : Unique key (rows.filter p) :=
  List.Nodup.sublist (List.Sublist.map key List.filter_sublist) h

end Unique

/-- Each row refers to a row of `targets`. -/
def Refers (field : ρ → κ) (rows : List ρ) (key : τ → κ) (targets : List τ) : Prop :=
  ∀ row ∈ rows, ∃ target ∈ targets, key target = field row

namespace Refers
variable {field : ρ → κ} {rows : List ρ} {key : τ → κ} {targets targets' : List τ}

/-- The targets may change as long as none of their keys is lost. -/
theorem retarget (h : Refers field rows key targets)
    (hkept : ∀ target ∈ targets, ∃ target' ∈ targets', key target' = key target) : Refers field rows key targets' := by
  intro row hrow
  obtain ⟨target, htarget, heq⟩ := h row hrow
  obtain ⟨target', htarget', heq'⟩ := hkept target htarget
  exact ⟨target', htarget', heq'.trans heq⟩

theorem insert (h : Refers field rows key targets) {row : ρ} (hrow : ∃ target ∈ targets, key target = field row) :
    Refers field (rows ++ [row]) key targets := by
  intro other hother
  rcases List.mem_append.mp hother with hother | hother
  · exact h other hother
  · rw [List.mem_singleton.mp hother]
    exact hrow

theorem delete (h : Refers field rows key targets) (p : ρ → Bool) : Refers field (rows.filter p) key targets :=
  fun row hrow => h row (List.mem_filter.mp hrow).1

theorem insertTarget (h : Refers field rows key targets) (target : τ) : Refers field rows key (targets ++ [target]) :=
  h.retarget fun other hother => ⟨other, List.mem_append_left _ hother, rfl⟩

theorem updateTargets (h : Refers field rows key targets) {f : τ → τ} (hkey : ∀ target, key (f target) = key target) :
    Refers field rows key (targets.map f) :=
  h.retarget fun target htarget => ⟨f target, List.mem_map_of_mem htarget, hkey target⟩

/-- The rows that refer to a deleted target go with it. -/
theorem cascade [BEq κ] [LawfulBEq κ] (h : Refers field rows key targets) (k : κ) :
    Refers field (rows.filter fun row => field row != k) key (targets.filter fun target => key target != k) := by
  intro row hrow
  obtain ⟨hrow, hfield⟩ := List.mem_filter.mp hrow
  obtain ⟨target, htarget, heq⟩ := h row hrow
  refine ⟨target, List.mem_filter.mpr ⟨htarget, ?_⟩, heq⟩
  rw [heq]
  exact hfield

end Refers
end SmartHome.Keyed
