import Mathlib.Data.List.Infix

/-! # Cutting a text at a separator

The parts of a list before and after the first or the last place of a separator. -/

namespace SmartHome

section Cut
variable {α : Type} {sep x y cs : List α}

/-- The first element of a separator is not in its rest: two of its places never overlap. -/
def Unbordered : List α → Prop
  | [] => False
  | s :: rest => s ∉ rest

/-- A place of an unbordered separator in front of another is over before that begins. -/
theorem prefix_of_prefix_append (hsep : Unbordered sep) (hx : x ≠ []) (h : sep <+: x ++ (sep ++ y)) : sep <+: x := by
  rcases List.prefix_or_prefix_of_prefix h (List.prefix_append x _) with hinside | ⟨t, ht⟩
  · exact hinside
  · -- The place goes on into the separator behind `x`, and begins there as that does.
    rw [← ht] at h ⊢
    obtain _ | ⟨a, t⟩ := t
    · rw [List.append_nil]
    · obtain ⟨c, x, rfl⟩ := List.exists_cons_of_ne_nil hx
      have hstart : a :: t <+: c :: x ++ a :: t ++ y := (List.prefix_append_right_inj _).mp h
      obtain ⟨hhead, -⟩ := List.cons_prefix_cons.mp hstart
      rw [← ht] at hsep
      exact absurd (List.mem_append_right x (hhead ▸ List.mem_cons_self ..)) hsep

variable [DecidableEq α]

/-- The parts before and after the first separator. -/
def cutFirst (sep : List α) : List α → Option (List α × List α)
  | [] => if sep = [] then some ([], []) else none
  | c :: cs =>
    if sep <+: c :: cs then some ([], (c :: cs).drop sep.length)
    else (cutFirst sep cs).map fun parts => (c :: parts.1, parts.2)

/-- The parts before and after the last separator. -/
def cutLast (sep cs : List α) : Option (List α × List α) :=
  (cutFirst sep.reverse cs.reverse).map fun parts => (parts.2.reverse, parts.1.reverse)

theorem cutFirst_eq_some (h : cutFirst sep cs = some (x, y)) : cs = x ++ sep ++ y := by
  induction cs generalizing x with
  | nil =>
    rw [cutFirst] at h
    split at h
    · next hnil =>
      cases h
      rw [hnil]
      rfl
    · cases h
  | cons c cs ih =>
    rw [cutFirst] at h
    split at h
    · next hhere =>
      cases h
      rw [List.nil_append]
      exact List.prefix_append_drop hhere
    · obtain ⟨⟨x', y'⟩, hrest, hparts⟩ := Option.map_eq_some_iff.mp h
      cases hparts
      rw [ih hrest]
      rfl

/-- The separator is not in the part before its first place. -/
theorem not_infix_of_cutFirst (hsep : sep ≠ []) (h : cutFirst sep cs = some (x, y)) : ¬ sep <:+: x := by
  induction cs generalizing x with
  | nil =>
    rw [cutFirst, if_neg hsep] at h
    cases h
  | cons c cs ih =>
    rw [cutFirst] at h
    split at h
    · cases h
      exact fun hinfix => hsep (List.infix_nil.mp hinfix)
    · next hhere =>
      obtain ⟨⟨x', y'⟩, hrest, hparts⟩ := Option.map_eq_some_iff.mp h
      cases hparts
      intro hinfix
      rcases List.infix_cons_iff.mp hinfix with hstart | hlater
      · apply hhere
        rw [cutFirst_eq_some hrest, List.append_assoc, ← List.cons_append]
        exact hstart.trans (List.prefix_append _ _)
      · exact ih hrest hlater

/-- A place of an unbordered separator before which it does not stand is its first. -/
theorem cutFirst_append (hsep : Unbordered sep) (hx : ¬ sep <:+: x) : cutFirst sep (x ++ sep ++ y) = some (x, y) := by
  induction x with
  | nil =>
    obtain _ | ⟨s, rest⟩ := sep
    · exact hsep.elim
    · have hhere : s :: rest <+: s :: (rest ++ y) := List.prefix_append (s :: rest) y
      rw [List.nil_append, List.cons_append, cutFirst, if_pos hhere, ← List.cons_append, List.drop_left]
  | cons c x ih =>
    have hlater : ¬ sep <:+: x := fun h => hx (List.infix_cons h)
    have hhere : ¬ sep <+: c :: (x ++ sep ++ y) := by
      intro hplace
      rw [List.append_assoc] at hplace
      exact hx (prefix_of_prefix_append hsep (List.cons_ne_nil c x) hplace).isInfix
    rw [List.cons_append, List.cons_append, cutFirst, if_neg hhere, ih hlater]
    rfl

theorem cutFirst_eq_none (hsep : sep ≠ []) : cutFirst sep cs = none ↔ ¬ sep <:+: cs := by
  induction cs with
  | nil => simp [cutFirst, hsep]
  | cons c cs ih =>
    rw [cutFirst, List.infix_cons_iff, not_or]
    split
    · next hhere => simp [hhere]
    · next hhere => rw [Option.map_eq_none_iff, ih, and_iff_right hhere]

/-! ## The last place -/

theorem cutLast_eq_some (h : cutLast sep cs = some (x, y)) : cs = x ++ sep ++ y := by
  obtain ⟨⟨x', y'⟩, hcut, hparts⟩ := Option.map_eq_some_iff.mp h
  cases hparts
  have hreverse := congrArg List.reverse (cutFirst_eq_some hcut)
  simpa using hreverse

/-- The separator is not in the part behind its last place. -/
theorem not_infix_of_cutLast (hsep : sep ≠ []) (h : cutLast sep cs = some (x, y)) : ¬ sep <:+: y := by
  obtain ⟨⟨x', y'⟩, hcut, hparts⟩ := Option.map_eq_some_iff.mp h
  cases hparts
  have hfirst := not_infix_of_cutFirst (by simpa using hsep) hcut
  rw [← List.reverse_infix, List.reverse_reverse]
  exact hfirst

theorem cutLast_append (hsep : Unbordered sep.reverse) (hy : ¬ sep <:+: y) :
    cutLast sep (x ++ sep ++ y) = some (x, y) := by
  have hfirst : ¬ sep.reverse <:+: y.reverse := by rwa [ List.reverse_infix]
  rw [cutLast, List.reverse_append, List.reverse_append, ← List.append_assoc, cutFirst_append hsep hfirst]
  simp

end Cut

end SmartHome
