import Mathlib.Order.Lattice
import Mathlib.Data.List.Basic

/-! # Pages of a growing table

A query lists rows by descending keys, and a reader gets it in pages. The keys are distinct, so that a row stands where
the number of greater keys says; rows that are added move it to later pages only. What a reader has not seen then stands
behind the pages that were read. -/

namespace SmartHome.Paging
variable {α κ : Type} [LinearOrder κ] {key : α → κ} {rows rows' first s : List α}

/-- How many rows have a greater key. -/
def rank (key : α → κ) (rows : List α) (a : α) : ℕ := rows.countP fun b => decide (key a < key b)

theorem rank_perm (h : rows.Perm rows') (a : α) : rank key rows a = rank key rows' a := h.countP_eq _

theorem rank_le_of_sublist (h : rows.Sublist rows') (a : α) : rank key rows a ≤ rank key rows' a := h.countP_le

theorem rank_lt_length (key : α → κ) {a : α} (h : a ∈ rows) : rank key rows a < rows.length :=
  Nat.lt_of_le_of_ne List.countP_le_length fun hall => by
    have habove : decide (key a < key a) = true := List.countP_eq_length.mp hall a h
    exact lt_irrefl _ (of_decide_eq_true habove)

/-- The rows by descending keys. -/
structure Listing (key : α → κ) (rows s : List α) : Prop where
  perm : s.Perm rows
  descending : s.Pairwise fun a b => key b < key a

theorem rank_getElem (h : s.Pairwise fun a b => key b < key a) {i : ℕ} (hi : i < s.length) : rank key s s[i] = i := by
  induction s generalizing i with
  | nil => exact absurd hi (Nat.not_lt_zero i)
  | cons a s ih =>
    obtain ⟨hhead, htail⟩ := List.pairwise_cons.mp h
    cases i with
    | zero =>
      refine List.countP_eq_zero.mpr fun b hb => ?_
      rcases List.mem_cons.mp hb with rfl | hmem
      · simp
      · simpa using le_of_lt (hhead b hmem)
    | succ i =>
      have hlt : i < s.length := Nat.lt_of_succ_lt_succ hi
      have habove : key s[i] < key a := hhead _ (List.getElem_mem hlt)
      rw [List.getElem_cons_succ, rank, List.countP_cons_of_pos (by simpa using habove)]
      exact congrArg (· + 1) (ih htail hlt)

theorem Listing.mem_page (h : Listing key rows s) {a : α} {offset limit : ℕ} :
    a ∈ (s.drop offset).take limit ↔ a ∈ rows ∧ offset ≤ rank key rows a ∧ rank key rows a < offset + limit := by
  rw [← h.perm.mem_iff, ← rank_perm h.perm]
  constructor
  · intro hmem
    obtain ⟨i, hi, rfl⟩ := List.mem_iff_getElem.mp hmem
    rw [List.length_take, List.length_drop] at hi
    rw [List.getElem_take, List.getElem_drop, rank_getElem h.descending]
    exact ⟨List.getElem_mem _, by omega, by omega⟩
  · rintro ⟨hmem, hfrom, hto⟩
    obtain ⟨i, hi, rfl⟩ := List.mem_iff_getElem.mp hmem
    rw [rank_getElem h.descending hi] at hfrom hto
    refine List.mem_iff_getElem.mpr ⟨i - offset, ?_, ?_⟩
    · rw [List.length_take, List.length_drop]
      omega
    · rw [List.getElem_take, List.getElem_drop]
      congr 1
      omega

/-! ## Readers -/

/-- One of the pages shows it. -/
def Seen (pages : List (List α)) (a : α) : Prop := ∃ page ∈ pages, a ∈ page

theorem Seen.append {pages : List (List α)} {a : α} (h : Seen pages a) (page : List α) : Seen (pages ++ [page]) a := by
  obtain ⟨old, hold, ha⟩ := h
  exact ⟨old, List.mem_append_left _ hold, ha⟩

/-- Of the first rows, those on none of the pages stand behind the frontier; behind a page that is not full stands none. -/
structure Tracks (key : α → κ) (first rows : List α) (limit : ℕ) (pages : List (List α)) (frontier : ℕ) : Prop where
  past : ∀ a ∈ first, Seen pages a ∨ frontier ≤ rank key rows a
  short : ∀ page ∈ pages, page.length < limit → ∀ a ∈ first, Seen pages a

theorem Tracks.start {limit : ℕ} : Tracks key first rows limit [] 0 :=
  ⟨fun _ _ => .inr (Nat.zero_le _), fun _ hpage => absurd hpage List.not_mem_nil⟩

theorem Tracks.grow {limit frontier : ℕ} {pages : List (List α)} (h : Tracks key first rows limit pages frontier)
    (hrows : rows.Sublist rows') : Tracks key first rows' limit pages frontier :=
  ⟨fun a ha => (h.past a ha).imp_right fun hrank => Nat.le_trans hrank (rank_le_of_sublist hrows a), h.short⟩

/-- A page that is read from the frontier, or from before it, moves the frontier behind the page. -/
theorem Tracks.read {limit frontier offset : ℕ} {pages : List (List α)} (h : Tracks key first rows limit pages frontier)
    (hfirst : ∀ a ∈ first, a ∈ rows) (hlisting : Listing key rows s) (hoffset : offset ≤ frontier) :
    Tracks key first rows limit (pages ++ [(s.drop offset).take limit]) (max frontier (offset + limit)) := by
  have hpast : ∀ a ∈ first, Seen (pages ++ [(s.drop offset).take limit]) a ∨
      max frontier (offset + limit) ≤ rank key rows a := by
    intro a ha
    rcases h.past a ha with hold | hrank
    · exact .inl (hold.append _)
    · by_cases hlt : rank key rows a < offset + limit
      · have hpage := hlisting.mem_page.mpr ⟨hfirst a ha, Nat.le_trans hoffset hrank, hlt⟩
        exact .inl ⟨_, List.mem_append_right _ (List.mem_singleton_self _), hpage⟩
      · exact .inr (by omega)
  refine ⟨hpast, fun page hpage hlength a ha => ?_⟩
  rcases List.mem_append.mp hpage with hold | hlast
  · exact (h.short page hold hlength a ha).append _
  · -- The page ends where the rows end.
    refine (hpast a ha).resolve_right fun hrank => ?_
    have hlt := rank_lt_length key (hfirst a ha)
    rw [List.mem_singleton.mp hlast, List.length_take, List.length_drop, hlisting.perm.length_eq] at hlength
    omega

end SmartHome.Paging
