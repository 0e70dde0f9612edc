import SmartHome.Lib.Eff

/-! # Watched programs

The same program over a larger state, which keeps a log beside what the plain one works on. It returns and raises what
the plain one does and leaves the same state behind, whatever it appends to the log. The rules say what it appends. -/

namespace SmartHome.Eff
variable {σ τ ε α β ω : Type} {view : τ → σ} {log : τ → List ω} {ok : ω → Prop}

/-- From `t`, the watched program does what the plain one does, and logs nothing but what is `ok`. -/
structure Watched (view : τ → σ) (log : τ → List ω) (ok : ω → Prop) (watched : Eff τ ε α) (plain : Eff σ ε α) (t : τ) :
    Prop where
  result : (watched t).1 = (plain (view t)).1
  state : view (watched t).2 = (plain (view t)).2
  logged : ∃ more, log (watched t).2 = log t ++ more ∧ ∀ entry ∈ more, ok entry

namespace Watched
variable {watched : Eff τ ε α} {plain : Eff σ ε α} {t : τ}

/-- A step that does not log. -/
theorem of_silent (hresult : (watched t).1 = (plain (view t)).1) (hstate : view (watched t).2 = (plain (view t)).2)
    (hlog : log (watched t).2 = log t) : Watched view log ok watched plain t :=
  ⟨hresult, hstate, [], by rw [hlog, List.append_nil], List.forall_mem_nil _⟩

theorem pure (a : α) : Watched view log ok (Pure.pure a : Eff τ ε α) (Pure.pure a) t := of_silent rfl rfl rfl

theorem raise (e : ε) : Watched view log ok (Eff.raise e : Eff τ ε α) (Eff.raise e) t := of_silent rfl rfl rfl

theorem gets {f : σ → α} {g : τ → α} (hread : g t = f (view t)) :
    Watched view log ok (Eff.gets g : Eff τ ε α) (Eff.gets f) t :=
  of_silent (congrArg Except.ok hread) rfl rfl

theorem modify {f : σ → σ} {g : τ → τ} (hwrite : view (g t) = f (view t)) (hlog : log (g t) = log t) :
    Watched view log ok (Eff.modify g : Eff τ ε Unit) (Eff.modify f) t :=
  of_silent rfl hwrite hlog

/-- The second program starts where the first one has ended. -/
theorem bind {f : α → Eff σ ε β} {g : α → Eff τ ε β} (hm : Watched view log ok watched plain t)
    (hf : ∀ a u, watched t = (.ok a, u) → Watched view log ok (g a) (f a) u) :
    Watched view log ok (watched >>= g) (plain >>= f) t := by
  obtain ⟨hresult, hstate, more, hlog, hok⟩ := hm
  rcases hw : watched t with ⟨e | a, u⟩ <;> rw [hw] at hresult hstate hlog
  · have hplain : plain (view t) = (.error e, view u) := Prod.ext hresult.symm hstate.symm
    refine ⟨?_, ?_, more, ?_, hok⟩
    · rw [bind_of_error hw, bind_of_error hplain]
    · rw [bind_of_error hw, bind_of_error hplain]
    · rw [bind_of_error hw]
      exact hlog
  · have hplain : plain (view t) = (.ok a, view u) := Prod.ext hresult.symm hstate.symm
    obtain ⟨hresult', hstate', more', hlog', hok'⟩ := hf a u hw
    refine ⟨?_, ?_, more ++ more', ?_, List.forall_mem_append.mpr ⟨hok, hok'⟩⟩
    · rw [bind_of_ok hw, bind_of_ok hplain, hresult']
    · rw [bind_of_ok hw, bind_of_ok hplain, hstate']
    · rw [bind_of_ok hw, hlog', hlog, List.append_assoc]

theorem attempt_pure (a : α) (hm : Watched view log ok watched plain t) :
    Watched view log ok (watched.attempt fun _ => Pure.pure a) (plain.attempt fun _ => Pure.pure a) t := by
  obtain ⟨hresult, hstate, hlogged⟩ := hm
  refine ⟨?_, ?_, ?_⟩
  · rw [attempt_pure_run, attempt_pure_run, hresult]
  · rw [attempt_pure_state, attempt_pure_state, hstate]
  · rw [attempt_pure_state]
    exact hlogged

/-- A program on a part of the state, which has the log in it. -/
theorem zoom {σ' τ' : Type} {view' : τ' → σ'} {log' : τ' → List ω} {watched : Eff τ' ε α} {plain : Eff σ' ε α}
    {part : σ → σ'} {put : σ' → σ → σ} {part' : τ → τ'} {put' : τ' → τ → τ}
    (hpart : part (view t) = view' (part' t)) (hput : ∀ s, view (put' s t) = put (view' s) (view t))
    (hlog : log t = log' (part' t)) (hputLog : ∀ s, log (put' s t) = log' s)
    (hm : Watched view' log' ok watched plain (part' t)) :
    Watched view log ok (Eff.zoom part' put' watched) (Eff.zoom part put plain) t := by
  obtain ⟨hresult, hstate, hlogged⟩ := hm
  refine ⟨?_, ?_, ?_⟩
  · rw [Eff.zoom, Eff.zoom, hresult, hpart]
  · rw [Eff.zoom, Eff.zoom, hput, hstate, hpart]
  · rw [Eff.zoom, hputLog, hlog]
    exact hlogged

/-- A program on a part of the state, which stays as it is. -/
theorem zoom_same {σ' : Type} {m : Eff σ' ε α} {part : σ → σ'} {put : σ' → σ → σ} {part' : τ → σ'} {put' : σ' → τ → τ}
    (hpart : part (view t) = part' t) (hput : ∀ s, view (put' s t) = put s (view t))
    (hlog : ∀ s, log (put' s t) = log t) :
    Watched view log ok (Eff.zoom part' put' m) (Eff.zoom part put m) t := by
  refine of_silent ?_ ?_ (hlog _)
  · rw [Eff.zoom, Eff.zoom, hpart]
  · rw [Eff.zoom, Eff.zoom, hput, hpart]

end Watched
end SmartHome.Eff
