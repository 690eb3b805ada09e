/-! # Running effects

Operations on workspaces, worlds and scenes may fail and keep a state either way. These lemmas run
them step by step.
-/

namespace ReplyScript.Effect

variable {ε σ α β : Type}

@[simp]
theorem run_bind (x : ExceptT ε (StateM σ) α) (f : α → ExceptT ε (StateM σ) β) (s : σ) :
    (x >>= f).run.run s = match x.run.run s with
      | (.ok a, s) => (f a).run.run s
      | (.error e, s) => (.error e, s) := by
  change ExceptT.bindCont f (x.run.run s).1 (x.run.run s).2 = _
  rcases x.run.run s with ⟨e | a, s⟩ <;> rfl

@[simp]
theorem run_pure (a : α) (s : σ) :
    (pure a : ExceptT ε (StateM σ) α).run.run s = (.ok a, s) :=
  rfl

@[simp]
theorem run_get (s : σ) : (get : ExceptT ε (StateM σ) σ).run.run s = (.ok s, s) :=
  rfl

@[simp]
theorem run_set (s t : σ) : (set t : ExceptT ε (StateM σ) PUnit).run.run s = (.ok ⟨⟩, t) :=
  rfl

@[simp]
theorem run_modify (f : σ → σ) (s : σ) :
    (modify f : ExceptT ε (StateM σ) PUnit).run.run s = (.ok ⟨⟩, f s) :=
  rfl

variable {x : ExceptT ε (StateM σ) α} {f : α → ExceptT ε (StateM σ) β} {s t : σ}

theorem bind_completed {b : β} (completed : (x >>= f).run.run s = (.ok b, t)) :
    ∃ a u, x.run.run s = (.ok a, u) ∧ (f a).run.run u = (.ok b, t) := by
  rw [run_bind] at completed
  rcases ran : x.run.run s with ⟨e | a, u⟩
  · rw [ran] at completed
    cases completed
  · rw [ran] at completed
    exact ⟨a, u, rfl, completed⟩

theorem completes_bind {a : α} {b : β} (first : x.run.run s = (.ok a, t))
    (rest : ((f a).run.run t).1 = .ok b) : ((x >>= f).run.run s).1 = .ok b := by
  rw [run_bind, first]
  exact rest

theorem bind_failed {e : ε} (failed : (x >>= f).run.run s = (.error e, t)) :
    x.run.run s = (.error e, t) ∨
      ∃ a u, x.run.run s = (.ok a, u) ∧ (f a).run.run u = (.error e, t) := by
  rw [run_bind] at failed
  rcases ran : x.run.run s with ⟨early | a, u⟩
  · rw [ran] at failed
    cases failed
    exact .inl rfl
  · rw [ran] at failed
    exact .inr ⟨a, u, rfl, failed⟩

end ReplyScript.Effect
