import ReplyScript.Proofs.Workspace.Operations
import ReplyScript.Session.Perform

/-! # Steps of actions

What each step that actions are made of comes to.
-/

namespace ReplyScript

open Edit (Range)
open Effect

theorem run_insertionWindow_state (d : Document) (line : Nat) (text : String) (w : Workspace) :
    ((insertionWindow d line text).run.run w).2 = w := by
  unfold insertionWindow
  simp only [run_bind, run_get, Document.run_lineText]
  split
  · rename_i last u found
    split at found
    · cases found
      rw [Document.run_textIn]
      split <;> rfl
    · cases found
  · rename_i e u missing
    split at missing
    · cases missing
    · cases missing
      rfl

namespace Scene

variable (s : Scene)

theorem run_activate (d : Document) :
    (activate d).run.run s = (.ok (), { s with session := { s.session with active := some d } }) :=
  rfl

theorem run_attempt (op : WorldM α) :
    (attempt op).run.run s
      = (.ok (op.run.run s.world).1, { s with world := (op.run.run s.world).2 }) :=
  rfl

theorem run_demand (i : Instruction) (op : WorldM α) :
    (demand i op).run.run s = match op.run.run s.world with
      | (.ok a, world) => (.ok a, { s with world })
      | (.error f, world) => (.error (.failed i.name f), { s with world }) := by
  unfold demand
  simp only [run_bind, run_attempt]
  rcases op.run.run s.world with ⟨f | a, world⟩ <;> rfl

theorem run_probe (i : Instruction) (op : WorldM α) :
    (probe i op).run.run s = match op.run.run s.world with
      | (.ok a, world) => (.ok (.ok a), { s with world })
      | (.error f, world) => (if f.isInternal then .error (.failed i.name f)
          else .ok (.error f.message), { s with world }) := by
  unfold probe
  simp only [run_bind, run_attempt]
  rcases op.run.run s.world with ⟨f | a, world⟩
  · simp only
    split <;> rfl
  · rfl

theorem run_confirm (command : String) :
    (confirm command).run.run s
      = (.ok (s.world.confirm command).1, { s with world := (s.world.confirm command).2 }) :=
  rfl

theorem run_activeDocument (i : Instruction) :
    (activeDocument i).run.run s = match s.session.active with
      | some d => (.ok d, s)
      | none => (.error (.noActiveDocument i.name), s) := by
  unfold activeDocument
  simp only [run_bind, run_get]
  cases s.session.active <;> rfl

section

variable {s t : Scene} {α : Type} {op : WorldM α} {i : Instruction}

theorem demand_completed {a : α} (ran : (demand i op).run.run s = (.ok a, t)) :
    ∃ world, op.run.run s.world = (.ok a, world) ∧ t = { s with world } := by
  rw [run_demand] at ran
  rcases done : op.run.run s.world with ⟨f | b, world⟩
  · rw [done] at ran
    cases ran
  · rw [done] at ran
    cases ran
    exact ⟨world, rfl, rfl⟩

theorem demand_failed {e : CommandError} (ran : (demand i op).run.run s = (.error e, t)) :
    ∃ f world, op.run.run s.world = (.error f, world) ∧ t = { s with world }
      ∧ e = .failed i.name f := by
  rw [run_demand] at ran
  rcases done : op.run.run s.world with ⟨f | b, world⟩
  · rw [done] at ran
    cases ran
    exact ⟨f, world, rfl, rfl, rfl⟩
  · rw [done] at ran
    cases ran

theorem demand_of_completed {op : WorldM α} {a : α} {world : World}
    (ran : op.run.run s.world = (.ok a, world)) :
    (demand i op).run.run s = (.ok a, { s with world }) := by
  rw [run_demand, ran]

theorem workspace_demand (op : WorldM α) :
    ((demand i op).run.run s).2.world.workspace = (op.run.run s.world).2.workspace := by
  rw [run_demand]
  rcases op.run.run s.world with ⟨fault | a, world⟩ <;> rfl

theorem workspace_probe (op : WorldM α) :
    ((probe i op).run.run s).2.world.workspace = (op.run.run s.world).2.workspace := by
  rw [run_probe]
  rcases op.run.run s.world with ⟨fault | a, world⟩ <;> rfl

theorem activate_completed {d : Document} {done : Unit}
    (ran : (activate d).run.run s = (.ok done, t)) :
    t.world = s.world ∧ t.session.active = some d := by
  cases ran
  exact ⟨rfl, rfl⟩

theorem activeDocument_completed {d : Document}
    (ran : (activeDocument i).run.run s = (.ok d, t)) : s.session.active = some d ∧ t = s := by
  rw [run_activeDocument] at ran
  cases active : s.session.active with
  | none =>
      rw [active] at ran
      cases ran
  | some d =>
      rw [active] at ran
      cases ran
      exact ⟨rfl, rfl⟩

theorem activeDocument_failed {e : CommandError}
    (ran : (activeDocument i).run.run s = (.error e, t)) :
    s.session.active = none ∧ t = s ∧ e = .noActiveDocument i.name := by
  rw [run_activeDocument] at ran
  cases active : s.session.active with
  | none =>
      rw [active] at ran
      cases ran
      exact ⟨rfl, rfl, rfl⟩
  | some d =>
      rw [active] at ran
      cases ran

end

end Scene

/-! ## Steps that do not touch the session -/

open Scene

/-- The operation does not touch the session. -/
def Quiet (op : SceneM α) : Prop :=
  ∀ s, (op.run.run s).2.session = s.session

variable {α β : Type} {x : SceneM α} {f : α → SceneM β}

theorem Quiet.bind (first : Quiet x) (rest : ∀ a, Quiet (f a)) : Quiet (x >>= f) := by
  intro s
  have same := first s
  rw [run_bind]
  rcases ran : x.run.run s with ⟨e | a, t⟩
  · rw [ran] at same
    exact same
  · rw [ran] at same
    exact (rest a t).trans same

theorem quiet_attempt (op : WorldM α) : Quiet (attempt op) :=
  fun _ => rfl

theorem quiet_demand (i : Instruction) (op : WorldM α) : Quiet (demand i op) := by
  intro s
  rw [run_demand]
  rcases op.run.run s.world with ⟨f | a, world⟩ <;> rfl

theorem quiet_probe (i : Instruction) (op : WorldM α) : Quiet (probe i op) := by
  intro s
  rw [run_probe]
  rcases op.run.run s.world with ⟨f | a, world⟩ <;> rfl

theorem quiet_activeDocument (i : Instruction) : Quiet (activeDocument i) := by
  intro s
  rw [run_activeDocument]
  cases s.session.active <;> rfl

theorem quiet_confirm (command : String) : Quiet (confirm command) :=
  fun _ => rfl

theorem quiet_copyRange (i : Instruction) (path : String) (range : Range) :
    Quiet (copyRange i path range) := by
  refine (quiet_demand _ _).bind ?_
  intro d
  refine (quiet_demand _ _).bind ?_
  intro text
  refine (quiet_demand _ _).bind ?_
  intro done s
  rfl

theorem quiet_openForInput (path : String) : Quiet (openForInput path) := by
  refine (quiet_attempt _).bind ?_
  intro result
  cases result with
  | ok d => exact fun _ => rfl
  | error f =>
      cases f with
      | notFound missing =>
          refine (quiet_demand _ _).bind ?_
          intro done
          exact quiet_demand _ _
      | _ => exact fun _ => rfl

end ReplyScript
