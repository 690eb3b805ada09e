import ReplyScript.Proofs.World.Operations

/-! # Faults that were reported

Services report faults as they are called. An operation of a setting keeps the setting's invariant,
and it fails with an internal fault exactly if a service has reported it; main statement:
`Setting.Allows.bind`, this holds of two operations in turn if it holds of each.
-/

namespace ReplyScript

open Effect

namespace World

variable {w u v : World} {fault : Fault}

/-- The world comes after an earlier one: of the faults to come, some may have been used up. -/
def Later (w earlier : World) : Prop :=
  ∀ service, w.faults service <:+ earlier.faults service

/-- A service has reported the fault from an earlier world to a later one. -/
def Reported (earlier w : World) (fault : Fault) : Prop :=
  ∃ service used, earlier.faults service = used ++ w.faults service ∧ some fault ∈ used

theorem Later.refl (w : World) : w.Later w :=
  fun _ => List.suffix_rfl

theorem Later.trans (late : v.Later u) (early : u.Later w) : v.Later w :=
  fun service => (late service).trans (early service)

theorem Later.of_faults (same : u.faults = w.faults) : u.Later w := by
  unfold Later
  simp only [same, List.suffix_rfl, implies_true]

theorem not_reported_of_faults (same : u.faults = w.faults) : ¬ w.Reported u fault := by
  rintro ⟨service, used, split, reported⟩
  rw [same, List.self_eq_append_left] at split
  rw [split] at reported
  cases reported

theorem reported_trans (late : v.Later u) (early : u.Later w) :
    w.Reported v fault ↔ w.Reported u fault ∨ u.Reported v fault := by
  constructor
  · rintro ⟨service, used, split, reported⟩
    -- What was used up on the whole way was used up before the point, or after it.
    obtain ⟨first, parts⟩ := early service
    obtain ⟨second, later⟩ := late service
    have same : used = first ++ second := by
      rw [← parts, ← later, ← List.append_assoc] at split
      exact (List.append_cancel_right split).symm
    rw [same] at reported
    rcases List.mem_append.mp reported with now | then_
    · exact .inl ⟨service, first, parts.symm, now⟩
    · exact .inr ⟨service, second, later.symm, then_⟩
  · rintro (⟨service, used, split, reported⟩ | ⟨service, used, split, reported⟩)
    · obtain ⟨second, later⟩ := late service
      refine ⟨service, used ++ second, ?_, List.mem_append_left _ reported⟩
      rw [split, ← later, List.append_assoc]
    · obtain ⟨first, parts⟩ := early service
      refine ⟨service, first ++ used, ?_, List.mem_append_right _ reported⟩
      rw [← parts, split, List.append_assoc]

section

variable (w : World) (service : Service) (subject : String)

theorem events_called : (w.called service subject).events
    = w.events ++ [.called service subject] := by
  unfold called takeFault
  split <;> rfl

theorem faults_called (other : Service) : (w.called service subject).faults other
    = if other = service then (w.faults service).tail else w.faults other := by
  unfold called takeFault
  split
  · rename_i none
    have none : w.faults service = [] := none
    by_cases same : other = service
    · rw [if_pos same, same, none]
      exact none
    · rw [if_neg same]
      rfl
  · rename_i fault rest some
    have some : w.faults service = fault :: rest := some
    rw [some]
    rfl

theorem later_called : (w.called service subject).Later w := by
  intro other
  rw [faults_called]
  split
  · rename_i same
    rw [same]
    exact List.tail_suffix _
  · exact List.suffix_rfl

theorem reported_called : w.Reported (w.called service subject) fault
    ↔ w.fault? service = some fault := by
  unfold Reported fault?
  simp only [faults_called]
  constructor
  · rintro ⟨other, used, split, reported⟩
    by_cases same : other = service
    · subst same
      rw [if_pos rfl] at split
      cases faults : w.faults other with
      | nil =>
          rw [faults] at split
          rw [(List.append_eq_nil_iff.mp split.symm).1] at reported
          cases reported
      | cons first rest =>
          rw [faults, List.tail_cons, ← List.singleton_append, List.append_cancel_right_eq] at split
          rw [← split, List.mem_singleton] at reported
          rw [← reported]
          rfl
    · rw [if_neg same, List.self_eq_append_left] at split
      rw [split] at reported
      cases reported
  · intro first
    refine ⟨service, (w.faults service).take 1, ?_, ?_⟩
    · rw [if_pos rfl, ← List.drop_one, List.take_append_drop]
    · cases faults : w.faults service with
      | nil =>
          rw [faults] at first
          cases first
      | cons entry rest =>
          rw [faults] at first
          have entry : entry = some fault := first
          rw [entry]
          exact List.mem_cons_self

end

/-! ## Worlds without faults -/

/-- No service is made to fail. -/
def Unfailing (w : World) : Prop :=
  ∀ service, w.faults service = []

theorem Unfailing.fault? (unfailing : w.Unfailing) (service : Service) :
    w.fault? service = none := by
  unfold World.fault?
  rw [unfailing service]
  rfl

theorem Unfailing.called (unfailing : w.Unfailing) (service : Service) (subject : String) :
    (w.called service subject).Unfailing := by
  intro other
  rw [faults_called, unfailing service, unfailing other]
  exact ite_self []

/-- Where nothing is made to fail, a service does what the workspace does. -/
theorem Unfailing.run_called {α : Type} (unfailing : w.Unfailing) (service : Service)
    (subject : String) (op : WorkspaceM α) :
    ∃ u : World, (do call service subject; inWorkspace op : WorldM α).run.run w
        = ((op.run.run w.workspace).1, u)
      ∧ u.workspace = (op.run.run w.workspace).2 ∧ u.Unfailing ∧ u.clipboard = w.clipboard := by
  rw [World.run_called, unfailing.fault? service]
  exact ⟨_, rfl, rfl, unfailing.called service subject, w.clipboard_called service subject⟩

theorem Unfailing.run_readClipboard (unfailing : w.Unfailing) :
    ∃ u : World, readClipboard.run.run w = (.ok w.clipboard, u)
      ∧ u.workspace = w.workspace ∧ u.Unfailing := by
  rw [World.run_readClipboard, unfailing.fault? .readClipboard]
  exact ⟨_, rfl, w.workspace_called .readClipboard "", unfailing.called .readClipboard ""⟩

theorem Unfailing.run_writeClipboard (unfailing : w.Unfailing) (text : String) :
    ∃ u : World, (writeClipboard text).run.run w = (.ok (), u)
      ∧ u.workspace = w.workspace ∧ u.Unfailing ∧ u.clipboard = text := by
  rw [World.run_writeClipboard, unfailing.fault? .writeClipboard]
  exact ⟨_, rfl, w.workspace_called .writeClipboard text,
    unfailing.called .writeClipboard text, rfl⟩

end World

/-! ## Settings -/

variable {σ ε α β : Type}

/-- What operations are taken in: states that keep an invariant, the world in a state, and how a
fault of the world is reported. -/
structure Setting (σ ε : Type) where
  kept : σ → Prop
  world : σ → World
  failure : Fault → ε

/-- What an operation that began in a state has come to. It failed with an internal fault exactly if
a service reported that. -/
structure Setting.Ends (S : Setting σ ε) (s : σ) (post : α → Prop) (run : Except ε α × σ) :
    Prop where
  kept : S.kept run.2
  post : ∀ a, run.1 = .ok a → post a
  failed : ∀ e, run.1 = .error e → ∃ fault, e = S.failure fault
  later : (S.world run.2).Later (S.world s)
  internal : ∀ text, (S.world s).Reported (S.world run.2) (.internal text)
    ↔ run.1 = .error (S.failure (.internal text))

theorem Setting.Ends.after {S : Setting σ ε} {s t : σ} {post : α → Prop} {run : Except ε α × σ}
    (ended : S.Ends t post run) (later : (S.world t).Later (S.world s))
    (silent : ∀ text, ¬ (S.world s).Reported (S.world t) (.internal text)) :
    S.Ends s post run where
  kept := ended.kept
  post := ended.post
  failed := ended.failed
  later := ended.later.trans later
  internal := by
    intro text
    rw [World.reported_trans ended.later later, or_iff_right (silent text)]
    exact ended.internal text

/-- The operation may be done in the setting, and `post` holds of what it comes to. -/
def Setting.Allows (S : Setting σ ε) (op : ExceptT ε (StateM σ) α) (post : α → Prop) : Prop :=
  ∀ s, S.kept s → S.Ends s post (op.run.run s)

namespace Setting.Allows

variable {S : Setting σ ε} {op : ExceptT ε (StateM σ) α} {f : α → ExceptT ε (StateM σ) β}
  {post : α → Prop} {last : β → Prop}

theorem of_completed (completed : ∀ s, S.kept s → ∃ a t, op.run.run s = (.ok a, t) ∧ post a
    ∧ S.kept t ∧ (S.world t).faults = (S.world s).faults) : S.Allows op post := by
  intro s kept
  obtain ⟨a, t, ran, holds, still, faults⟩ := completed s kept
  rw [ran]
  refine ⟨still, ?_, nofun, .of_faults faults, fun text => ?_⟩
  · rintro _ ⟨⟩
    exact holds
  · exact iff_of_false (World.not_reported_of_faults faults) nofun

theorem pure {a : α} (holds : post a) : S.Allows (Pure.pure a) post :=
  of_completed fun s kept => ⟨a, s, rfl, holds, kept, rfl⟩

theorem bind (first : S.Allows op post) (rest : ∀ a, post a → S.Allows (f a) last) :
    S.Allows (op >>= f) last := by
  intro s kept
  have begun := first s kept
  rw [run_bind]
  rcases ran : op.run.run s with ⟨e | a, t⟩
  · rw [ran] at begun
    refine ⟨begun.kept, nofun, ?_, begun.later, fun text => ?_⟩
    · rintro _ ⟨⟩
      exact begun.failed e rfl
    · rw [begun.internal text, Except.error.injEq, Except.error.injEq]
  · rw [ran] at begun
    refine (rest a (begun.post a rfl) t begun.kept).after begun.later fun text => ?_
    -- What was completed has reported nothing internal.
    rw [begun.internal text]
    exact nofun

theorem returns (allowed : S.Allows op fun _ => True) (words : α → β) :
    S.Allows (do return words (← op)) fun _ => True :=
  allowed.bind fun _ _ => .pure trivial

end Setting.Allows

end ReplyScript
