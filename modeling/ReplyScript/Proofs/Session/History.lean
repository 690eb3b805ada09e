import ReplyScript.Proofs.Session.Abort

/-! # What batches leave alone

A part of the session that has nothing to do with requests, snippets and the active document is left
alone by all commands but those that are about memory or history. Main statement:
`history_performAll`, a batch empties the history if it clears the conversation, and keeps it
otherwise.
-/

namespace ReplyScript

open Effect Scene
open Script (Command)

/-- A part of the session that does not depend on requests, snippets and the active document. -/
structure Session.Lasting {β : Type} (part : Session → β) : Prop where
  request : ∀ s text, part (s.addRequest text) = part s
  snippets : ∀ s snippets, part { s with snippets := snippets } = part s
  active : ∀ s d, part { s with active := some d } = part s

/-- The operation does not change this part of the session. -/
def Retains {β : Type} (part : Session → β) (op : SceneM α) : Prop :=
  ∀ s, part (op.run.run s).2.session = part s.session

variable {α β γ : Type} {x : SceneM α} {f : α → SceneM β} {part : Session → γ}

theorem Quiet.retains (quiet : Quiet x) : Retains part x :=
  fun s => congrArg part (quiet s)

theorem Retains.bind (first : Retains part x) (rest : ∀ a, Retains part (f a)) :
    Retains part (x >>= f) := by
  intro s
  have same := first s
  rw [run_bind]
  rcases ran : x.run.run s with ⟨e | a, t⟩
  · rw [ran] at same
    exact same
  · rw [ran] at same
    exact (rest a t).trans same

theorem Quiet.bind_retains (quiet : Quiet x) (rest : ∀ a, Retains part (f a)) :
    Retains part (x >>= f) :=
  quiet.retains.bind rest

namespace Session.Lasting

variable (lasting : Session.Lasting part)

include lasting

theorem respond (i : Instruction) (payload : String) : Retains part (respond i payload) :=
  fun s => lasting.request s.session _

theorem activate (d : Document) : Retains part (activate d) :=
  fun s => lasting.active s.session d

theorem readFile (path : String) (start stop : Option Nat) :
    Retains part (performReadFile path start stop) := by
  refine (quiet_probe _ _).bind_retains ?_
  intro result
  cases result with
  | error text => exact lasting.respond _ _
  | ok content =>
      intro s
      exact (lasting.request _ _).trans (lasting.snippets s.session _)

theorem listFiles (path : String) : Retains part (performListFiles path) := by
  refine (quiet_probe _ _).bind_retains ?_
  intro result
  cases result with
  | error text => exact lasting.respond _ _
  | ok entries => exact lasting.respond _ _

theorem createFile (path : String) : Retains part (performCreateFile path) := by
  refine (quiet_probe _ _).bind_retains ?_
  intro result
  cases result with
  | error text => exact lasting.respond _ _
  | ok done => exact fun s => rfl

theorem input (path : String) (position : Edit.Position) (text : String) :
    Retains part (performInput path position text) := by
  refine (quiet_openForInput path).bind_retains ?_
  intro d
  refine (lasting.activate _).bind ?_
  intro made
  refine (quiet_demand _ _).bind_retains ?_
  intro done
  refine (quiet_demand _ _).bind_retains ?_
  intro window
  exact lasting.respond _ _

theorem select (range : Edit.Range) : Retains part (performSelect range) := by
  refine (quiet_activeDocument _).bind_retains ?_
  intro d
  refine (lasting.activate _).bind ?_
  intro made
  refine (quiet_demand _ _).bind_retains ?_
  intro text
  exact lasting.respond _ _

theorem replace (path : String) (range : Edit.Range) (text : String) :
    Retains part (performReplace path range text) := by
  refine (quiet_demand _ _).bind_retains ?_
  intro d
  refine (lasting.activate d).bind ?_
  intro made
  exact (quiet_demand _ _).retains

theorem paste (path : String) (position : Edit.Position) :
    Retains part (performPaste path position) := by
  refine (quiet_activeDocument _).bind_retains ?_
  intro active
  refine (quiet_demand _ _).bind_retains ?_
  intro d
  refine (quiet_demand _ _).bind_retains ?_
  intro text
  refine (lasting.activate d).bind ?_
  intro made
  exact (quiet_demand _ _).retains

theorem getSyntaxErrors : Retains part performGetSyntaxErrors := by
  refine (quiet_activeDocument _).bind_retains ?_
  intro d
  refine (quiet_demand _ _).bind_retains ?_
  intro diagnostics
  exact lasting.respond _ _

theorem search (query : String) : Retains part (performSearch query) := by
  refine (quiet_probe _ _).bind_retains ?_
  intro result
  cases result with
  | error text => exact lasting.respond _ _
  | ok hits => exact lasting.respond _ _

theorem runInTerminal (command : String) : Retains part (performRunInTerminal command) := by
  refine (quiet_confirm command).bind_retains ?_
  intro confirmed
  cases confirmed with
  | false => exact lasting.respond _ _
  | true =>
      refine (quiet_probe _ _).bind_retains ?_
      intro result
      cases result with
      | error text => exact lasting.respond _ _
      | ok output => exact lasting.respond _ _

end Session.Lasting

theorem quiet_cut (path : String) (range : Edit.Range) : Quiet (performCut path range) := by
  refine (quiet_activeDocument _).bind ?_
  intro active
  refine (quiet_copyRange _ _ _).bind ?_
  intro d
  exact quiet_demand _ _

theorem quiet_turn (i : Instruction) (turn : Document → WorkspaceM Unit) : Quiet (do
    let d ← activeDocument i
    demand i (World.inWorkspace (turn d))) := by
  refine (quiet_activeDocument _).bind ?_
  intro d
  exact quiet_demand _ _

/-- Whether an action is about what the session keeps for the model from turn to turn. -/
def Action.isAboutPast : Action → Bool
  | memoryWrite _ | clearMemory | clearConversation => true
  | _ => false

theorem Session.Lasting.action (lasting : Session.Lasting part) {a : Action}
    (other : a.isAboutPast = false) : Retains part a.perform := by
  cases a with
  | readFile path start stop => exact lasting.readFile path start stop
  | listFiles path => exact lasting.listFiles path
  | createFile path => exact lasting.createFile path
  | undo => exact (quiet_turn .undo Document.undo).retains
  | redo => exact (quiet_turn .redo Document.redo).retains
  | input path position text => exact lasting.input path position text
  | select range => exact lasting.select range
  | replace path range text => exact lasting.replace path range text
  | copy path range => exact (quiet_copyRange _ _ _).bind_retains fun _ _ => rfl
  | cut path range => exact (quiet_cut path range).retains
  | paste path position => exact lasting.paste path position
  | getSyntaxErrors => exact lasting.getSyntaxErrors
  | search query => exact lasting.search query
  | runInTerminal command => exact lasting.runInTerminal command
  | memoryWrite text => cases other
  | readMemory => exact fun s => lasting.request s.session _
  | clearMemory => cases other
  | clearConversation => cases other

/-! ## The history -/

theorem history_action (a : Action) (s : Scene) : (a.perform.run.run s).2.session.history
    = if a.clears then [] else s.session.history := by
  have lasting : Session.Lasting Session.history :=
    ⟨fun _ _ => rfl, fun _ _ => rfl, fun _ _ => rfl⟩
  cases about : a.isAboutPast with
  | false =>
      have other : a.clears = false := by
        cases a with
        | clearConversation => cases about
        | _ => rfl
      rw [other]
      exact lasting.action about s
  | true =>
      cases a with
      | memoryWrite text => rfl
      | clearMemory => rfl
      | clearConversation => rfl
      | _ => cases about

theorem history_command (c : Command) (s : Scene) : (c.perform.run.run s).2.session.history
    = if c.clears then [] else s.session.history := by
  unfold Command.perform Command.clears
  rcases c.action? with problem | known
  · rfl
  · cases known with
    | none => rfl
    | some a => exact history_action a s

theorem history_performFrom {index : Nat} {cs : List Command} {s t : Scene}
    (performed : performFrom index cs s = (none, t)) :
    t.session.history = if cs.any (·.clears) then [] else s.session.history := by
  induction cs generalizing index s with
  | nil =>
      cases performed
      rfl
  | cons c rest ih =>
      have here := history_command c s
      rw [performFrom_cons] at performed
      rcases ran : c.perform.run.run s with ⟨e | done, u⟩
      · rw [ran] at performed
        cases performed
      · rw [ran] at performed here
        rw [ih performed, here, List.any_cons]
        cases c.clears <;> cases rest.any (·.clears) <;> rfl

/-- A batch empties the history if one of its commands does before the batch is given up. -/
theorem history_performAll (cs : List Command) (s : Scene) :
    (performAll cs s).2.session.history
      = if (performedOf cs (performAll cs s).1).any (·.clears) then [] else s.session.history := by
  rcases ran : performAll cs s with ⟨abort, t⟩
  cases abort with
  | none => exact history_performFrom ran
  | some a =>
      obtain ⟨c, before, -, performed, failed⟩ := performAll_aborted ran
      have left := congrArg Session.history (c.leaves before a.error t failed)
      exact left.trans (history_performFrom performed)

end ReplyScript
