import ReplyScript.Proofs.Session.Batch
import ReplyScript.Proofs.World.Operations

/-! # What an abort leaves of a session

A command that fails has changed at most one thing of the session: the active document, if it had
made one active before it came to what it failed at. Main statement: `abort_session`.
-/

namespace ReplyScript

open Edit (Range)
open Effect Scene
open Script (Command)

/-! ## Steps that fail without a trace -/

/-- The operation does not fail. -/
def Sure (op : SceneM α) : Prop :=
  ∀ s, ∃ a t, op.run.run s = (.ok a, t)

/-- If the operation fails, the session is as it was. -/
def Clean (op : SceneM α) : Prop :=
  ∀ s e t, op.run.run s = (.error e, t) → t.session = s.session

variable {α β : Type} {x : SceneM α} {f : α → SceneM β}

theorem Quiet.clean (quiet : Quiet x) : Clean x := by
  intro s e t failed
  have same := quiet s
  rw [failed] at same
  exact same

theorem Sure.clean (sure : Sure x) : Clean x := by
  intro s e t failed
  obtain ⟨a, u, done⟩ := sure s
  rw [done] at failed
  cases failed

theorem Quiet.bind_clean (quiet : Quiet x) (rest : ∀ a, Clean (f a)) : Clean (x >>= f) := by
  intro s e t failed
  rcases bind_failed failed with early | ⟨a, u, ran, late⟩
  · exact quiet.clean s e t early
  · have same := quiet s
    rw [ran] at same
    exact (rest a u e t late).trans same

theorem sure_respond (i : Instruction) (payload : String) : Sure (respond i payload) :=
  fun _ => ⟨_, _, rfl⟩

theorem clean_demand (i : Instruction) (op : WorldM α) : Clean (demand i op) :=
  (quiet_demand i op).clean

theorem clean_respond (i : Instruction) (payload : String) : Clean (respond i payload) :=
  (sure_respond i payload).clean

/-! ## Commands that make no document active -/

theorem clean_readFile (path : String) (start stop : Option Nat) :
    Clean (performReadFile path start stop) := by
  refine (quiet_probe _ _).bind_clean ?_
  intro result
  cases result with
  | error text => exact clean_respond _ _
  | ok content => exact Sure.clean fun _ => ⟨_, _, rfl⟩

theorem clean_listFiles (path : String) : Clean (performListFiles path) := by
  refine (quiet_probe _ _).bind_clean ?_
  intro result
  cases result with
  | error text => exact clean_respond _ _
  | ok entries => exact clean_respond _ _

theorem clean_createFile (path : String) : Clean (performCreateFile path) := by
  refine (quiet_probe _ _).bind_clean ?_
  intro result
  cases result with
  | error text => exact clean_respond _ _
  | ok done => exact Sure.clean fun _ => ⟨_, _, rfl⟩

theorem clean_search (query : String) : Clean (performSearch query) := by
  refine (quiet_probe _ _).bind_clean ?_
  intro result
  cases result with
  | error text => exact clean_respond _ _
  | ok hits => exact clean_respond _ _

theorem clean_runInTerminal (command : String) : Clean (performRunInTerminal command) := by
  refine (quiet_confirm command).bind_clean ?_
  intro confirmed
  cases confirmed with
  | false => exact clean_respond _ _
  | true =>
      refine (quiet_probe _ _).bind_clean ?_
      intro result
      cases result with
      | error text => exact clean_respond _ _
      | ok output => exact clean_respond _ _

theorem clean_getSyntaxErrors : Clean performGetSyntaxErrors := by
  refine (quiet_activeDocument _).bind_clean ?_
  intro d
  refine (quiet_demand _ _).bind_clean ?_
  intro diagnostics
  exact clean_respond _ _

theorem clean_cut (path : String) (range : Range) : Clean (performCut path range) := by
  refine (quiet_activeDocument _).bind_clean ?_
  intro active
  refine (quiet_copyRange _ _ _).bind_clean ?_
  intro d
  exact clean_demand _ _

/-! ## Commands that make a document active -/

/-- The session with a document made active, if there is one. -/
def Session.withActive (s : Session) (d : Option Document) : Session :=
  { s with active := d.or s.active }

theorem Session.withActive_eq_self (s : Session) (made : Option Document) :
    s.withActive made = s ↔ ∀ d, made = some d → s.active = some d := by
  cases made with
  | none => simp [withActive]
  | some d =>
      constructor
      · intro same other found
        cases found
        rw [← same]
        rfl
      · intro already
        rw [withActive, Option.some_or, ← already d rfl]

/-- If the operation fails, the session is as it was, but for a document made active on the way. -/
def Leaves (made : Scene → Option Document) (op : SceneM α) : Prop :=
  ∀ s e t, op.run.run s = (.error e, t) → t.session = s.session.withActive (made s)

theorem Clean.leaves (clean : Clean x) : Leaves (fun _ => none) x :=
  clean

theorem failed_after_activate {d : Document} {rest : SceneM α} (clean : Clean rest)
    {s t : Scene} {e : CommandError}
    (failed : (do activate d; rest : SceneM α).run.run s = (.error e, t)) :
    t.session = s.session.withActive (some d) := by
  rcases bind_failed failed with early | ⟨done, u, ran, late⟩
  · rw [run_activate] at early
    cases early
  · rw [run_activate] at ran
    cases ran
    exact clean _ e t late

/-- The document that `@input` has opened, or created and opened. -/
def inputDocument? (path : String) (position : Edit.Position) (s : Scene) : Option Document :=
  ((openForInput path).run.run s).1.toOption.map fun d => { d with selection := .caret position }

theorem leaves_input (path : String) (position : Edit.Position) (text : String) :
    Leaves (inputDocument? path position) (performInput path position text) := by
  intro s e t failed
  have quiet := quiet_openForInput path s
  unfold inputDocument?
  rcases bind_failed failed with early | ⟨d, u, ran, late⟩
  · rw [early] at quiet ⊢
    exact quiet
  · rw [ran] at quiet ⊢
    have clean : Clean (do
        demand .input (World.inWorkspace
          (({ d with selection := .caret position } : Document).insert position text))
        let window ← demand .input (World.inWorkspace
          (insertionWindow { d with selection := .caret position } position.line text))
        respond .input window) := by
      refine (quiet_demand _ _).bind_clean ?_
      intro done
      refine (quiet_demand _ _).bind_clean ?_
      intro window
      exact clean_respond _ _
    rw [failed_after_activate clean late]
    exact congrArg (Session.withActive · _) quiet

/-- The document that `@select` has put its selection on. -/
def selectDocument? (range : Range) (s : Scene) : Option Document :=
  s.session.active.map fun d => { d with selection := range }

theorem leaves_select (range : Range) : Leaves (selectDocument? range) (performSelect range) := by
  intro s e t failed
  unfold selectDocument?
  rcases bind_failed failed with early | ⟨d, u, ran, late⟩
  · obtain ⟨noActive, rfl, -⟩ := activeDocument_failed early
    rw [noActive]
    rfl
  · obtain ⟨active, rfl⟩ := activeDocument_completed ran
    rw [active]
    refine failed_after_activate ?_ late
    refine (quiet_demand _ _).bind_clean ?_
    intro text
    exact clean_respond _ _

/-- The document that `@replace` has opened. -/
def replaceDocument? (path : String) (s : Scene) : Option Document :=
  ((World.openFile path).run.run s.world).1.toOption

theorem leaves_replace (path : String) (range : Range) (text : String) :
    Leaves (replaceDocument? path) (performReplace path range text) := by
  intro s e t failed
  unfold replaceDocument?
  rcases bind_failed failed with early | ⟨d, u, ran, late⟩
  · obtain ⟨f, world, unopened, rfl, -⟩ := demand_failed early
    rw [unopened]
    rfl
  · obtain ⟨world, opened, rfl⟩ := demand_completed ran
    rw [opened]
    have clean : Clean (demand .replace (World.inWorkspace (d.replace range text))) :=
      clean_demand _ _
    have made := failed_after_activate clean late
    exact made

/-- The document that `@paste` has opened, if it has read the clipboard too. -/
def pasteDocument? (path : String) (s : Scene) : Option Document :=
  match s.session.active, (World.openFile path).run.run s.world with
  | some _, (.ok d, world) => (World.readClipboard.run.run world).1.toOption.map fun _ => d
  | _, _ => none

theorem leaves_paste (path : String) (position : Edit.Position) :
    Leaves (pasteDocument? path) (performPaste path position) := by
  intro s e t failed
  unfold pasteDocument?
  rcases bind_failed failed with early | ⟨active, u, ran, late⟩
  · obtain ⟨noActive, rfl, -⟩ := activeDocument_failed early
    rw [noActive]
    rfl
  obtain ⟨isActive, rfl⟩ := activeDocument_completed ran
  rw [isActive]
  rcases bind_failed late with early | ⟨d, v, ran, late⟩
  · obtain ⟨f, world, unopened, rfl, -⟩ := demand_failed early
    rw [unopened]
    rfl
  obtain ⟨world, opened, rfl⟩ := demand_completed ran
  rw [opened]
  rcases bind_failed late with early | ⟨text, v, ran, late⟩
  · obtain ⟨f, next, unread, rfl, -⟩ := demand_failed early
    have unread : World.readClipboard.run.run world = (.error f, next) := unread
    simp only [unread]
    rfl
  obtain ⟨next, read, rfl⟩ := demand_completed ran
  have read : World.readClipboard.run.run world = (.ok text, next) := read
  simp only [read]
  have clean : Clean (demand .paste (World.inWorkspace (d.insert position text))) :=
    clean_demand _ _
  have made := failed_after_activate clean late
  exact made

/-! ## Aborted batches -/

/-- The document that an action has made active by the time it may still fail. -/
def Action.document? (s : Scene) : Action → Option Document
  | .input path position _ => inputDocument? path position s
  | .select range => selectDocument? range s
  | .replace path _ _ => replaceDocument? path s
  | .paste path _ => pasteDocument? path s
  | _ => none

theorem Action.leaves (a : Action) : Leaves (fun s => a.document? s) a.perform := by
  cases a with
  | readFile path start stop => exact (clean_readFile path start stop).leaves
  | listFiles path => exact (clean_listFiles path).leaves
  | createFile path => exact (clean_createFile path).leaves
  | undo =>
      refine Clean.leaves ((quiet_activeDocument _).bind_clean ?_)
      intro d
      exact clean_demand _ _
  | redo =>
      refine Clean.leaves ((quiet_activeDocument _).bind_clean ?_)
      intro d
      exact clean_demand _ _
  | input path position text => exact leaves_input path position text
  | select range => exact leaves_select range
  | replace path range text => exact leaves_replace path range text
  | copy path range =>
      refine Clean.leaves ((quiet_copyRange _ _ _).bind_clean ?_)
      intro d
      exact Sure.clean fun _ => ⟨_, _, rfl⟩
  | cut path range => exact (clean_cut path range).leaves
  | paste path position => exact leaves_paste path position
  | getSyntaxErrors => exact clean_getSyntaxErrors.leaves
  | search query => exact (clean_search query).leaves
  | runInTerminal command => exact (clean_runInTerminal command).leaves
  | memoryWrite text => exact Clean.leaves (Sure.clean fun _ => ⟨_, _, rfl⟩)
  | readMemory => exact Clean.leaves (Sure.clean fun _ => ⟨_, _, rfl⟩)
  | clearMemory => exact Clean.leaves (Sure.clean fun _ => ⟨_, _, rfl⟩)
  | clearConversation => exact Clean.leaves (Sure.clean fun _ => ⟨_, _, rfl⟩)

/-- The document that a command has made active by the time it may still fail. -/
def Script.Command.document? (c : Command) (s : Scene) : Option Document :=
  match c.action? with
  | .ok (some a) => a.document? s
  | _ => none

theorem Script.Command.leaves (c : Command) : Leaves (fun s => c.document? s) c.perform := by
  intro s e t failed
  unfold Command.document?
  unfold Command.perform at failed
  cases action : c.action? with
  | error problem =>
      rw [action] at failed
      cases failed
      rfl
  | ok known =>
      rw [action] at failed
      cases known with
      | none => cases failed
      | some a => exact a.leaves s e t failed

/-- When a batch is given up, all commands before the one that failed have been performed, and of
the failing one the session shows nothing but the document that it has made active. So there is no
trace of it exactly if it made none active, or one that was active already. -/
theorem abort_session {cs : List Command} {s t : Scene} {a : Abort}
    (aborted : performAll cs s = (some a, t)) :
    ∃ c before, cs[a.index]? = some c ∧ performAll (cs.take a.index) s = (none, before)
      ∧ t.session = before.session.withActive (c.document? before)
      ∧ (t.session = before.session
        ↔ ∀ d, c.document? before = some d → before.session.active = some d) := by
  obtain ⟨c, before, found, performed, failed⟩ := performAll_aborted aborted
  have left := c.leaves before a.error t failed
  refine ⟨c, before, found, performed, left, ?_⟩
  rw [left]
  exact before.session.withActive_eq_self _

/-- A session without a history, on a workspace with one file. -/
def Scene.onFile (name text : String) : Scene where
  session := .empty
  world := .ofWorkspace (.ofDisk [] ⟨[([name], .file (.text text))], []⟩) (.scripted [])

/-- A replacement on the tenth line of a file. -/
def replaceTenthLine : Command :=
  ⟨"replace", [.text "a.txt", .integer 9, .integer 0, .integer 9, .integer 0, .text "y"], ⟨0, 0⟩⟩

theorem abort_session_tenthLine :
    ∃ a t before, performAll [replaceTenthLine] (.onFile "a.txt" "x") = (some a, t)
      ∧ performAll ([replaceTenthLine].take a.index) (.onFile "a.txt" "x") = (none, before)
      ∧ t.session = before.session.withActive (replaceTenthLine.document? before) := by
  obtain ⟨a, t, aborted⟩ : ∃ a t,
      performAll [replaceTenthLine] (.onFile "a.txt" "x") = (some a, t) := ⟨_, _, rfl⟩
  obtain ⟨c, before, found, performed, left, -⟩ := abort_session aborted
  obtain rfl : replaceTenthLine = c := by
    have inside := List.mem_of_getElem? found
    exact (List.mem_singleton.mp inside).symm
  exact ⟨a, t, before, aborted, performed, left⟩

theorem abort_leaves_document :
    ∃ a t, performAll [replaceTenthLine] (.onFile "a.txt" "x") = (some a, t)
      ∧ t.session
        ≠ (performAll ([replaceTenthLine].take a.index) (.onFile "a.txt" "x")).2.session := by
  refine ⟨_, _, rfl, ?_⟩
  intro same
  cases congrArg Session.active same

end ReplyScript
