import ReplyScript.Proofs.Session.Report
import ReplyScript.Proofs.Workspace.Within
import ReplyScript.Proofs.World.Terminal
import ReplyScript.Session.Footprint

/-! # The conduct of actions

The work of every action keeps to what its footprint allows, at every step of it and whether it
fails or not. Main statement: `Action.conduct`.
-/

namespace ReplyScript

open Edit (Change)
open Effect Scene

variable {α β : Type}

theorem within_insertionWindow (d : Document) (line : Nat) (text : String) (w : Workspace)
    {written : Disk.Path → Prop} :
    w.Within written (fun _ => True) ((insertionWindow d line text).run.run w) := by
  refine .still (run_insertionWindow_state d line text w) (fun _ _ => trivial) ?_
  unfold insertionWindow
  simp only [run_bind, run_get]
  have within (range : Edit.Range) :
      w.Within written (fun _ => True) ((d.textIn range).run.run w) := d.within_textIn range
  intro fault failed
  rw [Document.run_lineText] at failed
  split at failed
  · rename_i part u shown
    split at shown
    · cases shown
      exact (within _).plain fault failed
    · cases shown
  · rename_i e u missing
    split at missing
    · cases missing
    · cases missing
      cases failed
      rfl

namespace Action

/-- The world of an action under way, if it began in the scene `start`. -/
structure KeepsTo (a : Action) (start : Scene) (w : World) : Prop where
  root : w.workspace.root = start.world.workspace.root
  disk : Service.terminal ∉ a.services →
    w.workspace.disk.Spares start.world.workspace.disk (a.MayWrite start)
  clipboard : Service.writeClipboard ∉ a.services → w.clipboard = start.world.clipboard
  events : ∃ added, w.events = start.world.events ++ added
    ∧ ∀ e ∈ added, ∃ service ∈ a.services, e.service? = some service

/-- The scene of an action at work, if it began in the scene `start`. -/
structure Reaches (a : Action) (start s : Scene) : Prop where
  world : a.KeepsTo start s.world
  request : s.session.request = start.session.request
  snippets : s.session.snippets = start.session.snippets
  active : s.session.active = start.session.active
    ∨ ∃ d, s.session.active = some d ∧ a.MayActivate start d

/-- Operations on the world as parts of an action. -/
def inWorld (a : Action) (start : Scene) : Setting World Fault :=
  ⟨a.KeepsTo start, id, id⟩

/-- Operations in a scene as parts of an action. -/
def inScene (a : Action) (start : Scene) : Setting Scene CommandError :=
  ⟨a.Reaches start, Scene.world, .failed a.instruction.name⟩

variable {a : Action} {start : Scene} {post : α → Prop}

theorem KeepsTo.refl (a : Action) (start : Scene) : a.KeepsTo start start.world where
  root := rfl
  disk := fun _ => .refl _ _
  clipboard := fun _ => rfl
  events := ⟨[], (List.append_nil _).symm, nofun⟩

theorem Reaches.refl (a : Action) (start : Scene) : a.Reaches start start :=
  ⟨.refl a start, rfl, rfl, .inl rfl⟩

theorem KeepsTo.record {w : World} (kept : a.KeepsTo start w) {e : Event} {service : Service}
    (may : service ∈ a.services) (shows_ : e.service? = some service) :
    a.KeepsTo start (w.record e) where
  root := kept.root
  disk := kept.disk
  clipboard := kept.clipboard
  events := by
    obtain ⟨added, events, allowed⟩ := kept.events
    refine ⟨added ++ [e], ?_, ?_⟩
    · rw [World.record, events, List.append_assoc]
    · intro other member
      rcases List.mem_append.mp member with before | new
      · exact allowed other before
      · rw [List.mem_singleton.mp new]
        exact ⟨service, may, shows_⟩

theorem KeepsTo.called {w : World} (kept : a.KeepsTo start w) {service : Service}
    (may : service ∈ a.services) (subject : String) :
    a.KeepsTo start (w.called service subject) := by
  have recorded := kept.record (e := .called service subject) may rfl
  constructor
  · rw [World.workspace_called]
    exact kept.root
  · rw [World.workspace_called]
    exact kept.disk
  · rw [World.clipboard_called]
    exact kept.clipboard
  · rw [World.events_called]
    exact recorded.events

/-! ## Services -/

theorem allows_call {service : Service} (may : service ∈ a.services) (subject : String) :
    (a.inWorld start).Allows (World.call service subject) fun _ => True := by
  intro w kept
  rw [World.run_call]
  have after : a.KeepsTo start (w.called service subject) := KeepsTo.called kept may subject
  have later := w.later_called service subject
  have reported (text : String) : w.Reported (w.called service subject) (.internal text)
      ↔ w.fault? service = some (.internal text) := w.reported_called service subject
  cases fault : w.fault? service with
  | none =>
      rw [fault] at reported
      refine ⟨after, fun _ _ => trivial, nofun, later, fun text => (reported text).trans ?_⟩
      exact iff_of_false nofun nofun
  | some f =>
      rw [fault] at reported
      refine ⟨after, nofun, ?_, later, fun text => (reported text).trans ?_⟩
      · rintro _ ⟨⟩
        exact ⟨f, rfl⟩
      · rw [Option.some.injEq, Except.error.injEq]
        rfl

theorem allows_inWorkspace {op : WorkspaceM α}
    (within : ∀ w : Workspace, w.root = start.world.workspace.root →
      w.Within (a.MayWrite start) post (op.run.run w)) :
    (a.inWorld start).Allows (World.inWorkspace op) post := by
  intro w kept
  rw [World.run_inWorkspace]
  have did := within w.workspace kept.root
  refine ⟨⟨did.root.trans kept.root, ?_, kept.clipboard, kept.events⟩, did.post, ?_, .refl w, ?_⟩
  · intro noTerminal
    exact did.disk.trans (kept.disk noTerminal)
  · exact fun e _ => ⟨e, rfl⟩
  · intro text
    refine iff_of_false (World.not_reported_of_faults rfl) fun failed => ?_
    have plain : false = true := (did.plain _ failed).symm
    cases plain

theorem allows_called {service : Service} (may : service ∈ a.services) (subject : String)
    {op : WorkspaceM α}
    (within : ∀ w : Workspace, w.root = start.world.workspace.root →
      w.Within (a.MayWrite start) post (op.run.run w)) :
    (a.inWorld start).Allows (do World.call service subject; World.inWorkspace op) post :=
  (allows_call may subject).bind fun _ _ => allows_inWorkspace within

theorem allows_readText (may : .read ∈ a.services) (path : String) :
    (a.inWorld start).Allows (World.readText path) fun _ => True :=
  allows_called may path fun _ _ => Workspace.within_readText path

theorem allows_listDirectory (may : .list ∈ a.services) (path : String) :
    (a.inWorld start).Allows (World.listDirectory path) fun _ => True :=
  allows_called may path fun _ _ => Workspace.within_listDirectory path

theorem allows_search (may : .search ∈ a.services) (pattern : String) :
    (a.inWorld start).Allows (World.search pattern) fun _ => True :=
  allows_called may pattern fun _ _ => Workspace.within_search pattern

theorem resolve_of_root {w : Workspace} (root : w.root = start.world.workspace.root)
    (path : String) : w.resolve path = start.world.workspace.resolve path := by
  unfold Workspace.resolve
  rw [root]

theorem allows_writeFile (may : .write ∈ a.services) (path text : String)
    (inside : ∀ file, start.world.workspace.resolve path = .ok file → a.MayWrite start file) :
    (a.inWorld start).Allows (World.writeFile path text) fun _ => True := by
  refine allows_called may path fun w root => Workspace.within_writeFile path text ?_
  rw [resolve_of_root root]
  exact inside

theorem allows_openFile (may : .openFile ∈ a.services) (path : String) :
    (a.inWorld start).Allows (World.openFile path)
      fun d => d.path = path ∧ start.world.workspace.resolve path = .ok d.file := by
  refine allows_called may path fun w root => ?_
  rw [← resolve_of_root root]
  exact Workspace.within_openFile path

theorem allows_change {d : Document} (inside : a.MayWrite start d.file) (c : Change) :
    (a.inWorld start).Allows (World.inWorkspace (d.change c)) fun _ => True :=
  allows_inWorkspace fun _ _ => d.within_change inside c

theorem allows_textIn (d : Document) (range : Edit.Range) :
    (a.inWorld start).Allows (World.inWorkspace (d.textIn range)) fun _ => True :=
  allows_inWorkspace fun _ _ => d.within_textIn range

theorem allows_insertionWindow (d : Document) (line : Nat) (text : String) :
    (a.inWorld start).Allows (World.inWorkspace (insertionWindow d line text)) fun _ => True :=
  allows_inWorkspace fun w _ => within_insertionWindow d line text w

theorem allows_readClipboard (may : .readClipboard ∈ a.services) :
    (a.inWorld start).Allows World.readClipboard fun _ => True :=
  (allows_call may "").bind fun _ _ => .of_completed fun w kept => ⟨_, w, rfl, trivial, kept, rfl⟩

theorem allows_writeClipboard (may : .writeClipboard ∈ a.services) (text : String) :
    (a.inWorld start).Allows (World.writeClipboard text) fun _ => True := by
  refine (allows_call may text).bind fun _ _ => .of_completed fun w kept => ?_
  exact ⟨_, _, rfl, trivial, ⟨kept.root, kept.disk, fun no => absurd may no, kept.events⟩, rfl⟩

theorem allows_diagnose (may : .diagnostics ∈ a.services) (path : String) :
    (a.inWorld start).Allows (World.diagnose path) fun _ => True := by
  refine (allows_call may path).bind fun _ _ => .of_completed fun w kept => ?_
  exact ⟨_, _, rfl, trivial, KeepsTo.record kept may rfl, rfl⟩

/-! ## Steps in a scene -/

theorem Reaches.turn {s : Scene} (reached : a.Reaches start s) {world : World}
    (kept : a.KeepsTo start world) : a.Reaches start { s with world } :=
  ⟨kept, reached.request, reached.snippets, reached.active⟩

theorem allows_fail {fault : Fault} (plain : fault.isInternal = false) :
    (a.inScene start).Allows (throw (.failed a.instruction.name fault) : SceneM α) post := by
  intro s reached
  refine ⟨reached, nofun, ?_, .refl s.world, fun text => ?_⟩
  · rintro _ ⟨⟩
    exact ⟨fault, rfl⟩
  · refine iff_of_false (World.not_reported_of_faults rfl) ?_
    rintro ⟨⟩
    cases plain

theorem allows_attempt {op : WorldM α} (allowed : (a.inWorld start).Allows op post)
    {f : Except Fault α → SceneM β} {last : β → Prop}
    (ok : ∀ x, post x → (a.inScene start).Allows (f (.ok x)) last)
    (error : ∀ fault, fault.isInternal = false → (a.inScene start).Allows (f (.error fault)) last)
    (internal : ∀ text, f (.error (.internal text))
      = throw (.failed a.instruction.name (.internal text))) :
    (a.inScene start).Allows (attempt op >>= f) last := by
  intro s reached
  have ended := allowed s.world reached.world
  have turned : a.Reaches start { s with world := (op.run.run s.world).2 } :=
    reached.turn ended.kept
  have reports (text : String) : s.world.Reported (op.run.run s.world).2 (.internal text)
      ↔ (op.run.run s.world).1 = .error (.internal text) := ended.internal text
  rw [run_bind, run_attempt]
  simp only
  cases result : (op.run.run s.world).1 with
  | ok x =>
      rw [result] at reports
      refine (ok x (ended.post x result) _ turned).after ended.later fun text reported => ?_
      cases (reports text).mp reported
  | error fault =>
      rw [result] at reports
      cases isInternal : fault.isInternal with
      | false =>
          refine (error fault isInternal _ turned).after ended.later fun text reported => ?_
          cases (reports text).mp reported
          cases isInternal
      | true =>
          -- The fault that was reported is the one that the attempt fails with.
          cases fault with
          | internal text =>
              rw [internal text]
              refine ⟨turned, nofun, ?_, ended.later, fun other => (reports other).trans ?_⟩
              · rintro _ ⟨⟩
                exact ⟨_, rfl⟩
              · constructor
                · rintro ⟨⟩
                  rfl
                · rintro ⟨⟩
                  rfl
          | _ => cases isInternal

variable {i : Instruction}

theorem allows_demand {op : WorldM α} (own : i = a.instruction)
    (allowed : (a.inWorld start).Allows op post) :
    (a.inScene start).Allows (demand i op) post := by
  subst own
  exact allows_attempt allowed (fun x holds => .pure holds) (fun fault plain => allows_fail plain)
    fun text => rfl

theorem allows_probe {op : WorldM α} (own : i = a.instruction)
    (allowed : (a.inWorld start).Allows op post) :
    (a.inScene start).Allows (probe i op) fun _ => True := by
  subst own
  refine allows_attempt allowed (fun x holds => .pure trivial) ?_ fun text => rfl
  intro fault plain
  simp only [plain]
  exact .pure trivial

theorem allows_activeDocument (ready : start.session.active ≠ none) :
    (a.inScene start).Allows (activeDocument i)
      fun d => start.session.active = some d ∨ a.MayActivate start d := by
  refine .of_completed fun s reached => ?_
  rw [run_activeDocument]
  rcases reached.active with same | ⟨d, active, may⟩
  · cases first : start.session.active with
    | none => exact absurd first ready
    | some d =>
        rw [same, first]
        exact ⟨d, s, rfl, .inl rfl, reached, rfl⟩
  · rw [active]
    exact ⟨d, s, rfl, .inr may, reached, rfl⟩

theorem allows_activate {d : Document} (may : a.MayActivate start d) :
    (a.inScene start).Allows (activate d) fun _ => True := by
  refine .of_completed fun s reached => ⟨_, _, s.run_activate d, trivial, ?_, rfl⟩
  exact ⟨reached.world, reached.request, reached.snippets, .inr ⟨d, rfl, may⟩⟩

theorem allows_modifySession {f : Session → Session} (request : ∀ s, (f s).request = s.request)
    (snippets : ∀ s, (f s).snippets = s.snippets) (active : ∀ s, (f s).active = s.active) :
    (a.inScene start).Allows (modifySession f) fun _ => True := by
  refine .of_completed fun s reached => ⟨_, _, rfl, trivial, ?_, rfl⟩
  refine ⟨reached.world, (request _).trans reached.request, (snippets _).trans reached.snippets, ?_⟩
  rw [active]
  exact reached.active

theorem allows_confirm (may : .terminal ∈ a.services) (command : String) :
    (a.inScene start).Allows (confirm command) fun _ => True := by
  refine .of_completed fun s reached =>
    ⟨_, _, s.run_confirm command, trivial, reached.turn ?_, ?_⟩
  · obtain ⟨confirmer, input, same⟩ := s.world.confirm_frame command
    have kept := reached.world
    obtain ⟨added, events, allowed⟩ := kept.events
    rw [same]
    refine ⟨kept.root, kept.disk, kept.clipboard, added ++ s.world.questions command, ?_, ?_⟩
    · simp only
      rw [events, List.append_assoc]
    · intro e member
      rcases List.mem_append.mp member with before | asked
      · exact allowed e before
      · obtain ⟨_, _, rfl⟩ := List.mem_map.mp asked
        exact ⟨.terminal, may, rfl⟩
  · exact s.world.faults_confirm command

theorem allows_runCommand (may : .terminal ∈ a.services) (command : String) :
    (a.inWorld start).Allows (World.runCommand command) fun _ => True := by
  intro w kept
  have called : a.KeepsTo start (w.called .terminal command) := KeepsTo.called kept may command
  have later := w.later_called .terminal command
  have reported (text : String) : w.Reported (w.called .terminal command) (.internal text)
      ↔ w.fault? .terminal = some (.internal text) := w.reported_called .terminal command
  cases fault : w.fault? .terminal with
  | some f =>
      rw [fault] at reported
      rw [w.run_runCommand_fault command fault]
      refine ⟨called, nofun, ?_, later, fun text => (reported text).trans ?_⟩
      · rintro _ ⟨⟩
        exact ⟨f, rfl⟩
      · rw [Option.some.injEq, Except.error.injEq]
        rfl
  | none =>
      rw [fault] at reported
      obtain ⟨result, disk, terminal, input, ran, plain⟩ := w.run_runCommand_works command fault
      -- Nothing is known of the disk that the command leaves, and nothing has to be: the action may
      -- use the terminal.
      have running : a.KeepsTo start (w.running command) :=
        called.record (e := .ran command) may rfl
      rw [ran]
      refine ⟨⟨kept.root, fun no => absurd may no, running.clipboard, running.events⟩,
        fun _ _ => trivial, fun e _ => ⟨e, rfl⟩, later, fun text => (reported text).trans ?_⟩
      refine iff_of_false nofun fun failed => ?_
      cases plain _ failed

/-! ## Work -/

theorem allows_copyRange {i : Instruction} (own : i = a.instruction)
    (opens : .openFile ∈ a.services) (copies : .writeClipboard ∈ a.services) (path : String)
    (range : Edit.Range) :
    (a.inScene start).Allows (copyRange i path range)
      fun d => d.path = path ∧ start.world.workspace.resolve path = .ok d.file := by
  refine (allows_demand own (allows_openFile opens path)).bind fun d opened => ?_
  refine (allows_demand own (allows_textIn d range)).bind fun text _ => ?_
  refine (allows_demand own (allows_writeClipboard copies text)).bind fun _ _ => ?_
  exact .pure opened

theorem allows_openForInput {path : String} (own : Instruction.input = a.instruction)
    (opens : .openFile ∈ a.services) (writes : .write ∈ a.services)
    (inside : ∀ file, start.world.workspace.resolve path = .ok file → a.MayWrite start file) :
    (a.inScene start).Allows (openForInput path)
      fun d => d.path = path ∧ start.world.workspace.resolve path = .ok d.file := by
  have create : (a.inScene start).Allows (do
      demand .input (World.writeFile path "")
      demand .input (World.openFile path))
      fun d => d.path = path ∧ start.world.workspace.resolve path = .ok d.file := by
    refine (allows_demand own (allows_writeFile writes path "" inside)).bind fun _ _ => ?_
    exact allows_demand own (allows_openFile opens path)
  refine allows_attempt (allows_openFile opens path) (fun d opened => .pure opened) ?_ ?_
  · intro fault plain
    cases fault with
    | notFound missing => exact create
    | _ =>
        rw [own]
        exact allows_fail plain
  · intro text
    rw [own]

/-- The work of an action keeps to its footprint, if there is a document for it where it needs one.
-/
theorem conduct (a : Action) {start : Scene}
    (ready : a.instruction.needsDocument = true → start.session.active ≠ none) :
    (a.inScene start).Allows a.work fun _ => True := by
  cases a with
  | readFile path first last =>
      exact (allows_probe rfl (allows_readText List.mem_cons_self path)).returns _
  | listFiles path =>
      exact (allows_probe rfl (allows_listDirectory List.mem_cons_self path)).returns _
  | createFile path =>
      refine (allows_probe rfl (allows_writeFile List.mem_cons_self path "" ?_)).returns _
      exact fun file resolved => resolved
  | search query =>
      exact (allows_probe rfl (allows_search List.mem_cons_self query)).returns _
  | runInTerminal command =>
      refine Setting.Allows.returns ?_ _
      refine (allows_confirm List.mem_cons_self command).bind fun confirmed _ => ?_
      cases confirmed with
      | false => exact .pure trivial
      | true =>
          exact (allows_probe rfl (allows_runCommand List.mem_cons_self command)).returns _
  | undo =>
      refine Setting.Allows.returns ?_ _
      refine (allows_activeDocument (ready rfl)).bind fun d own => ?_
      have inside : Action.undo.MayWrite start d.file := ⟨d, own.resolve_right nofun, rfl⟩
      exact allows_demand rfl (allows_change inside .undo)
  | redo =>
      refine Setting.Allows.returns ?_ _
      refine (allows_activeDocument (ready rfl)).bind fun d own => ?_
      have inside : Action.redo.MayWrite start d.file := ⟨d, own.resolve_right nofun, rfl⟩
      exact allows_demand rfl (allows_change inside .redo)
  | input path position text =>
      refine Setting.Allows.returns ?_ _
      -- A file that is not there yet is created before it is opened.
      have creates : ∀ file, start.world.workspace.resolve path = .ok file →
          (Action.input path position text).MayWrite start file := fun _ resolved => resolved
      refine (allows_openForInput rfl List.mem_cons_self
        (List.mem_cons_of_mem _ List.mem_cons_self) creates).bind fun d opened => ?_
      have may : (Action.input path position text).MayActivate start
          { d with selection := .caret position } := opened
      refine (allows_activate may).bind fun _ _ => ?_
      have inside : (Action.input path position text).MayWrite start d.file := opened.2
      refine (allows_demand rfl (allows_change inside (.insert position text))).bind fun _ _ => ?_
      exact allows_demand rfl (allows_insertionWindow _ _ _)
  | select range =>
      refine Setting.Allows.returns ?_ _
      refine (allows_activeDocument (ready rfl)).bind fun d own => ?_
      have may : (Action.select range).MayActivate start { d with selection := range } := by
        rcases own with active | made
        · exact congrArg (Option.map _) active
        · obtain ⟨first, active, rfl⟩ := Option.map_eq_some_iff.mp made
          exact congrArg (Option.map _) active
      exact (allows_activate may).bind fun _ _ => allows_demand rfl (allows_textIn _ range)
  | replace path range text =>
      refine Setting.Allows.returns ?_ _
      refine (allows_demand rfl (allows_openFile List.mem_cons_self path)).bind fun d opened => ?_
      have may : (Action.replace path range text).MayActivate start d := opened
      refine (allows_activate may).bind fun _ _ => ?_
      have inside : (Action.replace path range text).MayWrite start d.file := opened.2
      exact allows_demand rfl (allows_change inside (.replace range text))
  | copy path range =>
      refine Setting.Allows.returns ?_ _
      exact (allows_copyRange rfl List.mem_cons_self (List.mem_cons_of_mem _ List.mem_cons_self)
        path range).bind fun _ _ => .pure trivial
  | cut path range =>
      refine Setting.Allows.returns ?_ _
      -- There must be an active document, but it is the one at the path that is cut from.
      refine (allows_activeDocument (ready rfl)).bind fun _ _ => ?_
      refine (allows_copyRange rfl List.mem_cons_self (List.mem_cons_of_mem _ List.mem_cons_self)
        path range).bind fun d opened => ?_
      have inside : (Action.cut path range).MayWrite start d.file := opened.2
      exact allows_demand rfl (allows_change inside (.delete range))
  | paste path position =>
      refine Setting.Allows.returns ?_ _
      refine (allows_activeDocument (ready rfl)).bind fun _ _ => ?_
      refine (allows_demand rfl (allows_openFile List.mem_cons_self path)).bind fun d opened => ?_
      refine (allows_demand rfl (allows_readClipboard
        (List.mem_cons_of_mem _ List.mem_cons_self))).bind fun text _ => ?_
      have may : (Action.paste path position).MayActivate start d := opened
      refine (allows_activate may).bind fun _ _ => ?_
      have inside : (Action.paste path position).MayWrite start d.file := opened.2
      exact allows_demand rfl (allows_change inside (.insert position text))
  | getSyntaxErrors =>
      refine Setting.Allows.returns ?_ _
      refine (allows_activeDocument (ready rfl)).bind fun d _ => ?_
      exact (allows_demand rfl (allows_diagnose List.mem_cons_self d.path)).returns _
  | memoryWrite text =>
      refine Setting.Allows.returns ?_ _
      exact allows_modifySession (f := fun s => { s with memory := s.memory ++ text })
        (fun _ => rfl) (fun _ => rfl) fun _ => rfl
  | readMemory => exact .of_completed fun s reached => ⟨_, s, rfl, trivial, reached, rfl⟩
  | clearMemory =>
      refine Setting.Allows.returns ?_ _
      exact allows_modifySession (f := fun s => { s with memory := "" }) (fun _ => rfl)
        (fun _ => rfl) fun _ => rfl
  | clearConversation =>
      refine Setting.Allows.returns ?_ _
      exact allows_modifySession (f := fun s => { s with history := [] }) (fun _ => rfl)
        (fun _ => rfl) fun _ => rfl

end Action

end ReplyScript
