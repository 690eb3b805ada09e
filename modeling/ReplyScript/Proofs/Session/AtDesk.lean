import ReplyScript.Proofs.Session.Batch
import ReplyScript.Proofs.Workspace.InStep
import ReplyScript.Proofs.World.Operations

/-! # Sessions at a desk

Whatever commands do to the workspace and to the active document is a run of happenings at a desk,
so what is true of every run is true of every batch. Only terminal commands are happenings from
outside.
-/

namespace ReplyScript

open Edit (Change Position Range)
open Effect Scene

namespace Desk

/-- The document has the file of a handle that was given out. -/
def Knows (desk : Desk) (d : Document) : Prop :=
  ∃ h ∈ desk.handles, h.path = d.path ∧ h.file = d.file

/-- A run of happenings of certain kinds, in which no handle is lost. -/
def Becomes (kinds : Happening → Bool) (desk next : Desk) : Prop :=
  ∃ happenings, (∀ h ∈ happenings, kinds h = true) ∧ next = desk.run happenings
    ∧ ∀ d ∈ desk.handles, d ∈ next.handles

/-- The desk has the workspace of the scene, and has given out a handle on its active document. -/
structure Serves (desk : Desk) (s : Scene) : Prop where
  workspace : desk.workspace = s.world.workspace
  active : ∀ d, s.session.active = some d → desk.Knows d

variable {kinds : Happening → Bool} {desk next : Desk}

namespace Becomes

theorem refl (kinds : Happening → Bool) (desk : Desk) : desk.Becomes kinds desk :=
  ⟨[], by simp, rfl, fun _ given => given⟩

theorem trans {last : Desk} (early : desk.Becomes kinds next) (late : next.Becomes kinds last) :
    desk.Becomes kinds last := by
  obtain ⟨first, allowed, rfl, kept⟩ := early
  obtain ⟨second, allowed', rfl, kept'⟩ := late
  refine ⟨first ++ second, ?_, ?_, fun d given => kept' d (kept d given)⟩
  · intro h member
    exact (List.mem_append.mp member).elim (allowed h) (allowed' h)
  · simp only [run, List.foldl_append]

theorem step {happening : Happening} (allowed : kinds happening = true)
    (kept : ∀ d ∈ desk.handles, d ∈ (desk.step happening).handles) :
    desk.Becomes kinds (desk.step happening) :=
  ⟨[happening], by simpa using allowed, rfl, kept⟩

theorem sound (becomes : desk.Becomes kinds next) (sound : desk.Sound) : next.Sound := by
  obtain ⟨happenings, -, rfl, -⟩ := becomes
  exact sound.run happenings

theorem knows (becomes : desk.Becomes kinds next) {d : Document} (knows : desk.Knows d) :
    next.Knows d := by
  obtain ⟨happenings, -, -, kept⟩ := becomes
  obtain ⟨h, given, same⟩ := knows
  exact ⟨h, kept h given, same⟩

end Becomes

/-- On a world with the workspace of the desk, the operation comes to a run there. -/
def Hosts (kinds : Happening → Bool) (desk : Desk) (op : WorldM α) (post : α → Desk → Prop) :
    Prop :=
  ∀ w, desk.workspace = w.workspace → ∃ next, desk.Becomes kinds next
    ∧ next.workspace = (op.run.run w).2.workspace
    ∧ ∀ a, (op.run.run w).1 = .ok a → post a next

/-- On a scene that the desk serves, the operation comes to a run there. -/
def Plays (kinds : Happening → Bool) (desk : Desk) (op : SceneM α) (post : α → Desk → Prop) :
    Prop :=
  ∀ s, desk.Serves s → ∃ next, desk.Becomes kinds next ∧ next.Serves (op.run.run s).2
    ∧ ∀ a, (op.run.run s).1 = .ok a → post a next

/-! ## Services -/

variable {α β : Type}

theorem hosts_still {op : WorldM α} (still : ∀ w, (op.run.run w).2.workspace = w.workspace) :
    Hosts kinds desk op fun _ _ => True := by
  intro w same
  exact ⟨desk, .refl kinds desk, by rw [still, same], fun _ _ => trivial⟩

theorem hosts_inWorkspace_still {op : WorkspaceM α} (still : ∀ w, (op.run.run w).2 = w) :
    Hosts kinds desk (World.inWorkspace op) fun _ _ => True :=
  hosts_still fun w => w.workspace_inWorkspace_of_still still

theorem hosts_search (query : String) : Hosts kinds desk (World.search query) fun _ _ => True :=
  hosts_still fun w => w.workspace_search query

theorem hosts_readClipboard : Hosts kinds desk World.readClipboard fun _ _ => True :=
  hosts_still fun w => w.workspace_readClipboard

theorem hosts_writeClipboard (text : String) :
    Hosts kinds desk (World.writeClipboard text) fun _ _ => True :=
  hosts_still fun w => w.workspace_writeClipboard text

theorem hosts_diagnose (path : String) :
    Hosts kinds desk (World.diagnose path) fun _ _ => True :=
  hosts_still fun w => w.workspace_diagnose path

section

variable (own : ∀ h, h.isInside = true → kinds h = true)

include own

theorem hosts_called {service : Service} {subject : String} {op : WorkspaceM α}
    {post : α → Desk → Prop} (happening : Happening) (inside : happening.isInside = true)
    (workspace : (desk.step happening).workspace = (op.run.run desk.workspace).2)
    (kept : ∀ d ∈ desk.handles, d ∈ (desk.step happening).handles)
    (result : ∀ a, (op.run.run desk.workspace).1 = .ok a → post a (desk.step happening)) :
    Hosts kinds desk (do World.call service subject; World.inWorkspace op) post := by
  intro w same
  rw [World.run_called]
  cases w.fault? service with
  | some fault => exact ⟨desk, .refl kinds desk, by simpa using same, by simp⟩
  | none =>
      rw [same] at workspace result
      exact ⟨desk.step happening, .step (own _ inside) kept, workspace, result⟩

theorem hosts_readText (path : String) :
    Hosts kinds desk (World.readText path) fun _ _ => True :=
  hosts_called own (.reads path) rfl rfl (fun _ given => given) fun _ _ => trivial

theorem hosts_writeFile (path text : String) :
    Hosts kinds desk (World.writeFile path text) fun _ _ => True :=
  hosts_called own (.writes path text) rfl rfl (fun _ given => given) fun _ _ => trivial

theorem hosts_listDirectory (path : String) :
    Hosts kinds desk (World.listDirectory path) fun _ _ => True :=
  hosts_called own (.lists path) rfl rfl (fun _ given => given) fun _ _ => trivial

theorem hosts_openFile (path : String) :
    Hosts kinds desk (World.openFile path) fun d desk => desk.Knows d := by
  rcases ran : (Workspace.openFile path).run.run desk.workspace with ⟨fault | d, workspace⟩
  · have opens : desk.step (.opens path) = { desk with workspace } := by
      simp only [step, ran]
    refine hosts_called own (.opens path) rfl ?_ ?_ ?_
    · rw [opens, ran]
    · rw [opens]
      exact fun _ given => given
    · simp [ran]
  · have opens : desk.step (.opens path) = ⟨workspace, desk.handles ++ [d]⟩ := by
      simp only [step, ran]
    refine hosts_called own (.opens path) rfl ?_ ?_ ?_
    · rw [opens, ran]
    · rw [opens]
      exact fun _ given => List.mem_append_left _ given
    · intro opened same
      rw [ran] at same
      cases same
      rw [opens]
      exact ⟨d, by simp, rfl, rfl⟩

theorem hosts_change {d : Document} (known : desk.Knows d) (c : Change) :
    Hosts kinds desk (World.inWorkspace (d.change c)) fun _ _ => True := by
  intro w same
  obtain ⟨h, given, path, file⟩ := known
  obtain ⟨i, found⟩ := List.getElem?_of_mem given
  have alike : h.change c = d.change c := by
    obtain ⟨p, f, selection⟩ := d
    obtain ⟨p', f', selection'⟩ := h
    obtain rfl : p' = p := path
    obtain rfl : f' = f := file
    cases c <;> rfl
  have stepped : desk.step (.changes i c) = desk.after (d.change c) := by
    simp only [step, found, alike]
  refine ⟨desk.step (.changes i c), .step (own _ rfl) ?_, ?_, fun _ _ => trivial⟩
  · rw [stepped]
    exact fun _ given => given
  · rw [stepped, World.run_inWorkspace, ← same]
    rfl

end

/-- A terminal command is something outside. -/
theorem hosts_runCommand (all : ∀ h, kinds h = true) (command : String) :
    Hosts kinds desk (World.runCommand command) fun _ _ => True := by
  intro w same
  obtain ⟨disk, changed⟩ := w.workspace_runCommand command
  refine ⟨desk.step (.outside disk), .step (all _) (fun _ given => given), ?_, fun _ _ => trivial⟩
  rw [changed, ← same]
  rfl

/-! ## Steps of actions -/

theorem plays_still {op : SceneM α}
    (workspace : ∀ s, (op.run.run s).2.world.workspace = s.world.workspace)
    (active : ∀ s, (op.run.run s).2.session.active = s.session.active) :
    Plays kinds desk op fun _ _ => True := by
  intro s serves
  refine ⟨desk, .refl kinds desk, ⟨?_, ?_⟩, fun _ _ => trivial⟩
  · rw [workspace, serves.workspace]
  · rw [active]
    exact serves.active

theorem plays_bind {x : SceneM α} {f : α → SceneM β} {mid : α → Desk → Prop}
    {post : β → Desk → Prop} (first : Plays kinds desk x mid)
    (rest : ∀ a next, desk.Becomes kinds next → mid a next → Plays kinds next (f a) post) :
    Plays kinds desk (x >>= f) post := by
  intro s serves
  obtain ⟨next, becomes, served, result⟩ := first s serves
  rw [run_bind]
  rcases ran : x.run.run s with ⟨e | a, t⟩
  · rw [ran] at served
    exact ⟨next, becomes, served, by simp⟩
  · rw [ran] at served result
    obtain ⟨last, later, servedLast, resultLast⟩ := rest a next becomes (result a rfl) t served
    exact ⟨last, becomes.trans later, servedLast, resultLast⟩

theorem plays_pure {a : α} {post : α → Desk → Prop} (holds : post a desk) :
    Plays kinds desk (pure a) post := by
  intro s serves
  refine ⟨desk, .refl kinds desk, serves, ?_⟩
  intro b same
  cases same
  exact holds

theorem plays_throw (e : CommandError) {post : α → Desk → Prop} :
    Plays kinds desk (throw e) post := by
  intro s serves
  exact ⟨desk, .refl kinds desk, serves, fun _ same => nomatch same⟩

theorem plays_attempt {op : WorldM α} {post : α → Desk → Prop} (hosts : Hosts kinds desk op post) :
    Plays kinds desk (attempt op) fun result desk => ∀ a, result = .ok a → post a desk := by
  intro s serves
  obtain ⟨next, becomes, same, result⟩ := hosts s.world serves.workspace
  rw [run_attempt]
  refine ⟨next, becomes, ⟨same, ?_⟩, ?_⟩
  · intro d active
    exact becomes.knows (serves.active d active)
  · intro outcome given a ok
    cases given
    exact result a ok

theorem plays_demand {i : Instruction} {op : WorldM α} {post : α → Desk → Prop}
    (hosts : Hosts kinds desk op post) : Plays kinds desk (demand i op) post := by
  refine plays_bind (plays_attempt hosts) ?_
  intro outcome next _ holds
  cases outcome with
  | error f => exact plays_throw _
  | ok a => exact plays_pure (holds a rfl)

theorem plays_probe {i : Instruction} {op : WorldM α} {post : α → Desk → Prop}
    (hosts : Hosts kinds desk op post) : Plays kinds desk (probe i op) fun _ _ => True := by
  refine plays_bind (plays_attempt hosts) ?_
  intro outcome next _ _
  cases outcome with
  | error f =>
      simp only
      split
      · exact plays_throw _
      · exact plays_pure trivial
  | ok a => exact plays_pure trivial

theorem plays_activeDocument (i : Instruction) :
    Plays kinds desk (activeDocument i) fun d desk => desk.Knows d := by
  intro s serves
  rw [run_activeDocument]
  cases active : s.session.active with
  | none => exact ⟨desk, .refl kinds desk, serves, by simp⟩
  | some d =>
      refine ⟨desk, .refl kinds desk, serves, ?_⟩
      intro other same
      cases same
      exact serves.active d active

theorem plays_activate {d : Document} (known : desk.Knows d) :
    Plays kinds desk (activate d) fun _ desk => desk.Knows d := by
  intro s serves
  rw [run_activate]
  refine ⟨desk, .refl kinds desk, ⟨serves.workspace, ?_⟩, fun _ _ => known⟩
  intro other active
  cases active
  exact known

theorem plays_respond (i : Instruction) (payload : String) :
    Plays kinds desk (respond i payload) fun _ _ => True :=
  plays_still (fun _ => rfl) fun _ => rfl

theorem plays_confirm (command : String) :
    Plays kinds desk (confirm command) fun _ _ => True :=
  plays_still (fun s => s.world.workspace_confirm command) fun _ => rfl

/-! ## Actions -/

theorem plays_select (range : Range) :
    Plays kinds desk (performSelect range) fun _ _ => True := by
  refine plays_bind (plays_activeDocument _) ?_
  intro d next _ known
  refine plays_bind (plays_activate known) ?_
  intro done next _ _
  refine plays_bind (plays_demand (hosts_inWorkspace_still (Document.run_textIn_state _ · _))) ?_
  intro text next _ _
  exact plays_respond _ _

section

variable (own : ∀ h, h.isInside = true → kinds h = true)

include own

theorem plays_openForInput (path : String) :
    Plays kinds desk (openForInput path) fun d desk => desk.Knows d := by
  refine plays_bind (plays_attempt (hosts_openFile own path)) ?_
  intro result next _ opened
  cases result with
  | ok d => exact plays_pure (opened d rfl)
  | error f =>
      cases f with
      | notFound missing =>
          refine plays_bind (plays_demand (hosts_writeFile own path "")) ?_
          intro done last _ _
          exact plays_demand (hosts_openFile own path)
      | _ => exact plays_throw _

theorem plays_input (path : String) (position : Position) (text : String) :
    Plays kinds desk (performInput path position text) fun _ _ => True := by
  refine plays_bind (plays_openForInput own path) ?_
  intro d next _ known
  refine plays_bind (plays_activate known) ?_
  intro done next _ known
  refine plays_bind (plays_demand (hosts_change own known (.insert position text))) ?_
  intro done next _ _
  refine plays_bind (plays_demand (hosts_inWorkspace_still (run_insertionWindow_state _ _ _))) ?_
  intro window next _ _
  exact plays_respond _ _

theorem plays_replace (path : String) (range : Range) (text : String) :
    Plays kinds desk (performReplace path range text) fun _ _ => True := by
  refine plays_bind (plays_demand (hosts_openFile own path)) ?_
  intro d next _ known
  refine plays_bind (plays_activate known) ?_
  intro done next _ known
  exact plays_demand (hosts_change own known (.replace range text))

theorem plays_copyRange (i : Instruction) (path : String) (range : Range) :
    Plays kinds desk (copyRange i path range) fun d desk => desk.Knows d := by
  refine plays_bind (plays_demand (hosts_openFile own path)) ?_
  intro d next _ known
  refine plays_bind (plays_demand (hosts_inWorkspace_still (Document.run_textIn_state _ · _))) ?_
  intro text next becomes _
  have known := becomes.knows known
  refine plays_bind (plays_demand (hosts_writeClipboard text)) ?_
  intro done next becomes _
  exact plays_pure (becomes.knows known)

theorem plays_cut (path : String) (range : Range) :
    Plays kinds desk (performCut path range) fun _ _ => True := by
  refine plays_bind (plays_activeDocument _) ?_
  intro active next _ _
  refine plays_bind (plays_copyRange own _ path range) ?_
  intro d next _ known
  exact plays_demand (hosts_change own known (.delete range))

theorem plays_paste (path : String) (position : Position) :
    Plays kinds desk (performPaste path position) fun _ _ => True := by
  refine plays_bind (plays_activeDocument _) ?_
  intro active next _ _
  refine plays_bind (plays_demand (hosts_openFile own path)) ?_
  intro d next _ known
  refine plays_bind (plays_demand hosts_readClipboard) ?_
  intro text next becomes _
  refine plays_bind (plays_activate (becomes.knows known)) ?_
  intro done next _ known
  exact plays_demand (hosts_change own known (.insert position text))

end

theorem plays_looking {i : Instruction} {op : WorldM α} {f : Except String α → SceneM Unit}
    {post : α → Desk → Prop} (hosts : Hosts kinds desk op post)
    (tells : ∀ result next, Plays kinds next (f result) fun _ _ => True) :
    Plays kinds desk (probe i op >>= f) fun _ _ => True :=
  plays_bind (plays_probe hosts) fun result next _ _ => tells result next

/-- Every action comes to a run of happenings, inside unless it is one for the terminal. -/
theorem plays_action (own : ∀ h, h.isInside = true → kinds h = true) {a : Action}
    (terminal : ∀ command, a = .runInTerminal command → ∀ h, kinds h = true) :
    Plays kinds desk a.perform fun _ _ => True := by
  cases a with
  | readFile path start stop =>
      refine plays_looking (hosts_readText own path) ?_
      intro result next
      cases result with
      | error text => exact plays_respond _ _
      | ok content => exact plays_still (fun _ => rfl) fun _ => rfl
  | listFiles path =>
      refine plays_looking (hosts_listDirectory own path) ?_
      intro result next
      cases result with
      | error text => exact plays_respond _ _
      | ok entries => exact plays_respond _ _
  | createFile path =>
      refine plays_looking (hosts_writeFile own path "") ?_
      intro result next
      cases result with
      | error text => exact plays_respond _ _
      | ok done => exact plays_pure trivial
  | undo =>
      refine plays_bind (plays_activeDocument _) ?_
      intro d next _ known
      exact plays_demand (hosts_change own known .undo)
  | redo =>
      refine plays_bind (plays_activeDocument _) ?_
      intro d next _ known
      exact plays_demand (hosts_change own known .redo)
  | input path position text => exact plays_input own path position text
  | select range => exact plays_select range
  | replace path range text => exact plays_replace own path range text
  | copy path range =>
      refine plays_bind (plays_copyRange own _ path range) ?_
      intro d next _ _
      exact plays_pure trivial
  | cut path range => exact plays_cut own path range
  | paste path position => exact plays_paste own path position
  | getSyntaxErrors =>
      refine plays_bind (plays_activeDocument _) ?_
      intro d next _ _
      refine plays_bind (plays_demand (hosts_diagnose d.path)) ?_
      intro diagnostics next _ _
      exact plays_respond _ _
  | search query =>
      refine plays_looking (hosts_search query) ?_
      intro result next
      cases result with
      | error text => exact plays_respond _ _
      | ok hits => exact plays_respond _ _
  | runInTerminal command =>
      have all := terminal command rfl
      refine plays_bind (plays_confirm command) ?_
      intro confirmed next _ _
      cases confirmed with
      | false => exact plays_respond _ _
      | true =>
          refine plays_looking (hosts_runCommand all command) ?_
          intro result next
          cases result with
          | error text => exact plays_respond _ _
          | ok output => exact plays_respond _ _
  | memoryWrite text => exact plays_still (fun _ => rfl) fun _ => rfl
  | readMemory => exact plays_still (fun _ => rfl) fun _ => rfl
  | clearMemory => exact plays_still (fun _ => rfl) fun _ => rfl
  | clearConversation => exact plays_still (fun _ => rfl) fun _ => rfl

theorem plays_command (own : ∀ h, h.isInside = true → kinds h = true) {c : Script.Command}
    (terminal : ∀ command, c.action? = .ok (some (.runInTerminal command)) →
      ∀ h, kinds h = true) :
    Plays kinds desk c.perform fun _ _ => True := by
  unfold Script.Command.perform
  cases action : c.action? with
  | error problem => exact plays_throw _
  | ok known =>
      cases known with
      | none => exact plays_pure trivial
      | some a =>
          refine plays_action own ?_
          rintro command rfl
          exact terminal command action

theorem Serves.commands (own : ∀ h, h.isInside = true → kinds h = true)
    {cs : List Script.Command} (terminal : ∀ c ∈ cs, ∀ command,
      c.action? = .ok (some (.runInTerminal command)) → ∀ h, kinds h = true)
    {s : Scene} (serves : desk.Serves s) (index : Nat) :
    ∃ next, desk.Becomes kinds next ∧ next.Serves (performFrom index cs s).2 := by
  induction cs generalizing desk s index with
  | nil => exact ⟨desk, .refl kinds desk, serves⟩
  | cons c rest ih =>
      obtain ⟨next, becomes, served, -⟩ :=
        plays_command own (terminal c List.mem_cons_self) s serves
      rw [performFrom_cons]
      rcases ran : c.perform.run.run s with ⟨e | done, t⟩
      · rw [ran] at served
        exact ⟨next, becomes, served⟩
      · rw [ran] at served
        obtain ⟨last, later, servedLast⟩ :=
          ih (fun c member => terminal c (List.mem_cons_of_mem _ member)) served (index + 1)
        exact ⟨last, becomes.trans later, servedLast⟩

/-- A batch is a run of happenings. -/
theorem Serves.batch {s : Scene} (serves : desk.Serves s) (cs : List Script.Command) :
    ∃ next, desk.Becomes (fun _ => true) next ∧ next.Serves (performAll cs s).2 :=
  serves.commands (fun _ _ => rfl) (fun _ _ _ _ _ => rfl) 0

/-- Commands without any for the terminal are a run of happenings inside. -/
theorem Serves.commandsInside {s : Scene} (serves : desk.Serves s) {cs : List Script.Command}
    (noTerminal : ∀ c ∈ cs, ∀ command, c.action? ≠ .ok (some (.runInTerminal command)))
    (index : Nat) :
    ∃ next, desk.Becomes Happening.isInside next
      ∧ next.Serves (performFrom index cs s).2 :=
  serves.commands (fun _ inside => inside)
    (fun c member command action => absurd action (noTerminal c member command)) index

end Desk

end ReplyScript
