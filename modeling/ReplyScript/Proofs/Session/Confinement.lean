import Mathlib.Data.List.Induction
import ReplyScript.Proofs.Session.History
import ReplyScript.Proofs.Session.Outcomes

/-! # What commands leave alone

Every command touches only what belongs to it, whether it completes or fails: the memory, the
history, the snippets, the active document, the clipboard, the terminal and the files. Main
statement: `performAll_confined`.
-/

namespace ReplyScript

open Disk (Path)
open Effect Scene
open Prompt (Snippet)
open Script (Command)

/-! ## The memory -/

def Action.clearsMemory : Action → Bool
  | clearMemory => true
  | _ => false

/-- The text that an action writes to the memory. -/
def Action.written? : Action → Option String
  | memoryWrite text => some text
  | _ => none

/-- The texts written since the memory was last cleared, or from the beginning. -/
def writtenSinceClear (actions : List Action) : List String :=
  (actions.reverse.takeWhile fun a => !a.clearsMemory).reverse.filterMap Action.written?

/-- The memory after actions: what was there if it has not been cleared since, and the texts that
were written. -/
def memoryAfterAll (memory : String) (actions : List Action) : String :=
  (if actions.any Action.clearsMemory then "" else memory)
    ++ String.join (writtenSinceClear actions)

theorem writtenSinceClear_concat (actions : List Action) {a : Action}
    (kept : a.clearsMemory = false) :
    writtenSinceClear (actions ++ [a]) = writtenSinceClear actions ++ a.written?.toList := by
  unfold writtenSinceClear
  rw [List.reverse_concat, List.takeWhile_cons, kept]
  simp only [Bool.not_false, if_true, List.reverse_cons, List.filterMap_append]
  cases written : a.written? <;> simp [written]

theorem memoryAfterAll_concat (memory : String) (actions : List Action) (a : Action) :
    memoryAfterAll memory (actions ++ [a]) = a.memoryAfter (memoryAfterAll memory actions) := by
  unfold memoryAfterAll
  rw [List.any_append]
  cases clears : a.clearsMemory with
  | true =>
      cases a with
      | clearMemory => simp [writtenSinceClear, Action.clearsMemory, Action.memoryAfter]
      | _ => cases clears
  | false =>
      have told : a.memoryAfter (memoryAfterAll memory actions)
          = memoryAfterAll memory actions ++ String.join a.written?.toList := by
        cases a with
        | clearMemory => cases clears
        | _ => simp [Action.memoryAfter, Action.written?]
      rw [writtenSinceClear_concat actions clears, List.any_cons, clears, List.any_nil,
        Bool.or_false, Bool.or_false, String.join_append, ← String.append_assoc]
      exact told.symm

theorem foldl_memoryAfter (memory : String) (actions : List Action) :
    actions.foldl (fun m a => a.memoryAfter m) memory = memoryAfterAll memory actions := by
  induction actions using List.reverseRecOn with
  | nil => simp [memoryAfterAll, writtenSinceClear]
  | append_singleton actions a ih =>
      rw [List.foldl_concat, ih, memoryAfterAll_concat]

example : memoryAfterAll "a" [.memoryWrite "b", .clearMemory, .memoryWrite "c", .memoryWrite "d"]
    = "cd" := by decide

theorem memory_action (a : Action) (s : Scene) :
    (a.perform.run.run s).2.session.memory = a.memoryAfter s.session.memory := by
  have lasting : Session.Lasting Session.memory :=
    ⟨fun _ _ => rfl, fun _ _ => rfl, fun _ _ => rfl⟩
  -- The memory lasts through all actions but the three about the past.
  cases about : a.isAboutPast with
  | false =>
      have same : a.memoryAfter s.session.memory = s.session.memory := by
        cases a with
        | memoryWrite text => cases about
        | clearMemory => cases about
        | _ => rfl
      rw [same]
      exact lasting.action about s
  | true =>
      cases a with
      | memoryWrite text => rfl
      | clearMemory => rfl
      | clearConversation => rfl
      | _ => cases about

/-! ## The terminal -/

theorem events_runAndShow (command : String) (s : Scene) :
    ((runAndShow command).run.run s).2.world.events
      = s.world.events ++ s.world.terminalEvents command := by
  have asked := s.world.events_confirm command
  have faults := s.world.faults_confirm command
  have call : (s.world.confirm command).2.terminalCall command = s.world.terminalCall command := by
    unfold World.terminalCall World.fault?
    rw [faults]
  unfold runAndShow World.terminalEvents
  rw [run_bind, run_confirm, ← List.append_assoc]
  simp only
  cases (s.world.confirm command).1 with
  | false =>
      simp only [Bool.false_eq_true, if_false, List.append_nil]
      exact asked
  | true =>
      have ran := (s.world.confirm command).2.events_runCommand command
      simp only [if_true]
      rw [← asked, ← call, ← ran, run_bind, run_probe]
      rcases (World.runCommand command).run.run (s.world.confirm command).2 with ⟨f | output, world⟩
      · cases f <;> rfl
      · rfl

theorem Action.terminal_of_services {a : Action} (may : Service.terminal ∈ a.services) :
    ∃ command, a = .runInTerminal command := by
  cases a with
  | runInTerminal command => exact ⟨command, rfl⟩
  | _ => simp [services] at may

theorem Action.copies_of_services {a : Action} (may : Service.writeClipboard ∈ a.services) :
    ∃ path range, a = .copy path range ∨ a = .cut path range := by
  cases a with
  | copy path range => exact ⟨path, range, .inl rfl⟩
  | cut path range => exact ⟨path, range, .inr rfl⟩
  | _ => simp [services] at may

/-! ## Actions -/

theorem Action.snippets_perform (a : Action) (s : Scene) :
    (a.perform.run.run s).2.session.snippets = s.session.snippets ++ (a.attached s).toList := by
  have added := congrArg Outbox.snippets (a.adds s [])
  refine added.trans ?_
  unfold Action.entries
  cases a.attached s <;> cases a.told s <;> simp [Outbox.enter, Session.outbox]

/-- The work of an action reaches a scene, and all that is done then is to tell. -/
theorem Action.Outcome.reached {a : Action} {s : Scene} {run : Except CommandError Unit × Scene}
    (outcome : a.Outcome s run) : ∃ t told, a.Reaches s t
      ∧ run.2.session.active = t.session.active
      ∧ run.2.world = { t.world with events := t.world.events ++ told }
      ∧ (∀ e ∈ told, e.service? = none)
      ∧ ∀ command, a = .runInTerminal command →
        t.world.events = s.world.events ++ s.world.terminalEvents command := by
  -- What the terminal shows is shown by the work, whether that fails or not.
  have terminal {command : String} {result : Except CommandError Report} {t : Scene}
      (worked : (Action.runInTerminal command).work.run.run s = (result, t)) :
      t.world.events = s.world.events ++ s.world.terminalEvents command := by
    have shown := events_runAndShow command s
    have parts : (Action.runInTerminal command).work = (do return .text (← runAndShow command)) :=
      rfl
    rw [parts, run_bind] at worked
    rcases ran : (runAndShow command).run.run s with ⟨e | text, u⟩
    · rw [ran] at worked shown
      cases worked
      exact shown
    · rw [ran] at worked shown
      cases worked
      exact shown
  cases outcome with
  | unready needs none =>
      refine ⟨s, [], .refl a s, rfl, ?_, nofun, ?_⟩
      · rw [List.append_nil]
      · rintro command rfl
        cases needs
  | failed fault t ready worked reached =>
      refine ⟨t, [], reached, rfl, ?_, nofun, ?_⟩
      · rw [List.append_nil]
      · rintro command rfl
        exact terminal worked
  | completed r t ready worked reached =>
      refine ⟨t, r.events a.instruction t.session, reached, rfl, rfl, ?_, ?_⟩
      · intro e member
        rcases List.mem_append.mp member with shown | told
        · obtain ⟨snippet, -, rfl⟩ := Option.map_eq_some_iff.mp (Option.mem_toList.mp shown)
          rfl
        · obtain ⟨block, -, rfl⟩ := Option.map_eq_some_iff.mp (Option.mem_toList.mp told)
          rfl
      · rintro command rfl
        exact terminal worked

/-! ## Deeds -/

namespace Deed

/-- The snippet that the command attaches. -/
def attached? (d : Deed) : Option Snippet :=
  d.action?.bind fun a => a.attached d.before

/-- The command may create or change the file. -/
def MayWrite (d : Deed) (file : Path) : Prop :=
  ∃ a, d.action? = some a ∧ a.MayWrite d.before file

/-- The command has changed nothing but what belongs to it. -/
structure Confined (d : Deed) : Prop where
  memory : d.after.session.memory
    = (d.action?.map fun a => a.memoryAfter d.before.session.memory).getD d.before.session.memory
  history : d.after.session.history
    = if d.action? = some .clearConversation then [] else d.before.session.history
  snippets : d.after.session.snippets = d.before.session.snippets ++ d.attached?.toList
  active : d.after.session.active = d.before.session.active ∨ ∃ a document, d.action? = some a
    ∧ a.MayActivate d.before document ∧ d.after.session.active = some document
  clipboard : d.after.world.clipboard = d.before.world.clipboard ∨ ∃ path range,
    d.action? = some (.copy path range) ∨ d.action? = some (.cut path range)
  /-- Services are called before anything is told. -/
  events : ∃ worked told, d.after.world.events = d.before.world.events ++ worked ++ told
    ∧ (∀ e ∈ worked, ∃ a service, d.action? = some a ∧ service ∈ a.services
      ∧ e.service? = some service)
    ∧ (∀ command, d.action? = some (.runInTerminal command) →
      worked = d.before.world.terminalEvents command)
    ∧ ∀ e ∈ told, e.service? = none
  files : (∀ command, d.action? ≠ some (.runInTerminal command)) →
    d.after.world.workspace.disk.Spares d.before.world.workspace.disk d.MayWrite

variable {d : Deed}

theorem confined_of_no_action (none : d.action? = none) : d.Confined := by
  have same := after_of_no_action none
  refine ⟨?_, ?_, ?_, ?_, ?_, ?_, ?_⟩
  · rw [same, none]
    rfl
  · rw [same, none]
    rfl
  · rw [same, attached?, none]
    exact (List.append_nil _).symm
  · exact .inl (by rw [same])
  · exact .inl (by rw [same])
  · refine ⟨[], [], ?_, nofun, ?_, nofun⟩
    · rw [same, List.append_nil, List.append_nil]
    · rw [none]
      exact nofun
  · intro _
    rw [same]
    exact .refl _ _

theorem confined_of_action {a : Action} (asked : d.action? = some a) : d.Confined := by
  have outcome := a.outcome d.before
  have after := after_of_action asked
  obtain ⟨t, told, reached, active, world, silent, terminal⟩ := outcome.reached
  rw [← after] at active world
  refine ⟨?_, ?_, ?_, ?_, ?_, ?_, ?_⟩
  · rw [after, asked]
    exact memory_action a d.before
  · rw [after, asked, history_action]
    cases a <;> rfl
  · rw [after, attached?, asked]
    exact a.snippets_perform d.before
  · rw [active, asked]
    rcases reached.active with same | ⟨document, made, may⟩
    · exact .inl same
    · exact .inr ⟨a, document, rfl, may, made⟩
  · rw [world, asked]
    by_cases may : Service.writeClipboard ∈ a.services
    · obtain ⟨path, range, same | same⟩ := Action.copies_of_services may
      · exact .inr ⟨path, range, .inl (congrArg some same)⟩
      · exact .inr ⟨path, range, .inr (congrArg some same)⟩
    · exact .inl (reached.world.clipboard may)
  · obtain ⟨worked, events, allowed⟩ := reached.world.events
    refine ⟨worked, told, ?_, ?_, ?_, silent⟩
    · rw [world]
      simp only
      rw [events]
    · intro e member
      obtain ⟨service, may, shows_⟩ := allowed e member
      exact ⟨a, service, asked, may, shows_⟩
    · intro command same
      rw [asked] at same
      have shown := terminal command (Option.some.inj same)
      rw [events] at shown
      exact List.append_cancel_left shown
  · intro other
    rw [world]
    have spared : t.world.workspace.disk.Spares d.before.world.workspace.disk
        (a.MayWrite d.before) := by
      refine reached.world.disk fun may => ?_
      obtain ⟨command, same⟩ := Action.terminal_of_services may
      exact other command (asked.trans (congrArg some same))
    exact spared.mono fun file inside => ⟨a, asked, inside⟩

theorem confined (d : Deed) : d.Confined := by
  cases asked : d.action? with
  | none => exact confined_of_no_action asked
  | some a => exact confined_of_action asked

end Deed

/-! ## Batches -/

theorem commands_deeds (cs : List Command) (s : Scene) :
    (deeds cs s).map Deed.command <+: cs := by
  have performed := performAll_deeds cs s
  cases aborted : (performAll cs s).1 with
  | none =>
      rw [aborted] at performed
      simp only [performed.1, List.prefix_rfl]
  | some a =>
      rw [aborted] at performed
      obtain ⟨early, d, -, -, commands, -⟩ := performed
      exact commands

theorem memory_linked {s t : Scene} {ds : List Deed} (linked : Linked s ds t) :
    t.session.memory = memoryAfterAll s.session.memory (ds.filterMap Deed.action?) := by
  rw [← foldl_memoryAfter]
  induction ds generalizing s with
  | nil => exact congrArg (·.session.memory) linked.symm
  | cons d rest ih =>
      obtain ⟨rfl, later⟩ := linked
      rw [ih later, d.confined.memory]
      cases asked : d.action? <;> simp [asked]

/-- If what runs in the terminal leaves no links, then nothing does. -/
theorem linkFree_linked {s t : Scene} {ds : List Deed} (linked : Linked s ds t)
    (linkFree : s.world.workspace.disk.LinkFree)
    (terminal : ∀ d ∈ ds, ∀ command, d.action? = some (.runInTerminal command) →
      d.before.world.workspace.disk.LinkFree → d.after.world.workspace.disk.LinkFree) :
    ∀ d ∈ ds, d.before.world.workspace.disk.LinkFree := by
  induction ds generalizing s with
  | nil => exact nofun
  | cons d rest ih =>
      obtain ⟨rfl, later⟩ := linked
      -- Links are not made by files that are written, so only the terminal has to be spoken of.
      have after : d.after.world.workspace.disk.LinkFree := by
        by_cases runs : ∃ command, d.action? = some (.runInTerminal command)
        · obtain ⟨command, asked⟩ := runs
          exact terminal d List.mem_cons_self command asked linkFree
        · exact (d.confined.files (not_exists.mp runs) linkFree).1
      exact List.forall_mem_cons.mpr ⟨linkFree, ih later after fun other member =>
        terminal other (List.mem_cons_of_mem _ member)⟩

/-- A batch, be it given up or not, is a chain of its first commands, each of which touches only
what belongs to it. So the memory is what was written since it was last cleared, and if there are no
links then no file is created or changed but those that the commands name, or that are active. -/
theorem performAll_confined (cs : List Command) (s : Scene) :
    let t := (performAll cs s).2
    (deeds cs s).map Deed.command <+: cs ∧ Linked s (deeds cs s) t
      ∧ (∀ d ∈ deeds cs s, d.Confined)
      ∧ t.session.memory = memoryAfterAll s.session.memory ((deeds cs s).filterMap Deed.action?)
      ∧ (s.world.workspace.disk.LinkFree →
        (∀ d ∈ deeds cs s, ∀ command, d.action? = some (.runInTerminal command) →
          d.before.world.workspace.disk.LinkFree → d.after.world.workspace.disk.LinkFree) →
        ∀ d ∈ deeds cs s, d.before.world.workspace.disk.LinkFree) := by
  intro t
  have linked : Linked s (deeds cs s) t := linked_deeds cs s
  exact ⟨commands_deeds cs s, linked, fun d _ => d.confined, memory_linked linked,
    linkFree_linked linked⟩

end ReplyScript
