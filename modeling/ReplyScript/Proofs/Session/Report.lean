import ReplyScript.Proofs.Session.Ledger

/-! # Actions as work and report

An action does its work first. If that comes to its end, it reports what came of it: a snippet, a
text for the model, both, or nothing. Reporting never fails. Main statement: `Action.run_perform`.
-/

namespace ReplyScript

open Effect Scene
open Json (Value)
open Prompt (Snippet)

/-- What an action has to report. -/
structure Report where
  snippet? : Option Snippet := none
  payload? : Option String := none

namespace Report

def text (payload : String) : Report where
  payload? := payload

/-- The report on a file that was to be read. -/
def ofFile (path : String) (start stop : Option Nat) : Except String String → Report
  | .error failure => text failure
  | .ok content =>
      let snippet := captureSnippet path content start stop
      ⟨snippet, "attached \"" ++ path ++ "\" as context ("
        ++ toString (Text.lineCount snippet.content) ++ " lines)"⟩

/-- The report on a file that was to be created. -/
def ofCreation : Except String Unit → Report
  | .error failure => text failure
  | .ok () => {}

variable (i : Instruction) (r : Report)

/-- Report on an instruction. -/
def give : SceneM Unit := do
  match r.snippet? with
  | some snippet =>
      modifySession fun s => { s with snippets := s.snippets ++ [snippet] }
      record (.snippets ((← get).session.snippets.map Snippet.location))
  | none => pure ()
  match r.payload? with
  | some payload => respond i payload
  | none => pure ()

/-- The block that a report adds to the text for the next request. -/
def block? : Option String :=
  r.payload?.map (Prompt.responseBlock i.name)

def session (s : Session) : Session :=
  { s with
    snippets := s.snippets ++ r.snippet?.toList
    request := ((r.block? i).map (joinText s.request)).getD s.request }

/-- What a report shows. -/
def events (s : Session) : List Event :=
  (r.snippet?.map fun snippet => .snippets ((s.snippets ++ [snippet]).map Snippet.location)).toList
    ++ ((r.block? i).map fun block => .request (joinText s.request block)).toList

def scene (s : Scene) : Scene where
  session := r.session i s.session
  world := { s.world with events := s.world.events ++ r.events i s.session }

end Report

/-- What an action does before it reports. -/
def Action.work : Action → SceneM Report
  | readFile path start stop => do
      return .ofFile path start stop (← probe .readFile (World.readText path))
  | listFiles path => do
      return .text (noted (fun entries =>
          Text.unlines (entries.map fun (name, kind) => name ++ " (" ++ kind.name ++ ")"))
        (← probe .listFiles (World.listDirectory path)))
  | createFile path => do return .ofCreation (← probe .createFile (World.writeFile path ""))
  | input path position text => do return .text (← insertAndShow path position text)
  | select range => do return .text (← selectAndShow range)
  | getSyntaxErrors => do return .text (← diagnoseAndShow)
  | search query => do
      return .text (noted (fun hits => (Value.array (hits.map Hit.toValue)).pretty)
        (← probe .search (World.search query)))
  | runInTerminal command => do return .text (← runAndShow command)
  | readMemory => do return .text (← get).session.memory
  | a => do
      -- The others have nothing to report.
      a.perform
      return {}

/-! ## Performing -/

namespace Report

variable (i : Instruction) (r : Report) (s : Scene)

theorem run_give : (r.give i).run.run s = (.ok (), r.scene i s) := by
  unfold scene session events block? give
  rcases r with ⟨_ | snippet, _ | payload⟩
  · simp only [Option.map_none, Option.toList_none, List.append_nil, Option.getD_none]
    rfl
  · simp only [Option.map_none, Option.toList_none, List.append_nil, List.nil_append]
    rfl
  · simp only [Option.map_none, Option.toList_none, List.append_nil]
    rfl
  · simp only [Option.map_some, Option.toList_some, Option.getD_some]
    rw [← List.append_assoc]
    rfl

end Report

theorem bind_tell {α : Type} (i : Instruction) (op : SceneM α) (words : α → Report)
    {tell : α → SceneM Unit} (tells : ∀ a, tell a = (words a).give i) :
    op >>= tell = (do return words (← op)) >>= Report.give i := by
  simp only [bind_assoc, pure_bind]
  congr 1
  funext a
  exact tells a

theorem bind_silent (i : Instruction) (op : SceneM Unit) :
    op = (do op; return {}) >>= Report.give i := by
  simp only [bind_assoc, pure_bind]
  exact (bind_pure op).symm

namespace Action

/-- Every action does its work and then reports. -/
theorem perform_eq (a : Action) : a.perform = a.work >>= Report.give a.instruction := by
  cases a with
  | readFile path start stop =>
      refine bind_tell .readFile _ _ ?_
      intro result
      cases result <;> rfl
  | listFiles path =>
      refine bind_tell .listFiles _ _ ?_
      intro result
      cases result <;> rfl
  | createFile path =>
      refine bind_tell .createFile _ _ ?_
      intro result
      cases result <;> rfl
  | input path position text =>
      exact (performInput_eq path position text).trans (bind_tell .input _ _ fun _ => rfl)
  | select range => exact (performSelect_eq range).trans (bind_tell .select _ _ fun _ => rfl)
  | getSyntaxErrors =>
      exact performGetSyntaxErrors_eq.trans (bind_tell .getSyntaxErrors _ _ fun _ => rfl)
  | search query =>
      refine bind_tell .search _ _ ?_
      intro result
      cases result <;> rfl
  | runInTerminal command =>
      exact (performRunInTerminal_eq command).trans (bind_tell .runInTerminal _ _ fun _ => rfl)
  | readMemory => exact bind_tell .readMemory get _ fun _ => rfl
  | _ => exact bind_silent _ _

/-- Performing an action fails if its work does. If not, the scene is that after the report. -/
theorem run_perform (a : Action) (s : Scene) :
    a.perform.run.run s = match a.work.run.run s with
      | (.ok r, t) => (.ok (), r.scene a.instruction t)
      | (.error e, t) => (.error e, t) := by
  rw [perform_eq, run_bind]
  rcases a.work.run.run s with ⟨e | r, t⟩
  · rfl
  · exact r.run_give a.instruction t

end Action

end ReplyScript
