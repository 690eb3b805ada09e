import ReplyScript.Proofs.Session.AtDesk
import ReplyScript.Proofs.World.Spares

/-! # What commands report of files

Commands that attach, copy or cut read the disk at the moment they run. `@select` reads the buffer
of the active document, which may have fallen behind. Main statement: `reports_disk_iff`.
-/

namespace ReplyScript

open Disk (Path)
open Edit (Buffer Range textBetween?)
open Prompt (Snippet)
open Effect Scene
open Script (Command)

/-- The text that a file has on the disk. -/
def Scene.textAt (s : Scene) (path : String) : Except Fault String :=
  match s.world.workspace.resolve path with
  | .error fault => .error fault
  | .ok file => match s.world.workspace.disk.readText file with
    | .ok text => .ok text
    | .error e => .error (.ofFileError path e)

/-- The part of a file that an active document shows, as it is on the disk. -/
def Document.diskPart? (d : Document) (s : Scene) (range : Range) : Option String :=
  (s.world.workspace.disk.readText d.file).toOption.bind (textBetween? · range)

/-- The same part, as it is in the buffer. -/
def Document.bufferPart? (d : Document) (s : Scene) (range : Range) : Option String :=
  textBetween? (d.buffer s.world.workspace).text range

/-- The lines `first` to `last` of a text. -/
def Text.linesBetween (text : String) (first last : Nat) : List String :=
  (List.range' first (last + 1 - first)).map fun n => (lines text)[n]?.getD ""

/-- What is attached of a file: all of it, or the lines from one to another, at most to the last. -/
def attachment (path text : String) : (start stop : Option Nat) → Snippet
  | none, _ => .file path text
  | some first, stop =>
      let last := min (stop.getD (Text.lineCount text - 1)) (Text.lineCount text - 1)
      .selection path (Text.unlines (Text.linesBetween text first last)) first

/-- What a completed action reports or captures of a file is the part it was asked for of the text
on the disk, as it was when the action began. A file that is not attached is not reported. -/
def Action.ReportsDisk (before after : Scene) : Action → Prop
  | .readFile path start stop => after.session.snippets = before.session.snippets
      ++ match before.world.fault? .read, before.textAt path with
        | none, .ok text => [attachment path text start stop]
        | _, _ => []
  | .select range => ∃ d part, before.session.active = some d
      ∧ d.diskPart? before range = some part
      ∧ after.session.request
        = joinText before.session.request (Prompt.responseBlock "select" part)
  | .copy path range | .cut path range => ∃ text part, before.textAt path = .ok text
      ∧ textBetween? text range = some part ∧ after.world.clipboard = part
  | _ => True

/-- No part that the action shows of a buffer looks different on the disk. Newlines at its end are
not shown. -/
def Action.UpToDate (before : Scene) : Action → Prop
  | .select range => ∀ d, before.session.active = some d →
      (d.diskPart? before range).map (Prompt.responseBlock "select")
        = (d.bufferPart? before range).map (Prompt.responseBlock "select")
  | _ => True

variable {s t u : Scene}

/-! ## Reading actions -/

theorem result_readText (s : Scene) (path : String) :
    ((Workspace.readText path).run.run s.world.workspace).1 = s.textAt path := by
  rw [Workspace.run_readText]
  unfold Scene.textAt
  cases s.world.workspace.resolve path with
  | error fault => rfl
  | ok file =>
      simp only
      cases s.world.workspace.disk.readText file <;> rfl

theorem drop_take_eq_map {first last : Nat} {ls : List String} (inside : last < ls.length) :
    (ls.take (last + 1)).drop first
      = (List.range' first (last + 1 - first)).map fun n => ls[n]?.getD "" := by
  refine List.ext_getElem ?_ fun i here there => ?_
  · rw [List.length_drop, List.length_take, List.length_map, List.length_range',
      Nat.min_eq_left inside]
  · rw [List.length_map, List.length_range'] at there
    have within : first + i < ls.length := by omega
    simp [List.getElem?_eq_getElem within]

theorem captureSnippet_eq (path text : String) (start stop : Option Nat) :
    captureSnippet path text start stop = attachment path text start stop := by
  cases start with
  | none => rfl
  | some first =>
      have filled := List.length_pos_iff.mpr (Text.lines_ne_nil text)
      have inside : min (stop.getD (Text.lineCount text - 1)) (Text.lineCount text - 1)
          < (Text.lines text).length :=
        Nat.lt_of_le_of_lt (Nat.min_le_right _ _) (Nat.sub_lt filled Nat.one_pos)
      unfold captureSnippet attachment excerpt Text.linesBetween
      simp only [drop_take_eq_map inside]

theorem readFile_reports {path : String} {start stop : Option Nat}
    (completed : (performReadFile path start stop).run.run t = (.ok (), u)) :
    (Action.readFile path start stop).ReportsDisk t u := by
  obtain ⟨result, v, probed, told⟩ := bind_completed completed
  rw [run_probe, World.run_readText] at probed
  simp only [Action.ReportsDisk]
  cases fault : t.world.fault? .read with
  | some f =>
      rw [fault] at probed
      simp only at probed
      split at probed
      · cases probed
      · cases probed
        cases told
        exact (List.append_nil _).symm
  | none =>
      rw [fault, result_readText] at probed
      cases text : t.textAt path with
      | error f =>
          rw [text] at probed
          simp only at probed
          split at probed
          · cases probed
          · cases probed
            cases told
            exact (List.append_nil _).symm
      | ok content =>
          rw [text] at probed
          cases probed
          cases told
          exact congrArg (t.session.snippets ++ [·]) (captureSnippet_eq path _ start stop)

theorem openFile_shows (tidy : t.world.workspace.Tidy) {path : String} {d : Document}
    {world : World} (opened : (World.openFile path).run.run t.world = (.ok d, world)) :
    ∃ text, t.textAt path = .ok text ∧ (d.buffer world.workspace).text = text
      ∧ (d.buffer world.workspace).WellFormed := by
  obtain ⟨resolved, disk, text, fresh⟩ := World.openFile_fresh tidy opened
  have readable := fresh.readable
  rw [disk] at readable
  refine ⟨text, ?_, fresh.text_buffer, fresh.tidy.wellFormed_buffer d.file⟩
  unfold Scene.textAt
  rw [resolved]
  simp only [readable]

theorem part_of_textIn {d : Document} {w : Workspace} (wellFormed : (d.buffer w).WellFormed)
    {range : Range} {part : String} (shown : ((d.textIn range).run.run w).1 = .ok part) :
    textBetween? (d.buffer w).text range = some part := by
  rw [Document.run_textIn] at shown
  rw [← Buffer.textIn_toOption wellFormed.present]
  cases found : (d.buffer w).textIn range with
  | error p =>
      rw [found] at shown
      cases shown
  | ok text =>
      rw [found] at shown
      cases shown
      rfl

theorem clipboard_of_write {text : String} {w w' : World}
    (copied : (World.writeClipboard text).run.run w = (.ok (), w')) : w'.clipboard = text := by
  rw [World.run_writeClipboard] at copied
  cases fault : w.fault? .writeClipboard with
  | some f =>
      rw [fault] at copied
      cases copied
  | none =>
      rw [fault] at copied
      cases copied
      rfl

theorem copyRange_reports (tidy : t.world.workspace.Tidy) {i : Instruction} {path : String}
    {range : Range} {d : Document} (completed : (copyRange i path range).run.run t = (.ok d, u)) :
    ∃ text part, t.textAt path = .ok text ∧ textBetween? text range = some part
      ∧ u.world.clipboard = part := by
  obtain ⟨d, v, ran, rest⟩ := bind_completed completed
  obtain ⟨world, opened, rfl⟩ := demand_completed ran
  obtain ⟨text, found, same, wellFormed⟩ := openFile_shows tidy opened
  obtain ⟨part, v, ran, rest⟩ := bind_completed rest
  obtain ⟨next, read, rfl⟩ := demand_completed ran
  rw [World.run_inWorkspace] at read
  have shown : ((d.textIn range).run.run world.workspace).1 = .ok part :=
    congrArg Prod.fst read
  have between := part_of_textIn wellFormed shown
  rw [same] at between
  obtain ⟨done, v, ran, rest⟩ := bind_completed rest
  obtain ⟨last, copied, rfl⟩ := demand_completed ran
  cases rest
  exact ⟨text, part, found, between, clipboard_of_write copied⟩

theorem cut_reports (tidy : t.world.workspace.Tidy) {path : String} {range : Range}
    (completed : (performCut path range).run.run t = (.ok (), u)) :
    (Action.cut path range).ReportsDisk t u := by
  obtain ⟨active, v, asked, rest⟩ := bind_completed completed
  obtain ⟨-, rfl⟩ := activeDocument_completed asked
  obtain ⟨d, v, copied, rest⟩ := bind_completed rest
  obtain ⟨text, part, found, between, clipboard⟩ := copyRange_reports tidy copied
  obtain ⟨world, deleted, rfl⟩ := demand_completed rest
  rw [World.run_inWorkspace] at deleted
  cases congrArg Prod.snd deleted
  exact ⟨text, part, found, between, clipboard⟩

/-! ## Selecting -/

private theorem joinText_injective {text first second : String}
    (same : joinText text first = joinText text second) : first = second := by
  unfold joinText at same
  rw [← String.toList_inj, String.toList_append, String.toList_append] at same
  exact String.toList_inj.mp (List.append_cancel_left same)

theorem select_reports (tidy : t.world.workspace.Tidy) {range : Range}
    (completed : (performSelect range).run.run t = (.ok (), u)) :
    ∃ d part, t.session.active = some d ∧ d.bufferPart? t range = some part
      ∧ u.session.request
        = joinText t.session.request (Prompt.responseBlock "select" part) := by
  obtain ⟨d, v, asked, rest⟩ := bind_completed completed
  obtain ⟨active, rfl⟩ := activeDocument_completed asked
  obtain ⟨done, u, activated, rest⟩ := bind_completed rest
  cases activated
  obtain ⟨part, u, ran, rest⟩ := bind_completed rest
  obtain ⟨next, read, rfl⟩ := demand_completed ran
  rw [World.run_inWorkspace] at read
  have shown : ((({ d with selection := range } : Document).textIn range).run.run
      v.world.workspace).1 = .ok part := congrArg Prod.fst read
  have between := part_of_textIn (tidy.wellFormed_buffer d.file) shown
  cases rest
  exact ⟨d, part, active, between, rfl⟩

theorem select_reports_iff (tidy : t.world.workspace.Tidy) {range : Range}
    (completed : (performSelect range).run.run t = (.ok (), u)) :
    (Action.select range).ReportsDisk t u ↔ (Action.select range).UpToDate t := by
  obtain ⟨d, part, active, inBuffer, told⟩ := select_reports tidy completed
  constructor
  · rintro ⟨other, onDisk, active', onDiskPart, told'⟩ third active''
    obtain rfl : d = other := Option.some.inj (active.symm.trans active')
    obtain rfl : d = third := Option.some.inj (active.symm.trans active'')
    rw [onDiskPart, inBuffer]
    -- Equal requests only give equal blocks: a block does not show newlines at the end of its text.
    exact congrArg some (joinText_injective (told'.symm.trans told))
  · intro upToDate
    have same := upToDate d active
    rw [inBuffer] at same
    obtain ⟨onDisk, found, block⟩ := Option.map_eq_some_iff.mp same
    refine ⟨d, onDisk, active, found, ?_⟩
    rw [block, told]

/-! ## Batches -/

theorem action_reports_iff (tidy : t.world.workspace.Tidy) {a : Action}
    (completed : a.perform.run.run t = (.ok (), u)) : a.ReportsDisk t u ↔ a.UpToDate t := by
  cases a with
  | readFile path start stop => exact iff_of_true (readFile_reports completed) trivial
  | select range => exact select_reports_iff tidy completed
  | copy path range =>
      obtain ⟨d, v, copied, rest⟩ := bind_completed completed
      cases rest
      exact iff_of_true (copyRange_reports tidy copied) trivial
  | cut path range => exact iff_of_true (cut_reports tidy completed) trivial
  | _ => exact Iff.rfl

theorem upToDate_of_inStep (a : Action)
    (inStep : ∀ d, t.session.active = some d → t.world.workspace.InStep d.file) :
    a.UpToDate t := by
  cases a with
  | select range =>
      intro d active
      obtain ⟨b, held, readable⟩ := inStep d active
      have same : d.diskPart? t range = d.bufferPart? t range := by
        rw [Document.diskPart?, readable, Document.bufferPart?, Document.buffer, Workspace.buffer,
          held]
        rfl
      rw [same]
  | _ => trivial

namespace Desk

variable {desk : Desk}

theorem Serves.tidy {before : List Command} (serves : desk.Serves s) (sound : desk.Sound)
    (begun : performAll before s = (none, t)) : t.world.workspace.Tidy := by
  obtain ⟨next, becomes, served⟩ := serves.batch before
  rw [begun] at served
  rw [← served.workspace]
  exact (becomes.sound sound).tidy

/-- A file stays in step while no command runs in the terminal. -/
theorem Serves.keeps_inStep {early late : List Command} (serves : desk.Serves s)
    (sound : desk.Sound) (began : performAll early s = (none, t))
    (linkFree : t.world.workspace.disk.LinkFree)
    (noTerminal : ∀ c ∈ late, ∀ command, c.action? ≠ .ok (some (.runInTerminal command)))
    (ended : performAll (early ++ late) s = (none, u)) {file : Path}
    (inStep : t.world.workspace.InStep file) : u.world.workspace.InStep file := by
  obtain ⟨here, becomes, served⟩ := serves.batch early
  rw [began] at served
  have sound := becomes.sound sound
  unfold performAll at began ended
  -- The later commands keep their numbers in the whole batch.
  rw [performFrom_append began] at ended
  obtain ⟨next, ⟨happenings, inside, rfl, -⟩, servedLast⟩ := served.commandsInside noTerminal _
  rw [ended] at servedLast
  rw [← served.workspace] at linkFree inStep
  rw [← servedLast.workspace]
  exact (run_steady sound linkFree inside).inStep file inStep

/-- A completed command reports what is on the disk exactly if the buffer that it shows, if any, is
up to date in the part that it shows. That is so if, at some earlier point of the batch, the file of
the active document was in step on a disk without links, and nothing has run in the terminal since.
-/
theorem reports_disk_iff (reachable : desk.Reachable) (serves : desk.Serves s)
    {before : List Command} (begun : performAll before s = (none, t)) {c : Command} {a : Action}
    (asked : c.action? = .ok (some a)) (completed : c.perform.run.run t = (.ok (), u)) :
    (a.ReportsDisk t u ↔ a.UpToDate t)
      ∧ ∀ early late here, before = early ++ late → performAll early s = (none, here) →
        here.world.workspace.disk.LinkFree →
        (∀ c ∈ late, ∀ command, c.action? ≠ .ok (some (.runInTerminal command))) →
        (∀ d, t.session.active = some d → here.world.workspace.InStep d.file) →
        a.ReportsDisk t u := by
  have performed : a.perform.run.run t = (.ok (), u) := by
    unfold Command.perform at completed
    rw [asked] at completed
    exact completed
  have reports := action_reports_iff (serves.tidy reachable.sound begun) performed
  refine ⟨reports, ?_⟩
  rintro early late here rfl began linkFree noTerminal inStep
  refine reports.mpr (upToDate_of_inStep a ?_)
  intro d active
  exact serves.keeps_inStep reachable.sound began linkFree noTerminal begun (inStep d active)

/-- A session without a history, on one file. The terminal puts a new text into it. -/
def oldFile : Scene where
  session := .empty
  world := .ofWorkspace (.ofDisk [] ⟨[(["a.txt"], .file (.text "old"))], []⟩)
    (.program fun disk _ unread _ => (disk.set ["a.txt"] (.file (.text "new")), unread, {}))

/-- Open the file, and change nothing in it. -/
def opensFile : Command :=
  ⟨"replace", [.text "a.txt", .integer 0, .integer 0, .integer 0, .integer 0, .text ""], ⟨0, 0⟩⟩

def runsTerminal : Command :=
  ⟨"runInTerminal", [.text "printf new > a.txt"], ⟨0, 0⟩⟩

def selectsText : Command :=
  ⟨"select", [.integer 0, .integer 0, .integer 0, .integer 3], ⟨0, 0⟩⟩

theorem reports_disk_newFile :
    ∃ t u, performAll [runsTerminal, opensFile] oldFile = (none, t)
      ∧ selectsText.perform.run.run t = (.ok (), u)
      ∧ (Action.select (.ofCoordinates 0 0 0 3)).ReportsDisk t u := by
  have reachable : (ofDisk [] ⟨[(["a.txt"], .file (.text "old"))], []⟩).Reachable :=
    ⟨_, _, [], rfl⟩
  have serves : (ofDisk [] ⟨[(["a.txt"], .file (.text "old"))], []⟩).Serves oldFile :=
    ⟨rfl, by simp [oldFile, Session.empty]⟩
  obtain ⟨t, u, begun, completed, active, inStep, disk⟩ :
      ∃ t u, performAll [runsTerminal, opensFile] oldFile = (none, t)
        ∧ selectsText.perform.run.run t = (.ok (), u)
        ∧ t.session.active = some ⟨"a.txt", ["a.txt"], .caret ⟨0, 0⟩⟩
        ∧ t.world.workspace.InStep ["a.txt"]
        ∧ t.world.workspace.disk = ⟨[(["a.txt"], .file (.text "new"))], []⟩ :=
    ⟨_, _, rfl, rfl, rfl, ⟨_, rfl, rfl⟩, rfl⟩
  have linkFree : t.world.workspace.disk.LinkFree := by
    rw [disk]
    exact Disk.Tree.linkFree_empty.set ["a.txt"] (by simp)
  refine ⟨t, u, begun, completed, ?_⟩
  refine (reports_disk_iff reachable serves begun rfl completed).2 _ [] t (by simp) begun linkFree
    (by simp) ?_
  intro d found
  obtain rfl := Option.some.inj (active.symm.trans found)
  exact inStep

theorem select_reports_old :
    ∃ t u, performAll [opensFile, runsTerminal] oldFile = (none, t)
      ∧ selectsText.perform.run.run t = (.ok (), u)
      ∧ t.world.workspace.disk.readText ["a.txt"] = .ok "new"
      ∧ u.session.request = joinText t.session.request (Prompt.responseBlock "select" "old")
      ∧ ¬ (Action.select (.ofCoordinates 0 0 0 3)).ReportsDisk t u := by
  refine ⟨_, _, rfl, rfl, rfl, rfl, ?_⟩
  rintro ⟨d, part, active, shown, told⟩
  cases active
  cases shown
  have same := joinText_injective told
  revert same
  decide

end Desk

end ReplyScript
