import ReplyScript.Proofs.Session.Abort
import ReplyScript.Proofs.Session.AtDesk
import ReplyScript.Proofs.Session.Edits

/-! # Undo and redo of edits

The versions that edits make of a file are kept in order, and undo and redo turn from one to the
next. What else is done does not disturb them, unless it writes the file or makes another document
active. Main statement: `undo_redo_versions`.
-/

namespace ReplyScript

open Disk (Path)
open Edit (Buffer Change Range)
open Effect Scene
open Script (Command)

theorem perform_asked {c : Command} {a : Action} (asked : c.action? = .ok (some a)) :
    c.perform = a.perform := by
  unfold Command.perform
  rw [asked]

theorem inside_of_asked {c : Command} {a : Action} (asked : c.action? = .ok (some a))
    (inside : ∀ command, a ≠ .runInTerminal command) (command : String) :
    c.action? ≠ .ok (some (.runInTerminal command)) := by
  intro same
  rw [asked] at same
  exact inside command (Option.some.inj (Except.ok.inj same))

/-! ## Courses of commands -/

/-- What a command came to, and the text that a file has after it. -/
structure Performance where
  outcome : Except CommandError Unit
  text : Except Disk.FileError String

/-- Perform a command, and look at a file. -/
def Script.Command.performance (c : Command) (file : Path) (s : Scene) : Performance where
  outcome := (c.perform.run.run s).1
  text := (c.perform.run.run s).2.world.workspace.disk.readText file

/-- Something outside has changed other files than this one, and anything that commands do not look
at to find a file or its buffer. -/
structure Scene.Elsewhere (file : Path) (s earlier : Scene) : Prop where
  active : s.session.active = earlier.session.active
  workspace : ∃ disk, s.world.workspace = { earlier.world.workspace with disk } ∧ disk.LinkFree
    ∧ disk.readText file = earlier.world.workspace.disk.readText file

/-- Commands in one batch or in several. Those of a kind count. The others do not write the file and
do not turn from the active document, and what happens outside leaves the file alone. -/
inductive Course (file : Path) (kind : Action → Scene → Prop) :
    List Performance → Scene → Scene → Prop
  | begins (s : Scene) : Course file kind [] s s
  | counts {ps : List Performance} {s t : Scene} {c : Command} {a : Action} :
      Course file kind ps s t → c.action? = .ok (some a) → kind a t →
      Course file kind (ps ++ [c.performance file t]) s (c.perform.run.run t).2
  | passes {ps : List Performance} {s t : Scene} {c : Command} :
      Course file kind ps s t → c.Avoids file t →
      (c.perform.run.run t).2.session.active.map Document.file
        = t.session.active.map Document.file →
      Course file kind ps s (c.perform.run.run t).2
  | elsewhere {ps : List Performance} {s t u : Scene} :
      Course file kind ps s t → u.Elsewhere file t → Course file kind ps s u

variable {file : Path} {s t : Scene}

/-! ## Scenes that come about -/

/-- The scene has come about, with its session and its workspace. -/
def Scene.Attended (s : Scene) : Prop :=
  ∃ desk : Desk, desk.Sound ∧ desk.Serves s

namespace Scene.Attended

theorem opened (attended : s.Attended) {d : Document} (active : s.session.active = some d) :
    (s.world.workspace.buffer? d.file).isSome := by
  obtain ⟨desk, sound, serves⟩ := attended
  obtain ⟨h, given, -, same⟩ := serves.active d active
  have opened := sound.opened h given
  rw [serves.workspace, same] at opened
  exact opened

theorem command (attended : s.Attended) (c : Command) : (c.perform.run.run s).2.Attended := by
  obtain ⟨desk, sound, serves⟩ := attended
  have all : ∀ h : Happening, (fun _ => true : Happening → Bool) h = true := fun _ => rfl
  obtain ⟨next, becomes, served, -⟩ :=
    Desk.plays_command (c := c) (fun h _ => all h) (fun _ _ => all) s serves
  exact ⟨next, becomes.sound sound, served⟩

theorem orderly (attended : s.Attended) (linkFree : s.world.workspace.disk.LinkFree) {c : Command}
    (inside : ∀ command, c.action? ≠ .ok (some (.runInTerminal command))) :
    (c.perform.run.run s).2.world.workspace.Orderly := by
  obtain ⟨desk, sound, serves⟩ := attended
  obtain ⟨next, ⟨happenings, own, rfl, -⟩, served, -⟩ :=
    Desk.plays_command (fun _ inside => inside)
      (fun command action => absurd action (inside command)) s serves
  rw [← serves.workspace] at linkFree
  rw [← served.workspace]
  exact (Desk.run_steady sound linkFree own).orderly

theorem elsewhere (attended : s.Attended) (left : t.Elsewhere file s) : t.Attended := by
  obtain ⟨desk, sound, serves⟩ := attended
  obtain ⟨disk, workspace, -⟩ := left.workspace
  refine ⟨desk.step (.outside disk), sound.step _, ?_, ?_⟩
  · rw [workspace, ← serves.workspace]
    rfl
  · intro d active
    rw [left.active] at active
    exact serves.active d active

end Scene.Attended

/-! ## Versions -/

theorem undo_of_past {b : Buffer} {lines : List String} {past : List (List String)}
    (before : b.past = lines :: past) : b.undo? = some ⟨lines, past, b.lines :: b.future⟩ := by
  obtain ⟨_, _, _⟩ := b
  cases before
  rfl

theorem redo_of_future {b : Buffer} {lines : List String} {future : List (List String)}
    (after : b.future = lines :: future) : b.redo? = some ⟨lines, b.lines :: b.past, future⟩ := by
  obtain ⟨_, _, _⟩ := b
  cases after
  rfl

/-- The file has this text, and can be turned to earlier texts, the latest first, and to later ones,
the next first. -/
structure Scene.AtVersion (file : Path) (past : List String) (text : String) (future : List String)
    (s : Scene) : Prop where
  attended : s.Attended
  has : s.world.workspace.Has file
  active : past ≠ [] ∨ future ≠ [] → s.session.active.map Document.file = some file
  versions : ∃ b older newer, s.world.workspace.Holds file b ∧ b.text = text
    ∧ b.past = past.map Text.lines ++ older ∧ b.future = future.map Text.lines ++ newer

namespace Scene.AtVersion

variable {past future : List String} {text : String}

theorem readable (version : s.AtVersion file past text future) :
    s.world.workspace.disk.readText file = .ok text := by
  obtain ⟨b, -, -, holds, rfl, -⟩ := version.versions
  exact holds.1

theorem command (version : s.AtVersion file past text future) {c : Command}
    (avoids : c.Avoids file s)
    (same : (c.perform.run.run s).2.session.active.map Document.file
      = s.session.active.map Document.file) :
    (c.perform.run.run s).2.AtVersion file past text future := by
  have spares := Command.spares (fun _ => version.attended.opened) avoids version.has
  obtain ⟨b, older, newer, holds, rest⟩ := version.versions
  refine ⟨version.attended.command c, spares.has version.has, ?_, b, older, newer,
    spares.kept b holds, rest⟩
  rw [same]
  exact version.active

theorem elsewhere (version : s.AtVersion file past text future) (left : t.Elsewhere file s) :
    t.AtVersion file past text future := by
  obtain ⟨disk, workspace, linkFree, same⟩ := left.workspace
  have spares : t.world.workspace.Spares file s.world.workspace := by
    rw [workspace]
    exact .setDisk version.has.toOrderly linkFree same
  obtain ⟨b, older, newer, holds, rest⟩ := version.versions
  refine ⟨version.attended.elsewhere left, spares.has version.has, ?_, b, older, newer,
    spares.kept b holds, rest⟩
  rw [left.active]
  exact version.active

theorem of_stores (attended : s.Attended) (linkFree : s.world.workspace.disk.LinkFree) {c : Command}
    (inside : ∀ command, c.action? ≠ .ok (some (.runInTerminal command)))
    (active : (c.perform.run.run s).2.session.active.map Document.file = some file) {b : Buffer}
    (stores : (c.perform.run.run s).2.world.workspace.Stores file b)
    {older newer : List (List String)}
    (earlier : b.past = past.map Text.lines ++ older)
    (later : b.future = future.map Text.lines ++ newer) :
    (c.perform.run.run s).2.AtVersion file past b.text future :=
  ⟨attended.command c, stores.has (attended.orderly linkFree inside), fun _ => active,
    b, older, newer, stores.holds, rfl, earlier, later⟩

theorem edit (version : s.AtVersion file past text future) {c : Command} {a : Action}
    (asked : c.action? = .ok (some a)) (edits : a.Edits file s)
    (completed : (c.perform.run.run s).1 = .ok ()) :
    ∃ new, (c.perform.run.run s).2.AtVersion file (text :: past) new [] := by
  obtain ⟨b, older, newer, holds, rfl, earlier, -⟩ := version.versions
  have edited : (c.perform.run.run s).2.Edited file s := by
    rw [perform_asked asked] at completed ⊢
    exact Action.edited version.has edits (Prod.ext completed rfl)
  obtain ⟨next, stores, before, after⟩ := edited.made b holds
  have inside := inside_of_asked asked fun command same => by
    rw [same] at edits
    exact edits
  have kept : next.past = (b.text :: past).map Text.lines ++ older := by
    rw [before, earlier, List.map_cons, List.cons_append, holds.lines version.has.toTidy]
  exact ⟨next.text, .of_stores version.attended version.has.linkFree inside edited.active stores
    kept (after.trans (List.append_nil _).symm)⟩

theorem turn (version : s.AtVersion file past text future) (turns : past ≠ [] ∨ future ≠ [])
    {c : Command} (i : Instruction) (change : Change)
    (inside : ∀ command, c.action? ≠ .ok (some (.runInTerminal command)))
    (performs : c.perform = do
      let d ← activeDocument i
      demand i (World.inWorkspace (d.change change)))
    {b next : Buffer} (holds : s.world.workspace.Holds file b)
    (changed : b.change change = .ok (some next)) {past' future' : List String} {text' : String}
    {older newer : List (List String)} (shows : next.text = text')
    (earlier : next.past = past'.map Text.lines ++ older)
    (later : next.future = future'.map Text.lines ++ newer) :
    (c.perform.run.run s).1 = .ok ()
      ∧ (c.perform.run.run s).2.AtVersion file past' text' future' := by
  subst shows
  obtain ⟨d, active, same⟩ := Option.map_eq_some_iff.mp (version.active turns)
  subst same
  obtain ⟨w, made, stores⟩ :=
    Document.change_made (version.attended.opened active) holds changed
  have ran : c.perform.run.run s
      = (.ok (), { s with world := { s.world with workspace := w } }) := by
    rw [performs, run_bind, run_activeDocument, active]
    exact demand_of_completed (World.inWorkspace_of_completed made)
  have arrives := of_stores (b := next) version.attended version.has.linkFree inside
    (by rw [ran]; exact version.active turns) (by rw [ran]; exact stores) earlier later
  exact ⟨congrArg Prod.fst ran, arrives⟩

theorem undo {earlier : String} (version : s.AtVersion file (earlier :: past) text future)
    {c : Command} (asked : c.action? = .ok (some .undo)) :
    (c.perform.run.run s).1 = .ok ()
      ∧ (c.perform.run.run s).2.AtVersion file past earlier (text :: future) := by
  obtain ⟨b, older, newer, holds, rfl, before, after⟩ := version.versions
  have lines := holds.lines version.has.toTidy
  have undone : b.change .undo
      = .ok (some ⟨Text.lines earlier, past.map Text.lines ++ older, b.lines :: b.future⟩) :=
    congrArg Except.ok (undo_of_past before)
  have later : b.lines :: b.future = (b.text :: future).map Text.lines ++ newer := by
    rw [after, List.map_cons, List.cons_append, lines]
  exact version.turn (.inl (List.cons_ne_nil earlier past)) .undo .undo
    (inside_of_asked asked nofun) (perform_asked asked) holds undone (Text.unlines_lines earlier)
    rfl later

theorem redo {later : String} (version : s.AtVersion file past text (later :: future))
    {c : Command} (asked : c.action? = .ok (some .redo)) :
    (c.perform.run.run s).1 = .ok ()
      ∧ (c.perform.run.run s).2.AtVersion file (text :: past) later future := by
  obtain ⟨b, older, newer, holds, rfl, before, after⟩ := version.versions
  have lines := holds.lines version.has.toTidy
  have redone : b.change .redo
      = .ok (some ⟨Text.lines later, b.lines :: b.past, future.map Text.lines ++ newer⟩) :=
    congrArg Except.ok (redo_of_future after)
  have earlier : b.lines :: b.past = (b.text :: past).map Text.lines ++ older := by
    rw [before, List.map_cons, List.cons_append, lines]
  exact version.turn (.inr (List.cons_ne_nil later future)) .redo .redo
    (inside_of_asked asked nofun) (perform_asked asked) holds redone (Text.unlines_lines later)
    earlier rfl

end Scene.AtVersion

/-! ## Runs of edits, undos and redos -/

namespace Course

variable {ps : List Performance} {past future : List String} {text : String}

/-- The command counts, or is one of the others. -/
def Allows (file : Path) (kind : Action → Scene → Prop) (c : Command) (s : Scene) : Prop :=
  (∃ a, c.action? = .ok (some a) ∧ kind a s) ∨ c.Avoids file s
    ∧ (c.perform.run.run s).2.session.active.map Document.file
      = s.session.active.map Document.file

theorem command {kind : Action → Scene → Prop} (course : Course file kind ps s t) {c : Command}
    (allows : Allows file kind c t) :
    ∃ qs, Course file kind (ps ++ qs) s (c.perform.run.run t).2 := by
  rcases allows with ⟨a, asked, counted⟩ | ⟨avoids, same⟩
  · exact ⟨_, course.counts asked counted⟩
  · refine ⟨[], ?_⟩
    rw [List.append_nil]
    exact course.passes avoids same

/-- A batch continues a course, up to the command that fails if there is one. -/
theorem batch {kind : Action → Scene → Prop} (course : Course file kind ps s t) {index : Nat}
    {cs : List Command} (allows : ∀ early c late here, cs = early ++ c :: late →
      performFrom index early t = (none, here) → Allows file kind c here) :
    ∃ qs, Course file kind (ps ++ qs) s (performFrom index cs t).2 := by
  induction cs generalizing ps t index with
  | nil =>
      refine ⟨[], ?_⟩
      rw [List.append_nil]
      exact course
  | cons c rest ih =>
      obtain ⟨qs, further⟩ := course.command (allows [] c rest t rfl rfl)
      rw [performFrom_cons]
      rcases ran : c.perform.run.run t with ⟨e | done, here⟩
      · rw [ran] at further
        exact ⟨qs, further⟩
      · rw [ran] at further
        have later : ∀ early other late there, rest = early ++ other :: late →
            performFrom (index + 1) early here = (none, there) → Allows file kind other there := by
          intro early other late there split performed
          refine allows (c :: early) other late there (congrArg (c :: ·) split) ?_
          rw [performFrom_cons, ran]
          exact performed
        obtain ⟨qs', last⟩ := ih further later
        rw [List.append_assoc] at last
        exact ⟨qs ++ qs', last⟩

theorem edits (course : Course file (Action.Edits file) ps s t)
    (completed : ∀ p ∈ ps, p.outcome = .ok ()) (version : s.AtVersion file past text []) :
    ∃ earlier new, t.AtVersion file earlier new []
      ∧ (earlier.reverse ++ [new]).map Except.ok
        = (past.reverse ++ [text]).map Except.ok ++ ps.map Performance.text := by
  induction course with
  | begins s => exact ⟨past, text, version, (List.append_nil _).symm⟩
  | @counts ps s t c a course asked edits ih =>
      obtain ⟨earlier, new, here, texts⟩ :=
        ih (fun p member => completed p (List.mem_append_left _ member)) version
      have done : (c.perform.run.run t).1 = .ok () := completed (c.performance file t) (by simp)
      obtain ⟨newer, there⟩ := here.edit asked edits done
      refine ⟨new :: earlier, newer, there, ?_⟩
      have shown : (c.performance file t).text = .ok newer := there.readable
      rw [List.map_append (f := Performance.text), List.map_singleton, shown, ← List.append_assoc,
        ← texts, List.reverse_cons, List.map_append, List.map_singleton]
  | passes course avoids same ih =>
      obtain ⟨earlier, new, here, texts⟩ := ih completed version
      exact ⟨earlier, new, here.command avoids same, texts⟩
  | elsewhere course left ih =>
      obtain ⟨earlier, new, here, texts⟩ := ih completed version
      exact ⟨earlier, new, here.elsewhere left, texts⟩

/-- Undos and redos alike turn to what is ahead of them, as long as there is something ahead. -/
theorem turns (stands : List String → String → List String → Scene → Prop) {a : Action}
    (turn : ∀ {t : Scene} {c : Command} {next text : String} {ahead behind : List String},
      stands (next :: ahead) text behind t → c.action? = .ok (some a) →
      (c.perform.run.run t).1 = .ok () ∧ stands ahead next (text :: behind) (c.perform.run.run t).2)
    (carry : ∀ {t u : Scene}, (∀ past text future, t.AtVersion file past text future →
        u.AtVersion file past text future) →
      ∀ {ahead behind text}, stands ahead text behind t → stands ahead text behind u)
    (course : Course file (fun other _ => other = a) ps s t) {ahead behind : List String}
    (version : stands ahead text behind s) (enough : ps.length ≤ ahead.length) :
    (∀ p ∈ ps, p.outcome = .ok ()) ∧ ∃ ahead' text' behind', stands ahead' text' behind' t
      ∧ ahead'.reverse ++ text' :: behind' = ahead.reverse ++ text :: behind
      ∧ ahead'.length + ps.length = ahead.length := by
  induction course with
  | begins s => exact ⟨by simp, ahead, text, behind, version, rfl, rfl⟩
  | @counts ps s t c other course asked same ih =>
      subst same
      rw [List.length_append, List.length_singleton] at enough
      obtain ⟨completed, ahead', text', behind', here, whole, count⟩ := ih version (by omega)
      cases ahead' with
      | nil =>
          rw [List.length_nil] at count
          omega
      | cons next ahead' =>
          obtain ⟨done, there⟩ := turn here asked
          refine ⟨?_, ahead', next, text' :: behind', there, ?_, ?_⟩
          · intro p member
            rcases List.mem_append.mp member with member | member
            · exact completed p member
            · rw [List.mem_singleton.mp member]
              exact done
          · rw [← whole, List.reverse_cons, List.append_assoc, List.singleton_append]
          · rw [List.length_cons] at count
            rw [List.length_append, List.length_singleton]
            omega
  | passes course avoids same ih =>
      obtain ⟨completed, ahead', text', behind', here, rest⟩ := ih version enough
      have carried := carry (fun _ _ _ version => version.command avoids same) here
      exact ⟨completed, ahead', text', behind', carried, rest⟩
  | elsewhere course left ih =>
      obtain ⟨completed, ahead', text', behind', here, rest⟩ := ih version enough
      have carried := carry (fun _ _ _ version => version.elsewhere left) here
      exact ⟨completed, ahead', text', behind', carried, rest⟩

theorem undos (course : Course file (fun a _ => a = .undo) ps s t)
    (version : s.AtVersion file past text future) (enough : ps.length ≤ past.length) :
    (∀ p ∈ ps, p.outcome = .ok ()) ∧ ∃ past' text' future', t.AtVersion file past' text' future'
      ∧ past'.reverse ++ text' :: future' = past.reverse ++ text :: future
      ∧ past'.length + ps.length = past.length :=
  turns (fun past text future s => s.AtVersion file past text future)
    (fun version asked => version.undo asked) (fun carry => carry _ _ _) course version enough

theorem redos (course : Course file (fun a _ => a = .redo) ps s t)
    (version : s.AtVersion file past text future) (enough : ps.length ≤ future.length) :
    (∀ p ∈ ps, p.outcome = .ok ()) ∧ ∃ past' text' future', t.AtVersion file past' text' future'
      ∧ past'.reverse ++ text' :: future' = past.reverse ++ text :: future
      ∧ future'.length + ps.length = future.length := by
  obtain ⟨completed, future', text', past', here, whole, count⟩ :=
    turns (fun future text past s => s.AtVersion file past text future)
      (fun version asked => version.redo asked) (fun carry => carry _ _ _) course version enough
  refine ⟨completed, past', text', future', here, ?_, count⟩
  have reversed := congrArg List.reverse whole
  simp only [List.reverse_append, List.reverse_cons, List.reverse_reverse, List.append_assoc,
    List.singleton_append] at reversed
  exact reversed

end Course

/-- A file of a workspace without links is edited, then undo is performed, not more often than edits
were made, and then redo, not more often than undo. All of this succeeds. It leaves the file with
the text that it had when as many edits had been made as count now: those that were not undone, and
those that were redone. -/
theorem undo_redo_versions {desk : Desk} (reachable : desk.Reachable) {s t u v : Scene}
    (serves : desk.Serves s) (linkFree : s.world.workspace.disk.LinkFree) {path : String}
    {file : Path} (named : s.world.workspace.resolve path = .ok file) {text : String}
    (readable : s.world.workspace.disk.readText file = .ok text)
    {edits undos redos : List Performance}
    (edited : Course file (Action.Edits file) edits s t)
    (completed : ∀ p ∈ edits, p.outcome = .ok ())
    (undone : Course file (fun a _ => a = .undo) undos t u)
    (redone : Course file (fun a _ => a = .redo) redos u v)
    (undoable : undos.length ≤ edits.length) (redoable : redos.length ≤ undos.length) :
    (∀ p ∈ undos ++ redos, p.outcome = .ok ())
      ∧ ∃ version, v.world.workspace.disk.readText file = .ok version
        ∧ (.ok text :: edits.map Performance.text)[edits.length - undos.length + redos.length]?
          = some (.ok version) := by
  have orderly : s.world.workspace.Orderly := by
    rw [← serves.workspace] at linkFree ⊢
    exact ⟨reachable.sound.tidy, linkFree⟩
  have start : s.AtVersion file [] text [] := by
    have holds := Workspace.Holds.of_readable readable
    refine ⟨⟨desk, reachable.sound, serves⟩,
      ⟨orderly, Workspace.below_of_resolve named, text, readable⟩, by simp,
      _, _, _, holds, Buffer.text_sync _ text, rfl, rfl⟩
  obtain ⟨past, new, first, texts⟩ := edited.edits completed start
  have many : past.length = edits.length := by
    have lengths := congrArg List.length texts
    simp only [List.length_map, List.length_append, List.length_reverse, List.length_singleton,
      List.length_nil] at lengths
    omega
  obtain ⟨undosDone, past', text', future', second, whole, back⟩ :=
    undone.undos first (by omega)
  have ahead : future'.length = undos.length := by
    have lengths := congrArg List.length whole
    simp only [List.length_append, List.length_reverse, List.length_cons, List.length_nil]
      at lengths
    omega
  obtain ⟨redosDone, past'', version, future'', third, whole', forth⟩ :=
    redone.redos second (by omega)
  refine ⟨?_, version, third.readable, ?_⟩
  · intro p member
    exact (List.mem_append.mp member).elim (undosDone p) (redosDone p)
  -- The versions are the same throughout, and the past of the last scene says which one it shows.
  have versions : .ok text :: edits.map Performance.text
      = (past''.reverse ++ version :: future'').map Except.ok := by
    rw [whole', whole, texts]
    rfl
  have place : edits.length - undos.length + redos.length = past''.reverse.length := by
    have lengths := congrArg List.length whole'
    simp only [List.length_append, List.length_reverse, List.length_cons] at lengths ⊢
    omega
  rw [versions, place, List.getElem?_map, List.getElem?_append_right (Nat.le_refl _), Nat.sub_self]
  rfl

/-- Put a text in place of the first character of the file. -/
def putsText (text : String) : Command :=
  ⟨"replace", [.text "a.txt", .integer 0, .integer 0, .integer 0, .integer 1, .text text], ⟨0, 0⟩⟩

/-- Undo the last edit. -/
def undoes : Command := ⟨"undo", [], ⟨0, 0⟩⟩

/-- Redo the edit that was undone. -/
def redoes : Command := ⟨"redo", [], ⟨0, 0⟩⟩

theorem undo_redo_versions_second :
    ∃ t u v, performAll [putsText "y", putsText "z"] (.onFile "a.txt" "x") = (none, t)
      ∧ performAll [undoes, undoes] t = (none, u) ∧ performAll [redoes] u = (none, v)
      ∧ v.world.workspace.disk.readText ["a.txt"] = .ok "y" := by
  have reachable : (Desk.ofDisk [] ⟨[(["a.txt"], .file (.text "x"))], []⟩).Reachable :=
    ⟨_, _, [], rfl⟩
  have serves : (Desk.ofDisk [] ⟨[(["a.txt"], .file (.text "x"))], []⟩).Serves
      (.onFile "a.txt" "x") := ⟨rfl, nofun⟩
  have linkFree : (Scene.onFile "a.txt" "x").world.workspace.disk.LinkFree :=
    Disk.Tree.linkFree_empty.set ["a.txt"] (by simp)
  have named : (Scene.onFile "a.txt" "x").world.workspace.resolve "a.txt" = .ok ["a.txt"] := rfl
  have edited : Course ["a.txt"] (Action.Edits ["a.txt"]) _ (.onFile "a.txt" "x") _ :=
    .counts (c := putsText "z") (.counts (c := putsText "y") (.begins _) rfl rfl) rfl rfl
  have undone (t : Scene) : Course ["a.txt"] (fun a _ => a = .undo) _ t _ :=
    .counts (c := undoes) (.counts (c := undoes) (.begins t) rfl rfl) rfl rfl
  have redone (u : Scene) : Course ["a.txt"] (fun a _ => a = .redo) _ u _ :=
    .counts (c := redoes) (.begins u) rfl rfl
  obtain ⟨-, version, readable, same⟩ := undo_redo_versions reachable serves linkFree
    named rfl edited (List.forall_mem_cons.mpr ⟨rfl, List.forall_mem_singleton.mpr rfl⟩)
    (undone _) (redone _) (Nat.le_refl 2) (Nat.le_succ 1)
  cases same
  exact ⟨_, _, _, rfl, rfl, rfl, readable⟩

end ReplyScript
