import ReplyScript.Proofs.Excerpt
import ReplyScript.Proofs.Instruction.Binding
import ReplyScript.Proofs.Session.UndoRedo

/-! # Insertions and what is shown of them

An insertion opens a file, or creates it, puts a text into it and tells the model the lines around
that. Main statements: `input_completes_iff`, it fails only before the text is written, and
`input_shows_lines`.
-/

namespace ReplyScript

open Disk (Path)
open Edit (Buffer Canonical Position Range splice?)
open Effect Scene
open Excerpt (Surrounded around? lastAround sum?)
open Script (Command)

/-! ## The lines around a line -/

namespace Excerpt

variable {b : Buffer} {line : Nat} {text : String}

theorem lastAround_lt (text : String) (inside : line < b.lineCount) :
    lastAround b line text < b.lineCount := by
  unfold lastAround
  omega

theorem le_lastAround (inside : line < b.lineCount) : line ≤ lastAround b line text := by
  unfold lastAround
  omega

theorem textIn_around (canonical : Canonical b.lines) (inside : line < b.lineCount)
    (text : String) :
    ∃ last, b.lines[lastAround b line text]? = some last
      ∧ b.textIn (.ofCoordinates (line - windowMargin) 0 (lastAround b line text) last.length)
        = .ok (excerpt b.text (line - windowMargin) (lastAround b line text)) := by
  have found := List.getElem?_eq_getElem (lastAround_lt text inside)
  refine ⟨_, found, ?_⟩
  rw [Buffer.textIn_lines (Nat.le_trans (Nat.sub_le _ _) (le_lastAround inside)) found, excerpt,
    Buffer.text, canonical.lines_unlines]

theorem surrounded (canonical : Canonical b.lines)
    (within : line + Text.lineCount text ≤ b.lineCount) : Surrounded b line text := by
  have some_ : 0 < Text.lineCount text := List.length_pos_iff.mpr (Text.lines_ne_nil text)
  have inside : line < b.lineCount := by omega
  refine ⟨Nat.le_trans (Nat.sub_le _ _) (le_lastAround inside), lastAround_lt text inside, ?_⟩
  intro fits
  obtain ⟨last, found, shown⟩ := textIn_around canonical inside text
  have first : sum? line (Text.lineCount text) = some (line + Text.lineCount text) :=
    if_pos (by omega)
  have second : sum? (line + Text.lineCount text) windowMargin
      = some (line + Text.lineCount text + windowMargin) := if_pos (by omega)
  unfold lastAround at found shown ⊢
  simp only [around?, first, second, Option.bind_eq_bind, Option.bind_some, found,
    Buffer.textInBytes_eq, shown]

end Excerpt

/-- What is shown around a text that was put in. -/
theorem Document.Fresh.run_insertionWindow {d : Document} {w : Workspace} {text new : String}
    (fresh : d.Fresh w new) {line : Nat}
    (within : line + Text.lineCount text ≤ Text.lineCount new) :
    (insertionWindow d line text).run.run w
      = (.ok (excerpt new (line - windowMargin)
          (min (line + Text.lineCount text + windowMargin) (Text.lineCount new - 1))), w) := by
  have some_ : 0 < Text.lineCount text := List.length_pos_iff.mpr (Text.lines_ne_nil text)
  have count : d.lineCount w = Text.lineCount new := fresh.lineCount_buffer
  have same : Text.lines new = (d.buffer w).lines := by
    rw [← fresh.text_buffer]
    exact fresh.canonical.lines_unlines
  rw [run_insertionWindow_inside (by omega) text, count, excerpt, same]

/-! ## Opening for input -/

namespace Workspace

variable {w : Workspace} {path : String} {file : Path} {old : String}

/-- A file at a path can be opened for input with a text: that is its text, or it is missing, can be
created, and the text is empty. -/
structure OpensWith (w : Workspace) (path : String) (file : Path) (old : String) : Prop where
  resolved : w.resolve path = .ok file
  there : w.disk.readText file = .ok old ∨ w.disk.readText file = .error .notFound ∧ old = ""
    ∧ ((writeFile path "").run.run w).1 = .ok ()

theorem OpensWith.unique {file' : Path} {old' : String} (opens : w.OpensWith path file old)
    (opens' : w.OpensWith path file' old') : file = file' ∧ old = old' := by
  obtain rfl := Except.ok.inj (opens.resolved.symm.trans opens'.resolved)
  refine ⟨rfl, ?_⟩
  rcases opens.there with readable | ⟨missing, rfl, -⟩
    <;> rcases opens'.there with readable' | ⟨missing', rfl, -⟩
  · exact Except.ok.inj (readable.symm.trans readable')
  · cases readable.symm.trans missing'
  · cases missing.symm.trans readable'
  · rfl

end Workspace

section

variable {s t : Scene} {path : String} {file : Path} {d : Document} {old : String}

theorem openForInput_fresh (tidy : s.world.workspace.Tidy)
    (ran : (openForInput path).run.run s = (.ok d, t)) :
    ∃ old, d.Fresh t.world.workspace old ∧ (s.world.Unfailing →
      s.world.workspace.OpensWith path d.file old) := by
  obtain ⟨result, u, first, rest⟩ := bind_completed ran
  rw [run_attempt] at first
  have tidied := World.tidy_openFile tidy path
  rcases opened : (World.openFile path).run.run s.world with ⟨fault | other, world⟩
  · rw [opened] at first tidied
    cases first
    cases fault with
    | notFound missing =>
        obtain ⟨done, v, created, again⟩ := bind_completed rest
        obtain ⟨world', wrote, rfl⟩ := demand_completed created
        have ready := World.tidy_writeFile tidied path ""
        rw [wrote] at ready
        obtain ⟨world'', reopened, rfl⟩ := demand_completed again
        obtain ⟨resolved, disk, old, fresh⟩ := World.openFile_fresh ready reopened
        refine ⟨old, fresh, fun unfailing => ?_⟩
        -- The first opening has changed nothing, so the file is missing in the scene itself.
        obtain ⟨same, works, file, found, absent⟩ := unfailing.missing_of_openFile opened
        obtain rfl := Except.ok.inj (found.symm.trans (openForInput_completed ran).1)
        rw [← same] at found
        obtain ⟨made, -, empty⟩ := works.writeFile_completed found wrote
        rw [same] at made
        have read := fresh.readable
        rw [disk, empty] at read
        exact ⟨(openForInput_completed ran).1, .inr ⟨absent, (Except.ok.inj read).symm, made⟩⟩
    | _ => cases rest
  · rw [opened] at first
    cases first
    cases rest
    obtain ⟨resolved, disk, old, fresh⟩ := World.openFile_fresh tidy opened
    refine ⟨old, fresh, fun _ => ⟨resolved, .inl ?_⟩⟩
    rw [← disk]
    exact fresh.readable

theorem openForInput_opens (unfailing : s.world.Unfailing)
    (opens : s.world.workspace.OpensWith path file old) :
    ∃ d t, (openForInput path).run.run s = (.ok d, t) := by
  unfold openForInput
  rw [run_bind, run_attempt]
  rcases opens.there with readable | ⟨missing, -, created⟩
  · obtain ⟨d, u, opened⟩ := unfailing.openFile_readable opens.resolved readable
    rw [opened]
    exact ⟨d, _, rfl⟩
  · obtain ⟨u, absent, same, works⟩ := unfailing.openFile_missing opens.resolved missing
    obtain ⟨v, called, workspace, works', -⟩ :=
      works.run_called .write path (Workspace.writeFile path "")
    rw [same] at called workspace
    rw [created] at called
    have resolved : v.workspace.resolve path = .ok file := by
      rw [Workspace.resolve_of_root (workspace ▸ s.world.workspace.root_writeFile path ""),
        opens.resolved]
    have empty : v.workspace.disk.readText file = .ok "" := by
      rw [workspace]
      exact Workspace.writeFile_completed opens.resolved (Prod.ext created rfl)
    obtain ⟨d, x, opened⟩ := works'.openFile_readable resolved empty
    rw [absent]
    simp only [run_bind]
    rw [demand_of_completed called]
    simp only
    rw [demand_of_completed opened]
    exact ⟨d, _, rfl⟩

variable {position : Position} {text new : String}

/-- What is left to do once a document is open. The selection of its handle does not matter. -/
theorem run_performInput (opened : (openForInput path).run.run s = (.ok d, t))
    (position : Position) (text : String) :
    ∃ a : Scene, a.world = t.world ∧ a.session.request = s.session.request
      ∧ (performInput path position text).run.run s = (do
        demand .input (World.inWorkspace (d.insert position text))
        let window ← demand .input (World.inWorkspace (insertionWindow d position.line text))
        respond .input window).run.run a := by
  have quiet := quiet_openForInput path s
  rw [opened] at quiet
  unfold performInput
  rw [run_bind, opened, ← quiet]
  exact ⟨{ t with session := { t.session with
    active := some { d with selection := .caret position } } }, rfl, rfl, rfl⟩

/-- An insertion into a text that has the line is made, and is told by the lines around it. -/
theorem performInput_inserts (opened : (openForInput path).run.run s = (.ok d, t))
    (fresh : d.Fresh t.world.workspace old)
    (spliced : splice? old (.caret position) text = some new) :
    ∃ w u, (d.insert position text).run.run t.world.workspace = (.ok (), w) ∧ d.Fresh w new
      ∧ (performInput path position text).run.run s = (.ok (), u) ∧ u.world.workspace = w
      ∧ u.session.request = joinText s.session.request (Prompt.responseBlock Instruction.input.name
        (excerpt new (position.line - windowMargin)
          (min (position.line + Text.lineCount text + windowMargin)
            (Text.lineCount new - 1)))) := by
  obtain ⟨w, inserts, newer⟩ := fresh.replace spliced
  have inserts : (d.insert position text).run.run t.world.workspace = (.ok (), w) := inserts
  have window := newer.run_insertionWindow (Buffer.add_lineCount_le_of_splice spliced)
  obtain ⟨a, world, request, ran⟩ := run_performInput opened position text
  rw [← world] at inserts ⊢
  rw [ran, run_bind, demand_of_completed (World.inWorkspace_of_completed inserts), ← request]
  simp only
  rw [run_bind, demand_of_completed (World.inWorkspace_of_completed window)]
  exact ⟨w, _, inserts, newer, rfl, rfl, rfl⟩

theorem performInput_refused (opened : (openForInput path).run.run s = (.ok d, t)) {fault : Fault}
    {w : Workspace}
    (refused : (d.insert position text).run.run t.world.workspace = (.error fault, w)) :
    ∃ u, (performInput path position text).run.run s
      = (.error (.failed Instruction.input.name fault), u) := by
  obtain ⟨a, world, -, ran⟩ := run_performInput opened position text
  rw [ran, run_bind, run_demand, World.run_inWorkspace, world, refused]
  exact ⟨_, rfl⟩

theorem performInput_unopened {e : CommandError}
    (failed : (openForInput path).run.run s = (.error e, t)) (position : Position) (text : String) :
    (performInput path position text).run.run s = (.error e, t) := by
  unfold performInput
  rw [run_bind, failed]

/-- An input into an open document is made as far as the text goes that the document has. -/
theorem performInput_opened (tidy : s.world.workspace.Tidy)
    (opened : (openForInput path).run.run s = (.ok d, t)) (position : Position) (text : String) :
    ∃ old, (s.world.Unfailing → s.world.workspace.OpensWith path d.file old)
      ∧ ((∃ new w u, splice? old (.caret position) text = some new
          ∧ (d.insert position text).run.run t.world.workspace = (.ok (), w) ∧ d.Fresh w new
          ∧ (performInput path position text).run.run s = (.ok (), u) ∧ u.world.workspace = w)
        ∨ ∃ fault w e u, splice? old (.caret position) text = none
          ∧ (d.insert position text).run.run t.world.workspace = (.error fault, w)
          ∧ (performInput path position text).run.run s = (.error e, u)) := by
  obtain ⟨old, fresh, opens⟩ := openForInput_fresh tidy opened
  refine ⟨old, opens, ?_⟩
  cases spliced : splice? old (.caret position) text with
  | some new =>
      obtain ⟨w, u, inserts, newer, ran, workspace, -⟩ := performInput_inserts opened fresh spliced
      exact .inl ⟨new, w, u, rfl, inserts, newer, ran, workspace⟩
  | none =>
      obtain ⟨fault, w, refused⟩ := fresh.replace_refused spliced
      obtain ⟨u, ran⟩ := performInput_refused opened refused
      exact .inr ⟨fault, w, _, u, rfl, refused, ran⟩

/-- Where no service is made to fail, an input completes if there is a text it can be made to. -/
theorem performInput_opensWith (tidy : s.world.workspace.Tidy) (unfailing : s.world.Unfailing)
    (opens : s.world.workspace.OpensWith path file old)
    (spliced : splice? old (.caret position) text = some new) :
    ∃ u, (performInput path position text).run.run s = (.ok (), u)
      ∧ u.world.workspace.disk.readText file = .ok new
      ∧ u.session.request = joinText s.session.request (Prompt.responseBlock Instruction.input.name
        (excerpt new (position.line - windowMargin)
          (min (position.line + Text.lineCount text + windowMargin)
            (Text.lineCount new - 1)))) := by
  obtain ⟨d, t, opened⟩ := openForInput_opens unfailing opens
  obtain ⟨old', fresh, opens'⟩ := openForInput_fresh tidy opened
  obtain ⟨rfl, rfl⟩ := opens.unique (opens' unfailing)
  obtain ⟨w, u, -, newer, ran, rfl, told⟩ := performInput_inserts opened fresh spliced
  exact ⟨u, ran, newer.readable, told⟩

end

section

variable {desk : Desk} {s : Scene}

/-- Once an input has written its text, there are lines to show around it and it completes: it fails
only if no document could be opened or the text could not be put into it. Where no service is made
to fail, it completes exactly if the file is there or can be created and has the line, and then the
file holds its old text, or none if it was created, with the text put in at the position. -/
theorem input_completes_iff (reachable : desk.Reachable)
    (same : s.world.workspace = desk.workspace) (path : String) (position : Position)
    (text : String) :
    (∀ d t w, (openForInput path).run.run s = (.ok d, t) →
        (d.insert position text).run.run t.world.workspace = (.ok (), w) →
        Surrounded (d.buffer w) position.line text
          ∧ (Action.input path position text).Completes s)
      ∧ (¬ (Action.input path position text).Completes s
        ↔ (∃ e t, (openForInput path).run.run s = (.error e, t))
          ∨ ∃ d t fault w, (openForInput path).run.run s = (.ok d, t)
            ∧ (d.insert position text).run.run t.world.workspace = (.error fault, w))
      ∧ (s.world.Unfailing →
        ((Action.input path position text).Completes s ↔ ∃ file old new,
          s.world.workspace.OpensWith path file old
            ∧ splice? old (.caret position) text = some new)
        ∧ ∀ file old new, s.world.workspace.OpensWith path file old →
          splice? old (.caret position) text = some new →
          ((Action.input path position text).perform.run.run s).2.world.workspace.disk.readText file
            = .ok new) := by
  have tidy : s.world.workspace.Tidy := by
    rw [same]
    exact reachable.sound.tidy
  refine ⟨fun d t w opened inserts => ?_, ⟨fun stopped => ?_, ?_⟩, fun unfailing => ⟨?_, ?_⟩⟩
  · obtain ⟨old, -, ⟨new, w', u, spliced, inserts', newer, ran, -⟩ |
        ⟨fault, w', e, u, -, refused, -⟩⟩ := performInput_opened tidy opened position text
    · obtain rfl := congrArg Prod.snd (inserts'.symm.trans inserts)
      refine ⟨Excerpt.surrounded newer.canonical ?_, congrArg Prod.fst ran⟩
      rw [newer.lineCount_buffer]
      exact Buffer.add_lineCount_le_of_splice spliced
    · cases refused.symm.trans inserts
  · rcases opened : (openForInput path).run.run s with ⟨e | d, t⟩
    · exact .inl ⟨e, t, rfl⟩
    · obtain ⟨old, -, ⟨new, w, u, -, -, -, ran, -⟩ | ⟨fault, w, e, u, -, refused, -⟩⟩ :=
        performInput_opened tidy opened position text
      · exact absurd (congrArg Prod.fst ran) stopped
      · exact .inr ⟨d, t, fault, w, rfl, refused⟩
  · rintro (⟨e, t, failed⟩ | ⟨d, t, fault, w, opened, refused⟩) completed
    · have ran := performInput_unopened failed position text
      cases (congrArg Prod.fst ran).symm.trans completed
    · obtain ⟨u, ran⟩ := performInput_refused opened refused
      cases (congrArg Prod.fst ran).symm.trans completed
  · constructor
    · intro completed
      obtain ⟨d, t, opened, -⟩ := bind_completed (Prod.ext completed rfl)
      obtain ⟨old, opens, ⟨new, w, u, spliced, -⟩ | ⟨fault, w, e, u, -, -, ran⟩⟩ :=
        performInput_opened tidy opened position text
      · exact ⟨d.file, old, new, opens unfailing, spliced⟩
      · cases (congrArg Prod.fst ran).symm.trans completed
    · rintro ⟨file, old, new, opens, spliced⟩
      obtain ⟨u, ran, -⟩ := performInput_opensWith tidy unfailing opens spliced
      exact congrArg Prod.fst ran
  · intro file old new opens spliced
    obtain ⟨u, ran, readable, -⟩ := performInput_opensWith tidy unfailing opens spliced
    show ((performInput path position text).run.run s).2.world.workspace.disk.readText file = _
    rw [ran]
    exact readable

end

/-- A file that was opened, and then was taken away from outside. -/
def Desk.removed : Desk :=
  (ofDisk [] ⟨[(["a.txt"], .file (.text "one\ntwo"))], []⟩).run
    [.opens "a.txt", .outside ⟨[], []⟩]

/-- A new session in its workspace. -/
def Scene.removed : Scene :=
  ⟨.empty, .ofWorkspace Desk.removed.workspace (.scripted [])⟩

/-- The buffer of the file is left over from before, and counts for nothing. -/
theorem input_completes_iff_removed :
    Desk.removed.Reachable ∧ Scene.removed.world.workspace = Desk.removed.workspace
      ∧ (Action.input "a.txt" ⟨0, 7⟩ "x\ny").Completes Scene.removed
      ∧ ((Action.input "a.txt" ⟨0, 7⟩ "x\ny").perform.run.run
          Scene.removed).2.world.workspace.disk.readText ["a.txt"] = .ok "x\ny" := by
  have reachable : Desk.removed.Reachable := ⟨_, _, _, rfl⟩
  have opens : Scene.removed.world.workspace.OpensWith "a.txt" ["a.txt"] "" :=
    ⟨rfl, .inr ⟨rfl, rfl, rfl⟩⟩
  have spliced : splice? "" (.caret ⟨0, 7⟩) "x\ny" = some "x\ny" := rfl
  have unfailing : Scene.removed.world.Unfailing := fun _ => rfl
  obtain ⟨completes, holds⟩ :=
    (input_completes_iff reachable rfl "a.txt" ⟨0, 7⟩ "x\ny").2.2 unfailing
  exact ⟨reachable, rfl, completes.mpr ⟨_, _, _, opens, spliced⟩, holds _ _ _ opens spliced⟩

/-! ## The lines that are shown -/

namespace Text

/-- The texts differ in nothing but the newlines at their ends. -/
def EndAlike (a b : String) : Prop :=
  dropEndWhile (· = '\n') a.toList = dropEndWhile (· = '\n') b.toList

instance (a b : String) : Decidable (EndAlike a b) :=
  inferInstanceAs (Decidable (_ = _))

theorem length_dropEndWhile_le {α : Type} (p : α → Bool) (l : List α) :
    (dropEndWhile p l).length ≤ l.length := by
  unfold dropEndWhile
  rw [List.length_reverse]
  exact Nat.le_trans (List.dropWhile_suffix p).length_le (Nat.le_of_eq l.length_reverse)

/-- One more line makes a difference exactly if there is something on it. -/
theorem endAlike_concat_iff {ls : List String} (inhabited : ls ≠ []) {line : String}
    (unbroken : '\n' ∉ line.toList) :
    EndAlike (unlines (ls ++ [line])) (unlines ls) ↔ line = "" := by
  have whole : (unlines (ls ++ [line])).toList = (unlines ls).toList ++ '\n' :: line.toList := by
    obtain ⟨init, last, rfl⟩ : ∃ init last, ls = init ++ [last] :=
      ⟨_, _, (List.dropLast_concat_getLast inhabited).symm⟩
    rw [List.append_assoc, List.singleton_append, Edit.toList_unlines_split,
      Edit.toList_unlines_split]
    simp [Edit.led]
  unfold EndAlike
  rw [whole]
  constructor
  · intro alike
    rcases List.eq_nil_or_concat line.toList with nothing | ⟨init, last, shape⟩
    · exact String.toList_eq_nil_iff.mp nothing
    · rw [List.concat_eq_append] at shape
      have visible : last ≠ '\n' := by
        rintro rfl
        exact unbroken (by rw [shape]; simp)
      rw [shape, ← List.cons_append, ← List.append_assoc, dropEndWhile_concat,
        if_neg (by simpa using visible)] at alike
      have longer := congrArg List.length alike
      have short := length_dropEndWhile_le (fun c => decide (c = '\n')) (unlines ls).toList
      simp only [List.length_append, List.length_cons] at longer
      omega
  · rintro rfl
    exact dropEndWhile_concat _ _ _

end Text

section

variable {content : String} {start stop : Nat}

theorem excerpt_min (content : String) (start stop : Nat) :
    excerpt content start (min stop (Text.lineCount content - 1)) = excerpt content start stop := by
  unfold excerpt Text.lineCount
  rcases Nat.le_total stop ((Text.lines content).length - 1) with before | after
  · rw [Nat.min_eq_left before]
  · rw [Nat.min_eq_right after, List.take_of_length_le (by omega),
      List.take_of_length_le (by omega)]

/-- An excerpt looks the same with one more line exactly if nothing is on that line. -/
theorem endAlike_excerpt_iff (ordered : start ≤ stop) :
    Text.EndAlike (excerpt content start (stop + 1)) (excerpt content start stop)
      ↔ ∀ line, (Text.lines content)[stop + 1]? = some line → line = "" := by
  unfold excerpt
  cases found : (Text.lines content)[stop + 1]? with
  | none =>
      have short := List.getElem?_eq_none_iff.mp found
      rw [List.take_of_length_le (Nat.le_succ_of_le short), List.take_of_length_le short]
      exact iff_of_true rfl nofun
  | some line =>
      obtain ⟨further, -⟩ := List.getElem?_eq_some_iff.mp found
      have parts : ((Text.lines content).take (stop + 1 + 1)).drop start
          = ((Text.lines content).take (stop + 1)).drop start ++ [line] := by
        rw [List.take_add_one, found, List.drop_append_of_le_length]
        · rfl
        · rw [List.length_take_of_le (Nat.le_of_lt further)]
          omega
      have inhabited : ((Text.lines content).take (stop + 1)).drop start ≠ [] := by
        rw [List.ne_nil_iff_length_pos, List.length_drop,
          List.length_take_of_le (Nat.le_of_lt further)]
        omega
      have unbroken := (Edit.canonical_lines content).unbroken line (List.mem_of_getElem? found)
      rw [parts, Text.endAlike_concat_iff inhabited unbroken]
      simp only [Option.some.injEq, forall_eq']

end

/-- A completed input is told by the lines of the document as it is then, from twenty lines before
the line of the insertion to twenty-one lines after the last one that it touched, as far as they go.
Up to newlines at the end these are the lines with no more than twenty after exactly if nothing is
on the twenty-first. -/
theorem input_shows_lines {desk : Desk} (reachable : desk.Reachable) {s t : Scene}
    (same : s.world.workspace = desk.workspace) {c : Command} {path : String}
    {position : Position} {text : String}
    (asked : c.action? = .ok (some (.input path position text)))
    (completed : c.perform.run.run s = (.ok (), t)) :
    ∃ file new payload, s.world.workspace.resolve path = .ok file
      ∧ t.world.workspace.disk.readText file = .ok new
      ∧ t.session.request = joinText s.session.request (Prompt.responseBlock c.name payload)
      ∧ payload = excerpt new (position.line - 20)
        (min (position.line + Text.lineCount text + 20) (Text.lineCount new - 1))
      ∧ (Text.EndAlike payload (excerpt new (position.line - 20)
          (min (position.line + Text.lineCount text - 1 + 20) (Text.lineCount new - 1)))
        ↔ ∀ line, (Text.lines new)[position.line + Text.lineCount text + 20]? = some line →
          line = "") := by
  have tidy : s.world.workspace.Tidy := by
    rw [same]
    exact reachable.sound.tidy
  have some_ : 0 < Text.lineCount text := List.length_pos_iff.mpr (Text.lines_ne_nil text)
  rw [perform_asked asked] at completed
  obtain ⟨d, u, opened, -⟩ := bind_completed completed
  obtain ⟨old, fresh, -⟩ := openForInput_fresh tidy opened
  cases spliced : splice? old (.caret position) text with
  | none =>
      obtain ⟨fault, w, refused⟩ := fresh.replace_refused spliced
      obtain ⟨v, ran⟩ := performInput_refused opened refused
      cases ran.symm.trans completed
  | some new =>
      obtain ⟨w, v, -, newer, ran, rfl, told⟩ := performInput_inserts opened fresh spliced
      obtain rfl := congrArg Prod.snd (ran.symm.trans completed)
      -- The window ends one line further than twenty lines after the last one that was touched.
      have last : position.line + Text.lineCount text + 20
          = position.line + Text.lineCount text - 1 + 20 + 1 := by omega
      refine ⟨d.file, new, _, (openForInput_completed opened).1, newer.readable, ?_, rfl, ?_⟩
      · rw [Command.name_of_action asked]
        exact told
      · rw [excerpt_min, excerpt_min, last]
        exact endAlike_excerpt_iff (by omega)

/-- A command to put a text into a file. -/
def putsInto (line column : Nat) (text : String) : Command :=
  ⟨"input", [.text "a.txt", .integer line, .integer column, .text text], ⟨0, 0⟩⟩

/-- Sixty lines that look the same. -/
def sixtyLines : String :=
  Text.unlines (List.replicate 60 "-")

/-- Around the thirty-first of sixty lines, twenty lines before it and twenty-one after it. -/
theorem input_shows_lines_thirtyFirst :
    (Desk.ofDisk [] ⟨[(["a.txt"], .file (.text sixtyLines))], []⟩).Reachable
      ∧ (putsInto 30 7 "x").action? = .ok (some (.input "a.txt" ⟨30, 7⟩ "x"))
      ∧ ∃ t payload, (putsInto 30 7 "x").perform.run.run (.onFile "a.txt" sixtyLines) = (.ok (), t)
        ∧ t.session.request = Prompt.responseBlock "input" payload
        ∧ payload = Text.unlines (List.replicate 20 "-" ++ "-x" :: List.replicate 21 "-") := by
  have reachable : (Desk.ofDisk [] ⟨[(["a.txt"], .file (.text sixtyLines))], []⟩).Reachable :=
    ⟨_, _, [], rfl⟩
  have asked : (putsInto 30 7 "x").action? = .ok (some (.input "a.txt" ⟨30, 7⟩ "x")) := rfl
  have opens : (Scene.onFile "a.txt" sixtyLines).world.workspace.OpensWith "a.txt" ["a.txt"]
      sixtyLines := ⟨rfl, .inl rfl⟩
  have spliced : splice? sixtyLines (.caret ⟨30, 7⟩) "x"
      = some (Text.unlines (List.replicate 30 "-" ++ "-x" :: List.replicate 29 "-")) := by
    decide +kernel
  obtain ⟨t, ran, readable, -⟩ :=
    performInput_opensWith reachable.sound.tidy (fun _ => rfl) opens spliced
  have completed : (putsInto 30 7 "x").perform.run.run (.onFile "a.txt" sixtyLines)
      = (.ok (), t) := ran
  obtain ⟨file, new, payload, resolved, holds, told, shown, -⟩ :=
    input_shows_lines reachable rfl asked completed
  obtain rfl := Except.ok.inj resolved
  obtain rfl := Except.ok.inj (readable.symm.trans holds)
  refine ⟨reachable, asked, t, payload, completed, told, shown.trans ?_⟩
  decide +kernel

/-- Twenty-one empty lines, and one with something on it. -/
def farLine : String :=
  Text.unlines (List.replicate 21 "" ++ ["end"])

/-- When a line is changed at the top, the twenty-first line after it is shown. -/
theorem input_shows_farLine :
    ∃ t new payload, performAll [putsInto 0 0 "x"] (.onFile "a.txt" farLine) = (none, t)
      ∧ t.world.workspace.disk.readText ["a.txt"] = .ok new
      ∧ t.session.request = Prompt.responseBlock "input" payload
      ∧ ¬ Text.EndAlike payload (excerpt new (0 - 20)
        (min (Text.lineCount new - 1) (0 + Text.lineCount "x" - 1 + 20))) := by
  have tidy : (Scene.onFile "a.txt" farLine).world.workspace.Tidy := (Desk.sound_ofDisk _ _).tidy
  have opens : (Scene.onFile "a.txt" farLine).world.workspace.OpensWith "a.txt" ["a.txt"] farLine :=
    ⟨rfl, .inl rfl⟩
  have spliced : splice? farLine (.caret ⟨0, 0⟩) "x"
      = some (Text.unlines ("x" :: List.replicate 20 "" ++ ["end"])) := by
    decide +kernel
  obtain ⟨t, ran, readable, told⟩ := performInput_opensWith tidy (fun _ => rfl) opens spliced
  refine ⟨t, _, _, ?_, readable, told, ?_⟩
  · have performed : (putsInto 0 0 "x").perform.run.run (.onFile "a.txt" farLine)
        = (.ok (), t) := ran
    rw [performAll, performFrom_cons, performed]
    rfl
  · decide +kernel

end ReplyScript
