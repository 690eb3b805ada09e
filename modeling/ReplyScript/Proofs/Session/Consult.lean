import ReplyScript.Proofs.Instruction.Binding
import ReplyScript.Proofs.Session.Ledger
import ReplyScript.Session.Consult

/-! # Looking arguments up

Every look at the arguments of a command hits a slot of the kind that is looked for, with something
in it, so what is looked up by its place is what the action was made with. Main statements:
`Script.Command.consulted_hits`, and `consultFrom_eq` for batches.
-/

namespace ReplyScript

open Edit (Position Range)
open Effect Scene
open Script (Command)

/-- The four numbers of a range. -/
def Edit.Range.fillings (r : Range) : List Filling :=
  [.index r.start.line, .index r.start.column, .index r.stop.line, .index r.stop.column]

/-- The fillings from which an action is made. -/
def Action.fillings : Action → List Filling
  | readFile path start stop => [.text path, .index start, .index stop]
  | listFiles path | createFile path => [.text path]
  | input path p text => [.text path, .index p.line, .index p.column, .text text]
  | select r => r.fillings
  | replace path r text => .text path :: (r.fillings ++ [.text text])
  | copy path r | cut path r => .text path :: r.fillings
  | paste path p => [.text path, .index p.line, .index p.column]
  | search query => [.text query]
  | runInTerminal command => [.text command]
  | memoryWrite text => [.text text]
  | undo | redo | getSyntaxErrors | readMemory | clearMemory | clearConversation => []

theorem Action.eq_of_ofFillings {i : Instruction} {fillings : List Filling} {a : Action}
    (made : Action.ofFillings? i fillings = some a) :
    i = a.instruction ∧ fillings = a.fillings := by
  unfold ofFillings? at made
  split at made <;> cases made <;> exact ⟨rfl, rfl⟩

/-! ## Looks -/

/-- An action that looks its arguments up does the same as one that has them, and all of its looks
hit. -/
def Consults (hits : Look → Prop) (x : ConsultM α) (op : SceneM α) : Prop :=
  ∀ q, ∃ looks, (∀ look ∈ looks, hits look)
    ∧ x.run.run q = ((op.run.run q.scene).1.mapError .failed,
      ⟨(op.run.run q.scene).2, q.looks ++ looks⟩)

namespace Consults

variable {α β : Type} {hits : Look → Prop} {x : ConsultM α} {op : SceneM α}
  {f : α → ConsultM β} {rest : α → SceneM β}

theorem unaided (same : ∀ q, x.run.run q = ((op.run.run q.scene).1.mapError .failed,
    ⟨(op.run.run q.scene).2, q.looks⟩)) : Consults hits x op := by
  intro q
  refine ⟨[], List.forall_mem_nil _, ?_⟩
  rw [List.append_nil]
  exact same q

theorem pure (a : α) : Consults hits (pure a) (pure a) :=
  unaided fun _ => rfl

theorem fail (e : CommandError) : Consults hits (throw (.failed e) : ConsultM α) (throw e) :=
  unaided fun _ => rfl

theorem doing (op : SceneM α) : Consults hits (doing op) op := by
  refine unaided fun q => ?_
  unfold ReplyScript.doing
  simp only [run_bind, run_get]
  rcases op.run.run q.scene with ⟨e | a, s⟩ <;> rfl

theorem weaken {hits' : Look → Prop} (consults : Consults hits x op)
    (weaker : ∀ look, hits look → hits' look) : Consults hits' x op := by
  intro q
  obtain ⟨looks, hit, ran⟩ := consults q
  exact ⟨looks, fun look member => weaker look (hit look member), ran⟩

theorem bind (first : Consults hits x op) (later : ∀ a, Consults hits (f a) (rest a)) :
    Consults hits (x >>= f) (op >>= rest) := by
  intro q
  obtain ⟨looks, hit, ran⟩ := first q
  rw [run_bind, run_bind, ran]
  rcases op.run.run q.scene with ⟨e | a, s⟩
  · exact ⟨looks, hit, rfl⟩
  · obtain ⟨more, also, goes⟩ := later a ⟨s, q.looks ++ looks⟩
    refine ⟨looks ++ more, List.forall_mem_append.mpr ⟨hit, also⟩, ?_⟩
    rw [← List.append_assoc]
    exact goes

theorem after {a : α} {op : SceneM β} (first : Consults hits x (Pure.pure a))
    (later : Consults hits (f a) op) : Consults hits (x >>= f) op := by
  intro q
  obtain ⟨looks, hit, ran⟩ := first q
  obtain ⟨more, also, goes⟩ := later ⟨q.scene, q.looks ++ looks⟩
  refine ⟨looks ++ more, List.forall_mem_append.mpr ⟨hit, also⟩, ?_⟩
  rw [run_bind, ran, ← List.append_assoc]
  exact goes

theorem looking {look : Look} {a : α} (hit : hits look) :
    Consults hits (looking look (.ok a)) (Pure.pure a) :=
  fun _ => ⟨[look], List.forall_mem_singleton.mpr hit, rfl⟩

section

variable {slots : List Slot} {b : Bound} {place : Nat} {name : String}

theorem lookText {s : String} (slot : slots[place]? = some (.text name))
    (filled : b.fillings[place]? = some (.text s)) :
    Consults (Look.Hits slots b) (b.lookText place) (Pure.pure s) := by
  have found : b.text place = .ok s := by rw [Bound.text, filled]
  rw [Bound.lookText, found]
  exact looking (.text slot filled)

theorem lookIndex {n : Nat} (slot : slots[place]? = some (.index name))
    (filled : b.fillings[place]? = some (.index (some n))) :
    Consults (Look.Hits slots b) (b.lookIndex place) (Pure.pure n) := by
  have found : b.index place = .ok n := by rw [Bound.index, Bound.optionalIndex, filled]
  rw [Bound.lookIndex, found]
  exact looking (.index slot filled)

theorem lookOptionalIndex {n : Option Nat} (slot : slots[place]? = some (.optionalIndex name))
    (filled : b.fillings[place]? = some (.index n)) :
    Consults (Look.Hits slots b) (b.lookOptionalIndex place) (Pure.pure n) := by
  have found : b.optionalIndex place = .ok n := by rw [Bound.optionalIndex, filled]
  rw [Bound.lookOptionalIndex, found]
  exact looking (.optionalIndex slot filled)

theorem lookRange {first : Nat} {r : Range}
    (asked : (slots.drop first).take 4 = Instruction.rangeSlots)
    (filled : (b.fillings.drop first).take 4 = r.fillings) :
    Consults (Look.Hits slots b) (b.lookRange first) (Pure.pure r) := by
  have slot (k : Nat) (inside : k < 4) : slots[first + k]? = Instruction.rangeSlots[k]? := by
    rw [← asked, List.getElem?_take_of_lt inside, List.getElem?_drop]
  have filling (k : Nat) (inside : k < 4) :
      b.fillings[first + k]? = r.fillings[k]? := by
    rw [← filled, List.getElem?_take_of_lt inside, List.getElem?_drop]
  refine (lookIndex (slot 0 (by decide)) (filling 0 (by decide))).after ?_
  refine (lookIndex (slot 1 (by decide)) (filling 1 (by decide))).after ?_
  refine (lookIndex (slot 2 (by decide)) (filling 2 (by decide))).after ?_
  refine (lookIndex (slot 3 (by decide)) (filling 3 (by decide))).after ?_
  exact pure r

end

/-! ## Actions -/

/-- The arguments that are looked up are those from which the action was made. -/
abbrev At (a : Action) (x : ConsultM α) (op : SceneM α) : Prop :=
  Consults (Look.Hits a.instruction.slots ⟨a.fillings⟩) x op

theorem readFile (path : String) (start stop : Option Nat) :
    At (.readFile path start stop) (Bound.readFile ⟨(Action.readFile path start stop).fillings⟩)
      (performReadFile path start stop) := by
  refine (lookText rfl rfl).after ?_
  refine (doing _).bind ?_
  rintro (text | content)
  · exact doing _
  · refine after (a := captureSnippet path content start stop) ?_ (doing _)
    refine (lookOptionalIndex rfl rfl).after ?_
    cases start with
    | none => exact pure _
    | some first => exact (lookOptionalIndex rfl rfl).after (pure _)

theorem input (path : String) (p : Position) (text : String) :
    At (.input path p text) (Bound.input ⟨(Action.input path p text).fillings⟩)
      (performInput path p text) := by
  refine (lookText rfl rfl).after ?_
  refine (lookIndex rfl rfl).after ?_
  refine (lookIndex rfl rfl).after ?_
  refine (lookText rfl rfl).after ?_
  exact doing _

theorem select (r : Range) :
    At (.select r) (Bound.select ⟨(Action.select r).fillings⟩) (performSelect r) := by
  refine (doing _).bind fun d => ?_
  refine (lookRange rfl rfl).after ?_
  refine (doing _).bind fun _ => ?_
  refine (doing _).bind fun _ => ?_
  exact doing _

theorem replace (path : String) (r : Range) (text : String) :
    At (.replace path r text) (Bound.replace ⟨(Action.replace path r text).fillings⟩)
      (performReplace path r text) := by
  refine (lookText rfl rfl).after ?_
  refine (doing _).bind fun d => ?_
  refine (doing _).bind fun _ => ?_
  refine (lookRange rfl rfl).after ?_
  refine (lookText rfl rfl).after ?_
  exact doing _

theorem copyRange {slots : List Slot} {b : Bound} {path : String} {r : Range} {name : String}
    (slot : slots[0]? = some (.text name)) (named : b.fillings[0]? = some (.text path))
    (asked : (slots.drop 1).take 4 = Instruction.rangeSlots)
    (filled : (b.fillings.drop 1).take 4 = r.fillings) (i : Instruction) :
    Consults (Look.Hits slots b) (b.copyRange i)
      ((ReplyScript.copyRange i path r) >>= fun d => Pure.pure (d, r)) := by
  unfold ReplyScript.copyRange
  simp only [bind_assoc, pure_bind]
  refine (lookText slot named).after ?_
  refine (doing _).bind fun d => ?_
  refine (lookRange asked filled).after ?_
  refine (doing _).bind fun text => ?_
  refine (doing _).bind fun _ => ?_
  exact pure _

theorem copy (path : String) (r : Range) :
    At (.copy path r) (Bound.copy ⟨(Action.copy path r).fillings⟩) (Action.copy path r).perform := by
  have copied : At (.copy path r) (Bound.copyRange ⟨(Action.copy path r).fillings⟩ .copy)
      (ReplyScript.copyRange .copy path r >>= fun d => Pure.pure (d, r)) :=
    copyRange rfl rfl rfl rfl .copy
  have both := copied.bind fun _ => pure ()
  rw [bind_assoc] at both
  exact both

theorem cut (path : String) (r : Range) :
    At (.cut path r) (Bound.cut ⟨(Action.cut path r).fillings⟩) (performCut path r) := by
  refine (doing _).bind fun _ => ?_
  have copied : At (.cut path r) (Bound.copyRange ⟨(Action.cut path r).fillings⟩ .cut)
      (ReplyScript.copyRange .cut path r >>= fun d => Pure.pure (d, r)) :=
    copyRange rfl rfl rfl rfl .cut
  have both := copied.bind fun p =>
    doing (demand .cut (World.inWorkspace (p.1.delete p.2)))
  rw [bind_assoc] at both
  exact both

theorem paste (path : String) (p : Position) :
    At (.paste path p) (Bound.paste ⟨(Action.paste path p).fillings⟩) (performPaste path p) := by
  refine (doing _).bind fun _ => ?_
  refine (lookText rfl rfl).after ?_
  refine (doing _).bind fun d => ?_
  refine (doing _).bind fun text => ?_
  refine (doing _).bind fun _ => ?_
  refine (lookIndex rfl rfl).after ?_
  refine (lookIndex rfl rfl).after ?_
  exact doing _

theorem withText {slots : List Slot} {name s : String} (slot : slots[0]? = some (.text name))
    (op : String → SceneM Unit) :
    Consults (Look.Hits slots ⟨[.text s]⟩) (Bound.withText ⟨[.text s]⟩ op) (op s) :=
  (lookText slot rfl).after (doing _)

/-- Every action does what it does when it has its arguments. -/
theorem action (a : Action) : At a (a.instruction.consult ⟨a.fillings⟩) a.perform := by
  cases a with
  | readFile path start stop => exact readFile path start stop
  | listFiles path => exact withText rfl _
  | createFile path => exact withText rfl _
  | undo => exact doing Action.undo.perform
  | redo => exact doing Action.redo.perform
  | input path p text => exact input path p text
  | select r => exact select r
  | replace path r text => exact replace path r text
  | copy path r => exact copy path r
  | cut path r => exact cut path r
  | paste path p => exact paste path p
  | getSyntaxErrors => exact doing performGetSyntaxErrors
  | search query => exact withText rfl _
  | runInTerminal command => exact withText rfl _
  | memoryWrite text => exact withText rfl _
  | readMemory => exact doing Action.readMemory.perform
  | clearMemory => exact doing Action.clearMemory.perform
  | clearConversation => exact doing Action.clearConversation.perform

end Consults

/-! ## Commands -/

/-- A look at the fillings that were bound for a command hits. -/
def Script.Command.Hits (c : Command) (look : Look) : Prop :=
  ∃ (i : Instruction) (fillings : List Filling), c.name = i.name
    ∧ i.bind c.arguments = .ok fillings ∧ look.Hits i.slots ⟨fillings⟩

theorem Consults.command (c : Command) : Consults c.Hits c.consult c.perform := by
  unfold Script.Command.consult Script.Command.perform Script.Command.action?
  cases known : Instruction.ofName? c.name with
  | none => exact pure ()
  | some i =>
      have named := Instruction.ofName?_eq_some_iff.mp known
      cases bound : i.bind c.arguments with
      | error problem =>
          simp only [bound]
          exact fail _
      | ok fillings =>
          obtain ⟨a, made, -⟩ := Action.exists_ofFillings (takes_of_fillSlots bound)
          obtain ⟨rfl, rfl⟩ := Action.eq_of_ofFillings made
          simp only [bound, made]
          exact (action a).weaken fun look hit => ⟨a.instruction, a.fillings, named, bound, hit⟩

/-- The command is performed as the command that has its arguments, in whatever scene. -/
theorem Script.Command.consulted_eq (c : Command) (s : Scene) :
    ∃ looks, (∀ look ∈ looks, c.Hits look)
      ∧ c.consulted s = ((c.perform.run.run s).1.mapError .failed,
        ⟨(c.perform.run.run s).2, looks⟩) :=
  Consults.command c ⟨s, []⟩

/-- Every look that a command has at its arguments hits, so none of them is misread, whatever the
command and the scene. -/
theorem Script.Command.consulted_hits (c : Command) (s : Scene) :
    (∀ look ∈ (c.consulted s).2.looks, ∃ (i : Instruction) (fillings : List Filling),
        c.name = i.name ∧ i.bind c.arguments = .ok fillings ∧ look.Hits i.slots ⟨fillings⟩)
      ∧ (∀ m, (c.consulted s).1 ≠ .error (.misread m))
      ∧ (c.consulted s).1 = (c.perform.run.run s).1.mapError .failed
      ∧ (c.consulted s).2.scene = (c.perform.run.run s).2 := by
  obtain ⟨looks, hit, ran⟩ := c.consulted_eq s
  rw [ran]
  refine ⟨hit, ?_, rfl, rfl⟩
  intro m
  rcases (c.perform.run.run s).1 with e | done
  · exact nofun
  · exact nofun

/-- A batch in which arguments are looked up is performed as one in which they are there. -/
theorem consultFrom_eq (index : Nat) (cs : List Command) (s : Scene) :
    consultFrom index cs s
      = ((performFrom index cs s).1.map fun a => (a.index, .failed a.error),
        (performFrom index cs s).2) := by
  induction cs generalizing index s with
  | nil => rfl
  | cons c rest ih =>
      obtain ⟨looks, -, ran⟩ := c.consulted_eq s
      rw [consultFrom, performFrom, ran]
      rcases c.perform.run.run s with ⟨e | done, t⟩
      · rfl
      · exact ih (index + 1) t

end ReplyScript
