import ReplyScript.Proofs.Session.Confinement

/-! # Responses

The text for the next request only grows, by one block for each command that has something to tell,
and every block is shown with all the text there is by then. Main statement: `performAll_responds`.
-/

namespace ReplyScript

open Effect Scene
open Script (Command)

/-! ## Joined texts -/

/-- The later text is the earlier one and something more. -/
def Grows (earlier later : String) : Prop :=
  ∃ more, more ≠ "" ∧ later = earlier ++ more

theorem Grows.trans {first second third : String} (early : Grows first second)
    (late : Grows second third) : Grows first third := by
  obtain ⟨more, something, rfl⟩ := early
  obtain ⟨further, -, rfl⟩ := late
  refine ⟨more ++ further, ?_, String.append_assoc⟩
  intro nothing
  exact something (String.append_eq_empty_iff.mp nothing).1

theorem grows_joinText (text : String) {addition : String} (something : addition ≠ "") :
    Grows text (joinText text addition) := by
  unfold joinText
  simp only
  split
  · exact ⟨addition, something, rfl⟩
  · refine ⟨"\n" ++ addition, ?_, String.append_assoc⟩
    intro nothing
    exact something (String.append_eq_empty_iff.mp nothing).2

/-- The text ends with a character that is no newline. -/
def Unbroken (s : String) : Prop :=
  ∃ c, s.toList.getLast? = some c ∧ c ≠ '\n'

theorem unbroken_append (s : String) {t : String} (unbroken : Unbroken t) : Unbroken (s ++ t) := by
  obtain ⟨c, last, other⟩ := unbroken
  refine ⟨c, ?_, other⟩
  rw [String.toList_append, List.getLast?_append, last]
  rfl

theorem unbroken_responseBlock (command payload : String) :
    Unbroken (Prompt.responseBlock command payload) :=
  unbroken_append _ ⟨'\x60', by decide, by decide⟩

theorem joinText_unbroken {text : String} (unbroken : Unbroken text) (addition : String) :
    joinText text addition = text ++ "\n" ++ addition := by
  obtain ⟨c, last, other⟩ := unbroken
  unfold joinText
  simp only
  rw [if_neg]
  rintro (empty | broken)
  · rw [empty] at last
    cases last
  · rw [last] at broken
    exact other (Option.some.inj broken)

/-- Texts joined one after another are joined as lines. -/
theorem foldl_joinText (text : String) {block : String} {blocks : List String}
    (first : Unbroken block) (rest : ∀ b ∈ blocks, Unbroken b) :
    blocks.foldl joinText (joinText text block)
      = joinText text (Text.unlines (block :: blocks)) := by
  induction blocks generalizing block with
  | nil => simp [Text.unlines]
  | cons next blocks ih =>
      obtain ⟨unbroken, later⟩ := List.forall_mem_cons.mp rest
      -- The first two blocks are taken for one, which is not broken at its end either.
      have joined : Unbroken (block ++ "\n" ++ next) := unbroken_append _ unbroken
      have lines : Text.unlines ((block ++ "\n" ++ next) :: blocks)
          = Text.unlines (block :: next :: blocks) := by
        cases blocks <;> simp [Text.unlines, String.append_assoc]
      have both : joinText (joinText text block) next = joinText text (block ++ "\n" ++ next) := by
        have ended : Unbroken (joinText text block) := unbroken_append _ first
        rw [joinText_unbroken ended]
        simp only [joinText, String.append_assoc]
      rw [List.foldl_cons, both, ih joined later, lines]

/-! ## What is told -/

theorem Scene.result?_returns {α β : Type} (s : Scene) (op : SceneM α) (words : α → β) :
    s.result? (do return words (← op)) = (s.result? op).map words := by
  unfold result?
  rw [run_bind]
  rcases op.run.run s with ⟨e | x, t⟩ <;> rfl

namespace Action

variable {s : Scene}

theorem payload_of_returns {α : Type} (s : Scene) (op : SceneM α) (words : α → Report) :
    (s.result? (do return words (← op))).bind Report.payload?
      = (s.result? op).bind fun x => (words x).payload? := by
  rw [s.result?_returns]
  cases s.result? op <;> rfl

theorem told_eq (a : Action) (s : Scene) : a.told s = (s.result? a.work).bind Report.payload? := by
  cases a with
  | readFile path first last =>
      refine .trans ?_ (payload_of_returns s _ _).symm
      simp only [told]
      rcases s.result? (probe .readFile (World.readText path)) with _ | (_ | _) <;> rfl
  | createFile path =>
      refine .trans ?_ (payload_of_returns s _ _).symm
      simp only [told]
      rcases s.result? (probe .createFile (World.writeFile path "")) with _ | (_ | _) <;> rfl
  | readMemory => rfl
  | _ =>
      refine .trans ?_ (payload_of_returns s _ _).symm
      simp only [told]
      cases s.result? _ <;> rfl

theorem told_of_worked {a : Action} {r : Report} {t : Scene}
    (worked : a.work.run.run s = (.ok r, t)) : a.told s = r.payload? := by
  rw [told_eq, result?, worked]
  rfl

theorem told_of_failed {a : Action} {e : CommandError} {t : Scene}
    (failed : a.perform.run.run s = (.error e, t)) : a.told s = none := by
  rw [run_perform] at failed
  rw [told_eq, result?]
  rcases worked : a.work.run.run s with ⟨early | r, u⟩
  · rfl
  · rw [worked] at failed
    cases failed

theorem told_isSome_iff {a : Action} {r : Report} {t : Scene}
    (worked : a.work.run.run s = (.ok r, t)) : (a.told s).isSome = true ↔ a.Tells s := by
  rw [told_of_worked worked]
  cases a with
  | readFile path first last =>
      obtain ⟨result, u, -, returned⟩ := bind_completed worked
      cases returned
      refine iff_of_true ?_ trivial
      cases result <;> rfl
  | createFile path =>
      obtain ⟨result, u, ran, returned⟩ := bind_completed worked
      cases returned
      unfold Tells
      rw [run_probe] at ran
      rcases wrote : (World.writeFile path "").run.run s.world with ⟨fault | done, world⟩
      · rw [wrote] at ran
        simp only at ran
        split at ran
        · cases ran
        · cases ran
          exact iff_of_true rfl ⟨fault, by rw [wrote]⟩
      · rw [wrote] at ran
        cases ran
        refine iff_of_false nofun ?_
        rintro ⟨fault, failed⟩
        rw [wrote] at failed
        cases failed
  | listFiles | input | select | getSyntaxErrors | search | runInTerminal | readMemory =>
      obtain ⟨result, u, -, returned⟩ := bind_completed worked
      cases returned
      exact iff_of_true rfl trivial
  | _ =>
      obtain ⟨result, u, -, returned⟩ := bind_completed worked
      cases returned
      exact iff_of_false nofun id

theorem Reaches.requests {a : Action} {t : Scene} (reached : a.Reaches s t) :
    t.world.requests = s.world.requests := by
  obtain ⟨added, events, allowed⟩ := reached.world.events
  have silent : added.filterMap Event.request? = [] := by
    refine List.filterMap_eq_nil_iff.mpr fun e member => ?_
    obtain ⟨service, -, shows_⟩ := allowed e member
    cases e <;> cases shows_ <;> rfl
  unfold World.requests
  rw [events, List.filterMap_append, silent, List.append_nil]

theorem requests_scene (i : Instruction) (r : Report) (t : Scene) :
    (r.scene i t).world.requests
      = t.world.requests ++ ((r.block? i).map fun _ => (r.scene i t).session.request).toList := by
  unfold World.requests Report.scene Report.events Report.session
  rw [List.filterMap_append, List.filterMap_append]
  cases r.snippet? <;> cases r.block? i <;> rfl

/-- What an action does to the text for the next request, and what is shown of it. -/
theorem request_perform (a : Action) (s : Scene) :
    let block? := (a.told s).map (Prompt.responseBlock a.instruction.name)
    let t := (a.perform.run.run s).2
    t.session.request = (block?.map (joinText s.session.request)).getD s.session.request
      ∧ t.world.requests = s.world.requests ++ (block?.map fun _ => t.session.request).toList := by
  have outcome := a.outcome s
  generalize performed : a.perform.run.run s = run at outcome
  cases outcome with
  | unready needs none =>
      rw [told_of_failed performed]
      exact ⟨rfl, (List.append_nil _).symm⟩
  | failed fault t ready worked reached =>
      rw [told_of_failed performed]
      exact ⟨reached.request, reached.requests.trans (List.append_nil _).symm⟩
  | completed r t ready worked reached =>
      rw [told_of_worked worked, ← reached.request, ← reached.requests]
      exact ⟨rfl, requests_scene a.instruction r t⟩

end Action

/-! ## Deeds -/

namespace Deed

/-- The block that a command adds to the text for the next request. -/
def block? (d : Deed) : Option String :=
  (d.action?.bind fun a => a.told d.before).map (Prompt.responseBlock d.command.name)

/-- The text for the next request that a command shows: all of it, with its own block. -/
def update? (d : Deed) : Option String :=
  d.block?.map fun _ => d.after.session.request

variable {d : Deed}

theorem request_deed (d : Deed) :
    d.after.session.request
        = (d.block?.map (joinText d.before.session.request)).getD d.before.session.request
      ∧ d.after.world.requests = d.before.world.requests ++ d.update?.toList := by
  unfold update? block?
  cases asked : d.action? with
  | none =>
      rw [after_of_no_action asked]
      exact ⟨rfl, (List.append_nil _).symm⟩
  | some a =>
      rw [after_of_action asked, Command.name_of_action (action?_eq_some_iff.mp asked)]
      exact a.request_perform d.before

/-- A command adds a block if it is completed and is one that tells something. -/
theorem block_isSome_iff (d : Deed) : d.block?.isSome = true
    ↔ d.result = .ok () ∧ ∃ a, d.action? = some a ∧ a.Tells d.before := by
  unfold block?
  rw [Option.isSome_map]
  cases asked : d.action? with
  | none => exact iff_of_false nofun (by rintro ⟨-, a, known, -⟩; cases known)
  | some a =>
      rw [result_of_action asked]
      simp only [Option.bind_some, Option.some.injEq, exists_eq_left']
      have outcome := a.outcome d.before
      generalize performed : a.perform.run.run d.before = run at outcome
      cases outcome with
      | unready needs none =>
          rw [Action.told_of_failed performed]
          exact iff_of_false nofun nofun
      | failed fault t =>
          rw [Action.told_of_failed performed]
          exact iff_of_false nofun nofun
      | completed r t ready worked =>
          rw [Action.told_isSome_iff worked]
          exact (and_iff_right rfl).symm

theorem block_eq {block : String} (added : d.block? = some block) :
    ∃ payload, block = Prompt.responseBlock d.command.name payload := by
  obtain ⟨payload, -, rfl⟩ := Option.map_eq_some_iff.mp added
  exact ⟨payload, rfl⟩

end Deed

/-! ## Batches -/

/-- The blocks that deeds add. -/
def blocks (ds : List Deed) : List String :=
  ds.filterMap Deed.block?

/-- The texts that deeds show. -/
def updates (ds : List Deed) : List String :=
  ds.filterMap Deed.update?

section

variable {s t : Scene} {ds : List Deed}

theorem request_linked (linked : Linked s ds t) :
    t.session.request = (blocks ds).foldl joinText s.session.request := by
  unfold blocks
  induction ds generalizing s with
  | nil => exact congrArg (·.session.request) linked.symm
  | cons d rest ih =>
      obtain ⟨rfl, later⟩ := linked
      rw [ih later, d.request_deed.1, List.filterMap_cons]
      cases d.block? <;> rfl

theorem requests_linked (linked : Linked s ds t) :
    t.world.requests = s.world.requests ++ updates ds := by
  unfold updates
  induction ds generalizing s with
  | nil => exact (congrArg (·.world.requests) linked.symm).trans (List.append_nil _).symm
  | cons d rest ih =>
      obtain ⟨rfl, later⟩ := linked
      rw [ih later, d.request_deed.2, List.filterMap_cons, List.append_assoc]
      cases d.update? <;> rfl

/-- The texts that are shown grow from the one there was, and the last is the one there is. -/
theorem updates_linked (linked : Linked s ds t) :
    (s.session.request :: updates ds).Pairwise Grows
      ∧ (s.session.request :: updates ds).getLast? = some t.session.request := by
  unfold updates
  induction ds generalizing s with
  | nil =>
      cases linked
      exact ⟨List.pairwise_singleton _ _, rfl⟩
  | cons d rest ih =>
      obtain ⟨rfl, later⟩ := linked
      obtain ⟨chain, last⟩ := ih later
      have text := d.request_deed.1
      rw [List.filterMap_cons]
      unfold Deed.update?
      cases added : d.block? with
      | none =>
          rw [added] at text
          have text : d.after.session.request = d.before.session.request := text
          rw [← text]
          exact ⟨chain, last⟩
      | some block =>
          rw [added] at text
          have text : d.after.session.request = joinText d.before.session.request block := text
          obtain ⟨payload, rfl⟩ := Deed.block_eq added
          have grows := grows_joinText d.before.session.request
            (responseBlock_ne_empty d.command.name payload)
          rw [← text] at grows
          refine ⟨.cons ?_ chain, ?_⟩
          · rintro later (_ | ⟨_, member⟩)
            · exact grows
            · exact grows.trans (List.rel_of_pairwise_cons chain member)
          · exact (List.getLast?_cons_cons).trans last

end

theorem unbroken_blocks (ds : List Deed) : ∀ block ∈ blocks ds, Unbroken block := by
  intro block member
  obtain ⟨d, -, added⟩ := List.mem_filterMap.mp member
  obtain ⟨payload, rfl⟩ := Deed.block_eq added
  exact unbroken_responseBlock d.command.name payload

/-- A batch, be it given up or not, adds one block for each completed command that tells something,
in their order and on lines of their own. With each block it shows the whole text there is by then;
these texts grow one from the other, and the last is the text that there is in the end. -/
theorem performAll_responds (cs : List Command) (s : Scene) :
    let ds := deeds cs s
    let t := (performAll cs s).2
    ds.map Deed.command <+: cs ∧ Linked s ds t
      ∧ (∀ d ∈ ds, (d.block?.isSome = true
          ↔ d.result = .ok () ∧ ∃ a, d.action? = some a ∧ a.Tells d.before)
        ∧ (∀ block, d.block? = some block →
          ∃ payload, block = Prompt.responseBlock d.command.name payload)
        ∧ d.after.session.request
          = (d.block?.map (joinText d.before.session.request)).getD d.before.session.request
        ∧ d.after.world.requests = d.before.world.requests ++ d.update?.toList)
      ∧ t.session.request = (if blocks ds = [] then s.session.request
        else joinText s.session.request (Text.unlines (blocks ds)))
      ∧ t.world.requests = s.world.requests ++ updates ds
      ∧ (s.session.request :: updates ds).Pairwise Grows
      ∧ (s.session.request :: updates ds).getLast? = some t.session.request := by
  intro ds t
  have linked : Linked s ds t := linked_deeds cs s
  obtain ⟨chain, last⟩ := updates_linked linked
  refine ⟨commands_deeds cs s, linked, ?_, ?_, requests_linked linked, chain, last⟩
  · intro d _
    exact ⟨d.block_isSome_iff, fun _ => Deed.block_eq, d.request_deed.1, d.request_deed.2⟩
  · rw [request_linked linked]
    have unbroken := unbroken_blocks ds
    cases added : blocks ds with
    | nil => rfl
    | cons block rest =>
        rw [added] at unbroken
        obtain ⟨first, later⟩ := List.forall_mem_cons.mp unbroken
        rw [if_neg (List.cons_ne_nil block rest), List.foldl_cons]
        exact foldl_joinText s.session.request first later

end ReplyScript
