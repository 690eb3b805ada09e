import ReplyScript.Dialogue.Shared
import ReplyScript.Proofs.Dialogue.Ledger

/-! # Sharing a dialogue

Leading a turn from one wait to the next comes to the same as running it at a stretch, if it always
finds the dialogue as it left it. The lock sees to that. Main statement: `Shared.run_serial`, whatever
the clients do and however turns wait, the submissions that are not turned away are those of one
client after the other.
-/

namespace ReplyScript

open Edit (Position Range)
open Effect Scene
open Script (Command)

/-! ## Finishing -/

namespace Progress

variable {σ α β : Type}

theorem finish_bind (next : α → σ → Progress σ β) (p : Progress σ α) :
    (p.bind next).finish = (next p.finish.1 p.finish.2).finish := by
  induction p with
  | ended a s => rfl
  | waits s resume ih => exact ih s

theorem finish_within (p : Progress Scene α) (d : Dialogue) :
    (p.within d).finish = ((p.finish.1, p.finish.2.session),
      { d with session := .empty, world := p.finish.2.world }) := by
  induction p generalizing d with
  | ended a s => rfl
  | waits s resume ih => exact ih s { d with session := .empty, world := s.world }

end Progress

/-! ## Actions -/

/-- Finishing an action that waits comes to the same as performing it at a stretch. -/
def Paces (x : Paced α) (op : SceneM α) : Prop :=
  ∀ s, (x s).finish = op.run.run s

namespace Paces

variable {α β : Type} {x : Paced α} {op : SceneM α} {f : α → Paced β} {rest : α → SceneM β}

theorem pure (a : α) : Paces (pure a) (pure a) :=
  fun _ => rfl

theorem now (op : SceneM α) : Paces (.now op) op :=
  fun _ => rfl

theorem awaited (op : SceneM α) : Paces (.awaited op) op :=
  fun _ => rfl

theorem bind (first : Paces x op) (later : ∀ a, Paces (f a) (rest a)) :
    Paces (x >>= f) (op >>= rest) := by
  intro s
  rw [run_bind, ← first s]
  refine (Progress.finish_bind _ (x s)).trans ?_
  rcases (x s).finish with ⟨e | a, t⟩
  · rfl
  · exact later a t

theorem readFile (path : String) (start stop : Option Nat) :
    Paces (.readFile path start stop) (performReadFile path start stop) := by
  refine (awaited _).bind ?_
  rintro (text | content)
  · exact now _
  · exact now _

theorem listFiles (path : String) : Paces (.listFiles path) (performListFiles path) := by
  refine (awaited _).bind ?_
  rintro (text | entries)
  · exact now _
  · exact now _

theorem createFile (path : String) : Paces (.createFile path) (performCreateFile path) := by
  refine (awaited _).bind ?_
  rintro (text | done)
  · exact now _
  · exact pure _

theorem openForInput (path : String) :
    Paces (.openForInput path) (ReplyScript.openForInput path) := by
  refine (awaited _).bind ?_
  rintro (fault | d)
  · cases fault with
    | notFound path' => exact (awaited _).bind fun _ => awaited _
    | _ => exact now _
  · exact pure d

theorem input (path : String) (position : Position) (text : String) :
    Paces (.input path position text) (performInput path position text) := by
  refine (openForInput path).bind fun d => ?_
  refine (now _).bind fun _ => ?_
  refine (awaited _).bind fun _ => ?_
  exact (now _).bind fun window => now _

theorem turn (i : Instruction) (change : Document → WorkspaceM Unit) :
    Paces (.turn i change) (do
      let d ← activeDocument i
      demand i (World.inWorkspace (change d))) :=
  (now _).bind fun _ => awaited _

theorem replace (path : String) (range : Range) (text : String) :
    Paces (.replace path range text) (performReplace path range text) := by
  refine (awaited _).bind fun d => ?_
  exact (now _).bind fun _ => awaited _

theorem copyRange (i : Instruction) (path : String) (range : Range) :
    Paces (.copyRange i path range) (ReplyScript.copyRange i path range) := by
  refine (awaited _).bind fun d => ?_
  refine (now _).bind fun text => ?_
  exact (awaited _).bind fun _ => pure d

theorem cut (path : String) (range : Range) : Paces (.cut path range) (performCut path range) := by
  refine (now _).bind fun _ => ?_
  exact (copyRange _ _ _).bind fun d => awaited _

theorem paste (path : String) (position : Position) :
    Paces (.paste path position) (performPaste path position) := by
  refine (now _).bind fun _ => ?_
  refine (awaited _).bind fun d => ?_
  refine (awaited _).bind fun text => ?_
  exact (now _).bind fun _ => awaited _

theorem getSyntaxErrors : Paces .getSyntaxErrors performGetSyntaxErrors := by
  refine (now _).bind fun d => ?_
  exact (awaited _).bind fun diagnostics => now _

theorem search (query : String) : Paces (.search query) (performSearch query) := by
  refine (awaited _).bind ?_
  rintro (text | hits)
  · exact now _
  · exact now _

theorem runInTerminal (command : String) :
    Paces (.runInTerminal command) (performRunInTerminal command) := by
  refine (awaited _).bind ?_
  rintro (_ | _)
  · simp only [Bool.false_eq_true, if_false]
    exact now _
  · simp only [if_true]
    refine (awaited _).bind ?_
    rintro (text | output)
    · exact now _
    · exact now _

theorem action (a : Action) : Paces a.paced a.perform := by
  cases a with
  | readFile path start stop => exact readFile path start stop
  | listFiles path => exact listFiles path
  | createFile path => exact createFile path
  | undo => exact turn .undo Document.undo
  | redo => exact turn .redo Document.redo
  | input path position text => exact input path position text
  | select range => exact now _
  | replace path range text => exact replace path range text
  | copy path range => exact (copyRange .copy path range).bind fun _ => pure _
  | cut path range => exact cut path range
  | paste path position => exact paste path position
  | getSyntaxErrors => exact getSyntaxErrors
  | search query => exact search query
  | runInTerminal command => exact runInTerminal command
  | memoryWrite text => exact now (Action.memoryWrite text).perform
  | readMemory => exact now Action.readMemory.perform
  | clearMemory => exact now Action.clearMemory.perform
  | clearConversation => exact now Action.clearConversation.perform

theorem command (c : Command) : Paces c.paced c.perform := by
  unfold Command.paced Command.perform
  rcases c.action? with e | _ | a
  · exact now _
  · exact now _
  · exact action a

end Paces

theorem finish_pacedFrom (index : Nat) (cs : List Command) (s : Scene) :
    (pacedFrom index cs s).finish = performFrom index cs s := by
  induction cs generalizing index s with
  | nil => rfl
  | cons c rest ih =>
      rw [performFrom_cons, ← Paces.command c s]
      refine (Progress.finish_bind _ (c.paced s)).trans ?_
      rcases (c.paced s).finish with ⟨e | done, t⟩
      · rfl
      · exact ih (index + 1) t

/-! ## Turns -/

namespace Dialogue

variable {d : Dialogue}

theorem finish_pacedReply (d : Dialogue) (reply : String) :
    (d.pacedReply reply).finish = d.applyReply reply := by
  unfold pacedReply applyReply
  cases Script.read reply with
  | error errors => rfl
  | ok script =>
      simp only [Progress.finish_bind, Progress.finish_within, finish_pacedFrom]
      unfold performAll
      rcases performFrom 0 script.commands ⟨d.session, d.world⟩ with ⟨_ | a, s⟩
      · rfl
      · simp only
        split <;> rfl

theorem applyReply_model (d : Dialogue) (reply : String) :
    (d.applyReply reply).2.model = d.model := by
  unfold applyReply
  cases Script.read reply with
  | error errors => rfl
  | ok script =>
      simp only
      rcases performAll script.commands ⟨d.session, d.world⟩ with ⟨_ | a, s⟩
      · rfl
      · simp only
        split <;> rfl

theorem foldl_arrive_model (arrivals : List String) (d : Dialogue) :
    (arrivals.foldl arrive d).model = d.model := by
  obtain ⟨events, arrived⟩ := foldl_arrive arrivals d
  rw [arrived]

theorem finish_pacedTurns {answers : List ModelAnswer} (left : d.model.answers = answers)
    (replies : List String) (request : String) :
    (pacedTurns replies request answers.length d).finish = d.turns replies request answers := by
  induction answers generalizing d replies request with
  | nil => rfl
  | cons answer answers ih =>
      rw [List.length_cons, pacedTurns, left, turns]
      simp only [Progress.finish]
      cases answered : answer.reply with
      | error e => rfl
      | ok reply =>
          have kept := applyReply_model ((answer.arrivals.foldl arrive
            (ask { d with model := { d.model with answers } } request)).accept reply) reply
          have same := foldl_arrive_model answer.arrivals
            (ask { d with model := { d.model with answers } } request)
          simp only [Progress.finish_bind, finish_pacedReply]
          generalize answer.arrivals.foldl arrive
            (ask { d with model := { d.model with answers } } request) = e at kept same
          rcases performed : (e.accept reply).applyReply reply with ⟨applied, next⟩
          rw [performed] at kept
          cases applied with
          | failed error => rfl
          | aborted error => rfl
          | done =>
              have left : next.model.answers = answers :=
                congrArg Model.answers (kept.trans same)
              simp only
              split
              · rfl
              · split
                · rfl
                · exact ih (d := { next with session := { next.session with request := "" } })
                    left _ _

theorem finish_pacedSend (d : Dialogue) (text : String) :
    (d.pacedSend text).finish = d.send text :=
  finish_pacedTurns (d := { d with session := { d.session with request := "" } }) rfl _ _

variable {κ : Type}

theorem afterServing_append (d : Dialogue) (early late : List (κ × String)) :
    d.afterServing (early ++ late) = (d.afterServing early).afterServing late := by
  unfold afterServing run
  rw [List.map_append, List.foldl_append]

theorem served_append (d : Dialogue) (early late : List (κ × String)) :
    d.served (early ++ late) = d.served early ++ (d.afterServing early).served late := by
  induction early generalizing d with
  | nil => rfl
  | cons submission rest ih =>
      rw [List.cons_append, served, served, ih]
      rfl

theorem length_served (d : Dialogue) (submissions : List (κ × String)) :
    (d.served submissions).length = submissions.length := by
  induction submissions generalizing d with
  | nil => rfl
  | cons submission rest ih => rw [served, List.length_cons, List.length_cons, ih]

theorem idle_afterServing (idle : d.phase = .idle) (submissions : List (κ × String)) :
    (d.afterServing submissions).phase = .idle := by
  induction submissions generalizing d with
  | nil => exact idle
  | cons submission rest ih => exact ih ((accounted idle (.submit submission.2)).1.trans idle)

end Dialogue

/-! ## Clients -/

namespace Shared

variable {κ : Type} {d : Dialogue} {s : Shared κ}

/-- Either no submission is in progress and all is as after those that were accepted, or one is in
progress: it has the lock, and it will come to what it comes to after the others. -/
inductive Serial (d : Dialogue) (s : Shared κ) : Prop
  | rest (locked : s.locked = false) (waiting : s.waiting = [])
      (dialogue : s.dialogue = d.afterServing s.accepted) (ended : s.ended = d.served s.accepted)
  | turn (before : List (κ × String)) (client : κ) (text : String)
      (resume : Dialogue → Progress Dialogue (Except SubmitError Outcome))
      (locked : s.locked = true) (waiting : s.waiting = [(client, resume)])
      (accepted : s.accepted = before ++ [(client, text)]) (ended : s.ended = d.served before)
      (goal : (resume s.dialogue).finish = (d.afterServing before).submit text)

/-- The lock is held while a submission proceeds from one wait to the next. -/
theorem serial_proceed {before : List (κ × String)} {client : κ} {text : String}
    (locked : s.locked = true) (waiting : s.waiting = [])
    (accepted : s.accepted = before ++ [(client, text)]) (ended : s.ended = d.served before)
    {p : Progress Dialogue (Except SubmitError Outcome)}
    (goal : p.finish = (d.afterServing before).submit text) : Serial d (s.proceed client p) := by
  cases p with
  | waits next resume =>
      refine .turn before client text resume locked ?_ accepted ended goal
      show s.waiting ++ [(client, resume)] = [(client, resume)]
      rw [waiting, List.nil_append]
  | ended result next =>
      have result_ : result = ((d.afterServing before).submit text).1 := congrArg Prod.fst goal
      have next_ : next = ((d.afterServing before).submit text).2 := congrArg Prod.snd goal
      refine .rest rfl waiting ?_ ?_
      · show next = d.afterServing s.accepted
        rw [accepted, Dialogue.afterServing_append, next_]
        rfl
      · show s.ended ++ [(client, result)] = d.served s.accepted
        rw [accepted, Dialogue.served_append, ended, result_]
        rfl

theorem step_submits_locked (locked : s.locked = true) (client : κ) (text : String) :
    s.step (.submits client text) = { s with refused := s.refused ++ [(client, .busy)] } :=
  if_pos locked

theorem step_submits_free (locked : s.locked = false) (client : κ) (text : String) :
    s.step (.submits client text)
      = proceed { s with locked := true, accepted := s.accepted ++ [(client, text)] } client
        (s.dialogue.pacedSend text) :=
  if_neg (ne_true_of_eq_false locked)

theorem step_resumes_first {client : κ}
    {resume : Dialogue → Progress Dialogue (Except SubmitError Outcome)}
    (waiting : s.waiting = [(client, resume)]) :
    s.step (.resumes 0) = proceed { s with waiting := [] } client (resume s.dialogue) := by
  unfold step
  rw [waiting]
  rfl

theorem step_resumes_none {index : Nat} (none : s.waiting.length ≤ index) :
    s.step (.resumes index) = s := by
  simp only [step, List.getElem?_eq_none none]

theorem serial_step (idle : d.phase = .idle) (serial : Serial d s) (occasion : Occasion κ) :
    Serial d (s.step occasion) := by
  cases serial with
  | rest locked waiting dialogue ended =>
      cases occasion with
      | submits client text =>
          have goal : (s.dialogue.pacedSend text).finish
              = (d.afterServing s.accepted).submit text := by
            rw [Dialogue.finish_pacedSend, dialogue,
              Dialogue.submit_of_idle (Dialogue.idle_afterServing idle s.accepted)]
          rw [step_submits_free locked]
          exact serial_proceed
            (s := { s with locked := true, accepted := s.accepted ++ [(client, text)] })
            rfl waiting rfl ended goal
      | resumes index =>
          rw [step_resumes_none (by simp [waiting])]
          exact .rest locked waiting dialogue ended
  | turn before client text resume locked waiting accepted ended goal =>
      cases occasion with
      | submits other later =>
          rw [step_submits_locked locked]
          exact .turn before client text resume locked waiting accepted ended goal
      | resumes index =>
          cases index with
          | zero =>
              rw [step_resumes_first waiting]
              exact serial_proceed (s := { s with waiting := [] }) locked rfl accepted ended goal
          | succ index =>
              rw [step_resumes_none (by simp [waiting])]
              exact .turn before client text resume locked waiting accepted ended goal

theorem serial_run (idle : d.phase = .idle) (serial : Serial d s) (occasions : List (Occasion κ)) :
    Serial d (s.run occasions) := by
  induction occasions generalizing s with
  | nil => exact serial
  | cons occasion rest ih => exact ih (serial_step idle serial occasion)

theorem run_resumes_none (waiting : s.waiting = []) (m : Nat) :
    s.run (List.replicate m (.resumes 0)) = s := by
  induction m with
  | zero => rfl
  | succ m ih =>
      have still : s.step (.resumes 0) = s := step_resumes_none (by simp [waiting])
      rw [List.replicate_succ, run, List.foldl_cons, still]
      exact ih

/-- A submission ends when it has been resumed as often as it waits. -/
theorem run_resumes {p : Progress Dialogue (Except SubmitError Outcome)} (waiting : s.waiting = [])
    (client : κ) {m : Nat} (enough : p.pauses ≤ m) :
    let t := (s.proceed client p).run (List.replicate m (.resumes 0))
    t.locked = false ∧ t.accepted = s.accepted ∧ t.refused = s.refused := by
  induction p generalizing s m with
  | ended result next =>
      intro t
      have same : t = s.proceed client (.ended result next) :=
        run_resumes_none (s := s.proceed client (.ended result next)) waiting m
      rw [same]
      exact ⟨rfl, rfl, rfl⟩
  | waits next resume ih =>
      obtain ⟨k, rfl⟩ := Nat.exists_eq_add_of_lt enough
      have alone : (s.proceed client (.waits next resume)).waiting = [(client, resume)] := by
        show s.waiting ++ [(client, resume)] = [(client, resume)]
        rw [waiting, List.nil_append]
      rw [List.replicate_succ, run, List.foldl_cons, step_resumes_first alone]
      exact ih next (s := { s.proceed client (.waits next resume) with waiting := [] }) rfl
        (Nat.le_add_right _ k)

theorem Serial.ends (serial : Serial d s) : ∃ n, ∀ m, n ≤ m →
    let t := s.run (List.replicate m (.resumes 0))
    t.locked = false ∧ t.accepted = s.accepted ∧ t.refused = s.refused := by
  cases serial with
  | rest locked waiting dialogue ended =>
      refine ⟨0, fun m _ => ?_⟩
      rw [run_resumes_none waiting]
      exact ⟨locked, rfl, rfl⟩
  | turn before client text resume locked waiting accepted ended goal =>
      refine ⟨(resume s.dialogue).pauses + 1, fun m enough => ?_⟩
      obtain ⟨k, rfl⟩ := Nat.exists_eq_add_of_lt enough
      rw [List.replicate_succ, run, List.foldl_cons, step_resumes_first waiting]
      exact run_resumes (s := { s with waiting := [] }) rfl client (Nat.le_add_right _ k)

/-- The submissions that have ended are all those that were accepted, or all but the one that has
the lock. -/
theorem Serial.counts (serial : Serial d s) :
    s.waiting.length ≤ 1 ∧ s.accepted.length = s.ended.length + s.waiting.length
      ∧ (s.locked = true ↔ s.waiting.length = 1)
      ∧ s.ended = d.served (s.accepted.take s.ended.length) := by
  cases serial with
  | rest locked waiting dialogue ended =>
      have length : s.ended.length = s.accepted.length := by
        rw [ended, Dialogue.length_served]
      rw [length, List.take_length, waiting, locked]
      exact ⟨Nat.zero_le 1, rfl, iff_of_false Bool.false_ne_true Nat.zero_ne_one, ended⟩
  | turn before client text resume locked waiting accepted ended goal =>
      have length : s.ended.length = before.length := by
        rw [ended, Dialogue.length_served]
      rw [length, accepted, List.take_left, waiting, locked, List.length_append]
      exact ⟨Nat.le_refl 1, rfl, iff_of_true rfl rfl, ended⟩

theorem Serial.dialogue_of_free (serial : Serial d s) (free : s.locked = false) :
    s.dialogue = d.afterServing s.accepted := by
  cases serial with
  | rest locked waiting dialogue ended => exact dialogue
  | turn before client text resume locked =>
      rw [locked] at free
      cases free

/-- However many clients share a dialogue, whatever they submit and however their submissions wait,
there is at most one submission in progress. While there is one, others are turned away as busy, and
nothing else happens: the session, the world with its files and all that is recorded of services and
updates, and the requests to the model stay as they are. Otherwise a submission is accepted. What has
ended has come to what it comes to if the accepted submissions are served one after the other, in
order. So has the dialogue, with its session, its files and its requests, as soon as nothing is in
progress, which is so when the submission in progress has been resumed often enough. -/
theorem run_serial (session : Session) (world : World) (config : DialogueConfig) (model : Model)
    (occasions : List (Occasion κ)) :
    let d := Dialogue.start session world config model
    let s := (start d).run occasions
    s.waiting.length ≤ 1 ∧ s.accepted.length = s.ended.length + s.waiting.length
      ∧ (∀ client text, s.waiting ≠ [] →
        s.step (.submits client text) = { s with refused := s.refused ++ [(client, .busy)] })
      ∧ (∀ client text, s.waiting = [] →
        (s.step (.submits client text)).accepted = s.accepted ++ [(client, text)])
      ∧ s.ended = d.served (s.accepted.take s.ended.length)
      ∧ (s.waiting = [] → s.dialogue = d.afterServing s.accepted)
      ∧ ∃ n, ∀ m, n ≤ m →
        let t := s.run (List.replicate m (.resumes 0))
        t.waiting = [] ∧ t.accepted = s.accepted ∧ t.refused = s.refused
          ∧ t.ended = d.served s.accepted ∧ t.dialogue = d.afterServing s.accepted := by
  intro d s
  have initial : Serial d (start d : Shared κ) := .rest rfl rfl rfl rfl
  have serial : Serial d s := serial_run rfl initial occasions
  have free {t : Shared κ} (serial : Serial d t) : t.locked = false ↔ t.waiting = [] := by
    obtain ⟨most, -, locked, -⟩ := serial.counts
    rw [← Bool.not_eq_true, locked, ← List.length_eq_zero_iff]
    omega
  obtain ⟨most, counts, -, ended⟩ := serial.counts
  refine ⟨most, counts, ?_, ?_, ended, ?_, ?_⟩
  · intro client text waiting
    exact step_submits_locked (Bool.not_eq_false _ |>.mp fun none =>
      waiting ((free serial).mp none)) client text
  · intro client text waiting
    rw [step_submits_free ((free serial).mpr waiting)]
    cases s.dialogue.pacedSend text <;> rfl
  · exact fun waiting => serial.dialogue_of_free ((free serial).mpr waiting)
  · obtain ⟨n, ends⟩ := serial.ends
    refine ⟨n, fun m enough => ?_⟩
    obtain ⟨locked, accepted, refused⟩ := ends m enough
    have final := serial_run rfl serial (List.replicate m (.resumes 0))
    obtain ⟨-, all, -, served⟩ := final.counts
    have waiting := (free final).mp locked
    refine ⟨waiting, accepted, refused, ?_, ?_⟩
    · rw [waiting, List.length_nil, Nat.add_zero] at all
      rw [← all, List.take_length, accepted] at served
      exact served
    · rw [final.dialogue_of_free locked, accepted]

/-- Between two requests of one submission the dialogue is idle, and yet others are turned away. -/
example :
    let world := World.ofWorkspace (.ofDisk [] .empty) (.scripted [])
    let s := (start (.start .empty world {}
      ⟨[⟨[], .ok "@startCommand\n@readMemory\n@endCommand"⟩], .failed "no answer"⟩)).run
        [.submits true "hi", .resumes 0]
    s.dialogue.phase = .idle ∧ (s.step (.submits false "too")).refused = [(false, .busy)] := by
  decide +kernel

end Shared

end ReplyScript
