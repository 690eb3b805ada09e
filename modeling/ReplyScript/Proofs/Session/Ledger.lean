import ReplyScript.Proofs.Session.Batch
import ReplyScript.Session.Ledger

/-! # Batches add what they tell

The text for the next request and the snippets for it change by the entries of the batch, and by
nothing else. Main statement: `performAll_adds`.
-/

namespace ReplyScript

open Effect Scene
open Prompt (Snippet)
open Script (Command)

/-! ## How it is written -/

namespace Ledger

theorem joined_ne_empty {piece : String} (written : piece ≠ "") (rest : List String) :
    joined (piece :: rest) ≠ "" := by
  cases rest with
  | nil => exact written
  | cons next rest =>
      intro empty
      rw [joined] at empty
      have front := (String.append_eq_empty_iff.mp empty).1
      split at front
      · exact written front
      · exact written (String.append_eq_empty_iff.mp front).1

theorem joinText_append (front : String) {text : String} (written : text ≠ "")
    (addition : String) : joinText (front ++ text) addition = front ++ joinText text addition := by
  have filled : text.toList ≠ [] := fun empty => written (String.toList_eq_nil_iff.mp empty)
  have whole : (front ++ text).toList ≠ [] := by
    rw [String.toList_append]
    exact List.append_ne_nil_of_right_ne_nil _ filled
  have last : (front ++ text).toList.getLast? = text.toList.getLast? := by
    rw [String.toList_append, List.getLast?_append, List.getLast?_eq_some_getLast filled]
    rfl
  unfold joinText
  simp only [filled, whole, last, false_or]
  split <;> simp only [String.append_assoc]

theorem joined_concat {pieces : List String} (written : ∀ piece ∈ pieces, piece ≠ "")
    (text : String) : joined (pieces ++ [text]) = joinText (joined pieces) text := by
  induction pieces with
  | nil => exact String.empty_append.symm
  | cons piece rest ih =>
      obtain ⟨first, others⟩ := List.forall_mem_cons.mp written
      cases rest with
      | nil =>
          have filled : piece.toList ≠ [] := fun empty => first (String.toList_eq_nil_iff.mp empty)
          simp only [List.singleton_append, joined, joinText, filled, false_or]
      | cons next rest =>
          have later := joined_ne_empty (others next List.mem_cons_self) rest
          rw [List.cons_append, List.cons_append, joined, joined, joinText_append _ later,
            ← List.cons_append, ih others]

theorem appended_eq (text : String) {piece : String} (written : piece ≠ "") :
    appended text piece = joinText text piece := by
  by_cases empty : text = ""
  · have kept : [text, piece].filter (· ≠ "") = [piece] := by simp [empty, written]
    rw [appended, kept, empty]
    exact String.empty_append.symm
  · have kept : [text, piece].filter (· ≠ "") = [text] ++ [piece] := by simp [empty, written]
    rw [appended, kept, joined_concat (List.forall_mem_singleton.mpr empty)]
    rfl

theorem addRequest_eq (s : Session) {piece : String} (written : piece ≠ "") :
    s.addRequest piece = { s with request := appended s.request piece } := by
  rw [appended_eq _ written]
  rfl

theorem responseBlock_lines (command body : String) :
    "response to @" ++ command ++ ":\n```\n" ++ body ++ "\n```"
      = Text.unlines ["response to @" ++ command ++ ":", "```", body, "```"] := by
  simp [← String.toList_inj, Text.unlines]

theorem responds_responseBlock (command payload : String) :
    Responds command payload (Prompt.responseBlock command payload) := by
  obtain ⟨dropped, whole, breaks⟩ := Text.dropEndWhile_append (· = '\n') payload.toList
  have trimmed : (Text.dropEndWhile (· = '\n') payload.toList).getLast? ≠ some '\n' := by
    intro last
    cases Text.getLast?_dropEndWhile last
  have newlines : dropped = List.replicate dropped.length '\n' :=
    List.eq_replicate_iff.mpr ⟨rfl, fun c member => of_decide_eq_true (breaks c member)⟩
  have split : payload = String.ofList (Text.dropEndWhile (· = '\n') payload.toList)
      ++ String.ofList (List.replicate dropped.length '\n') := by
    rw [← String.ofList_append, ← newlines, whole, String.ofList_toList]
  unfold Prompt.responseBlock
  rw [responseBlock_lines]
  generalize Text.dropEndWhile (fun c => decide (c = '\n')) payload.toList = body at *
  subst split
  exact .intro _ _ (String.toList_ofList ▸ trimmed)

end Ledger

/-- The material for the next request, and what was sent of it before. -/
structure Outbox where
  sent : List (List Snippet × String)
  snippets : List Snippet
  request : String

def Outbox.enter (o : Outbox) : LedgerEntry → Outbox
  | .attached snippet => { o with snippets := o.snippets ++ [snippet] }
  | .taken index => { o with snippets := o.snippets.eraseIdx index }
  | .told text => { o with request := if text = "" then o.request else joinText o.request text }
  | .answered => ⟨o.sent ++ [(o.snippets, o.request)], [], ""⟩

theorem Outbox.enter_told (o : Outbox) {text : String} (written : text ≠ "") :
    o.enter (.told text) = { o with request := joinText o.request text } := by
  simp only [enter, if_neg written]

def Outbox.enterAll (o : Outbox) (entries : List LedgerEntry) : Outbox :=
  entries.foldl enter o

@[simp]
theorem Outbox.enterAll_nil (o : Outbox) : o.enterAll [] = o :=
  rfl

@[simp]
theorem Outbox.enterAll_cons (o : Outbox) (entry : LedgerEntry) (entries : List LedgerEntry) :
    o.enterAll (entry :: entries) = (o.enter entry).enterAll entries :=
  rfl

@[simp]
theorem Outbox.enterAll_append (o : Outbox) (early late : List LedgerEntry) :
    o.enterAll (early ++ late) = (o.enterAll early).enterAll late :=
  List.foldl_append

def Session.outbox (s : Session) (sent : List (List Snippet × String)) : Outbox :=
  ⟨sent, s.snippets, s.request⟩

/-! ## Steps of actions -/

/-- The operation adds these entries to the next request. -/
def Adds (op : SceneM α) (s : Scene) (entries : List LedgerEntry) : Prop :=
  ∀ sent, (op.run.run s).2.session.outbox sent = (s.session.outbox sent).enterAll entries

/-- The operation adds nothing to the next request. -/
def Silent (op : SceneM α) : Prop :=
  ∀ s, Adds op s []

variable {α β : Type} {x : SceneM α} {f : α → SceneM β} {s : Scene} {entries : List LedgerEntry}

theorem Quiet.silent (quiet : Quiet x) : Silent x := by
  intro s sent
  rw [quiet s]
  rfl

theorem silent_activate (d : Document) : Silent (activate d) :=
  fun _ _ => rfl

theorem silent_modifySession {change : Session → Session}
    (keeps : ∀ s sent, (change s).outbox sent = s.outbox sent) : Silent (modifySession change) :=
  fun s sent => keeps s.session sent

theorem Silent.bind_adds (silent : Silent x)
    (completed : ∀ a t, x.run.run s = (.ok a, t) → Adds (f a) t entries)
    (failed : ∀ e t, x.run.run s = (.error e, t) → entries = []) : Adds (x >>= f) s entries := by
  intro sent
  have same := silent s sent
  rw [run_bind]
  rcases ran : x.run.run s with ⟨e | a, t⟩
  · rw [ran] at same
    rw [failed e t ran]
    exact same
  · rw [ran] at same
    have added := completed a t ran sent
    rw [same] at added
    exact added

theorem Silent.bind (silent : Silent x) (rest : ∀ a, Silent (f a)) : Silent (x >>= f) := by
  intro s
  exact silent.bind_adds (fun a t _ => rest a t) (fun e t _ => rfl)

theorem responseBlock_ne_empty (command payload : String) :
    Prompt.responseBlock command payload ≠ "" := by
  intro empty
  have chars := congrArg String.toList empty
  unfold Prompt.responseBlock at chars
  simp at chars

theorem error_ne_empty (message : String) : "error: " ++ message ≠ "" := by
  intro empty
  exact absurd (String.append_eq_empty_iff.mp empty).1 (by decide)

theorem adds_respond (i : Instruction) (payload : String) (s : Scene) :
    Adds (respond i payload) s [.told (Prompt.responseBlock i.name payload)] := by
  intro sent
  rw [Outbox.enterAll_cons, Outbox.enter_told _ (responseBlock_ne_empty _ _)]
  rfl

theorem Silent.bind_respond {x : SceneM String} (silent : Silent x) (i : Instruction) :
    Adds (x >>= respond i) s
      ((s.result? x).toList.map fun payload => .told (Prompt.responseBlock i.name payload)) := by
  refine silent.bind_adds ?_ ?_
  · intro payload t ran
    rw [result?, ran]
    exact adds_respond i payload t
  · intro e t ran
    rw [result?, ran]
    rfl

theorem adds_noted (i : Instruction) (op : WorldM α) (words : α → String)
    (tell : Except String α → SceneM Unit)
    (tells : ∀ result, tell result = respond i (noted words result)) :
    Adds (probe i op >>= tell) s
      (((s.result? (probe i op)).map (noted words)).toList.map fun payload =>
        .told (Prompt.responseBlock i.name payload)) := by
  refine (quiet_probe i op).silent.bind_adds ?_ ?_
  · intro result t ran
    rw [result?, ran, tells]
    exact adds_respond i _ t
  · intro e t ran
    rw [result?, ran]
    rfl

/-! ## Actions -/

private theorem adds_attach (snippet : Snippet) (i : Instruction) (payload : String) (s : Scene) :
    Adds (do
        modifySession fun s => { s with snippets := s.snippets ++ [snippet] }
        record (.snippets ((← get).session.snippets.map Snippet.location))
        respond i payload) s
      [.attached snippet, .told (Prompt.responseBlock i.name payload)] := by
  intro sent
  rw [Outbox.enterAll_cons, Outbox.enterAll_cons,
    Outbox.enter_told _ (responseBlock_ne_empty _ _)]
  rfl

theorem adds_readFile (path : String) (start stop : Option Nat) (s : Scene) :
    Adds (performReadFile path start stop) s ((Action.readFile path start stop).entries s) := by
  refine (quiet_probe _ _).silent.bind_adds ?_ ?_
  · intro result t ran
    simp only [Action.entries, Action.attached, Action.told, result?, ran]
    cases result with
    | error text => exact adds_respond _ _ t
    | ok content => exact adds_attach _ .readFile _ t
  · intro e t ran
    simp only [Action.entries, Action.attached, Action.told, result?, ran]
    rfl

theorem adds_listFiles (path : String) (s : Scene) :
    Adds (performListFiles path) s ((Action.listFiles path).entries s) := by
  refine adds_noted .listFiles _ _ _ ?_
  intro result
  cases result <;> rfl

theorem adds_createFile (path : String) (s : Scene) :
    Adds (performCreateFile path) s ((Action.createFile path).entries s) := by
  refine (quiet_probe _ _).silent.bind_adds ?_ ?_
  · intro result t ran
    simp only [Action.entries, Action.attached, Action.told, result?, ran]
    cases result with
    | error text => exact adds_respond _ _ t
    | ok done => exact fun sent => rfl
  · intro e t ran
    simp only [Action.entries, Action.attached, Action.told, result?, ran]
    rfl

theorem adds_search (query : String) (s : Scene) :
    Adds (performSearch query) s ((Action.search query).entries s) := by
  refine adds_noted .search _ _ _ ?_
  intro result
  cases result <;> rfl

theorem performInput_eq (path : String) (position : Edit.Position) (text : String) :
    performInput path position text = insertAndShow path position text >>= respond .input := by
  unfold performInput insertAndShow
  simp only [bind_assoc]

theorem adds_input (path : String) (position : Edit.Position) (text : String) (s : Scene) :
    Adds (performInput path position text) s ((Action.input path position text).entries s) := by
  have silent : Silent (insertAndShow path position text) := by
    refine (quiet_openForInput path).silent.bind ?_
    intro d
    refine (silent_activate _).bind ?_
    intro made
    refine (quiet_demand _ _).silent.bind ?_
    intro done
    exact (quiet_demand _ _).silent
  rw [performInput_eq]
  exact silent.bind_respond .input

theorem performSelect_eq (range : Edit.Range) :
    performSelect range = selectAndShow range >>= respond .select := by
  unfold performSelect selectAndShow
  simp only [bind_assoc]

theorem adds_select (range : Edit.Range) (s : Scene) :
    Adds (performSelect range) s ((Action.select range).entries s) := by
  have silent : Silent (selectAndShow range) := by
    refine (quiet_activeDocument _).silent.bind ?_
    intro d
    refine (silent_activate _).bind ?_
    intro made
    exact (quiet_demand _ _).silent
  rw [performSelect_eq]
  exact silent.bind_respond .select

theorem performGetSyntaxErrors_eq :
    performGetSyntaxErrors = diagnoseAndShow >>= respond .getSyntaxErrors := by
  unfold performGetSyntaxErrors diagnoseAndShow
  simp only [bind_assoc, pure_bind]

theorem adds_getSyntaxErrors (s : Scene) :
    Adds performGetSyntaxErrors s (Action.getSyntaxErrors.entries s) := by
  have silent : Silent diagnoseAndShow := by
    refine (quiet_activeDocument _).silent.bind ?_
    intro d
    refine (quiet_demand _ _).silent.bind ?_
    intro diagnostics
    exact fun s sent => rfl
  rw [performGetSyntaxErrors_eq]
  exact silent.bind_respond .getSyntaxErrors

theorem performRunInTerminal_eq (command : String) :
    performRunInTerminal command = runAndShow command >>= respond .runInTerminal := by
  unfold performRunInTerminal runAndShow
  rw [bind_assoc]
  congr 1
  funext confirmed
  cases confirmed with
  | false => rfl
  | true =>
      simp only [if_true, bind_assoc, pure_bind]
      congr 1
      funext result
      cases result <;> rfl

theorem adds_runInTerminal (command : String) (s : Scene) :
    Adds (performRunInTerminal command) s ((Action.runInTerminal command).entries s) := by
  have silent : Silent (runAndShow command) := by
    refine (quiet_confirm command).silent.bind ?_
    intro confirmed
    cases confirmed with
    | false => exact fun s sent => rfl
    | true =>
        refine (quiet_probe _ _).silent.bind ?_
        intro result
        exact fun s sent => rfl
  rw [performRunInTerminal_eq]
  exact silent.bind_respond .runInTerminal

theorem adds_readMemory (s : Scene) : Adds Action.readMemory.perform s
    [.told (Prompt.responseBlock Instruction.readMemory.name s.session.memory)] := by
  intro sent
  rw [← adds_respond]
  unfold Action.perform
  rw [run_bind, run_get]

theorem silent_replace (path : String) (range : Edit.Range) (text : String) :
    Silent (performReplace path range text) := by
  refine (quiet_demand _ _).silent.bind ?_
  intro d
  refine (silent_activate d).bind ?_
  intro made
  exact (quiet_demand _ _).silent

theorem silent_cut (path : String) (range : Edit.Range) : Silent (performCut path range) := by
  refine (quiet_activeDocument _).silent.bind ?_
  intro active
  refine (quiet_copyRange _ _ _).silent.bind ?_
  intro d
  exact (quiet_demand _ _).silent

theorem silent_paste (path : String) (position : Edit.Position) :
    Silent (performPaste path position) := by
  refine (quiet_activeDocument _).silent.bind ?_
  intro active
  refine (quiet_demand _ _).silent.bind ?_
  intro d
  refine (quiet_demand _ _).silent.bind ?_
  intro text
  refine (silent_activate d).bind ?_
  intro made
  exact (quiet_demand _ _).silent

theorem Action.adds (a : Action) (s : Scene) : Adds a.perform s (a.entries s) := by
  cases a with
  | readFile path start stop => exact adds_readFile path start stop s
  | listFiles path => exact adds_listFiles path s
  | createFile path => exact adds_createFile path s
  | undo =>
      refine (quiet_activeDocument _).silent.bind ?_ s
      intro d
      exact (quiet_demand _ _).silent
  | redo =>
      refine (quiet_activeDocument _).silent.bind ?_ s
      intro d
      exact (quiet_demand _ _).silent
  | input path position text => exact adds_input path position text s
  | select range => exact adds_select range s
  | replace path range text => exact silent_replace path range text s
  | copy path range =>
      refine (quiet_copyRange _ _ _).silent.bind ?_ s
      intro d
      exact fun s sent => rfl
  | cut path range => exact silent_cut path range s
  | paste path position => exact silent_paste path position s
  | getSyntaxErrors => exact adds_getSyntaxErrors s
  | search query => exact adds_search query s
  | runInTerminal command => exact adds_runInTerminal command s
  | memoryWrite text => exact silent_modifySession (fun _ _ => rfl) s
  | readMemory => exact adds_readMemory s
  | clearMemory => exact silent_modifySession (fun _ _ => rfl) s
  | clearConversation => exact silent_modifySession (fun _ _ => rfl) s

/-! ## Batches -/

theorem Script.Command.adds (c : Command) (s : Scene) : Adds c.perform s (c.entries s) := by
  unfold Command.perform Command.entries
  rcases c.action? with problem | known
  · exact fun sent => rfl
  · cases known with
    | none => exact fun sent => rfl
    | some a => exact a.adds s

theorem performFrom_adds (index : Nat) (cs : List Command) (s : Scene)
    (sent : List (List Snippet × String)) :
    (performFrom index cs s).2.session.outbox sent
      = (s.session.outbox sent).enterAll (batchEntries cs s) := by
  induction cs generalizing index s with
  | nil => rfl
  | cons c rest ih =>
      have added := c.adds s sent
      rw [performFrom_cons, batchEntries, Outbox.enterAll_append, ← added]
      rcases ran : c.perform.run.run s with ⟨e | done, t⟩
      · rfl
      · exact ih (index + 1) t

/-- A batch adds its entries to the next request, whether or not it is given up. -/
theorem performAll_adds (cs : List Command) (s : Scene) (sent : List (List Snippet × String)) :
    (performAll cs s).2.session.outbox sent
      = (s.session.outbox sent).enterAll (batchEntries cs s) :=
  performFrom_adds 0 cs s sent

/-! ## Blank requests -/

theorem allBlank_joinText (text addition : String) :
    Text.allBlank (joinText text addition) = (Text.allBlank text && Text.allBlank addition) := by
  unfold joinText Text.allBlank
  simp only
  split
  · rw [String.toList_append, List.all_append]
  · rw [String.toList_append, String.toList_append, List.all_append, List.all_append]
    have newline : "\n".toList.all Text.isBlank = true := by decide
    rw [newline, Bool.and_true]

theorem allBlank_responseBlock (command payload : String) :
    Text.allBlank (Prompt.responseBlock command payload) = false := by
  unfold Prompt.responseBlock Text.allBlank
  rw [String.append_assoc, String.append_assoc, String.append_assoc, String.toList_append,
    List.all_append]
  have words : "response to @".toList.all Text.isBlank = false := by decide
  rw [words, Bool.false_and]

theorem told_of_mem_batchEntries {cs : List Command} {s : Scene} {text : String}
    (member : LedgerEntry.told text ∈ batchEntries cs s) :
    ∃ command payload, text = Prompt.responseBlock command payload := by
  induction cs generalizing s with
  | nil => cases member
  | cons c rest ih =>
      rw [batchEntries] at member
      rcases List.mem_append.mp member with now | later
      · unfold Command.entries at now
        split at now
        · rcases List.mem_append.mp now with attached | told
          · obtain ⟨snippet, -, same⟩ := List.mem_map.mp attached
            cases same
          · obtain ⟨payload, -, same⟩ := List.mem_map.mp told
            exact ⟨_, payload, (LedgerEntry.told.inj same).symm⟩
        · cases now
      · split at later
        · exact ih later
        · cases later

theorem Outbox.enterAll_blank {entries : List LedgerEntry} {o : Outbox}
    (visible : ∀ text, LedgerEntry.told text ∈ entries → Text.allBlank text = false)
    (start : o.request = "" ∨ Text.allBlank o.request = false) :
    (o.enterAll entries).request = "" ∨ Text.allBlank (o.enterAll entries).request = false := by
  induction entries generalizing o with
  | nil => exact start
  | cons entry rest ih =>
      apply ih (fun text member => visible text (List.mem_cons_of_mem _ member))
      cases entry with
      | attached snippet => exact start
      | taken index => exact start
      | answered => exact .inl rfl
      | told text =>
          have shown := visible text List.mem_cons_self
          have written : text ≠ "" := by
            rintro rfl
            cases shown
          right
          rw [enter_told o written, allBlank_joinText, shown, Bool.and_false]

/-- If nothing was to be sent, a batch leaves no text for the next request or one that shows. -/
theorem performAll_blank {cs : List Command} {s : Scene} (empty : s.session.request = "")
    (blank : Text.allBlank (performAll cs s).2.session.request = true) :
    (performAll cs s).2.session.request = "" := by
  have added := congrArg Outbox.request (performAll_adds cs s [])
  have visible : ∀ text, LedgerEntry.told text ∈ batchEntries cs s →
      Text.allBlank text = false := by
    intro text member
    obtain ⟨command, payload, rfl⟩ := told_of_mem_batchEntries member
    exact allBlank_responseBlock command payload
  have shows := Outbox.enterAll_blank (o := s.session.outbox []) visible (.inl empty)
  rw [← added] at shows
  rcases shows with same | visible
  · exact same
  · rw [Session.outbox, blank] at visible
    cases visible

end ReplyScript
