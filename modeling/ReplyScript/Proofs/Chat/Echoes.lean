import ReplyScript.CommandLine.RunReply
import ReplyScript.Dialogue.Ledger
import ReplyScript.Proofs.Chat.Replies
import ReplyScript.Proofs.Edit.Bytes
import ReplyScript.Proofs.Session.Responses

/-! # What the console echoes

Every update of the pending request goes on from what was echoed, or is empty. So a block that is
added to the request is echoed once, be it the response to a command or the failure of a reply, and
nothing else of the request is. Main statement: `blocks_echoed_once`.
-/

namespace ReplyScript

open Console (Echo Printed Verbosity)
open Script (Command)

/-! ## Updates of the request -/

/-- The text begins with a character that is not blank. -/
def Written (block : String) : Prop :=
  ∃ c, block.toList.head? = some c ∧ Text.isBlank c = false

/-- Updates of a request: each of them adds a block to the text told so far, or starts again. The
blocks are those that are added, and the last text is what has been told in the end. -/
inductive Follows : String → List String → List String → String → Prop
  | nil (told : String) : Follows told [] [] told
  | cleared {told final : String} {texts blocks : List String}
      (rest : Follows "" texts blocks final) : Follows told ("" :: texts) blocks final
  | grown {told block final : String} {texts blocks : List String} (written : Written block)
      (rest : Follows (joinText told block) texts blocks final) :
      Follows told (joinText told block :: texts) (block :: blocks) final

theorem Follows.append {told mid final : String} {early late before after : List String}
    (first : Follows told early before mid) (second : Follows mid late after final) :
    Follows told (early ++ late) (before ++ after) final := by
  induction first with
  | nil => exact second
  | cleared _ ih => exact .cleared (ih second)
  | grown written _ ih => exact .grown written (ih second)

theorem Follows.split {told final : String} {early late blocks : List String}
    (follows : Follows told (early ++ late) blocks final) :
    ∃ before after mid, blocks = before ++ after ∧ Follows told early before mid
      ∧ Follows mid late after final := by
  induction early generalizing told blocks with
  | nil => exact ⟨[], blocks, told, rfl, .nil told, follows⟩
  | cons text early ih =>
      cases follows with
      | cleared rest =>
          obtain ⟨before, after, mid, parts, first, second⟩ := ih rest
          exact ⟨before, after, mid, parts, .cleared first, second⟩
      | @grown told block final texts blocks written rest =>
          obtain ⟨before, after, mid, rfl, first, second⟩ := ih rest
          exact ⟨block :: before, after, mid, rfl, .grown written first, second⟩

theorem Written.append {block : String} (written : Written block) (more : String) :
    Written (block ++ more) := by
  obtain ⟨c, first, visible⟩ := written
  refine ⟨c, ?_, visible⟩
  rw [String.toList_append, List.head?_append, first]
  rfl

theorem written_responseBlock (command payload : String) :
    Written (Prompt.responseBlock command payload) := by
  have opening : Written "response to @" := ⟨'r', by decide, by decide⟩
  exact (((opening.append _).append _).append _).append _

theorem written_error (error : String) : Written ("error: " ++ error) :=
  Written.append ⟨'e', by decide, by decide⟩ error

/-- What is left of a text without newlines at its start. -/
def dropNewlines (text : String) : String :=
  String.ofList (text.toList.dropWhile (· = '\n'))

/-- A block is added to a text behind at most a newline. -/
theorem joinText_written (told : String) {block : String} (written : Written block) :
    ∃ more, joinText told block = told ++ more ∧ Text.allBlank more = false
      ∧ dropNewlines more = block := by
  obtain ⟨c, first, visible⟩ := written
  obtain ⟨rest, shape⟩ := List.head?_eq_some_iff.mp first
  have other : c ≠ '\n' := by
    rintro rfl
    cases visible
  have alone : Text.allBlank block = false := by
    unfold Text.allBlank
    rw [shape, List.all_cons, visible, Bool.false_and]
  have trimmed : block.toList.dropWhile (· = '\n') = block.toList := by
    rw [shape, List.dropWhile_cons_of_neg (by simpa using other)]
  unfold joinText
  simp only
  split
  · refine ⟨block, rfl, alone, ?_⟩
    unfold dropNewlines
    rw [trimmed, String.ofList_toList]
  · refine ⟨"\n" ++ block, String.append_assoc, ?_, ?_⟩
    · unfold Text.allBlank at alone ⊢
      rw [String.toList_append, List.all_append, alone, Bool.and_false]
    · have skipped : ("\n" ++ block).toList.dropWhile (· = '\n')
          = block.toList.dropWhile (· = '\n') := by
        rw [String.toList_append]
        rfl
      unfold dropNewlines
      rw [skipped, trimmed, String.ofList_toList]

/-! ## One update -/

namespace Console

theorem dropBytes?_append (front rest : List Char) :
    dropBytes? (Text.byteCount front) (front ++ rest) = some rest := by
  induction front with
  | nil => rw [Text.byteCount, List.nil_append, dropBytes?]
  | cons c front ih =>
      obtain ⟨n, size⟩ := Nat.exists_eq_succ_of_ne_zero (Nat.ne_of_gt c.utf8Size_pos)
      have bytes : Text.byteCount (c :: front) = n + Text.byteCount front + 1 := by
        rw [Text.byteCount, size]
        omega
      rw [bytes, List.cons_append, dropBytes?, if_pos (by omega), ← ih]
      congr 1
      omega

namespace Echo

variable {e : Echo}

theorem fresh_append {told : String} (shown : e.shown = told.utf8ByteSize) (more : String) :
    e.fresh (told ++ more) = more := by
  unfold fresh
  rw [shown, ← Text.byteCount_toList, String.toList_append, dropBytes?_append]
  exact String.ofList_toList

theorem request_append {told more : String} (shown : e.shown = told.utf8ByteSize)
    (visible : Text.allBlank more = false) : e.request (told ++ more)
      = (⟨(told ++ more).utf8ByteSize⟩, [.messageLine (dropNewlines more)]) := by
  unfold request
  simp only [fresh_append shown, visible]
  rfl

theorem request_empty (e : Echo) : e.request "" = (⟨0⟩, []) := by
  have nothing : e.fresh "" = "" := by
    unfold fresh
    cases e.shown <;> rfl
  unfold request
  simp only [nothing]
  rfl

/-! ## One event after another -/

/-- Events, each with what is printed when it is shown. -/
def trace (e : Echo) : List Event → List (Event × List Printed)
  | [] => []
  | event :: events =>
      (event, (e.step .everything event).2) :: (e.step .everything event).1.trace events

/-- The text that has been echoed since the last empty update, if `told` was echoed before. -/
def told (e : Echo) (told : String) : List Event → String
  | [] => told
  | event :: events =>
      let next := (event.request?.map fun text =>
        if text = "" then "" else told ++ e.fresh text).getD told
      (e.step .everything event).1.told next events

def updateLines (e : Echo) (events : List Event) : List Printed :=
  ((e.trace events).filter fun shown => shown.1.request?.isSome).flatMap Prod.snd

theorem run_cons (verbosity : Verbosity) (e : Echo) (event : Event) (events : List Event) :
    e.run verbosity (event :: events)
      = (((e.step verbosity event).1.run verbosity events).1,
        (e.step verbosity event).2 ++ ((e.step verbosity event).1.run verbosity events).2) :=
  rfl

theorem run_append (verbosity : Verbosity) (e : Echo) (early late : List Event) :
    e.run verbosity (early ++ late)
      = (((e.run verbosity early).1.run verbosity late).1,
        (e.run verbosity early).2 ++ ((e.run verbosity early).1.run verbosity late).2) := by
  induction early generalizing e with
  | nil => rfl
  | cons event early ih =>
      rw [List.cons_append, run_cons, ih, run_cons]
      simp only [List.append_assoc]

/-- All that is printed of events is what is printed of each. -/
theorem run_eq_trace (e : Echo) (events : List Event) :
    (e.run .everything events).2 = (e.trace events).flatMap Prod.snd := by
  induction events generalizing e with
  | nil => rfl
  | cons event events ih => rw [run_cons, trace, List.flatMap_cons, ← ih]

theorem step_other {event : Event} (other : event.request? = none) (e : Echo) :
    (e.step .everything event).1 = e := by
  cases event with
  | request text => cases other
  | _ => rfl

theorem updateLines_other {event : Event} (other : event.request? = none) (e : Echo)
    (events : List Event) : e.updateLines (event :: events) = e.updateLines events := by
  unfold updateLines
  rw [trace, step_other other, List.filter_cons_of_neg (by simp [other])]

theorem updateLines_request (e : Echo) (text : String) (events : List Event) :
    e.updateLines (.request text :: events)
      = (e.request text).2 ++ (e.request text).1.updateLines events :=
  rfl

/-- While updates go on from each other, the blocks they add are printed, each on its own, and what
has been shown is what has been told. -/
theorem run_follows {e : Echo} {told final : String} {events : List Event} {blocks : List String}
    (follows : Follows told (events.filterMap Event.request?) blocks final)
    (shown : e.shown = told.utf8ByteSize) :
    e.updateLines events = blocks.map .messageLine
      ∧ (e.run .everything events).1.shown = final.utf8ByteSize ∧ e.told told events = final := by
  induction events generalizing e told blocks with
  | nil =>
      cases follows
      exact ⟨rfl, shown, rfl⟩
  | cons event events ih =>
      rw [run_cons, Echo.told]
      cases update : event.request? with
      | none =>
          rw [List.filterMap_cons_none update] at follows
          rw [updateLines_other update, step_other update]
          exact ih follows shown
      | some text =>
          obtain rfl : event = .request text := by
            cases event with
            | request other => exact congrArg Event.request (Option.some.inj update)
            | _ => cases update
          rw [List.filterMap_cons_some update] at follows
          have stepped : e.step .everything (.request text) = e.request text := rfl
          rw [updateLines_request, stepped]
          cases follows with
          | cleared rest =>
              rw [request_empty]
              exact ih rest rfl
          | @grown told block final texts blocks written rest =>
              obtain ⟨more, joined, visible, trimmed⟩ := joinText_written told written
              have something : told ++ more ≠ "" := by
                intro empty
                rw [(String.append_eq_empty_iff.mp empty).2] at visible
                cases visible
              rw [joined] at rest ⊢
              rw [request_append shown visible, trimmed]
              obtain ⟨lines, bytes, same⟩ := ih (e := ⟨(told ++ more).utf8ByteSize⟩) rest rfl
              refine ⟨?_, bytes, ?_⟩
              · rw [lines]
                rfl
              · simp only [Option.map_some, Option.getD_some, if_neg something, fresh_append shown]
                exact same

end Echo

end Console

/-- Updates that show blocks are echoed as they should be. -/
structure Echoed (events : List Event) (printed : List Printed) (blocks : List String) : Prop where
  /-- Each event is shown. -/
  all : printed = (({} : Echo).trace events).flatMap Prod.snd
  /-- Of the updates, the blocks are printed, each once and in order. -/
  once : ({} : Echo).updateLines events = blocks.map .messageLine
  /-- An update goes on from what has been echoed, and the rest of it is printed. -/
  exact : ∀ early text late, events = early ++ .request text :: late → text ≠ "" →
    let e := (({} : Echo).run .everything early).1
    let told := ({} : Echo).told "" early
    ∃ more, text = told ++ more ∧ e.shown = told.utf8ByteSize
      ∧ (e.request text).2 = [.messageLine (dropNewlines more)]

theorem Follows.echoed {events : List Event} {blocks : List String} {final : String}
    (follows : Follows "" (events.filterMap Event.request?) blocks final) :
    Echoed events (({} : Echo).run .everything events).2 blocks where
  all := Echo.run_eq_trace {} events
  once := (Echo.run_follows follows rfl).1
  exact := by
    rintro early text late rfl something
    rw [List.filterMap_append] at follows
    obtain ⟨before, after, mid, -, first, second⟩ := follows.split
    obtain ⟨-, shown, told⟩ := Echo.run_follows first (e := {}) rfl
    simp only
    rw [told]
    cases second with
    | cleared => exact absurd rfl something
    | @grown told block final texts blocks written rest =>
        obtain ⟨more, joined, visible, -⟩ := joinText_written mid written
        refine ⟨more, joined, shown, ?_⟩
        rw [joined, Echo.request_append shown visible]

/-! ## What adds to the request -/

theorem Deed.follows (d : Deed) : Follows d.before.session.request d.update?.toList
    d.block?.toList d.after.session.request := by
  have request := d.request_deed.1
  unfold update?
  cases added : d.block? with
  | none =>
      rw [added] at request
      exact request ▸ .nil _
  | some block =>
      rw [added] at request
      have request : d.after.session.request = joinText d.before.session.request block := request
      obtain ⟨payload, rfl⟩ := block_eq added
      rw [Option.map_some, request]
      exact .grown (written_responseBlock d.command.name payload) (.nil _)

theorem filterMap_cons_toList {α β : Type} (f : α → Option β) (a : α) (as : List α) :
    (a :: as).filterMap f = (f a).toList ++ as.filterMap f := by
  rw [List.filterMap_cons]
  cases f a <;> rfl

theorem follows_linked {s t : Scene} {ds : List Deed} (linked : Linked s ds t) :
    Follows s.session.request (updates ds) (blocks ds) t.session.request := by
  unfold updates blocks
  induction ds generalizing s with
  | nil =>
      cases linked
      exact .nil _
  | cons d ds ih =>
      obtain ⟨rfl, later⟩ := linked
      rw [filterMap_cons_toList, filterMap_cons_toList]
      exact d.follows.append (ih later)

namespace Exchange

/-- The blocks that an exchange adds to the pending request: the responses to commands and the
failure of the reply. -/
def blocks (x : Exchange) : List String :=
  ReplyScript.blocks x.deeds ++ x.upshot.failure?.toList.map ("error: " ++ ·)

theorem blocks_cases {x : Exchange} {block : String} (member : block ∈ x.blocks) :
    (∃ command payload, block = Prompt.responseBlock command payload)
      ∨ ∃ error, block = "error: " ++ error := by
  rcases List.mem_append.mp member with response | failure
  · obtain ⟨d, -, added⟩ := List.mem_filterMap.mp response
    obtain ⟨payload, shape⟩ := Deed.block_eq added
    exact .inl ⟨d.command.name, payload, shape⟩
  · obtain ⟨error, -, shape⟩ := List.mem_map.mp failure
    exact .inr ⟨error, shape.symm⟩

end Exchange

/-! ## Submissions -/

namespace Dialogue

theorem requests_record (d : Dialogue) (event : Event) :
    (d.record event).world.requests = d.world.requests ++ event.request?.toList := by
  unfold World.requests record World.record
  rw [List.filterMap_append, filterMap_cons_toList, List.filterMap_nil, List.append_nil]

theorem requests_arrivals (arrivals : List String) (d : Dialogue) :
    (arrivals.foldl arrive d).world.requests = d.world.requests := by
  induction arrivals generalizing d with
  | nil => rfl
  | cons text arrivals ih =>
      rw [List.foldl_cons, ih, arrive, requests_record]
      exact List.append_nil _

/-- A failure that the model may be told of adds a block. -/
theorem follows_halt (d : Dialogue) (failure : Option String) :
    ∃ texts, ((failure.map d.halt).getD d).world.requests = d.world.requests ++ texts
      ∧ Follows d.session.request texts (failure.toList.map ("error: " ++ ·))
        ((failure.map d.halt).getD d).session.request := by
  cases failure with
  | none => exact ⟨[], (List.append_nil _).symm, .nil _⟩
  | some error =>
      refine ⟨[joinText d.session.request ("error: " ++ error)], ?_,
        .grown (written_error error) (.nil _)⟩
      rw [Option.map_some, Option.getD_some, halt, requests_record, requests_record]
      exact List.append_nil _

end Dialogue

namespace Exchange

theorem requests_answered (x : Exchange) :
    x.answered.world.requests = x.dialogue.world.requests := by
  have asked : (x.dialogue.ask x.request).world = x.dialogue.world := rfl
  unfold answered
  rw [Dialogue.requests_arrivals, asked]

theorem requests_accepted (x : Exchange) (reply : String) :
    (x.accepted reply).world.requests = x.dialogue.world.requests ++ [""] := by
  unfold accepted Dialogue.accept Dialogue.recordSnippets
  rw [Dialogue.requests_record, Dialogue.requests_record]
  simp only [Event.request?, Option.toList_none, List.append_nil, Option.toList_some]
  exact congrArg (· ++ [""]) x.requests_answered

theorem request_accepted {x : Exchange} (taken : x.dialogue.session.request = "")
    (reply : String) : (x.accepted reply).session.request = "" := by
  have answered : (x.accepted reply).session.request = x.answered.session.request := rfl
  rw [answered, x.answered_frame.1]
  exact taken

/-- Whatever has been told before, the updates of an exchange add its blocks. -/
theorem follows {x : Exchange} (taken : x.dialogue.session.request = "") (told : String) :
    ∃ texts final, x.after.world.requests = x.dialogue.world.requests ++ texts
      ∧ Follows told texts x.blocks final := by
  unfold after blocks deeds
  cases upshot : x.upshot with
  | unanswered e =>
      -- The request is pending again, but that is not shown.
      have retracted : (x.answered.retract x.request e).world.requests
          = x.answered.world.requests ++ [] := Dialogue.requests_record _ _
      refine ⟨[], told, ?_, .nil told⟩
      rw [← x.requests_answered]
      exact retracted
  | unread reply errors =>
      obtain ⟨texts, shown, follows⟩ := Dialogue.follows_halt
        { x.accepted reply with phase := .idle } (Upshot.unread reply errors).failure?
      have accepted := x.requests_accepted reply
      refine ⟨"" :: texts, _, ?_, .cleared (request_accepted taken reply ▸ follows)⟩
      exact shown.trans ((congrArg (· ++ texts) accepted).trans (List.append_assoc ..))
  | performed reply script abort =>
      have linked := linked_deeds script.commands
        ⟨(x.accepted reply).session, (x.accepted reply).world⟩
      have responses := follows_linked linked
      have resumed := requests_linked linked
      simp only at responses resumed
      rw [request_accepted taken reply] at responses
      rw [requests_accepted, List.append_assoc] at resumed
      obtain ⟨texts, shown, follows⟩ := Dialogue.follows_halt (x.resumed reply script)
        (Upshot.performed reply script abort).failure?
      refine ⟨_, _, ?_, .cleared (responses.append follows)⟩
      exact shown.trans ((congrArg (· ++ texts) resumed).trans (List.append_assoc ..))

end Exchange

namespace Dialogue

theorem follows_turns {d : Dialogue} (taken : d.session.request = "") (replies : List String)
    (request : String) (answers : List ModelAnswer) (told : String) :
    ∃ texts final, (d.turns replies request answers).2.world.requests = d.world.requests ++ texts
      ∧ Follows told texts
        ((d.exchangesFrom replies.length request answers).flatMap Exchange.blocks) final := by
  induction answers generalizing d replies request told with
  | nil =>
      have last := Exchange.follows (x := ⟨d, request, ⟨[], .error d.model.exhausted⟩⟩) taken told
      rw [exchangesFrom, List.flatMap_singleton]
      exact last
  | cons answer answers ih =>
      have turn := d.turns_cons replies request answer answers
      have chain := d.exchangesFrom_cons replies.length request answer answers
      obtain ⟨texts, mid, shown, first⟩ :=
        Exchange.follows (x := d.exchange request answer answers) taken told
      have start : (d.exchange request answer answers).dialogue.world = d.world := rfl
      rw [start] at shown
      generalize d.exchange request answer answers = x at turn chain shown first
      simp only at turn chain
      rw [turn, chain, List.flatMap_cons]
      by_cases further : x.goesOn (replies.length + 1) = true
      · obtain ⟨reply, script, upshot⟩ := Upshot.isDone_iff.mp ((x.goesOn_iff _).mp further).1
        have replied : x.upshot.reply?.toList = [reply] := by
          rw [upshot]
          rfl
        obtain ⟨later, final, more, second⟩ :=
          ih (d := x.next) rfl (replies ++ [reply]) x.after.session.request mid
        rw [List.length_append, List.length_singleton] at second
        have kept : x.next.world.requests = x.after.world.requests := rfl
        rw [if_pos further, if_pos further, replied, more, kept, shown]
        exact ⟨texts ++ later, final, List.append_assoc .., first.append second⟩
      · rw [if_neg further, if_neg further, List.flatMap_nil, List.append_nil]
        exact ⟨texts, mid, shown, first⟩

theorem follows_submit {d : Dialogue} (idle : d.phase = .idle) (text told : String) :
    ∃ texts final, (d.submit text).2.world.requests = d.world.requests ++ texts
      ∧ Follows told texts ((d.exchanges text).flatMap Exchange.blocks) final := by
  rw [submit_of_idle idle]
  exact follows_turns (d := d.emptied) rfl [] (nextRequest d.session.request text)
    d.model.answers told

end Dialogue

/-! ## Chats -/

namespace Chat

namespace Turn

variable (t : Turn)

/-- The events that the line has brought about. -/
def events : List Event :=
  match t.command with
  | .say text => (t.chat.dialogue.submit text).2.world.events
  | .attach words =>
      match attachment t.chat.dialogue.world.workspace.disk t.chat.root words with
      | .ok snippet => (t.chat.dialogue.attach snippet).world.events
      | .error _ => []
  | _ => []

/-- What is printed of the events. -/
def echoed : List Printed :=
  (t.chat.echo.run .everything t.events).2

/-- What the line prints beside that. -/
def own : List Printed :=
  match t.command with
  | .quit => []
  | .help => helpLines.map .messageLine
  | .clear => [.messageLine "conversation cleared"]
  | .memory => [.outputLine t.chat.dialogue.session.memory]
  | .attach words =>
      match attachment t.chat.dialogue.world.workspace.disk t.chat.root words with
      | .ok _ => []
      | .error e => [.errorLine e.message]
  | .say text => closing (t.chat.dialogue.submit text).1

/-- All that is printed from the prompt for the line to the next one. -/
def printed : List Printed :=
  .message "> " :: (t.echoed ++ t.own)

/-- The blocks that the line has added to the pending request. -/
def blocks : List String :=
  match t.command with
  | .say text => (t.chat.dialogue.exchanges text).flatMap Exchange.blocks
  | _ => []

end Turn

theorem Turn.blocks_cases {t : Turn} {block : String} (member : block ∈ t.blocks) :
    (∃ command payload, block = Prompt.responseBlock command payload)
      ∨ ∃ error, block = "error: " ++ error := by
  unfold Turn.blocks at member
  split at member
  · obtain ⟨x, -, added⟩ := List.mem_flatMap.mp member
    exact Exchange.blocks_cases added
  · cases member

/-- What a line leaves: its events have been shown, and their updates add its blocks. -/
structure Obeyed (t : Turn) (final : Chat) : Prop where
  idle : final.dialogue.phase = .idle
  settled : final.dialogue.world.events = []
  echo : final.echo = (t.chat.echo.run .everything t.events).1
  printed : final.printed = t.chat.printed ++ (t.echoed ++ t.own)
  follows : ∀ told, ∃ next, Follows told (t.events.filterMap Event.request?) t.blocks next

theorem obeyed_silent {t : Turn} {final : Chat} (idle : final.dialogue.phase = .idle)
    (settled : final.dialogue.world.events = []) (echo : final.echo = t.chat.echo)
    (printed : final.printed = t.chat.printed ++ t.own) (nothing : t.events = [])
    (none : t.blocks = []) : Obeyed t final where
  idle := idle
  settled := settled
  echo := by
    rw [nothing]
    exact echo
  printed := by
    have silent : t.echoed = [] := by
      unfold Turn.echoed
      rw [nothing]
      rfl
    rw [silent]
    exact printed
  follows told := by
    rw [nothing, none]
    exact ⟨told, .nil told⟩

theorem obeyed_showEvents {t : Turn} {d : Dialogue} (idle : d.phase = .idle)
    (events : t.events = d.world.events)
    (follows : ∀ told, ∃ next, Follows told d.world.requests t.blocks next) :
    Obeyed t ((showEvents { t.chat with dialogue := d }).print t.own) where
  idle := idle
  settled := rfl
  echo := by
    rw [events]
    rfl
  printed := by
    unfold Turn.echoed
    rw [events, ← List.append_assoc]
    rfl
  follows := events ▸ follows

theorem print_nil (c : Chat) : c.print [] = c := by
  unfold print
  rw [List.append_nil]

theorem obeyed_obey {c : Chat} (idle : c.dialogue.phase = .idle)
    (settled : c.dialogue.world.events = []) (command : Command) :
    Obeyed ⟨c, command⟩ (c.obey command).1 := by
  have fresh : c.dialogue.world.requests = [] := by
    unfold World.requests
    rw [settled, List.filterMap_nil]
  cases command with
  | quit => exact obeyed_silent idle settled rfl (List.append_nil _).symm rfl rfl
  | help => exact obeyed_silent idle settled rfl rfl rfl rfl
  | clear => exact obeyed_silent idle settled rfl rfl rfl rfl
  | memory => exact obeyed_silent idle settled rfl rfl rfl rfl
  | attach words =>
      have attached : (c.obey (.attach words)).1 = c.attach words := rfl
      rw [attached, attach]
      cases found : attachment c.dialogue.world.workspace.disk c.root words with
      | error e =>
          refine obeyed_silent idle settled rfl ?_ ?_ rfl
          · simp only [Turn.own, found]
            rfl
          · simp only [Turn.events, found]
      | ok snippet =>
          have own : (⟨c, .attach words⟩ : Turn).own = [] := by simp only [Turn.own, found]
          have events : (⟨c, .attach words⟩ : Turn).events
              = (c.dialogue.attach snippet).world.events := by simp only [Turn.events, found]
          have silent : (c.dialogue.attach snippet).world.requests = [] := by
            unfold Dialogue.attach Dialogue.recordSnippets
            rw [Dialogue.requests_record]
            exact congrArg (· ++ []) fresh
          have shown := obeyed_showEvents (t := ⟨c, .attach words⟩)
            (d := c.dialogue.attach snippet) idle events fun told => ⟨told, silent ▸ .nil told⟩
          rw [own, print_nil] at shown
          exact shown
  | say text =>
      have stopped : (c.dialogue.submit text).2.phase = .idle := by
        rw [Dialogue.submit_of_idle idle]
        exact (c.dialogue.send_calls text).2
      have said : (c.obey (.say text)).1 = (c.say text).1 := rfl
      rw [said, say_eq]
      refine obeyed_showEvents (t := ⟨c, .say text⟩) stopped rfl fun told => ?_
      obtain ⟨texts, final, shown, follows⟩ := Dialogue.follows_submit idle text told
      rw [fresh, List.nil_append] at shown
      exact ⟨final, shown ▸ follows⟩

/-- What lines leave, one after the other. -/
structure Echoes (c : Chat) (ts : List Turn) (final : Chat) : Prop where
  printed : final.printed = c.printed ++ ts.flatMap Turn.printed
  echoed : ts.flatMap Turn.echoed = (c.echo.run .everything (ts.flatMap Turn.events)).2
  follows : ∀ told, ∃ next, Follows told ((ts.flatMap Turn.events).filterMap Event.request?)
    (ts.flatMap Turn.blocks) next

theorem Echoes.nil (c : Chat) : Echoes c [] c where
  printed := (List.append_nil _).symm
  echoed := rfl
  follows told := ⟨told, .nil told⟩

theorem Echoes.cons {c next final : Chat} {t : Turn} {ts : List Turn} (echo : t.chat.echo = c.echo)
    (prompted : t.chat.printed = c.printed ++ [.message "> "]) (obeyed : Obeyed t next)
    (rest : Echoes next ts final) : Echoes c (t :: ts) final where
  printed := by
    have line : t.printed = [.message "> "] ++ (t.echoed ++ t.own) := rfl
    rw [rest.printed, obeyed.printed, prompted, List.flatMap_cons, line]
    simp only [List.append_assoc]
  echoed := by
    rw [List.flatMap_cons, List.flatMap_cons, Echo.run_append, rest.echoed, obeyed.echo, ← echo]
    rfl
  follows told := by
    obtain ⟨mid, first⟩ := obeyed.follows told
    obtain ⟨next, second⟩ := rest.follows mid
    rw [List.flatMap_cons, List.flatMap_cons, List.filterMap_append]
    exact ⟨next, first.append second⟩

/-- A chat ends with its last line, or behind one more prompt. -/
theorem echoes_loop {c : Chat} (idle : c.dialogue.phase = .idle)
    (settled : c.dialogue.world.events = []) (fuel : Nat) :
    ∃ mid last, Echoes c (c.course fuel) mid ∧ (c.loop fuel).1 = mid.print last
      ∧ (last = [] ∨ last = [.message "> "]) := by
  refine loop_induction (motive := fun c ts final => c.dialogue.phase = .idle →
    c.dialogue.world.events = [] → ∃ mid last, Echoes c ts mid ∧ final = mid.print last
      ∧ (last = [] ∨ last = [.message "> "])) ?_ ?_ ?_ fuel c idle settled
  · intro c idle settled
    exact ⟨c, [.message "> "], .nil c, rfl, .inr rfl⟩
  · intro c next line taken idle settled
    obtain ⟨phase, -, events, echo, printed⟩ := takeLine?_frame taken
    have obeyed := obeyed_obey (phase.trans idle) (events.trans settled) (.ofLine line)
    exact ⟨_, [], .cons echo printed obeyed (.nil _), (print_nil _).symm, .inl rfl⟩
  · intro c next final line ts taken rest idle settled
    obtain ⟨phase, -, events, echo, printed⟩ := takeLine?_frame taken
    have obeyed := obeyed_obey (phase.trans idle) (events.trans settled) (.ofLine line)
    obtain ⟨mid, last, echoes, ends, tail⟩ := rest obeyed.idle obeyed.settled
    exact ⟨mid, last, .cons echo printed obeyed echoes, ends, tail⟩

end Chat

/-- What a run prints behind the echo. -/
def CommandLine.closing (performed : Option Abort × Scene) (total : Nat) : List Printed :=
  match performed.1 with
  | some a => abortLines a total
  | none =>
      if performed.2.session.request = "" then []
      else [.outputLine performed.2.session.request]

theorem CommandLine.printed_performIn (world : World) (script : Script) :
    let performed := performAll script.commands ⟨.empty, world⟩
    (CommandLine.performIn world false script).printed
      = (({} : Echo).run .everything performed.2.world.events).2
        ++ CommandLine.closing performed script.commands.length := by
  unfold performIn closing
  rcases performAll script.commands ⟨.empty, world⟩ with ⟨_ | a, scene⟩
  · rfl
  · rfl

/-- In a run that is not quiet, whatever the world is like, and in every chat, an update of the
pending request is empty or begins with the text that has been echoed since the last empty one. That
text has as many bytes as the console has noted, and what is printed of the update is the rest,
without newlines at its start. Over the whole course these are all blocks, each once and in order,
and nothing else: the responses to commands and the failures of replies. -/
theorem blocks_echoed_once :
    (∀ (world : World) (script : Script),
      let start : Scene := ⟨.empty, { world with events := [] }⟩
      let performed := performAll script.commands start
      ∃ echoed, (CommandLine.performIn start.world false script).printed
          = echoed ++ CommandLine.closing performed script.commands.length
        ∧ Echoed performed.2.world.events echoed (blocks (deeds script.commands start)))
    ∧ (∀ (c : CommandLine.Context) (o : CommandLine.RunOptions) (script : Script),
      CommandLine.performScript c { o with quiet := false } script
        = CommandLine.performIn { c.world o.root o.confirm with events := [] } false script)
    ∧ ∀ (session : Session) (world : World) (config : DialogueConfig) (model : Model)
        (root : Disk.Path) (greeting : List Printed),
      let dialogue := Dialogue.start session { world with events := [] } config model
      let c := (Chat.start dialogue root).print greeting
      let ts := c.turns
      (∃ last, c.run.1.printed = greeting ++ ts.flatMap Chat.Turn.printed ++ last
          ∧ (last = [] ∨ last = [.message "> "]))
        ∧ Echoed (ts.flatMap Chat.Turn.events) (ts.flatMap Chat.Turn.echoed)
          (ts.flatMap Chat.Turn.blocks)
        ∧ ∀ block ∈ ts.flatMap Chat.Turn.blocks,
          (∃ command payload, block = Prompt.responseBlock command payload)
            ∨ ∃ error, block = "error: " ++ error := by
  refine ⟨?_, fun c o script => rfl, ?_⟩
  · intro world script start performed
    have linked : Linked start (deeds script.commands start) performed.2 :=
      linked_deeds script.commands start
    have shown : performed.2.world.requests = updates (deeds script.commands start) :=
      requests_linked linked
    have follows := follows_linked linked
    rw [← shown] at follows
    exact ⟨_, CommandLine.printed_performIn _ script, follows.echoed⟩
  · intro session world config model root greeting dialogue c ts
    obtain ⟨final, last, echoes, ends, tail⟩ :=
      Chat.echoes_loop (c := c) rfl rfl c.dialogue.world.input.remaining.length
    have echoed : ts.flatMap Chat.Turn.echoed
        = (({} : Echo).run .everything (ts.flatMap Chat.Turn.events)).2 := echoes.echoed
    obtain ⟨next, follows⟩ := echoes.follows ""
    refine ⟨⟨last, ?_, tail⟩, echoed ▸ follows.echoed, fun block member => ?_⟩
    · have ran : c.run.1 = final.print last := ends
      rw [ran]
      exact congrArg (· ++ last) echoes.printed
    · obtain ⟨t, -, added⟩ := List.mem_flatMap.mp member
      exact Chat.Turn.blocks_cases added

example : (Chat.about ["hi"] [.ok "@startCommand\n@readMemory\n@undo\n@endCommand"]).turns.flatMap
    Chat.Turn.blocks
      = ["response to @readMemory:\n```\n\n```", "error: @undo: no active document"] := by
  decide +kernel

end ReplyScript
