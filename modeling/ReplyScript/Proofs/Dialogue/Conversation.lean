import ReplyScript.Dialogue.Conversation
import ReplyScript.Proofs.Dialogue.Retry
import ReplyScript.Proofs.Session.History

/-! # Every request goes on from what the model has seen

A request shows the model the last request that it answered, as it was, its reply to that, and the
new message; it starts afresh when the conversation was cleared. Main statement: `run_converses`.
-/

namespace ReplyScript

namespace Conversation

/-! ## What stands of a conversation -/

theorem step_answered {x : Exchange} {reply : String} (answered : x.answer.reply = .ok reply)
    (last : Option (Exchange × String)) : step last (.asked x) = some (x, reply) := by
  rw [step, answered]
  rfl

theorem step_unanswered {x : Exchange} {e : ModelError} (unanswered : x.answer.reply = .error e)
    (last : Option (Exchange × String)) : step last (.asked x) = last := by
  rw [step, unanswered]
  rfl

theorem standing_concat (os : List Occurrence) (o : Occurrence) :
    standing (os ++ [o]) = step (standing os) o := by
  unfold standing
  rw [List.foldl_append]
  rfl

theorem foldl_step_unanswered {os : List Occurrence} (last : Option (Exchange × String))
    (silent : ∀ o ∈ os, ∃ z e, o = .asked z ∧ z.answer.reply = .error e) :
    os.foldl step last = last := by
  induction os with
  | nil => rfl
  | cons o rest ih =>
      obtain ⟨⟨z, e, rfl, unanswered⟩, later⟩ := List.forall_mem_cons.mp silent
      rw [List.foldl_cons, step_unanswered unanswered]
      exact ih later

/-- What was answered stands as long as only requests without an answer follow. -/
theorem standing_of_answered {before after : List Occurrence} {x : Exchange} {reply : String}
    (answered : x.answer.reply = .ok reply)
    (silent : ∀ o ∈ after, ∃ z e, o = .asked z ∧ z.answer.reply = .error e) :
    standing (before ++ .asked x :: after) = some (x, reply) := by
  unfold standing
  rw [List.foldl_append, List.foldl_cons, step_answered answered, foldl_step_unanswered _ silent]

theorem of_foldl_step {os : List Occurrence} {last : Option (Exchange × String)} {x : Exchange}
    {reply : String} (stands : os.foldl step last = some (x, reply)) :
    (last = some (x, reply) ∧ .cleared ∉ os)
      ∨ ∃ before after, os = before ++ .asked x :: after
      ∧ x.answer.reply = .ok reply ∧ .cleared ∉ after := by
  induction os generalizing last with
  | nil => exact .inl ⟨stands, List.not_mem_nil⟩
  | cons o rest ih =>
      rcases ih stands with ⟨here, kept⟩ | ⟨before, after, rfl, answered, kept⟩
      · cases o with
        | cleared => cases here
        | asked z =>
            cases replied : z.answer.reply with
            | error e =>
                rw [step_unanswered replied] at here
                refine .inl ⟨here, ?_⟩
                intro member
                cases member with
                | tail _ later => exact kept later
            | ok r =>
                rw [step_answered replied] at here
                cases here
                exact .inr ⟨[], rest, rfl, replied, kept⟩
      · exact .inr ⟨o :: before, after, rfl, answered, kept⟩

theorem of_standing {os : List Occurrence} {x : Exchange} {reply : String}
    (stands : standing os = some (x, reply)) :
    ∃ before after, os = before ++ .asked x :: after ∧ x.answer.reply = .ok reply
      ∧ .cleared ∉ after := by
  rcases of_foldl_step stands with ⟨nothing, -⟩ | found
  · cases nothing
  · exact found

end Conversation

/-! ## Exchanges -/

namespace Exchange

theorem history_accepted (x : Exchange) (reply : String) :
    (x.accepted reply).session.history = x.dialogue.session.history
      ++ [⟨.user, x.dialogue.session.snippets, x.request⟩, ⟨.assistant, [], reply⟩] := by
  have accepted : (x.accepted reply).session.history
      = x.answered.session.history ++ [⟨.assistant, [], reply⟩] := rfl
  rw [accepted, x.answered_frame.1, Dialogue.ask, List.append_assoc]
  rfl

theorem history_halted (failure : Option String) (d : Dialogue) :
    ((failure.map d.halt).getD d).session.history = d.session.history := by
  cases failure <;> rfl

/-- An exchange adds the request and the reply to the history, unless the reply clears it. -/
theorem history_answered {x : Exchange} {reply : String} (answered : x.answer.reply = .ok reply) :
    x.after.session.history = if x.commands.any (·.clears) then [] else x.dialogue.session.history
      ++ [⟨.user, x.dialogue.session.snippets, x.request⟩, ⟨.assistant, [], reply⟩] := by
  unfold after commands
  rw [history_halted, ← x.history_accepted reply]
  cases upshot : x.upshot with
  | unanswered e =>
      rw [upshot_eq_unanswered_iff.mp upshot] at answered
      cases answered
  | unread other errors =>
      rw [(of_upshot_unread upshot).1] at answered
      cases answered
      rfl
  | performed other script abort =>
      obtain ⟨replied, -, performed⟩ := of_upshot_performed upshot
      rw [replied] at answered
      cases answered
      have batch := history_performAll script.commands
        ⟨(x.accepted reply).session, (x.accepted reply).world⟩
      rw [← performed]
      exact batch

theorem commands_of_unanswered {x : Exchange} {e : ModelError}
    (unanswered : x.answer.reply = .error e) : x.commands = [] := by
  unfold commands
  rw [upshot_eq_unanswered_iff.mpr unanswered]

end Exchange

/-! ## Conversations -/

namespace Conversation

/-- The message that a request adds. -/
def message (x : Exchange) : ChatMessage :=
  ⟨.user, Prompt.userTurn x.dialogue.session.snippets x.request⟩

/-- The roles of a conversation of so many requests with replies. -/
def roles (n : Nat) : List Role :=
  .system :: (List.replicate n [Role.user, .assistant]).flatten

theorem roles_succ (n : Nat) : roles (n + 1) = roles n ++ [.user, .assistant] := by
  rw [roles, List.replicate_succ', List.flatten_concat]
  rfl

/-- The dialogue is where its conversation has come to, and every request went on from there. -/
structure Leads (guidance : String) (os : List Occurrence) (d : Dialogue) : Prop where
  guided : d.config.guidance = guidance
  messages : d.messages = seen guidance (standing os)
  alternate : ∃ n, d.messages.map (·.role) = roles n
  calls : ∀ before x after, os = before ++ .asked x :: after →
    x.call.messages = seen guidance (standing before) ++ [message x]
      ∧ ∃ n, x.call.messages.map (·.role) = roles n ++ [.user]

variable {guidance : String} {os : List Occurrence} {d e : Dialogue}

theorem Leads.same (leads : Leads guidance os d)
    (history : e.session.history = d.session.history) (config : e.config = d.config) :
    Leads guidance os e := by
  have messages : e.messages = d.messages := by
    rw [Dialogue.messages, Dialogue.messages, history, config]
  obtain ⟨guided, here, alternate, calls⟩ := leads
  rw [← config] at guided
  exact ⟨guided, messages.trans here, messages ▸ alternate, calls⟩

theorem leads_start (world : World) (config : DialogueConfig) (model : Model) :
    Leads config.guidance [] (Dialogue.start .empty world config model) where
  guided := rfl
  messages := rfl
  alternate := ⟨0, rfl⟩
  calls := by
    intro before x after empty
    cases before <;> cases empty

/-- The occurrences with another one at the end, and what stands before any of them. -/
theorem calls_concat {o : Occurrence} {P : List Occurrence → Exchange → Prop}
    (calls : ∀ before x after, os = before ++ .asked x :: after → P before x)
    (last : ∀ x, o = .asked x → P os x) :
    ∀ before x after, os ++ [o] = before ++ .asked x :: after → P before x := by
  intro before x after parts
  rcases List.eq_nil_or_concat after with rfl | ⟨rest, latest, rfl⟩
  · obtain ⟨rfl, same⟩ := List.append_inj' parts rfl
    cases same
    exact last x rfl
  · rw [List.concat_eq_append, ← List.cons_append, ← List.append_assoc] at parts
    obtain ⟨rfl, -⟩ := List.append_inj' parts rfl
    exact calls before x rest rfl

theorem Leads.cleared (leads : Leads guidance os d) (history : e.session.history = [])
    (config : e.config = d.config) : Leads guidance (os ++ [.cleared]) e where
  guided := by rw [config, leads.guided]
  messages := by
    rw [standing_concat, Dialogue.messages, history, config, leads.guided]
    rfl
  alternate := by
    rw [Dialogue.messages, history]
    exact ⟨0, rfl⟩
  calls := calls_concat leads.calls (fun x same => nomatch same)

theorem Leads.asked {x : Exchange} (leads : Leads guidance os x.dialogue) :
    Leads guidance (os ++ x.occurrences) x.after := by
  have config : x.after.config = x.dialogue.config := x.after_frame.1
  have call : x.call.messages = x.dialogue.messages ++ [message x] := congrArg _ x.call_eq
  obtain ⟨n, alternate⟩ := leads.alternate
  have asked : x.call.messages = seen guidance (standing os) ++ [message x] := by
    rw [call, leads.messages]
  have spoken : x.call.messages.map (·.role) = roles n ++ [.user] := by
    rw [call, List.map_append, alternate]
    rfl
  have calls := calls_concat (o := .asked x) leads.calls (by
    rintro _ ⟨⟩
    exact ⟨asked, n, spoken⟩)
  unfold Exchange.occurrences
  cases replied : x.answer.reply with
  | error e =>
      have history : x.after.session.history = x.dialogue.session.history := by
        rw [Exchange.session_retracted replied]
      have before : Leads guidance (os ++ [.asked x]) x.dialogue := by
        refine ⟨leads.guided, ?_, ⟨n, alternate⟩, calls⟩
        rw [standing_concat, step_unanswered replied]
        exact leads.messages
      rw [Exchange.commands_of_unanswered replied]
      exact before.same history config
  | ok reply =>
      -- The dialogue as it would be if the reply cleared nothing.
      let grown : Dialogue := { x.dialogue with session := { x.dialogue.session with
        history := x.dialogue.session.history
          ++ [⟨.user, x.dialogue.session.snippets, x.request⟩, ⟨.assistant, [], reply⟩] } }
      have extended : grown.messages = x.call.messages ++ [⟨.assistant, reply⟩] := by
        rw [call, List.append_assoc, Dialogue.messages, Dialogue.messages, List.map_append]
        rfl
      have before : Leads guidance (os ++ [.asked x]) grown := by
        refine ⟨leads.guided, ?_, ⟨n + 1, ?_⟩, calls⟩
        · rw [standing_concat, step_answered replied, extended]
          rfl
        · rw [extended, List.map_append, spoken, roles_succ, List.append_assoc]
          rfl
      have history := Exchange.history_answered replied
      cases clears : x.commands.any (·.clears) with
      | false =>
          rw [clears] at history
          exact before.same history config
      | true =>
          rw [clears] at history
          have parts : os ++ [.asked x, .cleared] = os ++ [.asked x] ++ [.cleared] :=
            List.append_cons os _ _
          exact parts ▸ before.cleared history config

end Conversation

namespace Dialogue

open Conversation (Leads message roles seen standing)

variable {guidance : String} {d : Dialogue} {os : List Occurrence}

theorem leads_exchangesFrom (leads : Leads guidance os d) (count : Nat) (request : String)
    (answers : List ModelAnswer) :
    let xs := d.emptied.exchangesFrom count request answers
    Leads guidance (os ++ xs.flatMap Exchange.occurrences) (d.afterAll xs) := by
  induction answers generalizing d os count request with
  | nil =>
      simp only [exchangesFrom, List.flatMap_singleton]
      exact Leads.asked (x := ⟨d.emptied, request, ⟨[], .error d.emptied.model.exhausted⟩⟩)
        (leads.same rfl rfl)
  | cons answer answers ih =>
      have after := Leads.asked (x := d.emptied.exchange request answer answers)
        (leads.same rfl rfl)
      rw [exchangesFrom_cons]
      generalize d.emptied.exchange request answer answers = x at after
      simp only [List.flatMap_cons, afterAll_cons]
      split
      · have rest := ih after (count + 1) x.after.session.request
        simp only [List.append_assoc] at rest
        exact rest
      · simp only [List.flatMap_nil, List.append_nil]
        exact after

theorem leads_make (idle : d.phase = .idle) (leads : Leads guidance os d) {move : Move}
    (kept : ∀ i, move ≠ .deleteMessage i) :
    Leads guidance (os ++ d.occurrencesOf move) (d.make move) := by
  cases move with
  | submit text =>
      have after := leads_exchangesFrom leads 0 (nextRequest d.session.request text) d.model.answers
      have made : d.make (.submit text) = d.afterAll (d.exchanges text) := by
        rw [← d.send_afterAll, ← submit_of_idle idle]
        rfl
      rw [made]
      exact after
  | attach snippet =>
      rw [occurrencesOf, List.append_nil]
      exact leads.same rfl rfl
  | removeSnippet index =>
      have made : d.make (.removeSnippet index) = (d.removeSnippet index).2 := rfl
      rw [occurrencesOf, List.append_nil, made, removeSnippet]
      cases d.session.snippets[index]? with
      | none => exact leads
      | some snippet => exact leads.same rfl rfl
  | deleteMessage index => exact absurd rfl (kept index)
  | clearConversation => exact leads.cleared rfl rfl
  | turnTo world =>
      rw [occurrencesOf, List.append_nil]
      exact leads.same rfl rfl

theorem leads_run (idle : d.phase = .idle) (leads : Leads guidance os d) {moves : List Move}
    (kept : ∀ i, .deleteMessage i ∉ moves) :
    Leads guidance (os ++ d.occurrences moves) (d.run moves) := by
  induction moves generalizing d os with
  | nil =>
      rw [occurrences, List.append_nil]
      exact leads
  | cons move rest ih =>
      have stays : ∀ i, move ≠ .deleteMessage i :=
        fun i same => kept i (same ▸ List.mem_cons_self)
      have first := leads_make idle leads stays
      have later := ih ((accounted idle move).1.trans idle) first fun i member =>
        kept i (List.mem_cons_of_mem _ member)
      rw [List.append_assoc] at later
      exact later

theorem filterMap_exchange?_flatMap (xs : List Exchange) :
    (xs.flatMap Exchange.occurrences).filterMap Occurrence.exchange? = xs := by
  induction xs with
  | nil => rfl
  | cons x rest ih =>
      have own : x.occurrences.filterMap Occurrence.exchange? = [x] := by
        unfold Exchange.occurrences
        split <;> rfl
      rw [List.flatMap_cons, List.filterMap_append, own, ih, List.singleton_append]

theorem filterMap_exchange?_occurrences (d : Dialogue) (moves : List Move) :
    (d.occurrences moves).filterMap Occurrence.exchange? = d.exchangesOver moves := by
  induction moves generalizing d with
  | nil => rfl
  | cons move rest ih =>
      have own : (d.occurrencesOf move).filterMap Occurrence.exchange? = d.exchangesOf move := by
        cases move with
        | submit text => exact filterMap_exchange?_flatMap _
        | _ => rfl
      rw [occurrences, exchangesOver, List.filterMap_append, own, ih]

/-- The messages of every request are the guidance and then users and assistants by turns. If the
model has answered a request before and the conversation was not cleared since, they are the
messages of the last such request, the reply to it and a new message; otherwise there is nothing
between the guidance and the new message. -/
theorem run_converses (world : World) (config : DialogueConfig) (model : Model) {moves : List Move}
    (kept : ∀ i, .deleteMessage i ∉ moves) :
    let start := Dialogue.start .empty world config model
    let os := start.occurrences moves
    (start.run moves).calls = (os.filterMap Occurrence.exchange?).map Exchange.call
    ∧ ∀ before x after, os = before ++ .asked x :: after →
      let new : ChatMessage := ⟨.user, Prompt.userTurn x.dialogue.session.snippets x.request⟩
      (∃ n, x.call.messages.map (·.role)
        = .system :: (List.replicate n [Role.user, .assistant]).flatten ++ [.user])
      ∧ (∀ early y between reply, before = early ++ .asked y :: between →
          y.answer.reply = .ok reply →
          (∀ o ∈ between, ∃ z e, o = .asked z ∧ z.answer.reply = .error e) →
          x.call.messages = y.call.messages ++ [⟨.assistant, reply⟩, new])
      ∧ ((∀ early y between reply, before = early ++ .asked y :: between →
          y.answer.reply = .ok reply → .cleared ∈ between) →
          x.call.messages = [⟨.system, config.guidance⟩, new]) := by
  intro start os
  have leads : Leads config.guidance os (start.run moves) :=
    leads_run rfl (Conversation.leads_start world config model) kept
  refine ⟨?_, ?_⟩
  · have calls := (run_outbox (d := start) rfl moves []).1
    rw [calls, filterMap_exchange?_occurrences]
    rfl
  · intro before x after parts new
    obtain ⟨asked, spoken⟩ := leads.calls before x after parts
    refine ⟨spoken, ?_, ?_⟩
    · rintro early y between reply rfl answered silent
      rw [asked, Conversation.standing_of_answered answered silent, seen, List.append_assoc]
      rfl
    · intro forgotten
      have none : standing before = none := by
        cases stands : standing before with
        | none => rfl
        | some last =>
            obtain ⟨early, between, parts, answered, kept⟩ := Conversation.of_standing stands
            exact absurd (forgotten early last.1 between last.2 parts answered) kept
      rw [asked, none]
      rfl

/-- A dialogue with a model that greets, then does not answer, and then clears the conversation. -/
def hasty : Dialogue :=
  .start .empty (Scene.onFile "a.txt" "x").world {}
    ⟨[⟨[], .ok "Hello"⟩, ⟨[], .error .contextLengthExceeded⟩,
      ⟨[], .ok "@startCommand\n@clearConversation\n@endCommand"⟩, ⟨[], .ok "Bye"⟩],
      .failed "no answer"⟩

/-- The request without an answer leaves no message behind, and the last one starts afresh. -/
theorem run_converses_hasty :
    ∃ x y z last, hasty.occurrences [.submit "a", .submit "b", .submit "", .submit "c"]
        = [.asked x, .asked y, .asked z, .cleared, .asked last]
      ∧ z.call.messages
        = x.call.messages ++ [⟨.assistant, "Hello"⟩, ⟨.user, "# User request\nb"⟩]
      ∧ last.call.messages
        = [⟨.system, Prompt.autonomousGuidance⟩, ⟨.user, "# User request\nc"⟩] := by
  obtain ⟨x, y, z, last, occur, greeted, silent, again, new⟩ : ∃ x y z last,
      hasty.occurrences [.submit "a", .submit "b", .submit "", .submit "c"]
          = [.asked x, .asked y, .asked z, .cleared, .asked last]
        ∧ x.answer.reply = .ok "Hello" ∧ y.answer.reply = .error .contextLengthExceeded
        ∧ Prompt.userTurn z.dialogue.session.snippets z.request
          = "# User request\nb"
        ∧ Prompt.userTurn last.dialogue.session.snippets last.request
          = "# User request\nc" :=
    ⟨_, _, _, _, rfl, rfl, rfl, rfl, rfl⟩
  have kept : ∀ i, Move.deleteMessage i ∉ [.submit "a", .submit "b", .submit "", .submit "c"] := by
    simp
  obtain ⟨-, converses⟩ := run_converses (Scene.onFile "a.txt" "x").world {} hasty.model kept
  refine ⟨x, y, z, last, occur, ?_, ?_⟩
  · obtain ⟨-, goesOn, -⟩ := converses [.asked x, .asked y] z [.cleared, .asked last] occur
    rw [goesOn [] x [.asked y] "Hello" rfl greeted
      (List.forall_mem_singleton.mpr ⟨y, _, rfl, silent⟩), again]
  · obtain ⟨-, -, startsAfresh⟩ :=
      converses [.asked x, .asked y, .asked z, .cleared] last [] occur
    rw [startsAfresh ?_, new]
    · rfl
    · intro early other between reply parts _
      have parts : [.asked x, .asked y, .asked z] ++ [.cleared]
          = early ++ .asked other :: between := parts
      rcases List.eq_nil_or_concat between with rfl | ⟨front, latest, rfl⟩
      · cases (List.append_inj' parts rfl).2
      · rw [List.concat_eq_append, ← List.cons_append, ← List.append_assoc] at parts
        cases (List.append_inj' parts rfl).2
        rw [List.concat_eq_append]
        exact List.mem_concat_self

end Dialogue

end ReplyScript
