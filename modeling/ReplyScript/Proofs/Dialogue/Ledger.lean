import ReplyScript.Dialogue.Ledger
import ReplyScript.Proofs.Dialogue.Stopping
import ReplyScript.Proofs.Session.Abort

/-! # Nothing is lost or sent twice

What was attached and told has been sent once, in order, or is still to be sent. Main statement:
`run_delivers`.
-/

namespace ReplyScript

open Prompt (Snippet)

/-! ## Requests line by line -/

namespace Ledger

theorem numberFrom_eq (start : Nat) (ls : List String) : Prompt.numberFrom start ls
    = ls.mapIdx fun i line => toString (start + i) ++ " " ++ line := by
  induction ls generalizing start with
  | nil => rfl
  | cons l rest ih =>
      rw [Prompt.numberFrom, ih, List.mapIdx_cons]
      simp only [Nat.add_zero, Nat.add_assoc, Nat.add_comm 1]

theorem header_eq (snippet : Snippet) : snippet.header = title snippet ++ "\n" := by
  have quoted : "\"\n" = "\"" ++ "\n" := by decide
  unfold Snippet.header title
  cases snippet <;> simp only [quoted, String.append_assoc]

theorem unlines_excerpt (snippet : Snippet) : Text.unlines (excerpt snippet) = snippet.render := by
  have filled : Prompt.numberFrom snippet.startLine (Text.lines snippet.content) ≠ [] := by
    rw [numberFrom_eq, ne_eq, List.mapIdx_eq_nil_iff]
    exact Text.lines_ne_nil snippet.content
  have blank : Text.unlines [""] = "" := String.intercalate_singleton
  rw [excerpt, List.cons_append, ← numberFrom_eq, Text.unlines_cons _ (List.concat_ne_nil _ _),
    Text.unlines_append filled (List.cons_ne_nil _ _), blank, String.append_empty, Snippet.render,
    header_eq, Prompt.addLineNumbers]
  simp only [String.append_assoc]

theorem userTurn_cons (snippet : Snippet) (rest : List Snippet) (request : String) :
    Prompt.userTurn (snippet :: rest) request
      = snippet.render ++ "\n" ++ Prompt.userTurn rest request := by
  cases rest with
  | nil =>
      have break_ : "\n# User request\n" = "\n" ++ "# User request\n" := by decide
      unfold Prompt.userTurn
      simp only [List.map_cons, List.map_nil, String.intercalate_singleton, break_,
        String.append_assoc]
  | cons next rest =>
      unfold Prompt.userTurn
      simp only [List.map_cons, String.intercalate_cons_cons, String.append_assoc]

theorem userTurn_eq_turn (snippets : List Snippet) (request : String) :
    Prompt.userTurn snippets request = turn snippets request := by
  induction snippets with
  | nil =>
      have heading : "# User request\n" = "# User request" ++ "\n" := by decide
      rw [turn, List.flatMap_nil, List.nil_append, Text.unlines_cons _ (List.cons_ne_nil _ _),
        ← heading]
      rfl
  | cons snippet rest ih =>
      have here : excerpt snippet ≠ [] := List.cons_ne_nil _ _
      rw [userTurn_cons, ih, turn, turn, List.flatMap_cons, List.append_assoc,
        Text.unlines_append here (List.append_ne_nil_of_right_ne_nil _ (List.cons_ne_nil _ _)),
        unlines_excerpt]

end Ledger

/-! ## Ledgers -/

namespace Ledger

/-- The ledger and the outbox agree on what was sent and on what is still to be sent. -/
structure Balanced (entries : List LedgerEntry) (o : Outbox) : Prop where
  kept : entries.foldl keep ([], 0)
    = (o.sent.flatMap Prod.fst ++ o.snippets, (o.sent.flatMap Prod.fst).length)
  told : ∃ (groups : List (List String)) (rest : List String),
    pieces entries = groups.flatten ++ rest
      ∧ o.sent.map Prod.snd = groups.map joined ∧ o.request = joined rest

theorem balanced_nil : Balanced [] ⟨[], [], ""⟩ :=
  ⟨rfl, [], [], rfl, rfl, rfl⟩

theorem pieces_append (early late : List LedgerEntry) :
    pieces (early ++ late) = pieces early ++ pieces late :=
  List.filterMap_append

theorem ne_empty_of_mem_pieces {entries : List LedgerEntry} :
    ∀ piece ∈ pieces entries, piece ≠ "" := by
  intro piece member
  obtain ⟨entry, -, told⟩ := List.mem_filterMap.mp member
  cases entry with
  | told text =>
      obtain ⟨written, same⟩ := Option.ite_none_left_eq_some.mp told
      exact Option.some.inj same ▸ written
  | attached | taken | answered => cases told

theorem Balanced.enter {entries : List LedgerEntry} {o : Outbox} (balanced : Balanced entries o)
    (entry : LedgerEntry) : Balanced (entries ++ [entry]) (o.enter entry) := by
  obtain ⟨kept, groups, rest, told, requests, request⟩ := balanced
  have fold : (entries ++ [entry]).foldl keep ([], 0)
      = keep (o.sent.flatMap Prod.fst ++ o.snippets, (o.sent.flatMap Prod.fst).length) entry := by
    rw [List.foldl_append, kept]
    rfl
  cases entry with
  | attached snippet =>
      refine ⟨?_, groups, rest, ?_, requests, request⟩
      · rw [fold, keep, List.append_assoc]
        rfl
      · rw [pieces_append, told]
        exact List.append_nil _
  | taken index =>
      refine ⟨?_, groups, rest, ?_, requests, request⟩
      · rw [fold, keep, List.eraseIdx_append_of_length_le (Nat.le_add_right _ _),
          Nat.add_sub_cancel_left]
        rfl
      · rw [pieces_append, told]
        exact List.append_nil _
  | told text =>
      refine ⟨fold, ?_⟩
      by_cases empty : text = ""
      · refine ⟨groups, rest, ?_, requests, ?_⟩
        · rw [pieces_append, told, empty]
          exact List.append_nil _
        · simp only [Outbox.enter, if_pos empty]
          exact request
      · refine ⟨groups, rest ++ [text], ?_, ?_, ?_⟩
        · have last : pieces [.told text] = [text] := by
            simp only [pieces, List.filterMap_cons, if_neg empty, List.filterMap_nil]
          rw [pieces_append, told, last, List.append_assoc]
        · rw [Outbox.enter_told o empty]
          exact requests
        · have written : ∀ piece ∈ rest, piece ≠ "" := by
            intro piece member
            have among : piece ∈ pieces entries := by
              rw [told]
              exact List.mem_append_right _ member
            exact ne_empty_of_mem_pieces piece among
          rw [Outbox.enter_told o empty, request, joined_concat written]
  | answered =>
      refine ⟨?_, groups ++ [rest], [], ?_, ?_, rfl⟩
      · rw [fold, keep]
        simp only [Outbox.enter, List.flatMap_append, List.flatMap_singleton, List.append_nil]
      · rw [pieces_append, told, List.flatten_append, List.flatten_singleton, List.append_nil]
        exact List.append_nil _
      · simp only [Outbox.enter, List.map_append, List.map_singleton, requests, request]

theorem Balanced.enterAll {early : List LedgerEntry} {o : Outbox} (balanced : Balanced early o)
    (late : List LedgerEntry) : Balanced (early ++ late) (o.enterAll late) := by
  induction late generalizing early o with
  | nil =>
      rw [List.append_nil]
      exact balanced
  | cons entry rest ih =>
      have more := ih (balanced.enter entry)
      rw [List.append_assoc] at more
      exact more

end Ledger

/-! ## Exchanges -/

namespace Exchange

/-- What the request carries. -/
def material (x : Exchange) : List Snippet × String :=
  (x.dialogue.session.snippets, x.request)

/-- What was carried by the requests that were answered. -/
def deliveries (xs : List Exchange) : List (List Snippet × String) :=
  (xs.filter isAnswered).map material

theorem deliveries_append (early late : List Exchange) :
    deliveries (early ++ late) = deliveries early ++ deliveries late := by
  unfold deliveries
  rw [List.filter_append, List.map_append]

theorem deliveries_cons (x : Exchange) (rest : List Exchange) :
    deliveries (x :: rest) = deliveries [x] ++ deliveries rest :=
  deliveries_append [x] rest

theorem deliveries_singleton (x : Exchange) :
    deliveries [x] = if x.isAnswered then [x.material] else [] := by
  unfold deliveries
  rw [List.filter_cons]
  cases x.isAnswered <;> rfl

theorem call_getLast? (x : Exchange) : x.call.messages.getLast?
    = some ⟨.user, Ledger.turn x.dialogue.session.snippets x.request⟩ := by
  rw [← Ledger.userTurn_eq_turn]
  unfold call Dialogue.messages
  rw [List.getLast?_cons, Dialogue.ask, List.map_append, List.getLast?_append]
  rfl

private theorem outbox_halted (failure : Option String) (d : Dialogue)
    (sent : List (List Snippet × String)) :
    ((failure.map d.halt).getD d).session.outbox sent
      = (d.session.outbox sent).enterAll
        (failure.toList.map fun error => .told ("error: " ++ error)) := by
  cases failure with
  | none => rfl
  | some error =>
      rw [Option.toList_some, List.map_singleton, Outbox.enterAll_cons,
        Outbox.enter_told _ (error_ne_empty error)]
      rfl

theorem outbox_after {x : Exchange} (taken : x.dialogue.session.request = "")
    (sent : List (List Snippet × String)) :
    x.after.session.outbox (sent ++ deliveries [x])
      = (Outbox.mk sent x.dialogue.session.snippets x.request).enterAll x.entries := by
  have answered : x.answered.session = (x.dialogue.ask x.request).session := x.answered_frame.1
  have accepted (reply : String) (sent : List (List Snippet × String)) :
      (x.accepted reply).session.outbox sent = ⟨sent, [], ""⟩ := by
    have request : (x.accepted reply).session.request = x.answered.session.request := rfl
    unfold Session.outbox
    rw [request, answered]
    exact congrArg (Outbox.mk sent []) taken
  unfold after entries
  rw [outbox_halted, Outbox.enterAll_append]
  cases upshot : x.upshot with
  | unanswered e =>
      have none : deliveries [x] = [] := by
        rw [deliveries_singleton, isAnswered, upshot]
        rfl
      rw [none, List.append_nil]
      have snippets : x.answered.session.snippets = x.dialogue.session.snippets := by
        rw [answered]
        rfl
      have kept : (x.answered.retract x.request e).session.outbox sent
          = ⟨sent, x.answered.session.snippets, x.request⟩ := rfl
      simp only [kept, snippets]
      rfl
  | unread reply errors =>
      have one : deliveries [x] = [x.material] := by
        rw [deliveries_singleton, isAnswered, upshot]
        rfl
      rw [one]
      simp only
      have idle : ({ x.accepted reply with phase := .idle } : Dialogue).session
          = (x.accepted reply).session := rfl
      rw [idle, accepted]
      rfl
  | performed reply script abort =>
      have one : deliveries [x] = [x.material] := by
        rw [deliveries_singleton, isAnswered, upshot]
        rfl
      have batch := performAll_adds script.commands
        ⟨(x.accepted reply).session, (x.accepted reply).world⟩ (sent ++ [x.material])
      rw [accepted] at batch
      rw [one]
      exact congrArg (Outbox.enterAll · _) batch

end Exchange

/-! ## Submissions -/

namespace Dialogue

open Exchange (deliveries deliveries_append deliveries_cons)

/-- A submission does to the outbox what the entries of its exchanges say. -/
theorem turns_outbox {d : Dialogue} (taken : d.session.request = "") (replies : List String)
    (request : String) (answers : List ModelAnswer) (sent : List (List Snippet × String)) :
    (d.turns replies request answers).2.session.outbox
        (sent ++ deliveries (d.exchangesFrom replies.length request answers))
      = (Outbox.mk sent d.session.snippets request).enterAll
        ((d.exchangesFrom replies.length request answers).flatMap Exchange.entries) := by
  induction answers generalizing d replies request sent with
  | nil =>
      have entered := Exchange.outbox_after
        (x := ⟨d, request, ⟨[], .error d.model.exhausted⟩⟩) taken sent
      rw [exchangesFrom, List.flatMap_singleton]
      exact entered
  | cons answer answers ih =>
      have turn := d.turns_cons replies request answer answers
      have chain := d.exchangesFrom_cons replies.length request answer answers
      have entered := Exchange.outbox_after (x := d.exchange request answer answers) taken sent
      have start : (d.exchange request answer answers).dialogue.session = d.session := rfl
      have asked : (d.exchange request answer answers).request = request := rfl
      rw [start, asked] at entered
      generalize d.exchange request answer answers = x at turn chain entered
      simp only at turn chain
      rw [turn, chain, deliveries_cons, List.flatMap_cons, Outbox.enterAll_append, ← entered,
        ← List.append_assoc]
      by_cases further : x.goesOn (replies.length + 1) = true
      · obtain ⟨reply, script, upshot⟩ := Upshot.isDone_iff.mp ((x.goesOn_iff _).mp further).1
        have replied : x.upshot.reply?.toList = [reply] := by
          rw [upshot]
          rfl
        have rest := ih (d := x.next) rfl (replies ++ [reply]) x.after.session.request
          (sent ++ deliveries [x])
        rw [List.length_append, List.length_singleton] at rest
        rw [if_pos further, if_pos further, replied]
        exact rest
      · rw [if_neg further, if_neg further]
        have nothing : deliveries [] = [] := rfl
        rw [nothing, List.append_nil]
        rfl

/-! ## Moves -/

theorem send_calls (d : Dialogue) (text : String) :
    (d.send text).2.calls = d.calls ++ (d.exchanges text).map Exchange.call
      ∧ (d.send text).2.phase = .idle := by
  obtain ⟨early, last, chain, -, ends, made⟩ := turns_exchanges
    { d with session := { d.session with request := "" } } [] (nextRequest d.session.request text)
    d.model.answers
  have chain : d.exchanges text = early ++ [last] := chain
  have ended : (d.send text).2 = last.after := congrArg Prod.snd ends
  rw [ended, chain]
  exact ⟨made, last.after_frame.2.2.2⟩

variable {d : Dialogue}

theorem submit_of_idle (idle : d.phase = .idle) (text : String) : d.submit text = d.send text := by
  unfold submit admits
  rw [if_pos idle]

/-- The move makes the calls of its exchanges, and does to the outbox what its entries say. -/
def Accounted (d : Dialogue) (move : Move) : Prop :=
  (d.make move).phase = d.phase
    ∧ (d.make move).calls = d.calls ++ (d.exchangesOf move).map Exchange.call
    ∧ ∀ sent, (d.make move).session.outbox (sent ++ deliveries (d.exchangesOf move))
      = (d.session.outbox sent).enterAll (d.entriesOf move)

private theorem accounted_of_calm {move : Move} (none : d.exchangesOf move = [])
    (phase : (d.make move).phase = d.phase) (calls : (d.make move).calls = d.calls)
    (entered : ∀ sent, (d.make move).session.outbox sent
      = (d.session.outbox sent).enterAll (d.entriesOf move)) : d.Accounted move := by
  have nothing : deliveries [] = [] := rfl
  refine ⟨phase, ?_, ?_⟩
  · rw [none, List.map_nil, List.append_nil]
    exact calls
  · intro sent
    rw [none, nothing, List.append_nil]
    exact entered sent

theorem accounted_submit (idle : d.phase = .idle) (text : String) : d.Accounted (.submit text) := by
  have made : d.make (.submit text) = (d.send text).2 :=
    congrArg Prod.snd (submit_of_idle idle text)
  obtain ⟨calls, stopped⟩ := d.send_calls text
  unfold Accounted
  rw [made, idle]
  refine ⟨stopped, calls, ?_⟩
  intro sent
  exact turns_outbox (d := { d with session := { d.session with request := "" } }) rfl []
    (nextRequest d.session.request text) d.model.answers sent

theorem accounted_removeSnippet (d : Dialogue) (index : Nat) :
    d.Accounted (.removeSnippet index) := by
  cases found : d.session.snippets[index]? with
  | none =>
      have same : d.make (.removeSnippet index) = d := by
        unfold make removeSnippet
        simp only [found]
      refine accounted_of_calm rfl (congrArg phase same) (congrArg calls same) ?_
      intro sent
      have kept : d.session.snippets.eraseIdx index = d.session.snippets :=
        List.eraseIdx_of_length_le (List.getElem?_eq_none_iff.mp found)
      rw [same]
      exact congrArg (Outbox.mk sent · d.session.request) kept.symm
  | some snippet =>
      have made : d.make (.removeSnippet index) = recordSnippets { d with
          session := { d.session with snippets := d.session.snippets.eraseIdx index } } := by
        unfold make removeSnippet
        simp only [found]
      refine accounted_of_calm rfl ((congrArg phase made).trans rfl)
        ((congrArg calls made).trans rfl) ?_
      intro sent
      rw [made]
      rfl

theorem accounted (idle : d.phase = .idle) (move : Move) : d.Accounted move := by
  cases move with
  | submit text => exact accounted_submit idle text
  | attach snippet => exact accounted_of_calm rfl rfl rfl (fun sent => rfl)
  | removeSnippet index => exact d.accounted_removeSnippet index
  | deleteMessage index => exact accounted_of_calm rfl rfl rfl (fun sent => rfl)
  | clearConversation => exact accounted_of_calm rfl rfl rfl (fun sent => rfl)
  | turnTo world => exact accounted_of_calm rfl rfl rfl (fun sent => rfl)

theorem run_outbox (idle : d.phase = .idle) (moves : List Move)
    (sent : List (List Snippet × String)) :
    (d.run moves).calls = d.calls ++ (d.exchangesOver moves).map Exchange.call
      ∧ (d.run moves).session.outbox (sent ++ deliveries (d.exchangesOver moves))
        = (d.session.outbox sent).enterAll (d.ledger moves) := by
  induction moves generalizing d sent with
  | nil =>
      have none : deliveries [] = [] := rfl
      rw [exchangesOver, none, List.append_nil, List.map_nil, List.append_nil]
      exact ⟨rfl, rfl⟩
  | cons move rest ih =>
      obtain ⟨phase, calls, entered⟩ := accounted idle move
      obtain ⟨laterCalls, later⟩ := ih (phase.trans idle) (sent ++ deliveries (d.exchangesOf move))
      have runs : d.run (move :: rest) = (d.make move).run rest := rfl
      rw [runs, exchangesOver, ledger, deliveries_append, List.map_append, Outbox.enterAll_append,
        ← entered, ← later, laterCalls, calls, List.append_assoc, List.append_assoc]
      exact ⟨rfl, rfl⟩

/-- Whatever is done with a dialogue from its start, every snippet that was attached and not taken
out again, and every piece of text that was told, is in exactly one request that the model has
answered, or is still to be sent; and all of them are in order. -/
theorem run_delivers (world : World) (config : DialogueConfig) (model : Model)
    (moves : List Move) :
    let start := Dialogue.start .empty world config model
    let d := start.run moves
    let xs := start.exchangesOver moves
    let answered := xs.filter Exchange.isAnswered
    d.calls = xs.map Exchange.call
    ∧ (∀ x ∈ xs, x.call.messages.getLast?
        = some ⟨.user, Ledger.turn x.dialogue.session.snippets x.request⟩)
    ∧ Ledger.kept (start.ledger moves)
      = answered.flatMap (fun x => x.dialogue.session.snippets) ++ d.session.snippets
    ∧ ∃ (groups : List (List String)) (rest : List String),
        Ledger.pieces (start.ledger moves) = groups.flatten ++ rest
          ∧ answered.map Exchange.request = groups.map Ledger.joined
          ∧ d.session.request = Ledger.joined rest := by
  intro start d xs answered
  obtain ⟨calls, outbox⟩ := run_outbox (d := start) rfl moves []
  obtain ⟨kept, told⟩ := Ledger.balanced_nil.enterAll (start.ledger moves)
  have same : (⟨[], [], ""⟩ : Outbox).enterAll (start.ledger moves)
      = d.session.outbox (answered.map Exchange.material) := outbox.symm
  rw [same, List.nil_append] at kept told
  refine ⟨calls, fun x _ => x.call_getLast?, ?_, ?_⟩
  · unfold Ledger.kept
    rw [kept]
    unfold Session.outbox
    rw [List.flatMap_map]
    rfl
  · unfold Session.outbox at told
    rw [List.map_map] at told
    exact told

/-- A dialogue with a model that reads a file, cannot be reached for once, and then is done. -/
def hesitant : Dialogue :=
  .start .empty (Scene.onFile "a.txt" "x").world {}
    ⟨[⟨[], .ok "@startCommand\n@readFile a.txt\n@endCommand"⟩, ⟨[], .error (.failed "offline")⟩,
      ⟨[], .ok "Done"⟩], .failed "no answer"⟩

/-- What the user does with it; one of two snippets is taken out again. -/
def insistence : List Move :=
  [.attach (.selection "b.txt" "y" 4), .attach (.file "c.txt" "z"), .removeSnippet 1, .submit "hi",
    .submit "Go on"]

/-- The request that fails is made again with what is told meanwhile. -/
theorem run_delivers_again :
    let read :=
      "response to @readFile:\n\x60\x60\x60\nattached \"a.txt\" as context (1 lines)\n\x60\x60\x60"
    let file := "# file @ \"a.txt\" totalLines: 1\n0 x\n\n# User request\n"
    Ledger.kept (hesitant.ledger insistence) = [.selection "b.txt" "y" 4, .file "a.txt" "x"]
    ∧ Ledger.pieces (hesitant.ledger insistence) = ["hi", read, "Go on"]
    ∧ (hesitant.run insistence).session.snippets = []
    ∧ (hesitant.run insistence).session.request = ""
    ∧ (hesitant.run insistence).calls.map (·.messages.getLast?)
      = [some ⟨.user, "# selection @ \"b.txt:4\n4 y\n\n# User request\nhi"⟩,
        some ⟨.user, file ++ read⟩, some ⟨.user, file ++ read ++ "\nGo on"⟩] := by
  intro read file
  obtain ⟨calls, carried, kept, -⟩ :=
    run_delivers hesitant.world hesitant.config hesitant.model insistence
  have same : start .empty hesitant.world hesitant.config hesitant.model = hesitant := rfl
  rw [same] at calls carried kept
  have made : (hesitant.exchangesOver insistence).map Exchange.material
      = [([.selection "b.txt" "y" 4], "hi"), ([.file "a.txt" "x"], read),
        ([.file "a.txt" "x"], read ++ "\nGo on")] := by decide +kernel
  have texts : (hesitant.run insistence).calls.map (·.messages.getLast?)
      = ((hesitant.exchangesOver insistence).map Exchange.material).map fun (snippets, request) =>
        some ⟨.user, Ledger.turn snippets request⟩ := by
    rw [calls, List.map_map, List.map_map]
    exact List.map_congr_left carried
  have answered : ((hesitant.exchangesOver insistence).filter Exchange.isAnswered).flatMap
      (fun x => x.dialogue.session.snippets) = [.selection "b.txt" "y" 4, .file "a.txt" "x"] := by
    decide +kernel
  have left : ((hesitant.run insistence).session.snippets,
      (hesitant.run insistence).session.request) = ([], "") := by decide +kernel
  obtain ⟨none, empty⟩ := Prod.mk.inj left
  refine ⟨?_, by decide +kernel, none, empty, ?_⟩
  · rw [kept, answered, none]
    rfl
  · rw [texts, made]
    decide +kernel

end Dialogue

end ReplyScript
