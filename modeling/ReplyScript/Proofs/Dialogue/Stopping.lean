import ReplyScript.Proofs.Dialogue.Exchange

/-! # Where a submission stops

A submission goes on after a reply exactly if the reply was performed to its end, left something to
be sent, and the dialogue may go on by itself. Main statement: `send_stops`.
-/

namespace ReplyScript

open Script (Finding)

/-! ## The chain of exchanges -/

namespace Dialogue

theorem goesOn_iff (d : Dialogue) (replies : Nat) :
    d.goesOn replies = true ↔ d.config.autonomous = true
      ∧ ∀ max, d.config.maxAutoTurns = some max → replies ≤ max := by
  unfold goesOn
  rw [Bool.and_eq_true]
  refine and_congr_right ?_
  intro autonomous
  cases d.config.maxAutoTurns with
  | none => exact iff_of_true rfl nofun
  | some max =>
      constructor
      · rintro within other same
        cases same
        exact of_decide_eq_true within
      · intro within
        exact decide_eq_true (within max rfl)

/-- In every exchange of a submission the configuration is the same, and nothing else is pending. -/
theorem exchangesFrom_dialogue {d : Dialogue} {count : Nat} {request : String}
    {answers : List ModelAnswer} (taken : d.session.request = "") {x : Exchange}
    (member : x ∈ d.exchangesFrom count request answers) :
    x.dialogue.config = d.config ∧ x.dialogue.session.request = "" := by
  induction answers generalizing d count request with
  | nil =>
      obtain rfl := List.mem_singleton.mp member
      exact ⟨rfl, taken⟩
  | cons answer answers ih =>
      rw [exchangesFrom_cons] at member
      rcases List.mem_cons.mp member with rfl | later
      · exact ⟨rfl, taken⟩
      · split at later
        · obtain ⟨config, nothing⟩ := ih rfl later
          refine ⟨config.trans ?_, nothing⟩
          exact (Exchange.after_frame _).1
        · cases later

/-- The exchanges take the model's answers in turn. -/
theorem exchangesFrom_answers (d : Dialogue) (count : Nat) (request : String)
    (answers : List ModelAnswer) :
    (d.exchangesFrom count request answers).map Exchange.answer
      <+: answers ++ [⟨[], .error d.model.exhausted⟩] := by
  induction answers generalizing d count request with
  | nil => exact List.prefix_refl _
  | cons answer answers ih =>
      rw [exchangesFrom_cons, List.map_cons, List.cons_append]
      refine List.cons_prefix_cons.mpr ⟨rfl, ?_⟩
      split
      · have rest := ih (d.exchange request answer answers).next (count + 1)
          (d.exchange request answer answers).after.session.request
        have kept : (d.exchange request answer answers).next.model
            = (d.exchange request answer answers).dialogue.model :=
          (d.exchange request answer answers).after_frame.2.1
        rw [kept] at rest
        exact rest
      · exact List.nil_prefix

end Dialogue

theorem CommandError.isRecoverable_eq_false_iff (e : CommandError) :
    e.isRecoverable = false ↔ ∃ command text, e = .failed command (.internal text) := by
  constructor
  · intro final
    cases e with
    | noActiveDocument command => cases final
    | invalidArguments command problem => cases final
    | failed command fault =>
        cases fault with
        | internal text => exact ⟨command, text, rfl⟩
        | _ => cases final
  · rintro ⟨command, text, rfl⟩
    rfl

theorem Exchange.goesOn_iff (x : Exchange) (replies : Nat) :
    x.goesOn replies = true ↔ x.upshot.isDone = true ∧ x.after.session.hasPending = true
      ∧ x.after.goesOn replies = true := by
  unfold Exchange.goesOn
  rw [Bool.and_eq_true, Bool.and_eq_true, and_assoc]

namespace Dialogue

/-- The exchanges are followed by more exactly where the submission goes on. -/
theorem exchangesFrom_further {d : Dialogue} {count : Nat} {request : String}
    {answers : List ModelAnswer} {i : Nat} {x : Exchange}
    (found : (d.exchangesFrom count request answers)[i]? = some x) :
    i + 1 < (d.exchangesFrom count request answers).length ↔ x.goesOn (count + (i + 1)) = true := by
  induction answers generalizing d count request i with
  | nil =>
      cases i with
      | zero =>
          cases found
          exact iff_of_false (Nat.lt_irrefl 1) Bool.false_ne_true
      | succ i => cases found
  | cons answer answers ih =>
      have chain := d.exchangesFrom_cons count request answer answers
      generalize d.exchange request answer answers = y at chain
      simp only at chain
      rw [chain] at found ⊢
      by_cases further : y.goesOn (count + 1) = true
      · rw [if_pos further] at found ⊢
        cases i with
        | zero =>
            cases found
            have inhabited : 0 < (x.next.exchangesFrom (count + 1) x.after.session.request
                answers).length := by
              cases answers <;> exact Nat.zero_lt_succ _
            exact iff_of_true (Nat.succ_lt_succ inhabited) further
        | succ i =>
            rw [List.getElem?_cons_succ] at found
            rw [List.length_cons, Nat.add_lt_add_iff_right, ih found, Nat.add_assoc count 1,
              Nat.add_comm 1]
      · rw [if_neg further] at found ⊢
        cases i with
        | zero =>
            cases found
            exact iff_of_false (Nat.lt_irrefl 1) further
        | succ i => cases found

end Dialogue

/-! ## The last exchange -/

namespace Exchange

variable {x : Exchange} {replies : List String}

/-- Nothing came of the reply but that it was kept, and that the user was told of it. -/
def Untouched (x : Exchange) (reply : String) : Prop :=
  x.after.session = { x.answered.session with
      history := x.answered.session.history ++ [⟨.assistant, [], reply⟩]
      snippets := []
      request := x.after.session.request }
    ∧ x.after.world = { x.answered.world with events := x.answered.world.events
      ++ [.snippets [], .request "", .request x.after.session.request,
        .notified "A command failed; the error was added to your request."] }

theorem untouched_of_unread {reply : String} {errors : List Finding}
    (upshot : x.upshot = .unread reply errors) : x.Untouched reply := by
  unfold Untouched after
  rw [upshot]
  simp only [Upshot.failure?, Option.map_some, Option.getD_some, Dialogue.halt, accepted,
    Dialogue.accept, Dialogue.recordSnippets, Dialogue.record, World.record, Session.addRequest,
    List.map_nil, List.append_assoc, List.cons_append, List.nil_append, and_self]

theorem ending_halted_iff {error : String} :
    (∃ replies', x.ending replies = .ok (.halted replies' error))
      ↔ x.upshot.failure? = some error := by
  unfold ending
  cases x.upshot with
  | unanswered e => simp [Upshot.failure?]
  | unread reply errors => simp [Upshot.failure?]
  | performed reply script abort =>
      cases abort with
      | none =>
          simp only [Upshot.failure?]
          split <;> simp
      | some a =>
          simp only [Upshot.failure?]
          split <;> simp

theorem ending_command_iff {e : CommandError} :
    x.ending replies = .error (.command e)
      ↔ ∃ reply script a command text, x.upshot = .performed reply script (some a) ∧ a.error = e
        ∧ e = .failed command (.internal text) := by
  unfold ending
  cases x.upshot with
  | unanswered e => simp
  | unread reply errors => simp
  | performed reply script abort =>
      cases abort with
      | none =>
          simp only
          split <;> simp
      | some a =>
          have internal := CommandError.isRecoverable_eq_false_iff a.error
          simp only
          split
          · rename_i recoverable
            rw [recoverable] at internal
            simp only [Upshot.performed.injEq]
            constructor
            · exact nofun
            · rintro ⟨_, _, other, command, text, ⟨rfl, rfl, same⟩, rfl, failed⟩
              cases same
              cases internal.mpr ⟨command, text, failed⟩
          · rename_i final
            obtain ⟨command, text, failed⟩ := internal.mp (Bool.not_eq_true _ ▸ final)
            constructor
            · intro same
              cases same
              exact ⟨reply, script, a, command, text, rfl, rfl, failed⟩
            · rintro ⟨_, _, other, _, _, same, rfl, -⟩
              cases same
              rfl

theorem ending_model_iff {e : ModelError} :
    x.ending replies = .error (.model e) ↔ x.answer.reply = .error e := by
  rw [← upshot_eq_unanswered_iff]
  unfold ending
  cases x.upshot with
  | unanswered e => simp
  | unread reply errors => simp
  | performed reply script abort =>
      cases abort with
      | none =>
          simp only
          split <;> simp
      | some a =>
          simp only
          split <;> simp

theorem ending_ne_busy (x : Exchange) (replies : List String) :
    x.ending replies ≠ .error .busy := by
  unfold ending
  split
  · exact nofun
  · exact nofun
  · split <;> exact nofun
  · split <;> exact nofun

theorem ending_replies {outcome : Outcome} (ends : x.ending replies = .ok outcome) :
    ∃ reply, x.upshot.reply? = some reply ∧ outcome.replies = replies ++ [reply] := by
  unfold ending at ends
  cases upshot : x.upshot with
  | unanswered e =>
      rw [upshot] at ends
      cases ends
  | unread reply errors =>
      rw [upshot] at ends
      cases ends
      exact ⟨reply, rfl, rfl⟩
  | performed reply script abort =>
      rw [upshot] at ends
      refine ⟨reply, rfl, ?_⟩
      cases abort with
      | none =>
          simp only at ends
          split at ends
          · cases ends
            rfl
          · cases ends
            rfl
      | some a =>
          simp only at ends
          split at ends
          · cases ends
            rfl
          · cases ends

theorem ending_pending {all : List String} (ends : x.ending replies = .ok (.pending all)) :
    x.after.session.hasPending = true := by
  unfold ending at ends
  split at ends
  · cases ends
  · cases ends
  · split at ends <;> cases ends
  · split at ends
    · assumption
    · cases ends

theorem ending_completed {all : List String} (ends : x.ending replies = .ok (.completed all)) :
    (∃ reply script, x.upshot = .performed reply script none)
      ∧ x.after.session.hasPending = false := by
  unfold ending at ends
  split at ends
  · cases ends
  · cases ends
  · split at ends <;> cases ends
  · rename_i reply script upshot
    split at ends
    · cases ends
    · rename_i nothing
      exact ⟨⟨reply, script, upshot⟩, Bool.not_eq_true _ ▸ nothing⟩

/-- When nothing is pending after an exchange that had all there was, there is no text at all. -/
theorem request_of_done (taken : x.dialogue.session.request = "") {reply : String} {script : Script}
    (upshot : x.upshot = .performed reply script none)
    (nothing : x.after.session.hasPending = false) :
    x.after.session.request = "" ∧ x.after.session.snippets = [] := by
  have after : x.after.session = (x.performed reply script).2.session := by
    unfold Exchange.after
    rw [upshot]
    rfl
  rw [after] at nothing ⊢
  unfold Session.hasPending at nothing
  simp only [Bool.or_eq_false_iff, Bool.not_eq_eq_eq_not, Bool.not_false,
    List.isEmpty_iff] at nothing
  refine ⟨performAll_blank ?_ nothing.1, nothing.2⟩
  have asked : (x.accepted reply).session.request = x.answered.session.request := rfl
  rw [asked, x.answered_frame.1]
  exact taken

/-- The text for the next request ends with the failure that the model may be told of. -/
theorem request_of_failure {error : String} (failed : x.upshot.failure? = some error) :
    ∃ before, x.after.session.request = before ++ ("error: " ++ error) := by
  unfold Exchange.after
  rw [failed]
  exact ⟨_, rfl⟩

end Exchange

/-! ## Submissions -/

/-- There is something to be sent: a request that is not blank, or a snippet. -/
def Session.Waiting (s : Session) : Prop :=
  (∃ c ∈ s.request.toList, Text.isBlank c = false) ∨ s.snippets ≠ []

theorem Session.hasPending_iff {s : Session} : s.hasPending = true ↔ s.Waiting := by
  unfold hasPending Waiting Text.allBlank
  rw [Bool.or_eq_true, Bool.not_eq_true', List.all_eq_false, Bool.not_eq_true', ← Bool.not_eq_true,
    List.isEmpty_iff]
  simp only [Bool.not_eq_true]

namespace Dialogue

private theorem map_reply_of_done {xs : List Exchange}
    (done : ∀ x ∈ xs, x.upshot.isDone = true) :
    (xs.filterMap fun x => x.upshot.reply?).map Except.ok = xs.map fun x => x.answer.reply := by
  induction xs with
  | nil => rfl
  | cons x rest ih =>
      obtain ⟨first, later⟩ := List.forall_mem_cons.mp done
      obtain ⟨reply, script, upshot⟩ := Upshot.isDone_iff.mp first
      have replied : x.upshot.reply? = some reply := by
        rw [upshot]
        rfl
      simp only [List.filterMap_cons, replied, List.map_cons, ih later,
        Exchange.reply_of_upshot replied]

theorem exchanges_further (d : Dialogue) (text : String) (i : Nat) (x : Exchange)
    (found : (d.exchanges text)[i]? = some x) :
    i + 1 < (d.exchanges text).length ↔ (∃ reply script, x.upshot = .performed reply script none)
      ∧ x.after.session.hasPending = true ∧ d.config.autonomous = true
      ∧ ∀ max, d.config.maxAutoTurns = some max → i + 1 < max + 1 := by
  have config : x.after.config = d.config := by
    have same := (exchangesFrom_dialogue rfl (List.mem_of_getElem? found)).1
    exact x.after_frame.1.trans same
  have further := exchangesFrom_further found
  rw [Nat.zero_add, Exchange.goesOn_iff, Upshot.isDone_iff, goesOn_iff, config] at further
  simp only [Nat.lt_succ_iff]
  exact further

/-- The turns that a dialogue takes by itself come on top of the one that it is asked for. -/
theorem length_exchanges_le {d : Dialogue} {max : Nat} (limit : d.config.maxAutoTurns = some max)
    (text : String) : (d.exchanges text).length ≤ max + 1 := by
  refine Nat.le_of_not_lt ?_
  intro beyond
  have inside : max < (d.exchanges text).length := by omega
  have found := List.getElem?_eq_getElem inside
  obtain ⟨-, -, -, within⟩ := (d.exchanges_further text max _ found).mp beyond
  exact Nat.lt_irrefl _ (within max limit)

theorem length_exchanges_le_one {d : Dialogue} (conversational : d.config.autonomous = false)
    (text : String) : (d.exchanges text).length ≤ 1 := by
  refine Nat.le_of_not_lt ?_
  intro more
  have found := List.getElem?_eq_getElem (Nat.lt_of_succ_lt more)
  obtain ⟨-, -, autonomous, -⟩ := (d.exchanges_further text 0 _ found).mp more
  rw [conversational] at autonomous
  cases autonomous

/-- A submission is a chain of exchanges, which take the model's answers in turn. It goes on after a
reply exactly if the reply was performed to its end, something is to be sent, and the dialogue goes
on by itself and is within the limit. How it ends depends on the last exchange. -/
theorem send_stops (d : Dialogue) (text : String) :
    let xs := d.exchanges text
    let result := (d.send text).1
    let after := (d.send text).2
    after.calls = d.calls ++ xs.map Exchange.call
    ∧ xs.map Exchange.answer <+: d.model.answers ++ [⟨[], .error d.model.exhausted⟩]
    ∧ (∀ i x, xs[i]? = some x →
        (i + 1 < xs.length ↔ (∃ reply script, x.upshot = .performed reply script none)
          ∧ x.after.session.Waiting ∧ d.config.autonomous = true
          ∧ ∀ max, d.config.maxAutoTurns = some max → i + 1 < max + 1))
    ∧ (∀ max, d.config.maxAutoTurns = some max → xs.length ≤ max + 1)
    ∧ (d.config.autonomous = false → xs.length = 1)
    ∧ (∀ x ∈ xs, ∀ reply errors, x.upshot = .unread reply errors → x.Untouched reply)
    ∧ ∃ last, xs.getLast? = some last ∧ after = last.after ∧ after.phase = .idle
      ∧ (∀ replies, result = .ok (.completed replies) →
          after.session.request = "" ∧ after.session.snippets = [])
      ∧ (∀ replies, result = .ok (.pending replies) → after.session.Waiting)
      ∧ (∀ error, (∃ replies, result = .ok (.halted replies error))
          ↔ last.upshot.failure? = some error)
      ∧ (∀ replies error, result = .ok (.halted replies error) →
          ∃ before, after.session.request = before ++ ("error: " ++ error))
      ∧ (∀ e, result = .error (.command e) ↔ ∃ reply script a command text,
          last.upshot = .performed reply script (some a) ∧ a.error = e
            ∧ e = .failed command (.internal text))
      ∧ (∀ e, result = .error (.model e) ↔ last.answer.reply = .error e)
      ∧ result ≠ .error .busy
      ∧ (∀ outcome, result = .ok outcome →
          outcome.replies.map Except.ok = xs.map fun x => x.answer.reply) := by
  intro xs result after
  obtain ⟨early, last, parts, done, ends, made⟩ := turns_exchanges
    { d with session := { d.session with request := "" } } [] (nextRequest d.session.request text)
    d.model.answers
  have chain : xs = early ++ [last] := parts
  have ends : d.send text
      = (last.ending (early.filterMap fun x => x.upshot.reply?), last.after) := ends
  have member : last ∈ xs := by
    rw [chain]
    exact List.mem_append_right _ List.mem_cons_self
  obtain ⟨-, taken⟩ := exchangesFrom_dialogue rfl member
  have result_eq : result = last.ending (early.filterMap fun x => x.upshot.reply?) :=
    congrArg Prod.fst ends
  have after_eq : after = last.after := congrArg Prod.snd ends
  rw [result_eq, after_eq]
  simp only [← Session.hasPending_iff]
  refine ⟨?_, exchangesFrom_answers _ _ _ _, d.exchanges_further text,
    fun max limit => length_exchanges_le limit text, ?_, ?_, last, ?_, rfl,
    last.after_frame.2.2.2, ?_, fun all => Exchange.ending_pending,
    fun error => Exchange.ending_halted_iff, ?_, fun e => Exchange.ending_command_iff,
    fun e => Exchange.ending_model_iff, last.ending_ne_busy _, ?_⟩
  · rw [made, chain]
  · intro conversational
    exact Nat.le_antisymm (length_exchanges_le_one conversational text)
      (List.length_pos_of_mem member)
  · intro x _ reply errors
    exact Exchange.untouched_of_unread
  · rw [chain, List.getLast?_append, List.getLast?_singleton]
    rfl
  · intro all completed
    obtain ⟨⟨reply, script, upshot⟩, nothing⟩ := Exchange.ending_completed completed
    exact Exchange.request_of_done taken upshot nothing
  · intro all error halted
    exact Exchange.request_of_failure (Exchange.ending_halted_iff.mp ⟨all, halted⟩)
  · intro outcome ended
    obtain ⟨reply, replied, all⟩ := Exchange.ending_replies ended
    rw [all, chain, List.map_append, List.map_append, map_reply_of_done done, List.map_singleton,
      List.map_singleton, Exchange.reply_of_upshot replied]

end Dialogue

end ReplyScript
