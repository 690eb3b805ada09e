import Mathlib.Data.List.Forall2
import ReplyScript.Proofs.Dialogue.Ledger
import ReplyScript.Proofs.Excerpt
import ReplyScript.Proofs.Script.Spans
import ReplyScript.Proofs.Session.Confinement

/-! # Line numbers in the course of a dialogue

A reply can ask for no line number beyond a word, so whatever is attached in the course of a
dialogue was captured from a source by words. Main statement: `Dialogue.line_numbers_shown`, the
line numbers that the model is shown are those of the source, and none of them overflows.
-/

namespace ReplyScript

open Excerpt (Captured Held Numbered sent?)
open Prompt (Snippet)
open Script (Argument Command Directive)

/-! ## Numbers in replies -/

namespace Script

theorem Directive.bounded_argument (token : String) : (Directive.argument token).Bounded := by
  unfold argument
  cases decoded : Argument.decode? token with
  | none => exact nofun
  | some a => exact Argument.bounded_of_decode? decoded

theorem Directive.bounded_strictArguments {tokens : List String} {arguments : List Argument}
    (decoded : strictArguments tokens = .ok arguments) : ∀ a ∈ arguments, a.Bounded := by
  induction tokens generalizing arguments with
  | nil =>
      cases decoded
      exact nofun
  | cons token rest ih =>
      unfold strictArguments at decoded
      cases first : Argument.decode? token with
      | none =>
          rw [first] at decoded
          cases decoded
      | some a =>
          rw [first] at decoded
          cases later : strictArguments rest with
          | error e =>
              rw [later] at decoded
              cases decoded
          | ok others =>
              rw [later] at decoded
              cases decoded
              exact List.forall_mem_cons.mpr ⟨Argument.bounded_of_decode? first, ih later⟩

theorem Directive.bounded_arguments {d : Directive} {arguments : List Argument}
    (decoded : d.arguments = .ok arguments) : ∀ a ∈ arguments, a.Bounded := by
  unfold Directive.arguments at decoded
  split at decoded
  · exact bounded_strictArguments decoded
  · cases decoded
    intro a member
    obtain ⟨token, -, rfl⟩ := List.mem_map.mp member
    exact bounded_argument token

theorem Stands.bounded {ls : List String} {c : Command} (stands : Stands ls c) :
    ∀ a ∈ c.arguments, a.Bounded := by
  cases stands with
  | line read decoded => exact Directive.bounded_arguments decoded
  | block opens openerName between closes closerName =>
      intro a member
      rcases List.mem_append.mp member with given | body
      · obtain ⟨token, -, rfl⟩ := List.mem_map.mp given
        exact Directive.bounded_argument token
      · rw [List.mem_singleton.mp body]
        exact nofun

theorem bounded_of_read {source : String} {script : Script}
    (parsed : read source = .ok script) : ∀ c ∈ script.commands, ∀ a ∈ c.arguments, a.Bounded := by
  rw [Reading.read_eq_ofYields] at parsed
  obtain ⟨-, rfl⟩ := Reading.ofYields_eq_ok parsed
  intro c member
  obtain ⟨-, mid, -, -, -, stands⟩ := (yields_located source).1 c member
  exact stands.bounded

end Script

theorem index?_lt {a : Argument} (bounded : a.Bounded) {n : Nat} (found : index? a = some n) :
    n < UInt64.size := by
  cases a with
  | text s =>
      have within := (Option.filter_eq_some_iff.mp found).2
      exact decide_eq_true_iff.mp within
  | integer m =>
      have word := bounded m rfl
      unfold Argument.inWord at word
      rw [Bool.and_eq_true, decide_eq_true_iff, decide_eq_true_iff] at word
      simp only [index?] at found
      split at found
      · cases found
        simp only [UInt64.size]
        omega
      · cases found
  | float x =>
      simp only [index?, indexOfFloat?] at found
      split at found
      · split at found
        · cases found
          exact Nat.lt_of_le_of_lt (Nat.min_le_right _ maxIndex) (by decide)
        · cases found
      · cases found
  | boolean b => cases found

theorem Slot.index_lt {slot : Slot} {argument : Option Argument} {n : Nat}
    (bounded : ∀ a ∈ argument, a.Bounded) (filled : slot.fill argument = .ok (.index (some n))) :
    n < UInt64.size := by
  unfold fill at filled
  split at filled
  · cases filled
  · split at filled
    · rename_i found
      cases filled
      exact index?_lt (bounded _ rfl) found
    · cases filled
  · split at filled
    · rename_i found
      cases filled
      exact index?_lt (bounded _ rfl) found
    · cases filled
  · cases filled
  · cases filled
  · cases filled

theorem fillSlots_index_lt {slots : List Slot} {arguments : List Argument}
    {fillings : List Filling} (bounded : ∀ a ∈ arguments, a.Bounded)
    (filled : fillSlots slots arguments = .ok fillings) :
    ∀ n, Filling.index (some n) ∈ fillings → n < UInt64.size := by
  induction slots generalizing arguments fillings with
  | nil =>
      cases filled
      exact nofun
  | cons slot rest ih =>
      unfold fillSlots at filled
      cases first : slot.fill arguments.head? with
      | error e =>
          rw [first] at filled
          cases filled
      | ok filling =>
          rw [first] at filled
          cases later : fillSlots rest arguments.tail with
          | error e =>
              rw [later] at filled
              cases filled
          | ok others =>
              rw [later] at filled
              cases filled
              intro n member
              rcases List.mem_cons.mp member with here | there
              · rw [← here] at first
                exact Slot.index_lt (fun a head => bounded a (List.mem_of_mem_head? head)) first
              · exact ih (fun a inside => bounded a (List.mem_of_mem_tail inside)) later n there

theorem Script.Command.start_lt {c : Command} (bounded : ∀ a ∈ c.arguments, a.Bounded)
    {path : String} {start stop : Option Nat}
    (asked : c.action? = .ok (some (.readFile path start stop))) :
    ∀ n ∈ start, n < UInt64.size := by
  rintro n ⟨⟩
  unfold action? at asked
  split at asked
  · cases asked
  · split at asked
    · rename_i fillings bound
      have made := Except.ok.inj asked
      have member : Filling.index (some n) ∈ fillings := by
        unfold Action.ofFillings? at made
        split at made <;> cases made
        exact List.mem_cons_of_mem _ List.mem_cons_self
      exact fillSlots_index_lt bounded bound n member
    · cases asked

/-! ## Snippets of a session -/

/-- Every snippet of a session, sent or not, was captured from some source. -/
structure Session.Sourced (s : Session) : Prop where
  pending : ∀ snippet ∈ s.snippets, ∃ source, Captured source snippet
  sent : ∀ m ∈ s.history, ∀ snippet ∈ m.snippets, ∃ source, Captured source snippet

/-- What a command attaches is captured from the file that it reads. -/
theorem Deed.captured_attached {d : Deed} (bounded : ∀ a ∈ d.command.arguments, a.Bounded)
    {snippet : Snippet} (attached : d.attached? = some snippet) :
    ∃ source, Captured source snippet := by
  obtain ⟨a, asked, made⟩ := Option.bind_eq_some_iff.mp attached
  cases a with
  | readFile path start stop =>
      obtain ⟨result, -, read⟩ := Option.bind_eq_some_iff.mp made
      obtain ⟨content, -, rfl⟩ := Option.map_eq_some_iff.mp read
      exact ⟨content, .read path start stop
        (Script.Command.start_lt bounded (action?_eq_some_iff.mp asked))⟩
  | _ => cases made

theorem Session.Sourced.linked {s t : Scene} {ds : List Deed} (linked : Linked s ds t)
    (bounded : ∀ d ∈ ds, ∀ a ∈ d.command.arguments, a.Bounded) (sourced : s.session.Sourced) :
    t.session.Sourced := by
  induction ds generalizing s with
  | nil =>
      cases linked
      exact sourced
  | cons d rest ih =>
      obtain ⟨rfl, later⟩ := linked
      obtain ⟨here, others⟩ := List.forall_mem_cons.mp bounded
      refine ih later others ⟨?_, ?_⟩
      · intro snippet member
        rw [d.confined.snippets, List.mem_append, Option.mem_toList] at member
        rcases member with before | attached
        · exact sourced.pending snippet before
        · exact Deed.captured_attached here attached
      · intro m member
        rw [d.confined.history] at member
        split at member
        · cases member
        · exact sourced.sent m member

namespace Exchange

variable {x : Exchange}

theorem sourced_asked (sourced : x.dialogue.session.Sourced) :
    (x.dialogue.ask x.request).session.Sourced where
  pending := sourced.pending
  sent := by
    intro m member
    rcases List.mem_append.mp member with before | asked
    · exact sourced.sent m before
    · rw [List.mem_singleton.mp asked]
      exact sourced.pending

theorem sourced_accepted (sourced : x.dialogue.session.Sourced) (reply : String) :
    (x.accepted reply).session.Sourced where
  pending := nofun
  sent := by
    intro m member
    have asked := sourced_asked sourced
    rw [← x.answered_frame.1] at asked
    rcases List.mem_append.mp member with before | replied
    · exact asked.sent m before
    · rw [List.mem_singleton.mp replied]
      exact nofun

theorem sourced_performed (sourced : x.dialogue.session.Sourced) {reply : String}
    {script : Script} (parsed : Script.read reply = .ok script) :
    (x.performed reply script).2.session.Sourced := by
  have linked := linked_deeds script.commands
    ⟨(x.accepted reply).session, (x.accepted reply).world⟩
  refine Session.Sourced.linked linked (fun d member => ?_) (sourced_accepted sourced reply)
  have commands := (commands_deeds script.commands
    ⟨(x.accepted reply).session, (x.accepted reply).world⟩).subset
  exact Script.bounded_of_read parsed d.command (commands (List.mem_map_of_mem member))

theorem sourced_after (sourced : x.dialogue.session.Sourced) : x.after.session.Sourced := by
  unfold after
  cases upshot : x.upshot with
  | unanswered e =>
      have asked := sourced_asked sourced
      rw [← x.answered_frame.1] at asked
      exact ⟨asked.pending, fun m member => asked.sent m (List.dropLast_subset _ member)⟩
  | unread reply errors =>
      have accepted := sourced_accepted sourced reply
      exact ⟨accepted.pending, accepted.sent⟩
  | performed reply script abort =>
      have performed := sourced_performed sourced (of_upshot_performed upshot).2.1
      cases (Upshot.performed reply script abort).failure? with
      | none => exact performed
      | some error => exact ⟨performed.pending, performed.sent⟩

end Exchange

/-! ## Snippets of a dialogue -/

namespace Dialogue

variable {d : Dialogue}

theorem sourced_exchangesFrom (sourced : d.session.Sourced) (replies : Nat) (request : String)
    (answers : List ModelAnswer) :
    ∀ x ∈ d.exchangesFrom replies request answers, x.dialogue.session.Sourced := by
  induction answers generalizing d replies request with
  | nil =>
      intro x member
      rw [List.mem_singleton.mp member]
      exact sourced
  | cons answer answers ih =>
      have chain := d.exchangesFrom_cons replies request answer answers
      have here : (d.exchange request answer answers).dialogue.session.Sourced := sourced
      generalize d.exchange request answer answers = x at chain here
      rw [chain]
      refine List.forall_mem_cons.mpr ⟨here, ?_⟩
      split
      · have after := Exchange.sourced_after here
        have next : x.next.session.Sourced := ⟨after.pending, after.sent⟩
        exact ih next (replies + 1) x.after.session.request
      · exact List.forall_mem_nil _

theorem sourced_submit (sourced : d.session.Sourced) (text : String) :
    (d.submit text).2.session.Sourced := by
  unfold submit
  split
  · exact sourced
  · have taken : ({ d.session with request := "" } : Session).Sourced :=
      ⟨sourced.pending, sourced.sent⟩
    obtain ⟨early, last, chain, -, turns, -⟩ :=
      turns_exchanges { d with session := { d.session with request := "" } } []
        (nextRequest d.session.request text) d.model.answers
    have member : last ∈ early ++ [last] := List.mem_append_right _ (List.mem_singleton_self last)
    rw [← chain] at member
    unfold send
    rw [turns]
    exact Exchange.sourced_after (sourced_exchangesFrom taken _ _ _ last member)

theorem sourced_make (sourced : d.session.Sourced) (move : Move)
    (attached : ∀ snippet, move = .attach snippet → ∃ source, Captured source snippet) :
    (d.make move).session.Sourced := by
  cases move with
  | submit text => exact sourced_submit sourced text
  | attach snippet =>
      refine ⟨fun other member => ?_, sourced.sent⟩
      rcases List.mem_append.mp member with before | added
      · exact sourced.pending other before
      · rw [List.mem_singleton.mp added]
        exact attached snippet rfl
  | removeSnippet index =>
      simp only [make, removeSnippet]
      split
      · exact sourced
      · exact ⟨fun other member => sourced.pending other (List.mem_of_mem_eraseIdx member),
          sourced.sent⟩
  | deleteMessage index =>
      exact ⟨sourced.pending, fun m member => sourced.sent m (List.mem_of_mem_eraseIdx member)⟩
  | clearConversation => exact ⟨sourced.pending, nofun⟩
  | turnTo world => exact sourced

theorem sourced_over (sourced : d.session.Sourced) {moves : List Move}
    (attached : ∀ snippet, .attach snippet ∈ moves → ∃ source, Captured source snippet) :
    ∀ x ∈ d.exchangesOver moves, x.dialogue.session.Sourced := by
  induction moves generalizing d with
  | nil => exact List.forall_mem_nil _
  | cons move rest ih =>
      have here := sourced_make sourced move fun snippet same =>
        attached snippet (same ▸ List.mem_cons_self)
      have later := ih here fun snippet member => attached snippet (List.mem_cons_of_mem _ member)
      intro x member
      rcases List.mem_append.mp member with now | then_
      · cases move with
        | submit text =>
            have taken : ({ d.session with request := "" } : Session).Sourced :=
              ⟨sourced.pending, sourced.sent⟩
            exact sourced_exchangesFrom
              (d := { d with session := { d.session with request := "" } }) taken _ _ _ x now
        | _ => cases now
      · exact later x then_

end Dialogue

theorem exists_sources {snippets : List Snippet}
    (captured : ∀ snippet ∈ snippets, ∃ source, Captured source snippet) :
    ∃ sources, List.Forall₂ Captured sources snippets := by
  induction snippets with
  | nil => exact ⟨[], .nil⟩
  | cons snippet rest ih =>
      obtain ⟨⟨source, here⟩, others⟩ := List.forall_mem_cons.mp captured
      obtain ⟨sources, later⟩ := ih others
      exact ⟨source :: sources, .cons here later⟩

/-- A message whose snippets were captured is sent without any line number that is too large. -/
theorem Message.sent?_eq {m : Message} {sources : List String}
    (captured : List.Forall₂ Captured sources m.snippets) (held : ∀ source ∈ sources, Held source) :
    sent? m = some m.sent := by
  have rendered : ∀ snippet ∈ m.snippets, Excerpt.render? snippet = some snippet.render := by
    generalize m.snippets = snippets at captured
    induction captured with
    | nil => exact List.forall_mem_nil _
    | cons here later ih =>
        obtain ⟨first, others⟩ := List.forall_mem_cons.mp held
        exact List.forall_mem_cons.mpr ⟨here.render?_eq first, ih others⟩
  rcases m with ⟨_ | _ | _, snippets, text⟩
  · rfl
  · unfold sent? Message.sent
    rw [Excerpt.userTurn?_eq rendered]
    rfl
  · rfl

namespace Dialogue

/-- The line numbers that the model is shown are those of the source. However a snippet is captured
from a source, nothing is missing, and the lines of the snippet are rendered behind their own
numbers. If all snippets of a session were captured before, or are attached in the course of it by
the user or by commands, then so are all snippets that are sent to the model, and none of them has a
line number that is too large, whatever lines were asked for. -/
theorem line_numbers_shown : (∀ source, Numbered source)
    ∧ ∀ (session : Session) (world : World) (config : DialogueConfig) (model : Model)
      (moves : List Move), session.Sourced →
      (∀ snippet, .attach snippet ∈ moves → ∃ source, Captured source snippet) →
      ∀ x ∈ (start session world config model).exchangesOver moves,
        let history := (x.dialogue.ask x.request).session.history
        x.call.messages = ⟨.system, x.dialogue.config.guidance⟩ :: history.map Message.sent
        ∧ ∀ m ∈ history, (∃ sources, List.Forall₂ Captured sources m.snippets)
          ∧ ∀ sources, List.Forall₂ Captured sources m.snippets →
            (∀ source ∈ sources, Held source) → sent? m = some m.sent := by
  refine ⟨Excerpt.numbered, ?_⟩
  intro session world config model moves sourced attached x member history
  have here := sourced_over (d := start session world config model) sourced attached x member
  refine ⟨rfl, fun m inside => ⟨?_, ?_⟩⟩
  · exact exists_sources ((Exchange.sourced_asked here).sent m inside)
  · exact fun _ captured held => Message.sent?_eq captured held

/-- A dialogue with a model that reads a file from the last of all line numbers on. -/
def farReader : Dialogue :=
  .start .empty (Scene.onFile "a.txt" "x").world {}
    ⟨[⟨[], .ok "@startCommand\n@readFile a.txt 18446744073709551615\n@endCommand"⟩,
      ⟨[], .ok "Done"⟩], .failed "no answer"⟩

/-- The excerpt is empty, and its one line gets the largest number that there is. -/
theorem line_numbers_shown_last :
    ∃ x ∈ farReader.exchangesOver [.attach (.file "a.txt" "x"), .submit "hi"],
      ∃ m ∈ (x.dialogue.ask x.request).session.history,
        m.snippets = [.selection "a.txt" "" 18446744073709551615] ∧ sent? m = some m.sent := by
  have whole : Captured "x" (.file "a.txt" "x") := .read "a.txt" none none nofun
  have empty : captureSnippet "a.txt" "x" (some 18446744073709551615) none
      = .selection "a.txt" "" 18446744073709551615 := by decide +kernel
  have beyond : Captured "x" (.selection "a.txt" "" 18446744073709551615) := by
    rw [← empty]
    refine .read "a.txt" (some 18446744073709551615) none ?_
    rintro _ ⟨⟩
    decide
  have asked : (farReader.exchangesOver [.attach (.file "a.txt" "x"), .submit "hi"]).map
      (fun x => x.dialogue.session.snippets)
        = [[.file "a.txt" "x"], [.selection "a.txt" "" 18446744073709551615]] := by decide +kernel
  obtain ⟨x, member, snippets⟩ : ∃ x ∈ farReader.exchangesOver
      [.attach (.file "a.txt" "x"), .submit "hi"],
      x.dialogue.session.snippets = [.selection "a.txt" "" 18446744073709551615] := by
    refine List.mem_map.mp ?_
    rw [asked]
    exact List.mem_cons_of_mem _ List.mem_cons_self
  have attached : ∀ snippet, .attach snippet ∈ [Move.attach (.file "a.txt" "x"), .submit "hi"] →
      ∃ source, Captured source snippet := by
    intro snippet given
    simp only [List.mem_cons, Move.attach.injEq, reduceCtorEq, List.not_mem_nil, or_false] at given
    exact ⟨"x", given ▸ whole⟩
  obtain ⟨-, shown⟩ :=
    line_numbers_shown.2 .empty _ {} farReader.model _ ⟨nofun, nofun⟩ attached x member
  have last : (⟨.user, x.dialogue.session.snippets, x.request⟩ : Message)
      ∈ (x.dialogue.ask x.request).session.history := List.mem_append_right _ List.mem_cons_self
  rw [snippets] at last
  refine ⟨x, member, _, last, rfl, (shown _ last).2 ["x"] (.cons beyond .nil) ?_⟩
  exact List.forall_mem_singleton.mpr (by decide)

end Dialogue

end ReplyScript
