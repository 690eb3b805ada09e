import ReplyScript.Dialogue.Basic

/-! # Exchanges

A submission is a chain of exchanges with the model. In each of them a request is sent, the model
answers it, and the script of the answer is performed.
-/

namespace ReplyScript

open Script (Finding)

/-- A request and the model's answer to it. -/
structure Exchange where
  /-- The dialogue before the request is sent. -/
  dialogue : Dialogue
  request : String
  answer : ModelAnswer

/-- What came of a request. -/
inductive Upshot where
  | unanswered (e : ModelError)
  /-- The reply is no script. -/
  | unread (reply : String) (errors : List Finding)
  /-- The script of the reply was performed, up to an abort if there was one. -/
  | performed (reply : String) (script : Script) (abort : Option Abort)

namespace Upshot

def reply? : Upshot → Option String
  | unanswered _ => none
  | unread reply _ | performed reply _ _ => some reply

/-- Whether a script was performed to its end. -/
def isDone : Upshot → Bool
  | performed _ _ none => true
  | _ => false

/-- The failure that the model may be told of. -/
def failure? : Upshot → Option String
  | unanswered _ | performed _ _ none => none
  | unread _ errors => some (Text.unlines (errors.map Finding.display))
  | performed _ _ (some a) => if a.error.isRecoverable then some a.error.message else none

end Upshot

namespace Exchange

variable (x : Exchange)

/-- The request as the model receives it. -/
def call : ModelCall :=
  ⟨x.dialogue.config.model, (x.dialogue.ask x.request).messages⟩

/-- The dialogue when the answer comes. -/
def answered : Dialogue :=
  x.answer.arrivals.foldl Dialogue.arrive (x.dialogue.ask x.request)

def accepted (reply : String) : Dialogue :=
  x.answered.accept reply

def performed (reply : String) (script : Script) : Option Abort × Scene :=
  performAll script.commands ⟨(x.accepted reply).session, (x.accepted reply).world⟩

def resumed (reply : String) (script : Script) : Dialogue :=
  let scene := (x.performed reply script).2
  { x.accepted reply with session := scene.session, world := scene.world, phase := .idle }

/-- What came of the request. -/
def upshot : Upshot :=
  match x.answer.reply with
  | .error e => .unanswered e
  | .ok reply => match Script.read reply with
    | .error errors => .unread reply errors
    | .ok script => .performed reply script (x.performed reply script).1

def after : Dialogue :=
  let d := match x.upshot with
    | .unanswered e => x.answered.retract x.request e
    | .unread reply _ => { x.accepted reply with phase := .idle }
    | .performed reply script _ => x.resumed reply script
  (x.upshot.failure?.map d.halt).getD d

/-- Whether the submission goes on after so many replies. -/
def goesOn (replies : Nat) : Bool :=
  x.upshot.isDone && x.after.session.hasPending && x.after.goesOn replies

/-- The dialogue that goes on with what is pending. -/
def next : Dialogue :=
  { x.after with session := { x.after.session with request := "" } }

end Exchange

namespace Dialogue

/-- The exchange that an answer belongs to. The list is the answers that the model has left. -/
def exchange (d : Dialogue) (request : String) (answer : ModelAnswer)
    (answers : List ModelAnswer) : Exchange :=
  ⟨{ d with model := { d.model with answers } }, request, answer⟩

/-- The exchanges that follow from a request, after a number of replies to the same submission. -/
def exchangesFrom (d : Dialogue) (replies : Nat) (request : String) :
    List ModelAnswer → List Exchange
  | [] => [⟨d, request, ⟨[], .error d.model.exhausted⟩⟩]
  | answer :: answers =>
      let x := d.exchange request answer answers
      x :: if x.goesOn (replies + 1) then
          x.next.exchangesFrom (replies + 1) x.after.session.request answers
        else []

def exchanges (d : Dialogue) (text : String) : List Exchange :=
  { d with session := { d.session with request := "" } }.exchangesFrom 0
    (nextRequest d.session.request text) d.model.answers

end Dialogue

end ReplyScript
