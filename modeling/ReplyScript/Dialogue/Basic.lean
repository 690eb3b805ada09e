import ReplyScript.Dialogue.Model
import ReplyScript.Prompt.Guidance
import ReplyScript.Script.Reading
import ReplyScript.Session.Batch

/-! # Dialogues

A dialogue sends the user's text to the model and performs the scripts in its replies. While
commands leave something to be sent, an autonomous dialogue goes on by itself, up to a limit of
turns.
-/

namespace ReplyScript

open Prompt (Snippet)

/-- How a dialogue is led. -/
structure DialogueConfig where
  model : String := "gpt-4"
  /-- Go on by itself while commands leave something to be sent. -/
  autonomous : Bool := true
  /-- The number of turns it may add to one submission by itself. -/
  maxAutoTurns : Option Nat := none
  /-- Takes the place of the built-in guidance. -/
  systemPrompt : Option String := none
  deriving Repr, DecidableEq, BEq, Inhabited

/-- What a dialogue is doing. -/
inductive Phase where
  | idle
  | awaitingReply
  | performing
  deriving Repr, DecidableEq, BEq, Inhabited

/-- How a submission ended. All replies to it are kept, oldest first. -/
inductive Outcome where
  /-- Nothing is left to be sent. -/
  | completed (replies : List String)
  /-- Something is left to be sent, but the dialogue does not go on by itself. -/
  | pending (replies : List String)
  /-- The script of the last reply failed. -/
  | halted (replies : List String) (error : String)
  deriving Repr, DecidableEq, BEq, Inhabited

def Outcome.replies : Outcome → List String
  | completed replies | pending replies | halted replies _ => replies

/-- Why a submission has no outcome. -/
inductive SubmitError where
  | busy
  | model (e : ModelError)
  | command (e : CommandError)
  deriving Repr, DecidableEq, BEq, Inhabited

def SubmitError.message : SubmitError → String
  | busy => "a conversation turn is already in progress"
  | model e => e.message
  | command e => "unrecoverable command failure: " ++ e.message

/-- A conversation with a model. -/
structure Dialogue where
  session : Session
  world : World
  config : DialogueConfig
  phase : Phase
  model : Model
  /-- The requests made to the model so far. -/
  calls : List ModelCall

namespace Dialogue

def start (session : Session) (world : World) (config : DialogueConfig) (model : Model) :
    Dialogue :=
  ⟨session, world, config, .idle, model, []⟩

def record (d : Dialogue) (e : Event) : Dialogue :=
  { d with world := d.world.record e }

def recordSnippets (d : Dialogue) : Dialogue :=
  d.record (.snippets (d.session.snippets.map Snippet.location))

def attach (d : Dialogue) (snippet : Snippet) : Dialogue :=
  recordSnippets
    { d with session := { d.session with snippets := d.session.snippets ++ [snippet] } }

/-- Take a snippet out again. -/
def removeSnippet (d : Dialogue) (index : Nat) : Option Snippet × Dialogue :=
  match d.session.snippets[index]? with
  | none => (none, d)
  | some snippet =>
      (some snippet, recordSnippets
        { d with session := { d.session with snippets := d.session.snippets.eraseIdx index } })

def deleteMessage (d : Dialogue) (index : Nat) : Option Message × Dialogue :=
  (d.session.history[index]?,
    { d with session := { d.session with history := d.session.history.eraseIdx index } })

def clearConversation (d : Dialogue) : Dialogue :=
  { d with session := { d.session with history := [] } }

end Dialogue

/-- The system prompt. -/
def DialogueConfig.guidance (c : DialogueConfig) : String :=
  c.systemPrompt.getD
    (if c.autonomous then Prompt.autonomousGuidance else Prompt.conversationalGuidance)

def Message.sent (m : Message) : ChatMessage :=
  ⟨m.role, match m.role with
    | .user => Prompt.userTurn m.snippets m.text
    | .system | .assistant => m.text⟩

namespace Dialogue

/-- The messages of a request: the system prompt and the history. -/
def messages (d : Dialogue) : List ChatMessage :=
  ⟨.system, d.config.guidance⟩ :: d.session.history.map Message.sent

/-- Whether a submission may start now. -/
def admits (d : Dialogue) : Except SubmitError Unit :=
  if d.phase = .idle then .ok () else .error .busy

/-- A message comes in. While a turn is in progress it is turned away. -/
def arrive (d : Dialogue) (_text : String) : Dialogue :=
  d.record (.arrived (match d.admits with
    | .ok () => "accepted"
    | .error e => e.message))

/-- Put a request into the history and send it, with the attached snippets. -/
def ask (d : Dialogue) (request : String) : Dialogue :=
  let session := { d.session with
    history := d.session.history ++ [⟨.user, d.session.snippets, request⟩] }
  let d := { d with session, phase := .awaitingReply }
  { d with calls := d.calls ++ [⟨d.config.model, d.messages⟩] }

/-- Take a request back that the model did not answer. It is pending again. -/
def retract (d : Dialogue) (request : String) (e : ModelError) : Dialogue :=
  let session := { d.session with history := d.session.history.dropLast, request }
  { d with session, phase := .idle }.record (.notified e.advice)

/-- Put the model's reply into the history. The attached snippets have been sent. -/
def accept (d : Dialogue) (reply : String) : Dialogue :=
  let session := { d.session with
    history := d.session.history ++ [⟨.assistant, [], reply⟩], snippets := [] }
  ({ d with session, phase := .performing }.recordSnippets).record (.request "")

/-- What performing a reply comes to. -/
inductive Applied where
  | done
  /-- The model may be told of the failure. -/
  | failed (text : String)
  | aborted (e : CommandError)
  deriving Repr, DecidableEq, BEq, Inhabited

/-- Read the script of a reply and perform its commands. -/
def applyReply (d : Dialogue) (reply : String) : Applied × Dialogue :=
  match Script.read reply with
  | .error errors =>
      (.failed (Text.unlines (errors.map Script.Finding.display)), { d with phase := .idle })
  | .ok script =>
      let (abort, scene) := performAll script.commands ⟨d.session, d.world⟩
      let d := { d with session := scene.session, world := scene.world, phase := .idle }
      match abort with
      | none => (.done, d)
      | some a =>
          if a.error.isRecoverable then (.failed a.error.message, d) else (.aborted a.error, d)

/-- Add the failure of a reply's script to the text for the next request. -/
def halt (d : Dialogue) (error : String) : Dialogue :=
  let d := { d with session := d.session.addRequest ("error: " ++ error) }
  (d.record (.request d.session.request)).record
    (.notified "A command failed; the error was added to your request.")

/-- Whether a dialogue goes on by itself after so many replies. -/
def goesOn (d : Dialogue) (replies : Nat) : Bool :=
  d.config.autonomous && (d.config.maxAutoTurns.map (decide <| replies ≤ ·)).getD true

/-- Send a request, perform the reply and go on while there is something to be sent. `replies` are
those to the same submission so far; the list is the answers that the model has left. -/
def turns (d : Dialogue) (replies : List String) (request : String) :
    List ModelAnswer → Except SubmitError Outcome × Dialogue
  | [] =>
      let e := d.model.exhausted
      (.error (.model e), (d.ask request).retract request e)
  | answer :: answers =>
      let d := { d with model := { d.model with answers } }
      let d := answer.arrivals.foldl arrive (d.ask request)
      match answer.reply with
      | .error e => (.error (.model e), d.retract request e)
      | .ok reply =>
          let replies := replies ++ [reply]
          match (d.accept reply).applyReply reply with
          | (.aborted e, d) => (.error (.command e), d)
          | (.failed error, d) => (.ok (.halted replies error), d.halt error)
          | (.done, d) =>
              if !d.session.hasPending then (.ok (.completed replies), d)
              else if !d.goesOn replies.length then (.ok (.pending replies), d)
              else
                { d with session := { d.session with request := "" } }.turns replies
                  d.session.request answers

def nextRequest (pending text : String) : String :=
  if text = "" then pending else joinText pending text

/-- Send the user's text, after any text that is pending. -/
def send (d : Dialogue) (text : String) : Except SubmitError Outcome × Dialogue :=
  { d with session := { d.session with request := "" } }.turns []
    (nextRequest d.session.request text) d.model.answers

/-- Send the user's text, unless a turn is in progress. -/
def submit (d : Dialogue) (text : String) : Except SubmitError Outcome × Dialogue :=
  match d.admits with
  | .error e => (.error e, d)
  | .ok () => d.send text

end Dialogue

end ReplyScript
