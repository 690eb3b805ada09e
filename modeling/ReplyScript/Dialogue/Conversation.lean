import ReplyScript.Dialogue.Ledger

/-! # The conversation with the model

What the model has been asked in the course of a dialogue, and where the conversation was cleared in
between.
-/

namespace ReplyScript

/-- What happens to the conversation with the model. -/
inductive Occurrence where
  | asked (x : Exchange)
  /-- What was said before is forgotten. -/
  | cleared

def Occurrence.exchange? : Occurrence → Option Exchange
  | asked x => some x
  | cleared => none

namespace Exchange

variable (x : Exchange)

/-- The commands of the reply that were performed to their end. -/
def commands : List Script.Command :=
  match x.upshot with
  | .unanswered _ | .unread _ _ => []
  | .performed _ script abort => performedOf script.commands abort

/-- What happens to the conversation in an exchange: its reply may clear it. -/
def occurrences : List Occurrence :=
  .asked x :: if x.commands.any (·.clears) then [.cleared] else []

end Exchange

namespace Dialogue

def occurrencesOf (d : Dialogue) : Move → List Occurrence
  | .submit text => (d.exchanges text).flatMap Exchange.occurrences
  | .clearConversation => [.cleared]
  | .attach _ | .removeSnippet _ | .deleteMessage _ | .turnTo _ => []

def occurrences (d : Dialogue) : List Move → List Occurrence
  | [] => []
  | move :: moves => d.occurrencesOf move ++ (d.make move).occurrences moves

end Dialogue

namespace Conversation

/-- The last exchange that the model has answered, with its reply, after another occurrence. -/
def step (last : Option (Exchange × String)) : Occurrence → Option (Exchange × String)
  | .asked x => (x.answer.reply.toOption.map (x, ·)).or last
  | .cleared => none

/-- The last exchange that the model has answered, with its reply, unless the conversation was
cleared since. -/
def standing (os : List Occurrence) : Option (Exchange × String) :=
  os.foldl step none

/-- What the model has seen of the conversation, if this is what stands. -/
def seen (guidance : String) : Option (Exchange × String) → List ChatMessage
  | none => [⟨.system, guidance⟩]
  | some (x, reply) => x.call.messages ++ [⟨.assistant, reply⟩]

end Conversation

end ReplyScript
