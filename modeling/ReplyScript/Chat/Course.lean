import ReplyScript.Chat.Basic
import ReplyScript.Dialogue.Exchange

/-! # Chats line by line

The lines of a chat, the replies of the model to each of them, and what the output shows of them.
-/

namespace ReplyScript.Chat

open Console (Printed)

/-- A line of a chat. -/
structure Turn where
  /-- The chat when the line has been read. -/
  chat : Chat
  command : Command

namespace Turn

variable (t : Turn)

/-- The replies of the model to the line, oldest first. -/
def replies : List String :=
  match t.command with
  | .say text => (t.chat.dialogue.exchanges text).filterMap fun x => x.upshot.reply?
  | _ => []

/-- The replies that are shown: all of them if the submission has an outcome, and otherwise none. -/
def shown : List String :=
  match t.command with
  | .say text => match (t.chat.dialogue.submit text).1 with
    | .ok _ => t.replies
    | .error _ => []
  | _ => []

/-- What the line prints, if these are the replies that it shows. -/
def output (replies : List String) : List Printed :=
  match t.command with
  | .memory => [.outputLine t.chat.dialogue.session.memory]
  | _ => printReplies replies

end Turn

/-- The lines up to the end of a chat, as `loop` reads them. -/
def course : (fuel : Nat) → Chat → List Turn
  | fuel, c =>
      let c := c.print [.message "> "]
      match fuel, c.takeLine? with
      | _, none | 0, _ => []
      | fuel + 1, some (line, c) =>
          let t : Turn := ⟨c, .ofLine line⟩
          t :: match c.obey t.command with
            | (_, some _) => []
            | (c, none) => course fuel c

def turns (c : Chat) : List Turn :=
  c.course c.dialogue.world.input.remaining.length

end ReplyScript.Chat
