import ReplyScript.Prompt.Snippet
import ReplyScript.Workspace.Basic

/-! # Sessions

What a conversation keeps between commands and between turns: snippets and text for the next
request, the active document, the model's memory and the history.
-/

namespace ReplyScript

open Prompt (Snippet)

/-- Who speaks. -/
inductive Role where
  | system
  | user
  | assistant
  deriving Repr, DecidableEq, BEq, Inhabited

def Role.name : Role → String
  | system => "system"
  | user => "user"
  | assistant => "assistant"

/-- An entry of the history, with the snippets that were sent with it. -/
structure Message where
  role : Role
  snippets : List Snippet
  text : String
  deriving Repr, DecidableEq, BEq, Inhabited

/-- The state of a conversation. -/
structure Session where
  /-- The snippets for the next request. -/
  snippets : List Snippet
  /-- The text for the next request, to which responses are added. -/
  request : String
  /-- The document that commands without a path are about. -/
  active : Option Document
  memory : String
  history : List Message
  deriving Repr, DecidableEq, BEq, Inhabited

/-- A text and an addition, on lines of their own. -/
def joinText (text addition : String) : String :=
  let broken := text.toList = [] ∨ text.toList.getLast? = some '\n'
  (if broken then text else text ++ "\n") ++ addition

namespace Session

def empty : Session := ⟨[], "", none, "", []⟩

/-- Whether there is something for the next request. -/
def hasPending (s : Session) : Bool :=
  !Text.allBlank s.request || !s.snippets.isEmpty

def addRequest (s : Session) (text : String) : Session :=
  { s with request := joinText s.request text }

end Session

end ReplyScript
