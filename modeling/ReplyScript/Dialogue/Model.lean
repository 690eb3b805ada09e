import ReplyScript.Session.Basic

/-! # Models

A model is asked with a list of messages and answers with a reply or an error. Here a model is the
list of answers it will give.
-/

namespace ReplyScript

/-- Why a model gives no reply. -/
inductive ModelError where
  | contextLengthExceeded
  | failed (text : String)
  deriving Repr, DecidableEq, BEq, Inhabited

namespace ModelError

def message : ModelError → String
  | contextLengthExceeded => "the conversation no longer fits in the model's context window"
  | failed text => "model request failed: " ++ text

/-- What the user is advised to do. -/
def advice : ModelError → String
  | contextLengthExceeded =>
      "The conversation is too long for the model. Delete some messages or clear the "
        ++ "conversation."
  | failed _ => "Failed to fetch a response, try again."

end ModelError

/-- What a model does when it is asked. -/
structure ModelAnswer where
  /-- Messages that come in while the model is at work. -/
  arrivals : List String
  reply : Except ModelError String

/-- A model: the answers it will give, and the error that follows when they are used up. -/
structure Model where
  answers : List ModelAnswer
  exhausted : ModelError

/-- A message as it is sent to a model. -/
structure ChatMessage where
  role : Role
  content : String
  deriving Repr, DecidableEq, BEq, Inhabited

/-- A request to a model. -/
structure ModelCall where
  model : String
  messages : List ChatMessage
  deriving Repr, DecidableEq, BEq, Inhabited

end ReplyScript
