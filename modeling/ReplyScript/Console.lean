import ReplyScript.World.Service

/-! # The console

What a program prints goes piece by piece to the output or among the messages. The two are kept
apart by who reads them, not in time. The events of a session are shown among the messages while
they happen.
-/

namespace ReplyScript.Console

/-- A piece of printed text. -/
inductive Printed where
  | output (text : String)
  | message (text : String)
  deriving Repr, DecidableEq, BEq, Inhabited

namespace Printed

/-- What a piece adds to the output. -/
def outputText : Printed → String
  | output text => text
  | message _ => ""

/-- What a piece adds to the messages. -/
def messageText : Printed → String
  | output _ => ""
  | message text => text

def outputLine (line : String) : Printed :=
  output (line ++ "\n")

def messageLine (line : String) : Printed :=
  message (line ++ "\n")

/-- A line among the messages that tells of an error. -/
def errorLine (line : String) : Printed :=
  messageLine ("error: " ++ line)

end Printed

def outputOf (pieces : List Printed) : String :=
  String.join (pieces.map Printed.outputText)

def messagesOf (pieces : List Printed) : String :=
  String.join (pieces.map Printed.messageText)

/-! ## Echoing what happens

The pending request grows by responses; of each new version only the part that was not shown before
is printed.
-/

/-- What is left behind so many bytes of a text, if they end between characters. -/
def dropBytes? : (bytes : Nat) → List Char → Option (List Char)
  | 0, cs => some cs
  | _ + 1, [] => none
  | bytes + 1, c :: cs =>
      if c.utf8Size ≤ bytes + 1 then dropBytes? (bytes + 1 - c.utf8Size) cs else none

/-- Which events are shown. -/
inductive Verbosity where
  | everything
  /-- Only questions to the user. -/
  | quiet
  deriving Repr, DecidableEq, BEq, Inhabited

/-- An echo: how many bytes of the pending request have been shown. -/
structure Echo where
  shown : Nat := 0
  deriving Repr, DecidableEq, BEq, Inhabited

namespace Echo

/-- The part of a request that is new. A request that does not go on from what was shown is new as a
whole. -/
def fresh (e : Echo) (request : String) : String :=
  match dropBytes? e.shown request.toList with
  | some rest => String.ofList rest
  | none => request

/-- Show a new version of the pending request. -/
def request (e : Echo) (text : String) : Echo × List Printed :=
  let fresh := e.fresh text
  (⟨text.utf8ByteSize⟩,
    if Text.allBlank fresh then []
    else [.messageLine (String.ofList (fresh.toList.dropWhile (· = '\n')))])

def question (command : String) : Printed :=
  .message ("run \x60" ++ command ++ "\x60? [y/N] ")

def step (verbosity : Verbosity) (e : Echo) : Event → Echo × List Printed
  | .asked command => (e, [question command])
  | .request text => if verbosity = .quiet then (e, []) else e.request text
  | .snippets locations =>
      (e, if verbosity = .quiet ∨ locations = [] then []
        else [.messageLine ("context: " ++ ", ".intercalate locations)])
  | .notified text => (e, if verbosity = .quiet then [] else [.errorLine text])
  | .called .. | .ran _ | .diagnosed _ | .arrived _ => (e, [])

/-- Show events one after the other. -/
def run (verbosity : Verbosity) (e : Echo) : List Event → Echo × List Printed
  | [] => (e, [])
  | event :: events =>
      let (e, shown) := e.step verbosity event
      let (e, more) := e.run verbosity events
      (e, shown ++ more)

end Echo

end ReplyScript.Console
