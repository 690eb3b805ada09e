import ReplyScript.Dialogue.Exchange
import ReplyScript.Session.Ledger

/-! # What is sent in the course of a dialogue

A dialogue is led by one move after another. Its deeds are the commands that were performed
meanwhile, and the ledger says what became of everything that was to be sent to the model.
-/

namespace ReplyScript

open Prompt (Snippet)

/-- What can be done with a dialogue. -/
inductive Move where
  | submit (text : String)
  | attach (snippet : Snippet)
  | removeSnippet (index : Nat)
  | deleteMessage (index : Nat)
  | clearConversation
  /-- The world has become another one. -/
  | turnTo (world : World)

namespace Exchange

variable (x : Exchange)

/-- Whether the model has replied to the request. -/
def isAnswered : Bool :=
  x.upshot.reply?.isSome

/-- What the exchange does to the material for the next request. -/
def entries : List LedgerEntry :=
  (match x.upshot with
    | .unanswered _ => []
    | .unread _ _ => [.answered]
    | .performed reply script _ =>
        .answered :: batchEntries script.commands
          ⟨(x.accepted reply).session, (x.accepted reply).world⟩)
    ++ x.upshot.failure?.toList.map fun error => .told ("error: " ++ error)

/-- The deeds of the script of a reply. -/
def deeds : List Deed :=
  match x.upshot with
  | .unanswered _ | .unread _ _ => []
  | .performed reply script _ =>
      ReplyScript.deeds script.commands ⟨(x.accepted reply).session, (x.accepted reply).world⟩

end Exchange

namespace Dialogue

/-- Make a move. -/
def make (d : Dialogue) : Move → Dialogue
  | .submit text => (d.submit text).2
  | .attach snippet => d.attach snippet
  | .removeSnippet index => (d.removeSnippet index).2
  | .deleteMessage index => (d.deleteMessage index).2
  | .clearConversation => d.clearConversation
  | .turnTo world => { d with world }

/-- The exchanges of a move. -/
def exchangesOf (d : Dialogue) : Move → List Exchange
  | .submit text => d.exchanges text
  | _ => []

/-- What a move does to the material for the next request. -/
def entriesOf (d : Dialogue) : Move → List LedgerEntry
  | .submit text => .told text :: (d.exchanges text).flatMap Exchange.entries
  | .attach snippet => [.attached snippet]
  | .removeSnippet index => [.taken index]
  | .deleteMessage _ | .clearConversation | .turnTo _ => []

/-- Make one move after another. -/
def run (d : Dialogue) (moves : List Move) : Dialogue :=
  moves.foldl make d

/-- The exchanges of one move after another. -/
def exchangesOver (d : Dialogue) : List Move → List Exchange
  | [] => []
  | move :: moves => d.exchangesOf move ++ (d.make move).exchangesOver moves

/-- The deeds of one move after another. -/
def deedsOver (d : Dialogue) (moves : List Move) : List Deed :=
  (d.exchangesOver moves).flatMap Exchange.deeds

/-- The entries of one move after another. -/
def ledger (d : Dialogue) : List Move → List LedgerEntry
  | [] => []
  | move :: moves => d.entriesOf move ++ (d.make move).ledger moves

end Dialogue

namespace Ledger

/-- The snippets that were attached and not taken out again, and how many of them have been sent,
after another entry. -/
def keep : List Snippet × Nat → LedgerEntry → List Snippet × Nat
  | (kept, sent), .attached snippet => (kept ++ [snippet], sent)
  | (kept, sent), .taken index => (kept.eraseIdx (sent + index), sent)
  | (kept, sent), .told _ => (kept, sent)
  | (kept, _), .answered => (kept, kept.length)

/-- The snippets that were attached and not taken out again. -/
def kept (entries : List LedgerEntry) : List Snippet :=
  (entries.foldl keep ([], 0)).1

/-- The texts that were told, without empty ones. -/
def pieces (entries : List LedgerEntry) : List String :=
  entries.filterMap fun
    | .told text => if text = "" then none else some text
    | _ => none

/-! ## What the model reads -/

/-- What a snippet is. -/
def title : Snippet → String
  | .file location content =>
      "# file @ \"" ++ location ++ "\" totalLines: " ++ toString (Text.lineCount content)
  | .function name location _ startLine =>
      "# function \"" ++ name ++ "\" @ \"" ++ location ++ ":" ++ toString startLine ++ "\""
  | .selection location _ startLine =>
      "# selection @ \"" ++ location ++ ":" ++ toString startLine

/-- The lines of a snippet behind their numbers, between its title and an empty line. -/
def excerpt (snippet : Snippet) : List String :=
  title snippet :: (Text.lines snippet.content).mapIdx (fun i line =>
    toString (snippet.startLine + i) ++ " " ++ line) ++ [""]

/-- A request with its snippets, line by line. -/
def turn (snippets : List Snippet) (request : String) : String :=
  Text.unlines (snippets.flatMap excerpt ++ ["# User request", request])

end Ledger

end ReplyScript
