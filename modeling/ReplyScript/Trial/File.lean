import ReplyScript.Json.Quoted
import ReplyScript.Text.Blank
import ReplyScript.Toml.Reader

/-! # Trial files

A trial is a reply together with what is expected of it. Its file starts with a TOML document
between two fences, lines of three dashes; the reply follows the second fence. `sections` takes the
two apart, `Expectations.ofMembers?` decodes the document.
-/

namespace ReplyScript.Trial

open Json (push)
open Toml (Members)

def dropLineEnd : List Char → List Char
  | '\n' :: rest | '\r' :: '\n' :: rest => rest
  | cs => cs

/-- Split a text at the first line that starts with a fence, which is not the first line. -/
def splitAtFence : List Char → Option (List Char × List Char)
  | [] => none
  | '\n' :: '-' :: '-' :: '-' :: rest => some ([], rest)
  | c :: cs => push c (splitAtFence cs)

/-- Why a trial file cannot be read. -/
inductive FileProblem where
  | noOpeningFence
  | noClosingFence
  | invalidDocument
  deriving Repr, DecidableEq, BEq, Inhabited

def FileProblem.message : FileProblem → String
  | noOpeningFence => "missing opening --- frontmatter delimiter"
  | noClosingFence => "missing closing --- frontmatter delimiter"
  | invalidDocument => "TOML parse error: not a valid document"

/-- The text between the fences and the text behind them. Byte order marks may stand before the
first fence. -/
def sections (text : List Char) : Except FileProblem (List Char × List Char) :=
  match text.dropWhile (· = '\ufeff') with
  | '-' :: '-' :: '-' :: rest =>
      match splitAtFence (dropLineEnd rest) with
      | some (document, rest) => .ok (Text.dropEndWhile (· = '\r') document, dropLineEnd rest)
      | none => .error .noClosingFence
  | _ => .error .noOpeningFence

structure ExpectedWarning where
  /-- A text that its message holds. -/
  holds : String
  /-- The line of the reply that it starts on, counted from one. -/
  line : Option Nat
  deriving Repr, DecidableEq, BEq, Inhabited

/-- Decode an expected warning: a table, or the array of its fields. -/
def ExpectedWarning.ofValue? : Toml.Value → Option ExpectedWarning
  | .table _ members => do
      let ms : Members := members
      return ⟨← (← ms.optional "contains" (·.text?)), ← ms.optional "line" (·.nat?)⟩
  | v => do
      match ← v.items? with
      | [] => none
      | [holds] => return ⟨← holds.text?, none⟩
      | holds :: line :: _ => return ⟨← holds.text?, some (← line.nat?)⟩

/-- What is expected of a reply. -/
structure Expectations where
  description : Option String := none
  /-- The files of the workspace that the reply is performed in: paths and texts. -/
  files : List (String × String) := []
  /-- The commands of the script, as they are shown. -/
  commands : Option (List String) := none
  /-- The reply has no valid script. -/
  parseError : Bool := false
  warnings : Option (List ExpectedWarning) := none
  /-- A command fails with an error that holds this text. -/
  error : Option String := none
  /-- Texts that the pending request holds in the end. -/
  requestHolds : List String := []
  memory : Option String := none
  /-- Files and their texts in the end. -/
  finalFiles : List (String × String) := []
  /-- The path of the active document in the end. -/
  active : Option String := none
  deriving Repr, DecidableEq, BEq, Inhabited

def byKey (pairs : List (String × String)) : List (String × String) :=
  pairs.mergeSort fun a b => a.1 ≤ b.1

def Expectations.ofMembers? (ms : Members) : Option Expectations := do
  return {
    description := ← ms.optional "description" (·.text?)
    files := byKey (← ms.field "files" (·.textTable?) [])
    commands := ← ms.optional "expect_commands" (·.texts?)
    parseError := ← ms.field "expect_parse_error" (·.boolean?) false
    warnings := ← ms.optional "expect_warnings" fun v => do
      (← v.items?).mapM ExpectedWarning.ofValue?
    error := ← ms.optional "expect_error" (·.text?)
    requestHolds := ← ms.field "expect_request_contains" (·.texts?) []
    memory := ← ms.optional "expect_memory" (·.text?)
    finalFiles := byKey (← ms.field "expect_files" (·.textTable?) [])
    active := ← ms.optional "expect_active" (·.text?) }

end ReplyScript.Trial

namespace ReplyScript

/-- A reply with what is expected of it. -/
structure Trial where
  expectations : Trial.Expectations
  reply : String
  deriving Repr, DecidableEq, BEq, Inhabited

def Trial.read (text : String) : Except Trial.FileProblem Trial := do
  let (document, reply) ← Trial.sections text.toList
  match (Toml.read? (String.ofList document)).bind Trial.Expectations.ofMembers? with
  | some expectations => return ⟨expectations, String.ofList reply⟩
  | none => throw .invalidDocument

end ReplyScript
