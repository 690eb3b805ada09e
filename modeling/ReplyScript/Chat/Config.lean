import ReplyScript.Decimal.Shortest
import ReplyScript.Dialogue.Basic
import ReplyScript.Disk.Tree
import ReplyScript.Json.Number
import ReplyScript.Toml.Reader

/-! # Configuration of a chat

A configuration is a TOML document. Keys that are missing have defaults, keys that are unknown do
not matter, and a value of the wrong kind makes the document invalid.
-/

namespace ReplyScript.Chat

open Decimal (Binary binary32 binary64)
open Disk (FileError Path Tree)
open Toml (Members)

/-- How to reach a model, and how to talk to it. -/
structure Config where
  model : String := "gpt-4"
  baseUrl : String := "https://api.openai.com/v1"
  /-- The variable that holds the key to the endpoint. -/
  keyVariable : String := "OPENAI_API_KEY"
  /-- A 32-bit number; `none` if it is not finite. -/
  temperature : Option Binary := binary32.ofDecimal false 7 (-1)
  autonomous : Bool := true
  /-- Ask the user before a terminal command runs. -/
  confirmTerminal : Bool := true
  maxAutoTurns : Option Nat := none
  systemPrompt : Option String := none
  deriving Repr, DecidableEq, BEq, Inhabited

/-- Decode a 32-bit number, which the inner `none` says is not finite. -/
def temperature? : Toml.Value → Option (Option Binary)
  | .integer n => some (binary32.round (n < 0) n.natAbs 1)
  | .float (.finite x) => some (binary32.round x.negative x.fraction.1 x.fraction.2)
  | .float _ => some none
  | _ => none

namespace Config

def ofMembers? (ms : Members) : Option Config := do
  let default : Config := {}
  return {
    model := ← ms.field "model" (·.text?) default.model
    baseUrl := ← ms.field "base_url" (·.text?) default.baseUrl
    keyVariable := ← ms.field "api_key_env" (·.text?) default.keyVariable
    temperature := ← ms.field "temperature" temperature? default.temperature
    autonomous := ← ms.field "autonomous" (·.boolean?) default.autonomous
    confirmTerminal := ← ms.field "confirm_terminal" (·.boolean?) default.confirmTerminal
    maxAutoTurns := ← ms.optional "max_auto_turns" (·.nat?)
    systemPrompt := ← ms.optional "system_prompt" (·.text?) }

/-- The part of a configuration that leads the dialogue. -/
def dialogue (c : Config) : DialogueConfig :=
  ⟨c.model, c.autonomous, c.maxAutoTurns, c.systemPrompt⟩

/-- The temperature as data: the number that its shortest decimal reads back as. -/
def temperatureValue (c : Config) : Json.Value :=
  match c.temperature with
  | none => .null
  | some x =>
      let digits := x.shortest binary32 .even
      .number (.float ((binary64.ofDecimal x.negative digits.digits digits.power).getD x))

/-- The configuration that is looked for when none is named. -/
def defaultFile : String := "pilot.toml"

end Config

/-- Why there is no configuration. -/
inductive ConfigError where
  | unreadable (path : String) (e : FileError)
  | invalid (path : String)
  deriving Repr, DecidableEq, BEq, Inhabited

def ConfigError.message : ConfigError → String
  | unreadable path e => "cannot read '" ++ path ++ "': " ++ e.message
  | invalid path => "invalid config '" ++ path ++ "': not a valid document"

def Config.read (disk : Tree) (here : Path) (path : String) : Except ConfigError Config :=
  match disk.textAt here path with
  | .error e => .error (.unreadable path e)
  | .ok text =>
      match (Toml.read? text).bind Config.ofMembers? with
      | some c => .ok c
      | none => .error (.invalid path)

/-- The configuration that was asked for; without one the file in the working directory, if it is
there. -/
def Config.load (disk : Tree) (here : Path) : Option String → Except ConfigError Config
  | some path => Config.read disk here path
  | none =>
      if disk.reaches (Path.ofText here defaultFile) then Config.read disk here defaultFile
      else .ok {}

end ReplyScript.Chat
