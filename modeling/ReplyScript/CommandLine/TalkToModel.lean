import ReplyScript.Chat.Basic
import ReplyScript.CommandLine.RunReply
import ReplyScript.Text.Lines

/-! # Talking to a model

A chat with the configured model, and the list of the models that its endpoint has.
-/

namespace ReplyScript.CommandLine

open Chat (Config)
open Disk (Path)
open Endpoint (Response completionRequest completionService envelope modelsRequest modelsService)

def Context.key (c : Context) (config : Config) : Option String :=
  c.environment.lookup config.keyVariable

def ChatOptions.adjust (o : ChatOptions) (config : Config) : Config :=
  { config with
    model := o.model.getD config.model
    autonomous := config.autonomous && !o.manual }

/-- Chat with a model. -/
def chat (c : Context) (o : ChatOptions) : Ending :=
  match Config.load c.disk c.here o.config with
  | .error e => c.fail e.message
  | .ok config =>
      let config := o.adjust config
      let world := c.world o.root (config.confirmTerminal && !o.yes)
      let (model, requestOf) := match envelope config (c.key config) completionService with
        | .ok e => (Endpoint.modelOf c.responses, fun call => [completionRequest config e call])
        | .error problem => (Endpoint.unreachable problem.message, fun _ => [])
      let dialogue := Dialogue.start .empty world config.dialogue model
      let start := (Chat.start dialogue (Path.ofText c.here o.root)).print
        [.messageLine ("pilot chat (" ++ config.model ++ ") in " ++ o.root
          ++ ". /help for commands.")]
      let (final, status) := start.run
      ⟨status, final.printed, final.dialogue.world.workspace.disk,
        final.dialogue.calls.flatMap requestOf⟩

/-- List the models of the endpoint. -/
def models (c : Context) (o : ModelsOptions) : Ending :=
  match Config.load c.disk c.here o.config with
  | .error e => c.fail e.message
  | .ok config =>
      let failed (message : String) : Ending := c.fail ("failed to fetch models: " ++ message)
      match envelope config (c.key config) modelsService with
      | .error problem => failed (ModelError.failed problem.message).message
      | .ok e =>
          let requests := [modelsRequest e]
          match (c.responses.headD Response.exhausted).models with
          | .error e => { failed e.message with requests }
          | .ok names =>
              let shown := names.filter fun name => o.all || Text.holds name o.filter
              { c.finish 0 (shown.map .outputLine) with requests }

end ReplyScript.CommandLine
