import ReplyScript.Chat.Config
import ReplyScript.Endpoint.Address

/-! # Requests to an endpoint

The requests that are sent for a turn of a dialogue and for the list of models. What is configured
may not make a request at all: then `Problem` says why.
-/

namespace ReplyScript.Endpoint

open Chat (Config)
open Json (Value)

/-- What a request wants: to fetch something, or to have something done. -/
inductive Method where
  | get
  | post
  deriving Repr, DecidableEq, BEq, Inhabited

def Method.name : Method → String
  | get => "GET"
  | post => "POST"

/-- A request: where it goes, who sends it and what it says. -/
structure Request where
  method : Method
  address : Address
  authorization : Option String
  body : Option Value
  deriving Repr, Inhabited

/-- Why no request can be made. -/
inductive Problem where
  /-- What is configured is no address. -/
  | noAddress
  /-- The key holds characters that no request can carry. -/
  | badKey
  /-- The address is none that requests can be sent to. -/
  | badScheme (address : Address)
  deriving Repr, DecidableEq, BEq, Inhabited

def Problem.message : Problem → String
  | noAddress | badKey => "builder error"
  | badScheme address => "builder error for url (" ++ address.text ++ ")"

/-- Where a request goes and who sends it. -/
structure Envelope where
  address : Address
  authorization : Option String
  deriving Repr, DecidableEq, BEq, Inhabited

/-- Whether a key can be sent: it holds no controls but tabs. -/
def sendable (key : String) : Bool :=
  key.toList.all fun c => c == '\t' || (0x20 ≤ c.toNat && c.toNat ≠ 0x7F)

/-- What a key to the endpoint is sent as. An empty key is none, and blanks at the end are lost. -/
def authorizationOf (key : Option String) : Option String :=
  (key.filter (· ≠ "")).map fun key =>
    String.ofList (Text.dropEndWhile (fun c => c == ' ' || c == '\t') ("Bearer " ++ key).toList)

def addressOf? (c : Config) (service : String) : Option Address :=
  Address.ofText? (String.ofList (Text.dropEndWhile (· = '/') c.baseUrl.toList) ++ service)

/-- Where the requests for a service go and who sends them. An address without a host is found out
before the key is looked at, one with a scheme that takes no requests only afterwards. -/
def envelope (c : Config) (key : Option String) (service : String) : Except Problem Envelope :=
  match addressOf? c service with
  | none => .error .noAddress
  | some address =>
      if (address.authority.getD "") = "" then .error (.badScheme address)
      else if !(key.map sendable).getD true then .error .badKey
      else if !address.takesRequests then .error (.badScheme address)
      else .ok ⟨address, authorizationOf key⟩

def completionService : String := "/chat/completions"

def modelsService : String := "/models"

def messageValue (m : ChatMessage) : Value :=
  .object [("role", .text m.role.name), ("content", .text m.content)]

def completionRequest (c : Config) (e : Envelope) (call : ModelCall) : Request where
  method := .post
  address := e.address
  authorization := e.authorization
  body := some (.object [("model", .text call.model),
    ("messages", .array (call.messages.map messageValue)), ("temperature", c.temperatureValue)])

def modelsRequest (e : Envelope) : Request where
  method := .get
  address := e.address
  authorization := e.authorization
  body := none

end ReplyScript.Endpoint
