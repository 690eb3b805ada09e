import ReplyScript.Dialogue.Model
import ReplyScript.Json.Raw

/-! # Responses of an endpoint

What an endpoint's response means: a reply of the model, a list of models, or an error. Bodies are
JSON records. What their unknown fields hold does not matter as long as it has the form of a value. A
record may also be written as the array of its fields in order.
-/

namespace ReplyScript.Endpoint

open Json (Raw)

/-! ## Statuses

Three-digit numbers that say how a request was answered, with the phrases of the standard.
-/

def phrase? : Nat → Option String
  | 100 => some "Continue"
  | 101 => some "Switching Protocols"
  | 102 => some "Processing"
  | 200 => some "OK"
  | 201 => some "Created"
  | 202 => some "Accepted"
  | 203 => some "Non Authoritative Information"
  | 204 => some "No Content"
  | 205 => some "Reset Content"
  | 206 => some "Partial Content"
  | 207 => some "Multi-Status"
  | 208 => some "Already Reported"
  | 226 => some "IM Used"
  | 300 => some "Multiple Choices"
  | 301 => some "Moved Permanently"
  | 302 => some "Found"
  | 303 => some "See Other"
  | 304 => some "Not Modified"
  | 305 => some "Use Proxy"
  | 307 => some "Temporary Redirect"
  | 308 => some "Permanent Redirect"
  | 400 => some "Bad Request"
  | 401 => some "Unauthorized"
  | 402 => some "Payment Required"
  | 403 => some "Forbidden"
  | 404 => some "Not Found"
  | 405 => some "Method Not Allowed"
  | 406 => some "Not Acceptable"
  | 407 => some "Proxy Authentication Required"
  | 408 => some "Request Timeout"
  | 409 => some "Conflict"
  | 410 => some "Gone"
  | 411 => some "Length Required"
  | 412 => some "Precondition Failed"
  | 413 => some "Payload Too Large"
  | 414 => some "URI Too Long"
  | 415 => some "Unsupported Media Type"
  | 416 => some "Range Not Satisfiable"
  | 417 => some "Expectation Failed"
  | 418 => some "I'm a teapot"
  | 421 => some "Misdirected Request"
  | 422 => some "Unprocessable Entity"
  | 423 => some "Locked"
  | 424 => some "Failed Dependency"
  | 425 => some "Too Early"
  | 426 => some "Upgrade Required"
  | 428 => some "Precondition Required"
  | 429 => some "Too Many Requests"
  | 431 => some "Request Header Fields Too Large"
  | 451 => some "Unavailable For Legal Reasons"
  | 500 => some "Internal Server Error"
  | 501 => some "Not Implemented"
  | 502 => some "Bad Gateway"
  | 503 => some "Service Unavailable"
  | 504 => some "Gateway Timeout"
  | 505 => some "HTTP Version Not Supported"
  | 506 => some "Variant Also Negotiates"
  | 507 => some "Insufficient Storage"
  | 508 => some "Loop Detected"
  | 510 => some "Not Extended"
  | 511 => some "Network Authentication Required"
  | _ => none

def statusText (status : Nat) : String :=
  toString status ++ " " ++ (phrase? status).getD "<unknown status code>"

/-- Whether a request was answered as it was meant. -/
def isSuccess (status : Nat) : Bool :=
  200 ≤ status && status < 300

/-! ## Bodies -/

/-- A response: its status and its body. -/
structure Response where
  status : Nat
  body : String
  deriving Repr, DecidableEq, BEq, Inhabited

/-- The fields of a record by name. Fields at the end of an array may be left out; of a field's
values in an object there may be no two. -/
def record? (names : List String) (v : Raw) : Option (List (Option Raw)) :=
  match v.members?, v.items? with
  | some members, _ =>
      names.mapM fun name => match members.filter (·.1 = name) with
        | [] => some none
        | [(_, v)] => some (some v)
        | _ => none
  | none, some items =>
      if items.length ≤ names.length then
        some (items.map some ++ List.replicate (names.length - items.length) none)
      else none
  | none, none => none

/-- The only field of a record. -/
def soleField? (name : String) (v : Raw) : Option (Option Raw) := do
  match ← record? [name] v with
  | [field] => some field
  | _ => none

def optionalText? : Option Raw → Option (Option String)
  | none => some none
  | some v => if v.isNull then some none else v.text?.map some

/-- An error that the endpoint tells of: its message and its code. -/
def reportedError? (body : String) : Option (String × Option String) := do
  let report ← (← soleField? "error" (← Raw.ofText? body))
  match ← record? ["message", "code"] report with
  | [message, code] =>
      let message ← match message with
        | none => some ""
        | some v => v.text?
      return (message, ← optionalText? code)
  | _ => none

namespace Response

/-- The text of a response; those with some statuses have none. -/
def text (r : Response) : String :=
  if r.status = 204 ∨ r.status = 304 then "" else r.body

/-- The error that a response without success stands for. -/
def error (r : Response) : ModelError :=
  match reportedError? r.text with
  | some (_, some "context_length_exceeded") => .contextLengthExceeded
  | some (message, _) => .failed (statusText r.status ++ ": " ++ message)
  | none => .failed (statusText r.status ++ ": " ++ Text.trim r.text)

def choiceText? (v : Raw) : Option String := do
  let message ← (← soleField? "message" v)
  return (← optionalText? (← soleField? "content" message)).getD ""

def choices? (body : String) : Option (List String) := do
  let choices ← (← soleField? "choices" (← Raw.ofText? body))
  (← choices.items?).mapM choiceText?

/-- What is wrong with a body that should be a value: it ends too early if it is blank. -/
def bodyProblem (otherwise body : String) : String :=
  if body.toList.all Json.isSpace then
    let line := (body.toList.filter (· = '\n')).length + 1
    let column := (body.toList.reverse.takeWhile (· ≠ '\n')).length
    "EOF while parsing a value at line " ++ toString line ++ " column " ++ toString column
  else otherwise

/-- The reply in a response: the first choice. -/
def reply (r : Response) : Except ModelError String :=
  if isSuccess r.status then
    match choices? r.text with
    | none => .error (.failed ("malformed response: " ++ bodyProblem "not a completion" r.text))
    | some [] => .error (.failed "no choices in response")
    | some (first :: _) => .ok first
  else .error r.error

def modelNames? (body : String) : Option (List String) := do
  let entries ← (← soleField? "data" (← Raw.ofText? body))
  (← entries.items?).mapM fun entry => do (← (← soleField? "id" entry)).text?

def models (r : Response) : Except ModelError (List String) :=
  if isSuccess r.status then
    match modelNames? r.text with
    | none =>
        .error (.failed ("malformed model list: " ++ bodyProblem "not a list of models" r.text))
    | some names => .ok (names.mergeSort fun a b => a ≤ b)
  else .error r.error

def exhausted : Response := ⟨500, "no response left"⟩

end Response

def modelOf (responses : List Response) : Model :=
  ⟨responses.map fun r => ⟨[], r.reply⟩, Response.exhausted.error⟩

/-- A model that cannot be asked at all. -/
def unreachable (reason : String) : Model :=
  ⟨[], .failed reason⟩

end ReplyScript.Endpoint
