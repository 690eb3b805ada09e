import ReplyScript.CommandLine.Environment
import ReplyScript.Console
import ReplyScript.Endpoint.Request
import ReplyScript.Endpoint.Response

/-! # What a command line is run in, and what it leaves

A program finds arguments, a disk with a working directory, input, an environment and an endpoint.
It leaves an exit status, printed text, a changed disk and the requests it made.
-/

namespace ReplyScript.CommandLine

open Console (Printed)
open Disk (Path Tree)
open Endpoint (Request Response)

/-- What a program finds when it starts. -/
structure Context where
  disk : Tree
  /-- The working directory. -/
  here : Path
  /-- All that can be read from the input. -/
  input : String
  environment : Environment
  /-- What the endpoint will answer, in turn. -/
  responses : List Response

/-- What a program leaves when it ends. -/
structure Ending where
  status : Nat
  printed : List Printed
  disk : Tree
  requests : List Request

namespace Context

/-- The context with the variables of the environment file, which is in the working directory or in
the nearest directory above it that has one. It counts up to the first line that is no text. -/
def withEnvironmentFile (c : Context) : Context :=
  let candidates := (List.range (c.here.length + 1)).map fun (n : Nat) =>
    c.here.take (c.here.length - n) ++ [".env"]
  match candidates.find? c.disk.isFile with
  | none => c
  | some path =>
      match c.disk.read path with
      | .ok content =>
          let (text, _) := Text.decodeSound content.bytes
          { c with environment := c.environment.addFile text }
      | .error _ => c

/-- End without having touched the disk. -/
def finish (c : Context) (status : Nat) (printed : List Printed) : Ending :=
  ⟨status, printed, c.disk, []⟩

def fail (c : Context) (message : String) : Ending :=
  c.finish 1 [.errorLine message]

end Context

end ReplyScript.CommandLine
