import ReplyScript.Session.Batch

/-! # Arguments by place

Here an action is given the fillings of its slots as they were bound, and looks one up by its place
when it needs it. A look says what it expects: a text, a number, or a number that may have been left
out. If no filling is in that place, if it is of the other kind, or if a number that is needed was
left out, there is nothing to go on with, and the action breaks off. Every look is noted down.
-/

namespace ReplyScript

open Edit (Range)
open Prompt (Snippet)
open Scene
open Script (Command)

/-- A look at the filling in a place, with what is expected there. -/
inductive Look where
  | text (place : Nat)
  | index (place : Nat)
  | optionalIndex (place : Nat)
  deriving Repr, DecidableEq, BEq, Inhabited

/-- Why a look finds nothing to go on with. -/
inductive Misread where
  | beyond (place : Nat)
  | notText (place : Nat) (filling : Filling)
  | notIndex (place : Nat) (filling : Filling)
  | leftOut (place : Nat)
  deriving Repr, DecidableEq, BEq, Inhabited

/-- The fillings of the slots of an instruction, in order. -/
structure Bound where
  fillings : List Filling
  deriving Repr, DecidableEq, BEq, Inhabited

namespace Bound

variable (b : Bound) (place : Nat)

/-- The text in a place. -/
def text : Except Misread String :=
  match b.fillings[place]? with
  | some (.text s) => .ok s
  | some filling => .error (.notText place filling)
  | none => .error (.beyond place)

/-- The number in a place, if it was not left out. -/
def optionalIndex : Except Misread (Option Nat) :=
  match b.fillings[place]? with
  | some (.index n) => .ok n
  | some filling => .error (.notIndex place filling)
  | none => .error (.beyond place)

/-- The number in a place. -/
def index : Except Misread Nat :=
  match b.optionalIndex place with
  | .ok (some n) => .ok n
  | .ok none => .error (.leftOut place)
  | .error m => .error m

end Bound

/-- A look hits if its place is a slot of that kind, and is filled with what the look is for. -/
inductive Look.Hits (slots : List Slot) (b : Bound) : Look → Prop
  | text {place : Nat} {name s : String} (slot : slots[place]? = some (.text name))
      (filled : b.fillings[place]? = some (.text s)) : Hits slots b (.text place)
  | index {place n : Nat} {name : String} (slot : slots[place]? = some (.index name))
      (filled : b.fillings[place]? = some (.index (some n))) : Hits slots b (.index place)
  | optionalIndex {place : Nat} {name : String} {n : Option Nat}
      (slot : slots[place]? = some (.optionalIndex name))
      (filled : b.fillings[place]? = some (.index n)) : Hits slots b (.optionalIndex place)

/-- A scene in which an action is under way, and the looks it has had at its arguments. -/
structure Consultation where
  scene : Scene
  looks : List Look

/-- Why an action breaks off. -/
inductive Breakdown where
  | failed (e : CommandError)
  | misread (m : Misread)
  deriving Repr, DecidableEq, BEq, Inhabited

/-- What an action does that looks its arguments up. -/
abbrev ConsultM := ExceptT Breakdown (StateM Consultation)

/-- Do something in the scene, without a look at any argument. -/
def doing (op : SceneM α) : ConsultM α := do
  let q ← get
  let (result, scene) := op.run.run q.scene
  set { q with scene }
  match result with
  | .ok a => return a
  | .error e => throw (.failed e)

/-- Have a look, and go on with what it finds. -/
def looking (look : Look) (found : Except Misread α) : ConsultM α := do
  modify fun q => { q with looks := q.looks ++ [look] }
  match found with
  | .ok a => return a
  | .error m => throw (.misread m)

namespace Bound

variable (b : Bound)

def lookText (place : Nat) : ConsultM String :=
  looking (.text place) (b.text place)

def lookIndex (place : Nat) : ConsultM Nat :=
  looking (.index place) (b.index place)

def lookOptionalIndex (place : Nat) : ConsultM (Option Nat) :=
  looking (.optionalIndex place) (b.optionalIndex place)

/-- The range whose four numbers begin in a place. -/
def lookRange (first : Nat) : ConsultM Range := do
  let startLine ← b.lookIndex first
  let startColumn ← b.lookIndex (first + 1)
  let endLine ← b.lookIndex (first + 2)
  let endColumn ← b.lookIndex (first + 3)
  return .ofCoordinates startLine startColumn endLine endColumn

/-! ## Actions -/

/-- Do something with the only argument, a text. -/
def withText (op : String → SceneM Unit) : ConsultM Unit := do
  let s ← b.lookText 0
  doing (op s)

/-- The snippet of a file that was read. Where its lines end is only asked for if it was said where
they start. -/
def capture (path content : String) : ConsultM Snippet := do
  match ← b.lookOptionalIndex 1 with
  | none => return captureSnippet path content none none
  | some start =>
      let stop ← b.lookOptionalIndex 2
      return captureSnippet path content (some start) stop

/-- Attach a file, or tell why it could not be read. -/
def readFile : ConsultM Unit := do
  let path ← b.lookText 0
  match ← doing (probe .readFile (World.readText path)) with
  | .error text => doing (respond .readFile text)
  | .ok content =>
      let snippet ← b.capture path content
      doing do
        modifySession fun s => { s with snippets := s.snippets ++ [snippet] }
        record (.snippets ((← get).session.snippets.map Snippet.location))
        respond .readFile ("attached \"" ++ path ++ "\" as context ("
          ++ toString (Text.lineCount snippet.content) ++ " lines)")

/-- All four arguments of an input are looked up before anything is done. -/
def input : ConsultM Unit := do
  let path ← b.lookText 0
  let line ← b.lookIndex 1
  let column ← b.lookIndex 2
  let text ← b.lookText 3
  doing (performInput path ⟨line, column⟩ text)

/-- The range is only looked up if there is an active document. -/
def select : ConsultM Unit := do
  let d ← doing (activeDocument .select)
  let range ← b.lookRange 0
  let d := { d with selection := range }
  doing (activate d)
  let text ← doing (demand .select (World.inWorkspace (d.textIn range)))
  doing (respond .select text)

/-- The range and the text are looked up when the file has become the active document. -/
def replace : ConsultM Unit := do
  let path ← b.lookText 0
  let d ← doing (demand .replace (World.openFile path))
  doing (activate d)
  let range ← b.lookRange 1
  let text ← b.lookText 5
  doing (demand .replace (World.inWorkspace (d.replace range text)))

/-- Copy a range of a file to the clipboard. The handle used for it is returned, and the range. -/
def copyRange (i : Instruction) : ConsultM (Document × Range) := do
  let path ← b.lookText 0
  let d ← doing (demand i (World.openFile path))
  let range ← b.lookRange 1
  let text ← doing (demand i (World.inWorkspace (d.textIn range)))
  doing (demand i (World.writeClipboard text))
  return (d, range)

def copy : ConsultM Unit := do
  let _ ← b.copyRange .copy

/-- What is cut is taken out through the handle it was copied through. -/
def cut : ConsultM Unit := do
  let _ ← doing (activeDocument .cut)
  let (d, range) ← b.copyRange .cut
  doing (demand .cut (World.inWorkspace (d.delete range)))

/-- The position is looked up last, when the file has become the active document. -/
def paste : ConsultM Unit := do
  let _ ← doing (activeDocument .paste)
  let path ← b.lookText 0
  let d ← doing (demand .paste (World.openFile path))
  let text ← doing (demand .paste World.readClipboard)
  doing (activate d)
  let line ← b.lookIndex 1
  let column ← b.lookIndex 2
  doing (demand .paste (World.inWorkspace (d.insert ⟨line, column⟩ text)))

end Bound

/-- Perform the action of an instruction, whose arguments are looked up on the way. -/
def Instruction.consult (b : Bound) : Instruction → ConsultM Unit
  | readFile => b.readFile
  | listFiles => b.withText performListFiles
  | createFile => b.withText performCreateFile
  | undo => doing Action.undo.perform
  | redo => doing Action.redo.perform
  | input => b.input
  | select => b.select
  | replace => b.replace
  | copy => b.copy
  | cut => b.cut
  | paste => b.paste
  | getSyntaxErrors => doing performGetSyntaxErrors
  | search => b.withText performSearch
  | runInTerminal => b.withText performRunInTerminal
  | memoryWrite => b.withText fun text => (Action.memoryWrite text).perform
  | readMemory => doing Action.readMemory.perform
  | clearMemory => doing Action.clearMemory.perform
  | clearConversation => doing Action.clearConversation.perform

namespace Script.Command

/-- Perform a command, looking up its arguments. Commands with unknown names do nothing. -/
def consult (c : Command) : ConsultM Unit :=
  match Instruction.ofName? c.name with
  | none => return
  | some i =>
      match i.bind c.arguments with
      | .ok fillings => i.consult ⟨fillings⟩
      | .error problem => throw (.failed (.invalidArguments c.name problem))

/-- What performing a command in a scene comes to, with the looks that it has had. -/
def consulted (c : Command) (s : Scene) : Except Breakdown Unit × Consultation :=
  c.consult.run.run ⟨s, []⟩

end Script.Command

/-- Perform commands in order, numbered from `index`, up to the first that breaks off. -/
def consultFrom (index : Nat) : List Command → Scene → Option (Nat × Breakdown) × Scene
  | [], s => (none, s)
  | c :: cs, s =>
      match c.consulted s with
      | (.ok (), q) => consultFrom (index + 1) cs q.scene
      | (.error e, q) => (some (index, e), q.scene)

end ReplyScript
