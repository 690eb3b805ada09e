/-! # Instructions

The instructions a script may give, and the arguments each of them takes.
-/

namespace ReplyScript

/-- Every instruction that is understood. -/
inductive Instruction where
  | readFile
  | listFiles
  | createFile
  | undo
  | redo
  | input
  | select
  | replace
  | copy
  | cut
  | paste
  | getSyntaxErrors
  | search
  | runInTerminal
  | memoryWrite
  | readMemory
  | clearMemory
  | clearConversation
  deriving Repr, DecidableEq, BEq, Inhabited

/-- An argument position of an instruction. -/
inductive Slot where
  /-- Any argument, taken as text. -/
  | text (name : String)
  /-- A whole number that is not negative. -/
  | index (name : String)
  /-- Such a number that may be left out. -/
  | optionalIndex (name : String)
  deriving Repr, DecidableEq, BEq, Inhabited

/-- The name of an argument position. -/
def Slot.name : Slot → String
  | text name | index name | optionalIndex name => name

namespace Instruction

def all : List Instruction :=
  [readFile, listFiles, createFile, undo, redo, input, select, replace, copy, cut, paste,
   getSyntaxErrors, search, runInTerminal, memoryWrite, readMemory, clearMemory,
   clearConversation]

/-- The name of an instruction in a script. -/
def name : Instruction → String
  | readFile => "readFile"
  | listFiles => "listFiles"
  | createFile => "createFile"
  | undo => "undo"
  | redo => "redo"
  | input => "input"
  | select => "select"
  | replace => "replace"
  | copy => "copy"
  | cut => "cut"
  | paste => "paste"
  | getSyntaxErrors => "getSyntaxErrors"
  | search => "search"
  | runInTerminal => "runInTerminal"
  | memoryWrite => "memoryWrite"
  | readMemory => "readMemory"
  | clearMemory => "clearMemory"
  | clearConversation => "clearConversation"

def ofName? (name : String) : Option Instruction :=
  all.find? fun i => i.name == name

def rangeSlots : List Slot :=
  [.index "startLine", .index "startColumn", .index "endLine", .index "endColumn"]

/-- The arguments of an instruction, in order. -/
def slots : Instruction → List Slot
  | readFile => [.text "path", .optionalIndex "startLine", .optionalIndex "endLine"]
  | listFiles | createFile => [.text "path"]
  | input => [.text "path", .index "line", .index "column", .text "text"]
  | select => rangeSlots
  | replace => .text "path" :: (rangeSlots ++ [.text "text"])
  | copy | cut => .text "path" :: rangeSlots
  | paste => [.text "path", .index "line", .index "column"]
  | search => [.text "query"]
  | runInTerminal => [.text "command"]
  | memoryWrite => [.text "text"]
  | undo | redo | getSyntaxErrors | readMemory | clearMemory | clearConversation => []

end Instruction

end ReplyScript
