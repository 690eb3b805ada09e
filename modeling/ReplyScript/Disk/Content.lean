import ReplyScript.Text.Utf8

/-! # Contents of files

A file holds a text, or bytes that are no text.
-/

namespace ReplyScript.Disk

/-- What a file holds. Bytes are `binary` only if they are not the bytes of a text. -/
inductive Content where
  | text (s : String)
  | binary (bytes : List UInt8)
  deriving Repr, DecidableEq, BEq, Inhabited

namespace Content

/-- What bytes are: a text if they are the bytes of one. -/
def ofBytes (bytes : List UInt8) : Content :=
  match Text.decode? bytes with
  | some s => text s
  | none => binary bytes

def bytes : Content → List UInt8
  | text s => Text.encode s
  | binary bytes => bytes

def text? : Content → Option String
  | text s => some s
  | binary _ => none

end Content

/-- Why an operation on files fails. -/
inductive FileError where
  | notFound
  | alreadyExists
  | notDirectory
  | isDirectory
  | nameTooLong
  | tooManyLinks
  /-- A name holds the character that ends names. -/
  | nulInName
  /-- The content is no text. -/
  | notText
  deriving Repr, DecidableEq, BEq, Inhabited

/-- The wording of an error, with its number in the system. -/
def FileError.message : FileError → String
  | notFound => "No such file or directory (os error 2)"
  | alreadyExists => "File exists (os error 17)"
  | notDirectory => "Not a directory (os error 20)"
  | isDirectory => "Is a directory (os error 21)"
  | nameTooLong => "File name too long (os error 36)"
  | tooManyLinks => "Too many levels of symbolic links (os error 40)"
  | nulInName => "file name contained an unexpected NUL byte"
  | notText => "stream did not contain valid UTF-8"

end ReplyScript.Disk
