/-!
# Files by name

What a run does with files is a function of their contents, so files are given
as a function from names.  `Directory` is such a function for files held in
memory.
-/

namespace LinearProgram.CommandLine

/-- Why a file could not be read. -/
inductive ReadError : Type where
  | notFound
  | isDirectory
  | notDirectory
  | invalidText
  /-- Any other reason, in words. -/
  | other (reason : String)
deriving DecidableEq

/-- What is said about a file that could not be read. -/
def ReadError.message : ReadError → String
  | notFound => "No such file or directory (os error 2)"
  | isDirectory => "Is a directory (os error 21)"
  | notDirectory => "Not a directory (os error 20)"
  | invalidText => "stream did not contain valid UTF-8"
  | other reason => reason

/-- Texts of files by name. -/
abbrev Files : Type := String → Except ReadError String

/-- The text in some bytes. -/
def textOfBytes (bytes : ByteArray) : Except ReadError String :=
  match String.fromUTF8? bytes with
  | some text => .ok text
  | none => .error .invalidText

/-- Names of files with their bytes. -/
abbrev Directory : Type := List (String × ByteArray)

/-- The parts of a name between slashes, without those that change nothing. -/
def pathParts (name : String) : List String :=
  (name.splitOn "/").filter fun part => part != "" && part != "."

/-- Whether a name can only be that of a directory. -/
def namesDirectory (name : String) : Bool := name.endsWith "/" || name.endsWith "/."

/-- Whether the parts of one name are the first parts of another, and not all of them. -/
def isAbove (parts others : List String) : Bool :=
  parts.length < others.length && parts == others.take parts.length

/-- The bytes of a file. -/
def Directory.read (d : Directory) (name : String) : Except ReadError ByteArray :=
  let parts := pathParts name
  let isLocal := !name.startsWith "/"
  match d.find? fun f => isLocal && pathParts f.1 == parts with
  | some f => if namesDirectory name then .error .notDirectory else .ok f.2
  | none =>
    if parts.all (· == "..") || (isLocal && d.any fun f => isAbove parts (pathParts f.1)) then
      .error .isDirectory
    else if isLocal && d.any fun f => isAbove (pathParts f.1) parts then .error .notDirectory
    else .error .notFound

/-- The texts of the files of a directory. -/
def Directory.files (d : Directory) : Files := fun name =>
  (d.read name).bind textOfBytes

end LinearProgram.CommandLine
