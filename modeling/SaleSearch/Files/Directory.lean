/-!
# Reading files

What can go wrong when a file is read as text, and a directory that holds nothing but some given
files as a place to read from.

* `Fault` are the faults that are told apart, and `Reader` is how a text is found under a path.
* `Directory.reader` reads from given files. Paths are followed step by step, so that a step through
  a file and a step into nothing are different faults. Of what lies outside, only the directories
  above are known to exist.
-/

namespace SaleSearch.Files

/-- Why a file could not be read as text. -/
inductive Fault where
  | notFound
  | notADirectory
  | isADirectory
  | notText
  deriving DecidableEq, Repr

/-- The fault as the operating system words it. -/
def Fault.message : Fault → String
  | .notFound => "No such file or directory (os error 2)"
  | .notADirectory => "Not a directory (os error 20)"
  | .isADirectory => "Is a directory (os error 21)"
  | .notText => "stream did not contain valid UTF-8"

/-- How a text is found under a path. -/
abbrev Reader := String → Except Fault String

/-- Files by the steps that lead to them. -/
abbrev Directory := List (List String × List UInt8)

namespace Directory

/-- The steps of a path. -/
def steps (path : String) : List String :=
  (path.toList.splitOn '/').map String.ofList

/-- A directory by the paths of its files. -/
def ofFiles (files : List (String × List UInt8)) : Directory :=
  files.map fun file => (steps file.1, file.2)

/-- The contents of the file at a place. -/
def file? (d : Directory) (place : List String) : Option (List UInt8) :=
  (d.find? fun file => file.1 = place).map (·.2)

/-- Does a file lie at or below a place? The directory itself always exists. -/
def isDirectory (d : Directory) (place : List String) : Bool :=
  place.isEmpty || d.any fun file => place.isPrefixOf file.1 && file.1 != place

/-- What comes of the steps of a path that has left the directory. Above it there are only
directories. -/
def outside : List String → Fault
  | [] => .isADirectory
  | step :: rest => if step ∈ ["", ".", ".."] then outside rest else .notFound

/-- Follow some steps from a place, each of which has to lead from a directory. The result is the
place to which they lead. -/
def follow (d : Directory) (place : List String) : List String → Except Fault (List String)
  | [] =>
      if (d.file? place).isSome || d.isDirectory place then .ok place else .error .notFound
  | step :: rest =>
      if (d.file? place).isSome then .error .notADirectory
      else if !d.isDirectory place then .error .notFound
      else if step = "" ∨ step = "." then d.follow place rest
      else if step = ".." then
        if place.isEmpty then .error (outside rest) else d.follow place.dropLast rest
      else d.follow (place ++ [step]) rest

/-- The contents of the file under a path, which has to be relative and to lead to a file. -/
def bytes (d : Directory) (path : String) : Except Fault (List UInt8) :=
  if path = "" then .error .notFound
  else if path.toList.head? = some '/' then .error (outside (steps path))
  else do
    let place ← d.follow [] (steps path)
    match d.file? place with
    | some bytes => .ok bytes
    | none => .error .isADirectory

/-- The directory as a place to read texts from. -/
def reader (d : Directory) : Reader := fun path => do
  let bytes ← d.bytes path
  match String.fromUTF8? (ByteArray.mk bytes.toArray) with
  | some text => .ok text
  | none => .error .notText

end Directory

end SaleSearch.Files
