import ChatTranscript.Files.Path
import ChatTranscript.Binary64.Layout

/-!
# Files and directories

A disk is a set of directories and the bytes of files, by the names on the way from the root. The
working directory is a child of the root with an empty name, so no absolute path leads into it.

## Main definitions

* `Disk.read`, `Disk.write`: the bytes of a file.
* `Disk.makeDirectories`: a directory with all it lies in.
-/

namespace ChatTranscript

structure Disk where
  directories : List (List Text)
  files : List (List Text × List UInt8)

namespace Disk

inductive Trouble where
  | absent
  | exists
  | notDirectory
  | isDirectory
  | nameTooLong

/-- A refused access, with the path as it was given. -/
inductive Fault where
  | refused (trouble : Trouble) (path : Text)
  | nullByte

def Trouble.number : Trouble → Nat
  | .absent => 2
  | .exists => 17
  | .notDirectory => 20
  | .isDirectory => 21
  | .nameTooLong => 36

def Trouble.message : Trouble → Text
  | .absent => "No such file or directory".toList
  | .exists => "File exists".toList
  | .notDirectory => "Not a directory".toList
  | .isDirectory => "Is a directory".toList
  | .nameTooLong => "File name too long".toList

def Fault.message : Fault → Text
  | .refused trouble path =>
    "[Errno ".toList ++ Text.ofNat trouble.number ++ "] ".toList ++ trouble.message ++
      ": ".toList ++ Text.quoted path
  | .nullByte => "embedded null byte".toList

/-! ## finding a place -/

/-- The way to the working directory. -/
def here : List Text := [[]]

def empty : Disk := ⟨[[], here], []⟩

def isDirectory (disk : Disk) (place : List Text) : Bool := disk.directories.contains place

def file? (disk : Disk) (place : List Text) : Option (List UInt8) :=
  (disk.files.find? (·.1 == place)).map (·.2)

def maxNameBytes : Nat := 255

def maxPathBytes : Nat := 4095

/-- Follows all parts but the last through directories, and gives the place of the last. -/
def walk (disk : Disk) (place : List Text) : List Text → Except Trouble (List Text)
  | [] => .ok place
  | part :: rest =>
    if disk.isDirectory place then
      if part == "..".toList then walk disk place.dropLast rest
      else if maxNameBytes < (Utf8.encode part).length then .error .nameTooLong
      else walk disk (place ++ [part]) rest
    else if (disk.file? place).isSome then .error .notDirectory
    else .error .absent

def locate (disk : Disk) (path : FilePath) : Except Fault (List Text) :=
  if path.text.contains '\x00' then .error .nullByte
  else if maxPathBytes < (Utf8.encode path.text).length then
    .error (.refused .nameTooLong path.text)
  else
    match walk disk (if path.root.isEmpty then here else []) path.parts with
    | .ok place => .ok place
    | .error trouble => .error (.refused trouble path.text)

/-! ## access -/

def read (disk : Disk) (path : FilePath) : Except Fault (List UInt8) := do
  let place ← disk.locate path
  if disk.isDirectory place then .error (.refused .isDirectory path.text)
  match disk.file? place with
  | some bytes => return bytes
  | none => .error (.refused .absent path.text)

def put (disk : Disk) (place : List Text) (bytes : List UInt8) : Disk :=
  if (disk.file? place).isSome then
    { disk with
      files := disk.files.map fun file => if file.1 == place then (place, bytes) else file }
  else { disk with files := disk.files ++ [(place, bytes)] }

def write (disk : Disk) (path : FilePath) (bytes : List UInt8) : Except Fault Disk := do
  let place ← disk.locate path
  if disk.isDirectory place then .error (.refused .isDirectory path.text)
  if disk.isDirectory place.dropLast then return disk.put place bytes
  .error (.refused .absent path.text)

def makeDirectory (disk : Disk) (path : FilePath) : Except Fault Disk := do
  let place ← disk.locate path
  if disk.isDirectory place || (disk.file? place).isSome then
    .error (.refused .exists path.text)
  return { disk with directories := disk.directories ++ [place] }

def leadsToDirectory (disk : Disk) (path : FilePath) : Bool :=
  match disk.locate path with
  | .ok place => disk.isDirectory place
  | .error _ => false

/-- Makes a directory; one that is missing on the way is made first. What was made stays made if a
later step fails. The first argument counts the parts of the path. -/
def makeDirectoriesFrom : Nat → Disk → FilePath → Disk × Except Fault Unit
  | count, disk, path =>
    match disk.makeDirectory path with
    | .ok disk => (disk, .ok ())
    | .error (.refused .absent text) =>
      match count with
      | 0 => (disk, .error (.refused .absent text))
      | count + 1 =>
        match makeDirectoriesFrom count disk path.parent with
        | (disk, .error fault) => (disk, .error fault)
        | (disk, .ok ()) =>
          match disk.makeDirectory path with
          | .ok disk => (disk, .ok ())
          | .error fault =>
            if disk.leadsToDirectory path then (disk, .ok ()) else (disk, .error fault)
    | .error fault => if disk.leadsToDirectory path then (disk, .ok ()) else (disk, .error fault)

def makeDirectories (disk : Disk) (path : FilePath) : Disk × Except Fault Unit :=
  makeDirectoriesFrom path.parts.length disk path

end Disk

end ChatTranscript
