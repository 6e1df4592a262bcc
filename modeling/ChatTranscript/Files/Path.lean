import ChatTranscript.Text.Quoted
import ChatTranscript.Text.PercentEncoding
import ChatTranscript.Url.Reference

/-!
# File paths

A path is a root and named parts. Empty parts and `.` say nothing; `..` is kept. Exactly two
slashes in front are a root of their own.

## Main definitions

* `FilePath.parse`, `FilePath.text`: a path and its written form.
* `FilePath.withSuffix`: the path with another file name extension.
* `FilePath.ofLocation`: the path that a plain location or a `file` URL names.
-/

namespace ChatTranscript

structure FilePath where
  root : Text
  parts : List Text

namespace FilePath

def parse (text : Text) : FilePath where
  root :=
    match text.takeWhile (· = '/') with
    | [] => []
    | ['/', '/'] => ['/', '/']
    | _ => ['/']
  parts := (text.splitOn '/').filter fun part => !part.isEmpty && part != ['.']

def text (path : FilePath) : Text :=
  match path.root, path.parts with
  | [], [] => ['.']
  | root, parts => root ++ List.intercalate ['/'] parts

def parent (path : FilePath) : FilePath := { path with parts := path.parts.dropLast }

/-- The last part up to its last point; a point at either end does not count. -/
def stem (name : Text) : Text :=
  match Text.cutLast? '.' name with
  | some (before, after) => if before.isEmpty || after.isEmpty then name else before
  | none => name

/-- The path with `suffix` in place of its extension; none for a path without a name. -/
def withSuffix (suffix : Text) (path : FilePath) : Option FilePath :=
  path.parts.getLast?.map fun name =>
    { path with parts := path.parts.dropLast ++ [stem name ++ suffix] }

def ofLocation (location : Text) : Except Url.Fault FilePath :=
  (Url.split location).map fun parts =>
    if parts.scheme == "file".toList then parse (PercentEncoding.decode parts.path)
    else parse location

end FilePath

end ChatTranscript
