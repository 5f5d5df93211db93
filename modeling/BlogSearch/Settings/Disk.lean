import BlogSearch.ClientError

/-!
# The directory of the preferences

Preferences lie in one file of a directory of their own.  The directory may be missing or be a plain
file, its parent may be a plain file, and in the place of the file there may be a directory.  A save
writes a temporary file and moves it over the old one, so it is seen whole or not at all.
-/

namespace BlogSearch

/-- What stands in the place of the preferences file. -/
inductive FilePlace where
  | absent
  | bytes (content : List UInt8)
  | directory
  deriving DecidableEq

/-- The directory: what stands in the place of the file, and a temporary file beside it. -/
structure Directory where
  file : FilePlace
  temporary : Option (List UInt8)
  deriving DecidableEq

/-- What stands in the place of the directory. -/
inductive DirectoryPlace where
  | absent
  | plainFile
  | directory (content : Directory)
  deriving DecidableEq

/-- The part of the disk that preferences touch: where the directory lies, whether its parent is a
plain file, and what stands in its place. -/
structure Disk where
  home : String
  homeIsFile : Bool
  place : DirectoryPlace
  deriving DecidableEq

namespace Disk

def directoryName : String := "xapblr-client"

def fileName : String := "config.json"

def temporaryName : String := ".config.tmp"

/-- A disk without the directory. -/
def fresh (home : String) : Disk :=
  ⟨home, false, .absent⟩

/-- The path of the directory. -/
def directoryPath (d : Disk) : String :=
  d.home ++ "/" ++ directoryName

/-- The path of the file. -/
def filePath (d : Disk) : String :=
  d.directoryPath ++ "/" ++ fileName

/-- The directory, if there is one. -/
def directory? (d : Disk) : Option Directory :=
  match d.homeIsFile, d.place with
  | false, .directory content => some content
  | _, _ => none

/-- The bytes of the file, if it can be read. -/
def read? (d : Disk) : Option (List UInt8) :=
  match d.directory? with
  | some ⟨.bytes content, _⟩ => some content
  | _ => none

/-- The names in the directory, in order. -/
def listing (d : Disk) : List String :=
  match d.directory? with
  | some content =>
      (if content.temporary.isSome then [temporaryName] else []) ++
        (if content.file = .absent then [] else [fileName])
  | none => []

/-- Makes the directory where it is missing. -/
def makeDirectory (d : Disk) : Except ClientError (Disk × Directory) :=
  if d.homeIsFile then .error (.preferencesFile d.directoryPath .notDirectory)
  else
    match d.place with
    | .absent =>
        let content := ⟨.absent, none⟩
        .ok ({ d with place := .directory content }, content)
    | .plainFile => .error (.preferencesFile d.directoryPath .fileExists)
    | .directory content => .ok (d, content)

/-- Puts a directory in its place. -/
def withDirectory (d : Disk) (content : Directory) : Disk :=
  { d with place := .directory content }

/-- Moves the temporary file over the file; a directory is in its way. -/
def moveTemporary (content : Directory) : Option Directory :=
  match content.file, content.temporary with
  | .directory, _ => none
  | _, some bytes => some ⟨.bytes bytes, none⟩
  | _, none => none

/-- Replaces the file: the directory is made, the new content goes into a temporary file, and that
file is moved over the old one or, where that fails, removed again. -/
def replaceFile (d : Disk) (bytes : List UInt8) : Disk × Except ClientError Unit :=
  match d.makeDirectory with
  | .error e => (d, .error e)
  | .ok (made, content) =>
      let written := { content with temporary := some bytes }
      match moveTemporary written with
      | some moved => (made.withDirectory moved, .ok ())
      | none =>
          (made.withDirectory { written with temporary := none },
            .error (.preferencesFile d.filePath .isDirectory))

/-- Writes the file by other means, where the directory can be made. -/
def write (d : Disk) (bytes : List UInt8) : Disk :=
  match d.makeDirectory with
  | .ok (made, ⟨.directory, _⟩) => made
  | .ok (made, content) => made.withDirectory { content with file := .bytes bytes }
  | .error _ => d

def delete (d : Disk) : Disk :=
  match d.directory? with
  | some ⟨.bytes _, temporary⟩ => d.withDirectory ⟨.absent, temporary⟩
  | _ => d

/-- The parent of the directory becomes a plain file. -/
def blockHome (d : Disk) : Disk :=
  { d with homeIsFile := true, place := .absent }

/-- The directory becomes a plain file. -/
def blockDirectory (d : Disk) : Disk :=
  { d with place := .plainFile }

/-- The file becomes a directory. -/
def blockFile (d : Disk) : Disk :=
  match d.makeDirectory with
  | .ok (made, content) => made.withDirectory { content with file := .directory }
  | .error _ => d

end Disk

end BlogSearch
