import ChatAgents.Text.Characters
import ChatAgents.Text.Encoding
set_option autoImplicit false

namespace ChatAgents.Program

inductive FileError where
  | notFound
  | notDirectory
  | isDirectory
  | nameTooLong
deriving DecidableEq

namespace FileError

def code : FileError → Nat
  | .notFound => 2
  | .notDirectory => 20
  | .isDirectory => 21
  | .nameTooLong => 36

def name : FileError → String
  | .notFound => "NotFound"
  | .notDirectory => "NotADirectory"
  | .isDirectory => "IsADirectory"
  | .nameTooLong => "InvalidFilename"

def message : FileError → String
  | .notFound => "No such file or directory"
  | .notDirectory => "Not a directory"
  | .isDirectory => "Is a directory"
  | .nameTooLong => "File name too long"

end FileError

structure Directory where
  files : List (String × List UInt8)
  /-- The number of directories on the way from the root to this one. -/
  depth : Nat

inductive Place where
  | here
  /-- In a directory below the root, of which nothing is known but how many steps lead up to it. -/
  | above (height : Nat)
  | root
  /-- In a directory that every system has at its root, or in one there. -/
  | standard (names : List String)
  | file (bytes : List UInt8)
deriving DecidableEq

/-- The directories of every system, and what is known of them: the directories in them. -/
def standardDirectories : List (String × List String) :=
  [("bin", []), ("boot", []), ("dev", []), ("etc", []), ("home", []), ("lib", []), ("lib64", []),
   ("media", []), ("mnt", []), ("opt", []), ("proc", []), ("root", []), ("run", []), ("sbin", []),
   ("srv", []), ("sys", []), ("tmp", []),
   ("usr", ["bin", "include", "lib", "local", "sbin", "share", "src"]),
   ("var", ["cache", "lib", "local", "lock", "log", "mail", "opt", "run", "spool", "tmp"])]

/-- The files of every system that are known. What they hold is of no account. -/
def standardFiles : List (List String) :=
  [["dev", "null"], ["etc", "group"], ["etc", "hostname"], ["etc", "hosts"], ["etc", "passwd"],
   ["etc", "resolv.conf"]]

def maxNameBytes : Nat := 255

def maxPathBytes : Nat := 4095

namespace Directory

def enter (d : Directory) (place : Place) (name : String) : Except FileError Place :=
  match place with
  | .here => ((d.files.lookup name).map fun bytes => .ok (.file bytes)).getD (.error .notFound)
  | .root =>
    if (standardDirectories.lookup name).isSome then .ok (.standard [name]) else .error .notFound
  | .standard names =>
    if standardFiles.contains (names ++ [name]) then .ok (.file [])
    else if standardDirectories.any fun (top, inner) => names = [top] ∧ inner.contains name then
      .ok (.standard (names ++ [name]))
    else .error .notFound
  | .above _ => .error .notFound
  | .file _ => .error .notDirectory

def up (d : Directory) (height : Nat) : Place := if height < d.depth then .above height else .root

def step (d : Directory) (place : Place) (name : String) : Except FileError Place :=
  match place with
  | .file _ => .error .notDirectory
  | _ =>
    if name = "" ∨ name = "." then .ok place
    else if name = ".." then
      match place with
      | .here => .ok (d.up 1)
      | .above height => .ok (d.up (height + 1))
      | .standard names => .ok (if names.length < 2 then .root else .standard names.dropLast)
      | _ => .ok .root
    else if name.utf8ByteSize > maxNameBytes then .error .nameTooLong
    else d.enter place name

def walk (d : Directory) (path : String) : Except FileError Place :=
  let start : Place := if path.toList.head? = some '/' then .root else .here
  ((Text.splitAll (· == '/') path.toList).map String.ofList).foldlM d.step start

def read (d : Directory) (path : String) : Except FileError (List UInt8) :=
  if path = "" then .error .notFound
  else if path.utf8ByteSize > maxPathBytes then .error .nameTooLong
  else
    match d.walk path with
    | .ok (.file bytes) => .ok bytes
    | .ok _ => .error .isDirectory
    | .error e => .error e

end Directory
end ChatAgents.Program
