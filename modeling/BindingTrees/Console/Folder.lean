/-!
# Files by path

The files of a folder are found by relative paths, component by component.  A path
may pass through `.` and `..`; it must not pass through a file.  `Folder.read` gives
the text of a file or says why there is none.
-/

set_option autoImplicit false

namespace BindingTrees.Console

/-- Why a file cannot be read. -/
inductive FileFault where
  | notFound
  | notDirectory
  | isDirectory
  | nameTooLong
  | invalidName
  | denied
deriving DecidableEq, Repr

def FileFault.message : FileFault → String
  | .notFound => "no such file or directory"
  | .notDirectory => "not a directory"
  | .isDirectory => "is a directory"
  | .nameTooLong => "file name too long"
  | .invalidName => "invalid argument"
  | .denied => "permission denied"

/-- The components of a path, empty ones included. -/
def components (path : String) : List String :=
  (split path.toList).map String.ofList
where
  split : List Char → List (List Char)
    | [] => [[]]
    | '/' :: rest => [] :: split rest
    | c :: rest =>
        match split rest with
        | first :: others => (c :: first) :: others
        | [] => [[c]]

/-- The last component of a path, slashes at its end aside. -/
def baseName (path : String) : String :=
  if path.isEmpty then "."
  else ((components path).filter (!·.isEmpty)).getLastD "/"

/-- The components of a path once `.` is left out and `..` has taken the one before it
away. -/
def plainComponents (path : String) : List String :=
  ((components path).foldl
    (fun before name =>
      if name.isEmpty || name == "." then before
      else if name == ".." then before.drop 1
      else name :: before) []).reverse

/-- The most bytes that a component may have. -/
def longestName : Nat := 255

/-- A folder, as the paths and texts of the files in it and below it. -/
structure Folder where
  files : List (String × String)

namespace Folder

/-- The text of the file with given components. -/
def file? (folder : Folder) (path : List String) : Option String :=
  (folder.files.find? fun (name, _) => plainComponents name == path).map (·.2)

/-- Whether there is a folder with given components. -/
def hasFolder (folder : Folder) (path : List String) : Bool :=
  path.isEmpty || folder.files.any fun (name, _) =>
    let full := plainComponents name
    path.isPrefixOf full && path.length < full.length

/-- Follows components from the folder at `here`, or from a place outside. -/
def follow (folder : Folder) : Option (List String) → List String → Except FileFault String
  | _, [] => .error .isDirectory
  | none, name :: rest =>
      if name.isEmpty || name == "." || name == ".." then folder.follow none rest
      else if longestName < name.utf8ByteSize then .error .nameTooLong
      else .error .notFound
  | some here, name :: rest =>
      if name.isEmpty || name == "." then folder.follow (some here) rest
      else if name == ".." then
        folder.follow (if here.isEmpty then none else some here.dropLast) rest
      else if longestName < name.utf8ByteSize then .error .nameTooLong
      else match folder.file? (here ++ [name]), rest with
        | some text, [] => .ok text
        | some _, _ :: _ => .error .notDirectory
        | none, _ =>
            if folder.hasFolder (here ++ [name]) then folder.follow (some (here ++ [name])) rest
            else .error .notFound

/-- The text of the file at a path. -/
def read (folder : Folder) (path : String) : Except FileFault String :=
  if path.toList.contains '\x00' then .error .invalidName
  else if path.isEmpty then .error .notFound
  else if 4096 ≤ path.utf8ByteSize then .error .nameTooLong
  else folder.follow (if path.toList.head? == some '/' then none else some []) (components path)

end Folder

end BindingTrees.Console
