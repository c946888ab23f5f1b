import ValueBuilder.Run.Place

/-!
# Directories in memory

A directory with all that is in it, as a tree.  With it a run can be followed without a disk.  Of
what lies outside of the directory nothing is known but what the run puts there.
-/

namespace ValueBuilder

/-- Why a file cannot be written. -/
inductive FileError
  /-- A file stands where a directory would have to be made. -/
  | fileExists
  /-- A file stands on the way to a place. -/
  | notADirectory
  /-- A directory stands where the file should be. -/
  | isADirectory
  /-- A name or a path is longer than a disk can hold. -/
  | nameTooLong
  /-- A path holds the character that ends all paths. -/
  | nameWithNul
  deriving Repr, DecidableEq

/-- The text of the error. -/
def FileError.message : FileError → String
  | fileExists => "File exists (os error 17)"
  | notADirectory => "Not a directory (os error 20)"
  | isADirectory => "Is a directory (os error 21)"
  | nameTooLong => "File name too long (os error 36)"
  | nameWithNul => "file name contained an unexpected NUL byte"

/-- A file, or a directory with the names in it. -/
inductive FileTree
  | file (contents : List UInt8)
  | directory (entries : List (String × FileTree))
  deriving Repr

namespace FileTree

/-- A directory without names. -/
def empty : FileTree :=
  .directory []

/-- The names in a directory.  In a file there are none. -/
def entries : FileTree → List (String × FileTree)
  | file _ => []
  | directory entries => entries

/-- What stands at a place. -/
def find? (tree : FileTree) : Place → Option FileTree
  | [] => some tree
  | name :: names => (tree.entries.lookup name).bind (·.find? names)

/-- The entries in which a name stands for something else. -/
def setEntry (name : String) (node : FileTree) :
    List (String × FileTree) → List (String × FileTree)
  | [] => [(name, node)]
  | entry :: others =>
    if entry.1 == name then (name, node) :: others else entry :: setEntry name node others

/-- The tree with something else at a place, and with directories on the way to it. -/
def put (tree node : FileTree) : Place → FileTree
  | [] => node
  | name :: names =>
    let inner := (tree.entries.lookup name).getD empty
    .directory (setEntry name (inner.put node names) tree.entries)

mutual

/-- The files of the tree with their places. -/
def files : FileTree → List (Place × List UInt8)
  | file contents => [([], contents)]
  | directory entries => filesOf entries

/-- The files of some entries with their places. -/
def filesOf : List (String × FileTree) → List (Place × List UInt8)
  | [] => []
  | (name, node) :: others =>
    (node.files.map fun (place, contents) => (name :: place, contents)) ++ filesOf others

end

/-- The contents of the file at a place. -/
def contents? (tree : FileTree) (place : Place) : Option (List UInt8) :=
  match tree.find? place with
  | some (.file contents) => some contents
  | _ => none

/-- Whether there is a file at the place. -/
def isFile (tree : FileTree) (place : Place) : Bool :=
  (tree.contents? place).isSome

/-- Whether there is a directory at the place. -/
def isDirectory (tree : FileTree) (place : Place) : Bool :=
  place.isGiven ||
    match tree.find? place with
    | some (.directory _) => true
    | _ => false

/-- The directory that holds files under some paths. -/
def ofFiles (files : List (String × List UInt8)) : FileTree :=
  files.foldl (fun tree (path, contents) => tree.put (.file contents) (Place.ofPath path)) empty

/-! ## Limits -/

/-- How many bytes a name can have. -/
def nameLimit : Nat := 255

/-- How many bytes a path can have. -/
def pathLimit : Nat := 4095

/-- Checks the length of a name. -/
def checkName (name : String) : Except FileError Unit :=
  if name.utf8ByteSize ≤ nameLimit then .ok () else .error .nameTooLong

/-- Checks the characters and the length of a path. -/
def checkPath (path : String) : Except FileError Unit :=
  if path.toList.contains '\x00' then .error .nameWithNul
  else if path.utf8ByteSize ≤ pathLimit then .ok ()
  else .error .nameTooLong

/-! ## Reading -/

/-- Where the steps of a path lead when every step starts from a directory. -/
def walk (tree : FileTree) (here : Place) : List String → Option Place
  | [] => some here
  | name :: names =>
    if tree.isDirectory here then tree.walk (here.step name) names else none

/-- The contents of the file that a path leads to. -/
def read? (tree : FileTree) (path : String) : Option (List UInt8) := do
  (checkPath path).toOption
  let place ← tree.walk (Place.start path) (parts '/' path)
  tree.contents? place

/-! ## Writing -/

/-- Makes the directories that the steps of a path lead to, and tells where they lead.  A path is
followed as a whole as far as its directories are there; a file on the way is then no directory.
From the first one that is missing on, they are made one by one, and a file is in the way of each. -/
def makeDirectories (tree : FileTree) (here : Place) (someMade : Bool) :
    List String → Except FileError (FileTree × Place)
  | [] => .ok (tree, here)
  | name :: names => do
    checkName name
    let place := here.step name
    if tree.isFile place then
      throw (if someMade || names.isEmpty then .fileExists else .notADirectory)
    else if tree.isDirectory place then tree.makeDirectories place someMade names
    else (tree.put empty place).makeDirectories place true names

/-- The steps of a path to the directory of its last name. -/
def directorySteps (path : String) : List String :=
  ((parts '/' path).dropLast.reverse.dropWhile Place.staysHere).reverse

/-- Writes the file that a path leads to, and the directories on the way. -/
def write (tree : FileTree) (path : String) (contents : List UInt8) :
    Except FileError FileTree := do
  let steps := directorySteps path
  checkPath ("/".intercalate steps)
  let (tree, around) ← tree.makeDirectories (Place.start path) false steps
  checkPath path
  let name := lastPart '/' path
  checkName name
  let place := around ++ [name]
  if tree.isDirectory place then throw .isADirectory
  return tree.put (.file contents) place

/-- The files of the directory that are new or have other contents than before. -/
def changesSince (tree before : FileTree) : List (Place × List UInt8) :=
  tree.files.filter fun (place, contents) =>
    !place.isOutside && before.contents? place != some contents

end FileTree

end ValueBuilder
