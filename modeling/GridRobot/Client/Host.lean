/-!
# The host

What the client finds besides its arguments and its environment: the time, the home of an account,
and what is known of the file system around a directory that is to be made together with the
directories above it.

A path is a text whose parts are divided by slashes. A place is where a path leads: the names on the
way down from the root.

* `Path.isAbsolute`, `Path.join`, `Path.names`: paths as text, and their parts;
* `Place`, `Path.resolve`: the place to which names lead;
* `FileError`: why a directory cannot be made;
* `Entry`, `FileTree`: the files and directories that are known;
* `FileTree.place`: where a path leads;
* `FileTree.obstacle?`: why the directory of a path cannot be made, if it cannot;
* `Host`.
-/

namespace GridRobot

/-! ### Paths -/

/-- A place in the file system: the names on the way down from the root. -/
abbrev Place := List String

namespace Path

/-- Whether a path starts at the root. -/
def isAbsolute (path : String) : Bool := path.toList.head? == some '/'

/-- The path `part` below `base`. An absolute `part` stands alone. -/
def join (base part : String) : String :=
  if isAbsolute part then part
  else if base.isEmpty || base.toList.getLast? == some '/' then base ++ part
  else base ++ "/" ++ part

/-- The parts of a path that are not empty. -/
def names (path : String) : List String :=
  ((path.toList.splitOn '/').filter fun part => !part.isEmpty).map String.ofList

/-- The place to which names lead from another place. One dot stays, and two dots go up. -/
def resolve (place : Place) : List String → Place
  | [] => place
  | name :: rest =>
    if name = "." then resolve place rest
    else if name = ".." then resolve place.dropLast rest
    else resolve (place ++ [name]) rest

end Path

/-! ### Directories -/

/-- Why a directory cannot be made. -/
inductive FileError
  | notFound
  | taken
  | notDirectory
  | nameTooLong
  deriving DecidableEq

/-- The cause in words. -/
def FileError.message : FileError → String
  | notFound => "No such file or directory (os error 2)"
  | taken => "File exists (os error 17)"
  | notDirectory => "Not a directory (os error 20)"
  | nameTooLong => "File name too long (os error 36)"

/-- What is found at a place. Some directories refuse all new entries, with an error. -/
inductive Entry
  | file
  | directory
  | closed (error : FileError)
  deriving DecidableEq

/-- The known entries of a file system, and the working directory. -/
structure FileTree where
  workDir : Place
  entries : List (Place × Entry)
  deriving DecidableEq

namespace FileTree

/-- What is found at a place. The root is a directory. -/
def entry? (t : FileTree) (place : Place) : Option Entry :=
  if place = [] then some .directory else t.entries.lookup place

/-- Where a path begins. -/
def origin (t : FileTree) (path : String) : Place :=
  if Path.isAbsolute path then [] else t.workDir

/-- The place to which a path leads, if all directories on the way exist. -/
def place (t : FileTree) (path : String) : Place :=
  Path.resolve (t.origin path) (Path.names path)

/-- Whether a name is longer than 255 bytes. -/
def isTooLong (name : String) : Bool := 255 < name.utf8ByteSize

/-- Whether nothing but single dots follows a name, and at least one. A directory with such a
name is only looked up and never made. -/
def isDotted (rest : List String) : Bool := !rest.isEmpty && rest.all fun name => name == "."

/-- Why a new directory cannot be added to a place, if it cannot. -/
def refusal? (t : FileTree) (place : Place) : Option FileError :=
  match t.entry? place with
  | some (.closed e) => some e
  | _ => none

/-- What stands in the way of following names down from a place, where directories that are
missing are made. `made` holds those made on the way. Once there is one, the directories are made
one by one, so that a file in the way takes the place of one. A directory that was made holds only
others that were made, so that it makes no difference if it is made again, except where it must be
there already. -/
def obstacleBelow? (t : FileTree) (made : List Place) (place : Place) :
    List String → Option FileError
  | [] => none
  | name :: rest =>
    if name = "." then t.obstacleBelow? made place rest
    else if name = ".." then t.obstacleBelow? made place.dropLast rest
    else if isTooLong name then some .nameTooLong
    else
      let below := place ++ [name]
      match t.entry? below with
      | none =>
        if isDotted rest then
          if made.contains below then none else some .notFound
        else (t.refusal? place).or (t.obstacleBelow? (below :: made) below rest)
      | some .file =>
        if rest.isEmpty || !made.isEmpty && !isDotted rest then some .taken
        else some .notDirectory
      | some _ => t.obstacleBelow? made below rest

/-- Why the directory of a path cannot be made together with those above it, if it cannot. A path
must be shorter than 4096 bytes. -/
def obstacle? (t : FileTree) (path : String) : Option FileError :=
  if 4096 ≤ path.utf8ByteSize then some .nameTooLong
  else t.obstacleBelow? [] (t.origin path) (Path.names path)

end FileTree

/-! ### The host -/

/-- The time in seconds, the home of the account the client runs under, and what is known of the
file system. -/
structure Host where
  seconds : Nat
  accountHome : Option String
  files : FileTree
  deriving DecidableEq

end GridRobot
