import StackLowering.Storage.Path

/-!
# Files and directories

A file system maps places to files and directories. A path is followed part by
part from the root or from the working directory; every part but the last needs a
directory to be found in, and neither a name nor a path may be too long. Reading,
listing and writing fail for the reasons that `Trouble` names, and writing changes
one place.
-/

namespace StackLowering

/-- Why the file system refuses something. -/
inductive Trouble where
  | missing
  | notDirectory
  | isDirectory
  | tooLong
  | notText
  | refused (reason : String)
deriving DecidableEq, Repr

/-- A refusal in words. -/
def Trouble.text : Trouble → String
  | .missing => "No such file or directory (os error 2)"
  | .notDirectory => "Not a directory (os error 20)"
  | .isDirectory => "Is a directory (os error 21)"
  | .tooLong => "File name too long (os error 36)"
  | .notText => "stream did not contain valid UTF-8"
  | .refused reason => reason

/-- The names that lead from the root to a file or directory. -/
abbrev Place := List String

/-- What is at a place. -/
inductive Node where
  | file (content : ByteArray)
  | directory

namespace Node

/-- Whether there is a directory. -/
def isDirectory : Node → Bool
  | .directory => true
  | .file _ => false

/-- Whether there is a file with the given content. -/
def holds (content : ByteArray) : Node → Bool
  | .directory => false
  | .file other => other.data == content.data

end Node

/-- The files and directories below the root, one at each place, and the directory in which relative
paths start. -/
structure FileSystem where
  nodes : List (Place × Node) := []
  working : Place := []
  distinct : (nodes.map Prod.fst).Nodup := by simp

namespace FileSystem

/-- What is at a place, if anything. The root is a directory. -/
def node? (files : FileSystem) (place : Place) : Option Node :=
  if place = [] then some .directory else files.nodes.lookup place

/-- The number of bytes that a name may have. -/
def maxNameSize : Nat := 255

/-- The number of bytes that a path may have. -/
def maxPathSize : Nat := 4095

/-- Follows some parts of a path from a place. -/
def walk (files : FileSystem) (here : Place) : List String → Except Trouble Place
  | [] => .ok here
  | part :: rest =>
    match files.node? here with
    | none => .error .missing
    | some (.file _) => .error .notDirectory
    | some .directory =>
      if part = "" ∨ part = "." then files.walk here rest
      else if part = ".." then files.walk here.dropLast rest
      else if maxNameSize < part.utf8ByteSize then .error .tooLong
      else files.walk (here ++ [part]) rest

/-- The place in which a path starts. -/
def start (files : FileSystem) (path : Path) : Place :=
  if path.isAbsolute then [] else files.working

/-- Follows some parts of a path from the place in which it starts. -/
def follow (files : FileSystem) (path : Path) (parts : List String) : Except Trouble Place :=
  if maxPathSize < path.text.utf8ByteSize then .error .tooLong
  else files.walk (files.start path) parts

/-- The place to which a path leads, where there need not be anything. -/
def locate (files : FileSystem) (path : Path) : Except Trouble Place :=
  files.follow path path.parts

/-- What is at the end of a path. -/
def find (files : FileSystem) (path : Path) : Except Trouble Node := do
  match files.node? (← files.locate path) with
  | some node => .ok node
  | none => .error .missing

/-- Whether a path leads to a directory. -/
def isDirectory (files : FileSystem) (path : Path) : Bool :=
  match files.find path with
  | .ok .directory => true
  | _ => false

/-- Whether a path leads to a file. -/
def isFile (files : FileSystem) (path : Path) : Bool :=
  match files.find path with
  | .ok (.file _) => true
  | _ => false

/-- The content of the file to which a path leads. -/
def read (files : FileSystem) (path : Path) : Except Trouble ByteArray := do
  match ← files.find path with
  | .file content => .ok content
  | .directory => .error .isDirectory

/-- The name of an entry of a directory, if the place is one. -/
def entryName? (directory place : Place) : Option String :=
  if place ≠ [] ∧ place.dropLast = directory then place.getLast? else none

/-- The names of the entries of the directory to which a path leads, in no particular order. -/
def list (files : FileSystem) (path : Path) : Except Trouble (List String) := do
  let place ← files.locate path
  match files.node? place with
  | some .directory => .ok (files.nodes.filterMap fun (other, _) => entryName? place other)
  | some (.file _) => .error .notDirectory
  | none => .error .missing

/-- Places stay different when one of them takes another node. -/
theorem nodup_map_fst_put {nodes : List (Place × Node)} (distinct : (nodes.map Prod.fst).Nodup)
    (place : Place) (node : Node) :
    (((place, node) :: nodes.filter fun (other, _) => other ≠ place).map Prod.fst).Nodup := by
  rw [List.map_cons, List.nodup_cons]
  refine ⟨?_, distinct.sublist (List.filter_sublist.map _)⟩
  simp [List.mem_filter]

/-- The file system with other content at one place. -/
def put (files : FileSystem) (place : Place) (node : Node) : FileSystem where
  nodes := (place, node) :: files.nodes.filter fun (other, _) => other ≠ place
  working := files.working
  distinct := nodup_map_fst_put files.distinct place node

/-- Nodes at other places are found as before when those at one place are left out. -/
theorem lookup_filter_other (nodes : List (Place × Node)) {place other : Place}
    (different : other ≠ place) :
    (nodes.filter fun (candidate, _) => candidate ≠ place).lookup other = nodes.lookup other := by
  induction nodes with
  | nil => rfl
  | cons head rest inductionHypothesis =>
    obtain ⟨candidate, node⟩ := head
    by_cases removed : candidate = place
    · have missed : (other == place) = false := beq_false_of_ne different
      simpa [removed, List.lookup_cons, missed] using inductionHypothesis
    · by_cases found : other = candidate
      · simp [removed, found]
      · have missed : (other == candidate) = false := beq_false_of_ne found
        simpa [removed, List.lookup_cons, missed] using inductionHypothesis

/-- What was put at a place is found there. -/
theorem node?_put_same (files : FileSystem) {place : Place} (node : Node) (below : place ≠ []) :
    (files.put place node).node? place = some node := by
  simp [node?, put, below]

/-- Putting something at one place leaves all other places as they were. -/
theorem node?_put_other (files : FileSystem) {place other : Place} (node : Node)
    (different : other ≠ place) : (files.put place node).node? other = files.node? other := by
  by_cases root : other = []
  · simp [node?, root]
  · have missed : (other == place) = false := beq_false_of_ne different
    have kept := lookup_filter_other files.nodes different
    simp only [node?, root, put, List.lookup_cons, missed, if_false]
    exact kept

/-- The parts of a path without the empty ones at its end. -/
def namedParts (path : Path) : List String :=
  (path.parts.reverse.dropWhile (· = "")).reverse

/-- The place at which writing to a path puts a file: one with a directory around it, and without a
directory in its stead. A path that ends in a slash can only lead to a directory. -/
def writable (files : FileSystem) (path : Path) : Except Trouble Place := do
  if path.endsInSlash then
    let _ ← files.follow path ((namedParts path).dropLast ++ ["."])
    .error .isDirectory
  else
    let place ← files.follow path (namedParts path)
    if (files.node? place).any Node.isDirectory then .error .isDirectory else .ok place

/-- Writes a file, in place of the one that is there. -/
def write (files : FileSystem) (path : Path) (content : ByteArray) :
    Except Trouble FileSystem := do
  let place ← files.writable path
  return files.put place (.file content)

/-- The places around a place, without the root. -/
def surrounding (place : Place) : List Place :=
  (List.range place.length).filterMap fun length =>
    if length = 0 then none else some (place.take length)

/-- Puts a file or directory at a place, and directories around it. -/
def install (files : FileSystem) (place : Place) (node : Node) : FileSystem :=
  let around := (surrounding place).foldl (fun files directory =>
    if (files.node? directory).isSome then files else files.put directory .directory) files
  around.put place node

/-- The files below the working directory that were not there before, or had other content. Their
places are relative to the working directory. -/
def changes (before after : FileSystem) : List (Place × ByteArray) :=
  after.nodes.filterMap fun (place, node) =>
    match node with
    | .directory => none
    | .file content =>
      if (before.node? place).any (Node.holds content) then none
      else if after.working.isPrefixOf place then
        some (place.drop after.working.length, content)
      else none

end FileSystem

end StackLowering
