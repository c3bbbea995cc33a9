import StackLowering.Storage.FileSystem
import Mathlib.Data.List.Nodup

/-!
# The order of nodes

A file system keeps its nodes in some order, in which it also lists the entries of
a directory. Everything else that can be seen of it depends only on what is at
each place: `Reorders` relates file systems with the same nodes in different
orders, and the lemmas below say that paths lead to the same nodes in both, and
that the same entries are listed.
-/

namespace StackLowering.FileSystem

variable {files other : FileSystem}

/-! ## Nodes and entries -/

/-- A node is found at a place exactly if it is one of the nodes. -/
theorem lookup_eq_some_iff {nodes : List (Place × Node)}
    (distinct : (nodes.map Prod.fst).Nodup) {place : Place} {node : Node} :
    nodes.lookup place = some node ↔ (place, node) ∈ nodes := by
  induction nodes with
  | nil => simp
  | cons head rest inductionHypothesis =>
    obtain ⟨candidate, candidateNode⟩ := head
    rw [List.map_cons, List.nodup_cons] at distinct
    by_cases here : place = candidate
    · subst here
      have elsewhere : (place, node) ∉ rest := fun member =>
        distinct.1 (List.mem_map.mpr ⟨_, member, rfl⟩)
      simp [elsewhere, eq_comm]
    · have missed : (place == candidate) = false := beq_false_of_ne here
      simp [List.lookup_cons, missed, here, inductionHypothesis distinct.2]

/-- What is at a place below the root is listed among the nodes, once. -/
theorem node?_eq_some_iff {place : Place} {node : Node} (below : place ≠ []) :
    files.node? place = some node ↔ (place, node) ∈ files.nodes := by
  rw [node?, if_neg below]
  exact lookup_eq_some_iff files.distinct

/-- An entry of a directory is at the end of the way to it. -/
theorem entryName?_eq_some_iff {directory place : Place} {name : String} :
    entryName? directory place = some name ↔ place = directory ++ [name] := by
  unfold entryName?
  constructor
  · intro named
    split at named
    · rename_i entry
      obtain ⟨-, rfl⟩ := entry
      exact (List.dropLast_append_getLast? name named).symm
    · cases named
  · rintro rfl
    simp

/-- The names of the nodes right below a place, in the order of the nodes. -/
def entries (files : FileSystem) (place : Place) : List String :=
  files.nodes.filterMap fun (other, _) => entryName? place other

/-- The entries of a place are the names under which something is there. -/
theorem mem_entries {place : Place} {name : String} :
    name ∈ files.entries place ↔ (files.node? (place ++ [name])).isSome = true := by
  rw [entries, List.mem_filterMap, Option.isSome_iff_exists]
  constructor
  · rintro ⟨⟨entry, node⟩, member, named⟩
    rw [entryName?_eq_some_iff] at named
    cases named
    exact ⟨node, (node?_eq_some_iff (by simp)).mpr member⟩
  · rintro ⟨node, found⟩
    exact ⟨(_, node), (node?_eq_some_iff (by simp)).mp found, entryName?_eq_some_iff.mpr rfl⟩

/-- There is one entry of each name. -/
theorem nodup_entries (files : FileSystem) (place : Place) : (files.entries place).Nodup := by
  have names : ((files.nodes.map Prod.fst).filterMap (entryName? place)).Nodup := by
    refine List.Nodup.filterMap (fun first second name firstNamed secondNamed => ?_) files.distinct
    rw [entryName?_eq_some_iff.mp firstNamed, entryName?_eq_some_iff.mp secondNamed]
  rwa [List.filterMap_map] at names

/-- A node is found at a path exactly if the path leads to its place. -/
theorem find_eq_ok_iff {path : Path} {node : Node} :
    files.find path = .ok node ↔
      ∃ place, files.locate path = .ok place ∧ files.node? place = some node := by
  unfold find
  cases files.locate path with
  | error trouble => simp [bind, Except.bind]
  | ok place => cases found : files.node? place <;> simp [bind, Except.bind, found]

/-- A path names a directory exactly if it leads to one. -/
theorem isDirectory_iff {path : Path} :
    files.isDirectory path = true ↔
      ∃ place, files.locate path = .ok place ∧ files.node? place = some .directory := by
  unfold isDirectory find
  cases files.locate path with
  | error trouble => simp [bind, Except.bind]
  | ok place =>
    cases found : files.node? place with
    | none => simp [bind, Except.bind, found]
    | some node => cases node <;> simp [bind, Except.bind, found]

/-- Only files can be read. -/
theorem read_eq_ok_iff {path : Path} {content : ByteArray} :
    files.read path = .ok content ↔ files.find path = .ok (.file content) := by
  unfold read
  cases files.find path with
  | error trouble => simp [bind, Except.bind]
  | ok node => cases node <;> simp [bind, Except.bind]

/-- A directory can be listed. -/
theorem list_of_node? {path : Path} {place : Place} (located : files.locate path = .ok place)
    (directory : files.node? place = some .directory) :
    files.list path = .ok (files.entries place) := by
  simp only [list, located, bind, Except.bind, directory]
  rfl

/-! ## Reordering -/

/-- The same nodes in another order. -/
structure Reorders (files other : FileSystem) : Prop where
  nodes : files.nodes.Perm other.nodes
  working : files.working = other.working

/-- Two answers to a request for the entries of a directory that differ at most in their order. -/
inductive SameEntries :
    Except Trouble (List String) → Except Trouble (List String) → Prop where
  | error (trouble : Trouble) : SameEntries (.error trouble) (.error trouble)
  | ok {names others : List String} (reordered : names.Perm others) :
      SameEntries (.ok names) (.ok others)

namespace Reorders

/-- Each place has the same node. -/
theorem node?_eq (reorders : files.Reorders other) : other.node? = files.node? := by
  funext place
  by_cases root : place = []
  · rw [node?, node?, if_pos root, if_pos root]
  · ext node
    rw [node?_eq_some_iff root, node?_eq_some_iff root]
    exact reorders.nodes.symm.mem_iff

/-- Reordered nodes are walked through in the same way. -/
theorem walk_eq (reorders : files.Reorders other) (here : Place) (parts : List String) :
    other.walk here parts = files.walk here parts := by
  induction parts generalizing here with
  | nil => rfl
  | cons part rest inductionHypothesis =>
    unfold walk
    simp only [reorders.node?_eq, inductionHypothesis]

/-- Reordered nodes are followed in the same way. -/
theorem follow_eq (reorders : files.Reorders other) : other.follow = files.follow := by
  funext path parts
  rw [follow, follow, start, start, reorders.working, reorders.walk_eq]

/-- The same nodes are found among reordered ones. -/
theorem find_eq (reorders : files.Reorders other) : other.find = files.find := by
  funext path
  rw [find, find, locate, locate, reorders.follow_eq, reorders.node?_eq]

/-- The same paths name directories among reordered nodes. -/
theorem isDirectory_eq (reorders : files.Reorders other) :
    other.isDirectory = files.isDirectory := by
  funext path
  rw [isDirectory, isDirectory, reorders.find_eq]

/-- The same paths name files among reordered nodes. -/
theorem isFile_eq (reorders : files.Reorders other) : other.isFile = files.isFile := by
  funext path
  rw [isFile, isFile, reorders.find_eq]

/-- The same files are read among reordered nodes. -/
theorem read_eq (reorders : files.Reorders other) : other.read = files.read := by
  funext path
  rw [read, read, reorders.find_eq]

/-- The same places are writable among reordered nodes. -/
theorem writable_eq (reorders : files.Reorders other) : other.writable = files.writable := by
  funext path
  rw [writable, writable, reorders.follow_eq, reorders.node?_eq]

/-- A directory has the same entries. -/
theorem list (reorders : files.Reorders other) (path : Path) :
    SameEntries (files.list path) (other.list path) := by
  unfold FileSystem.list locate
  rw [reorders.follow_eq, reorders.node?_eq]
  cases files.follow path path.parts with
  | error trouble => exact .error trouble
  | ok place =>
    simp only [bind, Except.bind]
    cases files.node? place with
    | none => exact .error _
    | some node =>
      cases node with
      | file content => exact .error _
      | directory => exact .ok (reorders.nodes.filterMap _)

/-- The order stays the only difference when a node is put at a place. -/
theorem put (reorders : files.Reorders other) (place : Place) (node : Node) :
    (files.put place node).Reorders (other.put place node) where
  nodes := (reorders.nodes.filter _).cons _
  working := reorders.working

end Reorders

end StackLowering.FileSystem
