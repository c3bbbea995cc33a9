import StackLowering.Storage.FileSystem
import StackLowering.Proofs.Sequencing
import Mathlib.Data.List.Basic

/-!
# Where paths lead

A path names a place whether or not there is anything at it. `destination` follows a
path without looking at the nodes on its way, and a path that a file system can follow
leads there (`destination_of_locate`, `destination_of_writable`). What a path is made
of is said by `Split`: the characters before its file name, the name, and what is
behind it, which stands for the same place. Nothing is behind the name of a path that
leads to a file (`tail_eq_nil_of_file`), and the file can be written through that path
(`writable_of_file`).
-/

namespace StackLowering

/-! ## Following the parts of a path -/

/-- The place to which one part of a path leads. -/
def Place.step (here : Place) (part : String) : Place :=
  if part = "" ∨ part = "." then here
  else if part = ".." then here.dropLast
  else here ++ [part]

/-- The place to which some characters of a path lead. -/
def Place.follow (here : Place) (text : List Char) : Place :=
  ((Path.splitAtSlashes text).map String.ofList).foldl step here

/-- The place that a path names. -/
def FileSystem.destination (files : FileSystem) (path : Path) : Place :=
  (files.start path).follow path.text.toList

namespace Path

/-- The parts of a path are what stands between its slashes. -/
theorem splitAtSlashes_eq (text : List Char) : splitAtSlashes text = text.splitOn '/' := by
  induction text with
  | nil => rfl
  | cons character rest inductionHypothesis =>
    rw [splitAtSlashes, inductionHypothesis]
    show _ = List.splitOnP (· == '/') (character :: rest)
    rw [List.splitOnP_cons_eq_if_modifyHead, List.splitOn]
    by_cases slash : character = '/'
    · simp [slash]
    · rw [if_neg slash, if_neg (by simpa using slash)]
      cases split : List.splitOnP (· == '/') rest with
      | nil => exact absurd split (List.splitOnP_ne_nil _ _)
      | cons part parts => rfl

/-- A text without slashes is one part. -/
theorem splitAtSlashes_of_solid {text : List Char} (solid : '/' ∉ text) :
    splitAtSlashes text = [text] := by
  rw [splitAtSlashes_eq]
  refine List.splitOnP_eq_singleton fun character member => ?_
  rw [beq_eq_false_iff_ne]
  rintro rfl
  exact solid member

/-- At a slash, the parts in front of it and those behind it are put together. -/
theorem splitAtSlashes_append_slash (front rest : List Char) :
    splitAtSlashes (front ++ '/' :: rest) = splitAtSlashes front ++ splitAtSlashes rest := by
  rw [splitAtSlashes_eq, splitAtSlashes_eq, splitAtSlashes_eq]
  exact List.splitOnP_append_cons front rest (by rfl)

/-- A name that can stand for something below a directory. -/
structure ProperName (name : List Char) : Prop where
  solid : '/' ∉ name
  nonempty : name ≠ []
  notSelf : name ≠ ['.']
  notParent : name ≠ ['.', '.']

end Path

namespace Place

/-- A path is followed up to a slash, and then from there. -/
theorem follow_append_slash (here : Place) (front rest : List Char) :
    here.follow (front ++ '/' :: rest) = (here.follow front).follow rest := by
  rw [follow, follow, follow, Path.splitAtSlashes_append_slash, List.map_append,
    List.foldl_append]

/-- A text without slashes is followed in one step. -/
theorem follow_of_solid {text : List Char} (solid : '/' ∉ text) (here : Place) :
    here.follow text = here.step (String.ofList text) := by
  rw [follow, Path.splitAtSlashes_of_solid solid]
  rfl

/-- An empty text leads nowhere else. -/
@[simp] theorem follow_nil (here : Place) : here.follow [] = here := rfl

/-- Characters that end in a slash are followed before those behind them. -/
theorem follow_append {front : List Char} (bounded : ∀ character ∈ front.getLast?, character = '/')
    (here : Place) (rest : List Char) :
    here.follow (front ++ rest) = (here.follow front).follow rest := by
  rcases List.eq_nil_or_concat front with rfl | ⟨before, last, rfl⟩
  · rfl
  · obtain rfl : last = '/' := bounded last (by simp)
    rw [List.concat_eq_append, List.append_assoc, List.singleton_append, follow_append_slash,
      follow_append_slash, follow_nil]

/-- A proper name leads to the child with that name. -/
theorem follow_of_properName {name : List Char} (proper : Path.ProperName name) (here : Place) :
    here.follow name = here ++ [String.ofList name] := by
  have other : ∀ text : String, name ≠ text.toList → String.ofList name ≠ text := by
    rintro text different rfl
    rw [String.toList_ofList] at different
    exact different rfl
  rw [follow_of_solid proper.solid, step, if_neg, if_neg]
  · exact other ".." proper.notParent
  · rintro (none | self)
    · exact other "" proper.nonempty none
    · exact other "." proper.notSelf self

end Place

namespace FileSystem

variable {files : FileSystem}

/-- A walk that succeeds ends where its parts lead. -/
theorem foldl_step_of_walk {here place : Place} {parts : List String}
    (walked : files.walk here parts = .ok place) : parts.foldl Place.step here = place := by
  induction parts generalizing here with
  | nil =>
    cases walked
    rfl
  | cons part rest inductionHypothesis =>
    rw [List.foldl_cons]
    unfold walk at walked
    unfold Place.step
    split at walked
    · cases walked
    · cases walked
    · split at walked
      · rename_i self
        rw [if_pos self]
        exact inductionHypothesis walked
      · rename_i other
        rw [if_neg other]
        split at walked
        · rename_i parent
          rw [if_pos parent]
          exact inductionHypothesis walked
        · rename_i named
          rw [if_neg named]
          split at walked
          · cases walked
          · exact inductionHypothesis walked

/-- Walking on is walking from where one has got to. -/
theorem walk_append (here : Place) (front rest : List String) :
    files.walk here (front ++ rest) =
      files.walk here front >>= fun there => files.walk there rest := by
  induction front generalizing here with
  | nil => rfl
  | cons part front inductionHypothesis =>
    rw [List.cons_append, walk, walk]
    cases files.node? here with
    | none => rfl
    | some node =>
      cases node with
      | file content => rfl
      | directory =>
        dsimp only
        split_ifs
        · exact inductionHypothesis here
        · exact inductionHypothesis here.dropLast
        · rfl
        · exact inductionHypothesis (here ++ [part])

/-- The last part of a path is found in a directory. -/
theorem directory_of_walk_concat {here place : Place} {parts : List String} {last : String}
    (walked : files.walk here (parts ++ [last]) = .ok place) :
    ∃ around, files.node? around = some .directory ∧ place = around.step last := by
  rw [walk_append] at walked
  obtain ⟨around, -, walked⟩ := exists_of_bind_eq_ok walked
  refine ⟨around, ?_, (foldl_step_of_walk walked).symm⟩
  unfold walk at walked
  split at walked
  · cases walked
  · cases walked
  · assumption

/-- Where a path can be followed, it leads to the place that its parts name. -/
theorem foldl_step_of_follow {path : Path} {parts : List String} {place : Place}
    (followed : files.follow path parts = .ok place) :
    parts.foldl Place.step (files.start path) = place := by
  unfold follow at followed
  split at followed
  · cases followed
  · exact foldl_step_of_walk followed

/-- A path that can be followed leads to its destination. -/
theorem destination_of_locate {path : Path} {place : Place}
    (located : files.locate path = .ok place) : files.destination path = place :=
  foldl_step_of_follow located

/-- The empty parts at the end of a path lead nowhere else. -/
theorem foldl_step_namedParts (here : Place) (path : Path) :
    (namedParts path).foldl Place.step here = path.parts.foldl Place.step here := by
  have still : ∀ (there : Place) (parts : List String), (∀ part ∈ parts, part = "") →
      parts.foldl Place.step there = there := by
    intro there parts empty
    induction parts with
    | nil => rfl
    | cons part rest inductionHypothesis =>
      rw [List.foldl_cons, empty part List.mem_cons_self]
      exact inductionHypothesis fun other member => empty other (List.mem_cons_of_mem _ member)
  have split : path.parts =
      namedParts path ++ (path.parts.reverse.takeWhile (· = "")).reverse := by
    rw [namedParts, ← List.reverse_append, List.takeWhile_append_dropWhile, List.reverse_reverse]
  rw [split, List.foldl_append]
  refine (still _ _ fun part member => ?_).symm
  simpa using List.all_eq_true.mp List.all_takeWhile part (List.mem_reverse.mp member)

/-- A file is written at the destination of its path. -/
theorem destination_of_writable {path : Path} {place : Place}
    (writable : files.writable path = .ok place) : files.destination path = place := by
  unfold FileSystem.writable at writable
  split at writable
  · obtain ⟨-, -, refused⟩ := exists_of_bind_eq_ok writable
    cases refused
  · obtain ⟨other, followed, found⟩ := exists_of_bind_eq_ok writable
    split at found
    · cases found
    · cases found
      exact (foldl_step_namedParts _ path).symm.trans (foldl_step_of_follow followed)

end FileSystem

/-! ## The parts of a path that has a file name -/

namespace Path

/-- Characters behind a file name that stand for the same place: slashes, and single dots behind
slashes. -/
inductive Trailing : List Char → Prop where
  | nil : Trailing []
  | slash {tail : List Char} (before : Trailing tail) : Trailing (tail ++ ['/'])
  | dot {tail : List Char} (before : Trailing tail) : Trailing (tail ++ ['/', '.'])

/-- A path consists of what is before its file name, of the name, and of what stands for the same
place. -/
structure Split (path : Path) (before name tail : List Char) : Prop where
  text : path.text.toList = before ++ (name ++ tail)
  bounded : ∀ character ∈ before.getLast?, character = '/'
  proper : ProperName name
  trailing : Trailing tail

namespace Trailing

variable {tail : List Char}

/-- What is behind a file name is dropped. -/
theorem dropSelf (trailing : Trailing tail) (rest : List Char) :
    Path.dropSelf (tail.reverse ++ rest) = Path.dropSelf rest := by
  induction trailing with
  | nil => rfl
  | slash before inductionHypothesis =>
    rw [List.reverse_concat, List.cons_append, Path.dropSelf, inductionHypothesis]
  | dot before inductionHypothesis =>
    rw [List.reverse_append, List.append_assoc]
    exact inductionHypothesis

/-- A beginning of what is behind a file name does not leave the place either. -/
theorem of_prefix (trailing : Trailing tail) {front : List Char} (begins : front <+: tail) :
    Trailing front := by
  induction trailing with
  | nil =>
    rw [List.prefix_nil.mp begins]
    exact .nil
  | slash before inductionHypothesis =>
    rcases List.prefix_concat_iff.mp begins with rfl | shorter
    · exact .slash before
    · exact inductionHypothesis shorter
  | @dot tail before inductionHypothesis =>
    rw [show tail ++ ['/', '.'] = tail ++ ['/'] ++ ['.'] by simp] at begins
    rcases List.prefix_concat_iff.mp begins with rfl | shorter
    · rw [List.append_assoc]
      exact .dot before
    · rcases List.prefix_concat_iff.mp shorter with rfl | shorter
      · exact .slash before
      · exact inductionHypothesis shorter

/-- What is behind a file name does not lead to another place. -/
theorem follow (trailing : Trailing tail) (here : Place) (text : List Char) :
    here.follow (text ++ tail) = here.follow text := by
  induction trailing with
  | nil => rw [List.append_nil]
  | slash before inductionHypothesis =>
    rw [← List.append_assoc, Place.follow_append_slash, Place.follow_nil, inductionHypothesis]
  | dot before inductionHypothesis =>
    rw [← List.append_assoc, Place.follow_append_slash, inductionHypothesis]
    rfl

/-- What is behind a file name ends in a slash, or in a single dot behind one. -/
theorem exists_last (trailing : Trailing tail) (nonempty : tail ≠ []) :
    ∃ front last, tail = front ++ '/' :: last ∧ Trailing front ∧ (last = [] ∨ last = ['.']) := by
  cases trailing with
  | nil => exact absurd rfl nonempty
  | slash before => exact ⟨_, [], rfl, before, Or.inl rfl⟩
  | dot before => exact ⟨_, ['.'], rfl, before, Or.inr rfl⟩

end Trailing

/-- What is dropped from the end of a path does not leave the place. -/
theorem exists_trailing (reversed : List Char) :
    ∃ tail, Trailing tail ∧ reversed = tail.reverse ++ dropSelf reversed := by
  fun_induction dropSelf reversed with
  | case1 rest inductionHypothesis =>
    obtain ⟨tail, trailing, split⟩ := inductionHypothesis
    exact ⟨tail ++ ['/'], .slash trailing, by simpa using split⟩
  | case2 rest inductionHypothesis =>
    obtain ⟨tail, trailing, split⟩ := inductionHypothesis
    exact ⟨tail ++ ['/', '.'], .dot trailing, by simpa using split⟩
  | case3 reversed => exact ⟨[], .nil, rfl⟩

section Split

variable {path : Path} {before name tail : List Char}

/-- Nothing is dropped from a path that ends in a name. -/
theorem dropSelf_properName (proper : ProperName name) (before : List Char) :
    dropSelf (name.reverse ++ before) = name.reverse ++ before := by
  obtain ⟨front, last, rfl⟩ := (List.eq_nil_or_concat name).resolve_left proper.nonempty
  rw [List.concat_eq_append] at *
  rw [List.reverse_concat, List.cons_append]
  unfold dropSelf
  split
  · rename_i rest ends
    obtain ⟨rfl, -⟩ := List.cons.inj ends
    exact absurd (by simp) proper.solid
  · rename_i rest ends
    obtain ⟨rfl, next⟩ := List.cons.inj ends
    rcases List.eq_nil_or_concat front with rfl | ⟨more, previous, rfl⟩
    · exact absurd rfl proper.notSelf
    · rw [List.concat_eq_append, List.reverse_concat, List.cons_append] at next
      obtain ⟨rfl, -⟩ := List.cons.inj next
      exact absurd (by simp) proper.solid
  · rfl

/-- The end of a path is its file name, with what is before it. -/
theorem Split.ending (split : path.Split before name tail) :
    path.ending = name.reverse ++ before.reverse := by
  rw [Path.ending, split.text, List.reverse_append, List.reverse_append, List.append_assoc,
    split.trailing.dropSelf, dropSelf_properName split.proper]

/-- Going back from the end of what is before a name, one meets a slash at once. -/
theorem takeWhile_reverse_of_bounded (bounded : ∀ character ∈ before.getLast?, character = '/') :
    before.reverse.takeWhile (· ≠ '/') = [] ∧
      before.reverse.dropWhile (· ≠ '/') = before.reverse := by
  rcases List.eq_nil_or_concat before with rfl | ⟨front, last, rfl⟩
  · exact ⟨rfl, rfl⟩
  · obtain rfl : last = '/' := bounded last (by simp)
    simp

/-- Going back from the end of a path, one meets its file name and then a slash. -/
theorem Split.takeWhile_ending (split : path.Split before name tail) :
    path.ending.takeWhile (· ≠ '/') = name.reverse ∧
      path.ending.dropWhile (· ≠ '/') = before.reverse := by
  have solid : ∀ character ∈ name.reverse, decide (character ≠ '/') = true := by
    intro character member
    rw [decide_eq_true_eq]
    rintro rfl
    exact split.proper.solid (List.mem_reverse.mp member)
  have stopped := takeWhile_reverse_of_bounded split.bounded
  rw [split.ending, List.takeWhile_append_of_pos solid, List.dropWhile_append_of_pos solid,
    stopped.1, stopped.2, List.append_nil]
  exact ⟨rfl, rfl⟩

/-- The file name of a path is found. -/
theorem Split.fileName?_eq (split : path.Split before name tail) : path.fileName? = some name := by
  rw [fileName?, split.takeWhile_ending.1, List.reverse_reverse]
  have proper : ¬ (name = [] ∨ name = ['.'] ∨ name = ['.', '.']) := by
    rintro (none | self | parent)
    · exact split.proper.nonempty none
    · exact split.proper.notSelf self
    · exact split.proper.notParent parent
  exact if_neg proper

/-- What is before the file name of a path is found. -/
theorem Split.beforeName_eq (split : path.Split before name tail) : path.beforeName = before := by
  rw [beforeName, split.takeWhile_ending.2, List.reverse_reverse]

/-- A path with a file name is split at it. -/
theorem split_of_fileName? (named : path.fileName? = some name) :
    ∃ tail, path.Split path.beforeName name tail := by
  obtain ⟨tail, trailing, cut⟩ := exists_trailing path.text.toList.reverse
  unfold fileName? at named
  dsimp only at named
  split at named
  · cases named
  · rename_i proper
    simp only [not_or] at proper
    cases named
    refine ⟨tail, ?_, ?_, ⟨?_, proper.1, proper.2.1, proper.2.2⟩, trailing⟩
    · calc path.text.toList
        _ = (tail.reverse ++ path.ending).reverse := by
          rw [ending, ← cut, List.reverse_reverse]
        _ = path.ending.reverse ++ tail := by rw [List.reverse_append, List.reverse_reverse]
        _ = _ := by
          rw [beforeName, ← List.append_assoc, ← List.reverse_append,
            List.takeWhile_append_dropWhile]
    · intro character atEnd
      rw [beforeName, List.getLast?_reverse] at atEnd
      have stopped := List.head?_dropWhile_not (fun c => decide (c ≠ '/')) path.ending
      rw [Option.mem_def.mp atEnd] at stopped
      simpa using stopped
    · intro slash
      rw [List.mem_reverse] at slash
      simpa using List.all_eq_true.mp List.all_takeWhile '/' slash

end Split

end Path

namespace FileSystem

variable {files : FileSystem} {path : Path} {before name tail rest : List Char}

/-- A path leads where the characters behind a slash lead from the place before them. -/
theorem destination_append (files : FileSystem) (text : path.text.toList = before ++ rest)
    (bounded : ∀ character ∈ before.getLast?, character = '/')
    (relative : rest.head? ≠ some '/') :
    files.destination path =
      Place.follow (files.destination ⟨String.ofList before⟩) rest := by
  have start : files.start path = files.start ⟨String.ofList before⟩ := by
    have absolute : path.isAbsolute = Path.isAbsolute ⟨String.ofList before⟩ := by
      rw [Path.isAbsolute, Path.isAbsolute, text, String.toList_ofList]
      cases before with
      | nil =>
        rw [List.nil_append, beq_eq_false_iff_ne.mpr relative]
        rfl
      | cons first more => rfl
    rw [FileSystem.start, FileSystem.start, absolute]
  rw [destination, destination, start, text, String.toList_ofList, Place.follow_append bounded]

/-- A path with a file name leads to an entry of that name. -/
theorem destination_of_split (files : FileSystem) (split : path.Split before name tail) :
    files.destination path =
      files.destination ⟨String.ofList before⟩ ++ [String.ofList name] := by
  have relative : (name ++ tail).head? ≠ some '/' := by
    obtain ⟨first, more, rfl⟩ := List.exists_cons_of_ne_nil split.proper.nonempty
    rintro slash
    obtain rfl : first = '/' := by simpa using slash
    exact split.proper.solid List.mem_cons_self
  rw [files.destination_append split.text split.bounded relative, split.trailing.follow,
    Place.follow_of_properName split.proper]

/-! ## Paths that lead to files -/

/-- A text ends in some characters without slashes, before which nothing or a slash stands. -/
theorem exists_last_part (text : List Char) :
    ∃ before last, text = before ++ last ∧
      (∀ character ∈ before.getLast?, character = '/') ∧ '/' ∉ last := by
  by_cases slash : '/' ∈ text
  · obtain ⟨last, before, split, solid⟩ :=
      List.eq_append_cons_of_mem (List.mem_reverse.mpr slash)
    refine ⟨before.reverse ++ ['/'], last.reverse, ?_, by simp, by simpa using solid⟩
    rw [← List.reverse_reverse text, split]
    simp
  · exact ⟨[], text, rfl, by simp, slash⟩

/-- The characters behind the last slash of a path are its last part. -/
theorem parts_of_text {last : List Char} (text : path.text.toList = before ++ last)
    (bounded : ∀ character ∈ before.getLast?, character = '/') (solid : '/' ∉ last) :
    ∃ parts, path.parts = parts ++ [String.ofList last] := by
  rcases List.eq_nil_or_concat before with rfl | ⟨front, slash, rfl⟩
  · refine ⟨[], ?_⟩
    rw [Path.parts, text, List.nil_append, Path.splitAtSlashes_of_solid solid]
    rfl
  · obtain rfl : slash = '/' := bounded slash (by simp)
    refine ⟨(Path.splitAtSlashes front).map String.ofList, ?_⟩
    rw [Path.parts, text, List.concat_eq_append, List.append_assoc, List.singleton_append,
      Path.splitAtSlashes_append_slash, Path.splitAtSlashes_of_solid solid, List.map_append]
    rfl

section File

variable {place : Place} {content : ByteArray} (located : files.locate path = .ok place)
  (file : files.node? place = some (.file content))

include located file

/-- A path that leads to a file ends in something that does not stand for a directory. -/
theorem last_part_of_file {last : List Char} (text : path.text.toList = before ++ last)
    (bounded : ∀ character ∈ before.getLast?, character = '/') (solid : '/' ∉ last) :
    last ≠ [] ∧ last ≠ ['.'] := by
  obtain ⟨parts, split⟩ := parts_of_text text bounded solid
  have walked : files.walk (files.start path) (parts ++ [String.ofList last]) = .ok place := by
    unfold locate follow at located
    rw [split] at located
    split at located
    · cases located
    · exact located
  obtain ⟨around, directory, rfl⟩ := directory_of_walk_concat walked
  have other : around.step (String.ofList last) ≠ around := by
    intro same
    rw [same, directory] at file
    cases file
  constructor
  · rintro rfl
    exact other rfl
  · rintro rfl
    exact other rfl

/-- Nothing is behind the name of a path that leads to a file. -/
theorem tail_eq_nil_of_file (split : path.Split before name tail) : tail = [] := by
  by_contra nonempty
  obtain ⟨front, last, rfl, -, self⟩ := split.trailing.exists_last nonempty
  have text : path.text.toList = (before ++ (name ++ (front ++ ['/']))) ++ last := by
    rw [split.text]
    simp
  have solid : '/' ∉ last := by rcases self with rfl | rfl <;> decide
  obtain ⟨nonempty, other⟩ := last_part_of_file located file text (by simp) solid
  exact self.elim nonempty other

/-- The file to which a path leads can be written there. -/
theorem writable_of_file : files.writable path = .ok place := by
  obtain ⟨before, last, text, bounded, solid⟩ := exists_last_part path.text.toList
  obtain ⟨parts, split⟩ := parts_of_text text bounded solid
  have nonempty := (last_part_of_file located file text bounded solid).1
  have named : namedParts path = path.parts := by
    have solidLast : String.ofList last ≠ "" := by
      rwa [ne_eq, ← String.toList_inj, String.toList_ofList]
    rw [namedParts, split, List.reverse_concat, List.dropWhile_cons,
      if_neg (by simpa using solidLast), List.reverse_cons, List.reverse_reverse]
  have noSlash : path.endsInSlash = false := by
    rw [Path.endsInSlash, text, List.getLast?_append_of_ne_nil _ nonempty, beq_eq_false_iff_ne]
    exact fun slash => solid (List.mem_of_getLast? slash)
  unfold writable
  rw [noSlash, named, if_neg (by decide)]
  show files.locate path >>= _ = _
  rw [located]
  show (if _ then _ else _) = _
  rw [file]
  rfl

end File

end FileSystem

end StackLowering
