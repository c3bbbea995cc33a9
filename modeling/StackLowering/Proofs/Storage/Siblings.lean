import StackLowering.Proofs.Storage.Destination

/-!
# Files beside a path

Two paths are derived from a path: one by exchanging the extension of its file name,
and one by writing an extension behind its last character. The first stays beside
the path, unless nothing but two dots is left of the name
(`destination_withExtension`, `destination_withExtension_parent`). The second has the
extension behind the characters after the last slash (`destination_appendExtension`),
so it stays beside the path exactly if the path ends in its name; otherwise it leads
inside (`destination_appendExtension_inside`).
-/

namespace StackLowering

namespace Path

/-! ## Stems -/

/-- A name is divided at a dot with something before it and no dot behind it. -/
theorem divideName_append {stem extension : List Char} (nonempty : stem ≠ [])
    (plain : '.' ∉ extension) :
    divideName (stem ++ '.' :: extension) = (stem, some extension) := by
  have dotless : ∀ character ∈ extension.reverse, decide (character ≠ '.') = true := by
    intro character member
    rw [decide_eq_true_eq]
    rintro rfl
    exact plain (List.mem_reverse.mp member)
  have reversed : (stem ++ '.' :: extension).reverse =
      extension.reverse ++ '.' :: stem.reverse := by simp
  obtain ⟨front, last, rfl⟩ := (List.eq_nil_or_concat stem).resolve_left nonempty
  rw [divideName, reversed, List.dropWhile_append_of_pos dotless,
    List.takeWhile_append_of_pos dotless]
  simp

/-- A name is its own stem, or it is divided at its last dot. -/
theorem divideName_cases (name : List Char) :
    divideName name = (name, none) ∨
      ∃ stem extension, name = stem ++ '.' :: extension ∧ stem ≠ [] ∧ '.' ∉ extension := by
  by_cases divided : ∃ stem extension,
      name = stem ++ '.' :: extension ∧ stem ≠ [] ∧ '.' ∉ extension
  · exact Or.inr divided
  · refine Or.inl ?_
    unfold divideName
    split
    · rename_i dot last before rest
      -- The characters before the last dot would be a stem.
      refine absurd ⟨(last :: before).reverse, (name.reverse.takeWhile (· ≠ '.')).reverse,
        ?_, by simp, fun dotted => ?_⟩ divided
      · have isDot := List.head?_dropWhile_not (fun c => decide (c ≠ '.')) name.reverse
        rw [rest] at isDot
        obtain rfl : dot = '.' := by simpa using isDot
        have joined := congrArg List.reverse
          (List.takeWhile_append_dropWhile (p := (· ≠ '.')) (l := name.reverse))
        rw [rest, List.reverse_append, List.reverse_reverse, List.reverse_cons,
          List.append_assoc] at joined
        exact joined.symm
      · simpa using List.all_eq_true.mp List.all_takeWhile '.' (List.mem_reverse.mp dotted)
    · rfl

/-- A name with a dot in it is proper unless it is one or two dots. -/
theorem properName_append {stem extension : List Char} (solidStem : '/' ∉ stem)
    (solidExtension : '/' ∉ extension) (plain : '.' ∉ extension)
    (long : extension ≠ [] ∨ (stem ≠ [] ∧ stem ≠ ['.'])) :
    ProperName (stem ++ '.' :: extension) where
  solid := by
    rw [List.mem_append, List.mem_cons]
    rintro (inStem | isDot | inExtension)
    · exact solidStem inStem
    · exact absurd isDot (by decide)
    · exact solidExtension inExtension
  nonempty := by simp
  notSelf := by
    intro self
    rcases List.append_eq_singleton_iff.mp self with ⟨rfl, rest⟩ | ⟨-, rest⟩
    · rcases long with behind | ⟨before, -⟩
      · exact behind (List.cons.inj rest).2
      · exact before rfl
    · cases rest
  notParent := by
    intro parent
    cases stem with
    | nil =>
      obtain ⟨-, rfl⟩ := List.cons.inj parent
      exact plain (List.mem_singleton_self '.')
    | cons first rest =>
      obtain ⟨rfl, more⟩ := List.cons.inj parent
      rcases List.append_eq_singleton_iff.mp more with ⟨rfl, last⟩ | ⟨-, last⟩
      · rcases long with behind | ⟨-, other⟩
        · exact behind (List.cons.inj last).2
        · exact other rfl
      · cases last

/-- An extension that can be written behind any name. -/
structure PlainExtension (extension : String) : Prop where
  nonempty : extension.toList ≠ []
  solid : '/' ∉ extension.toList
  plain : '.' ∉ extension.toList

/-- A name with a plain extension is proper, even if nothing is before the dot. -/
theorem PlainExtension.properName {extension : String} (extended : PlainExtension extension)
    {stem : List Char} (solid : '/' ∉ stem) : ProperName (stem ++ '.' :: extension.toList) :=
  properName_append solid extended.solid extended.plain (Or.inl extended.nonempty)

/-- A stem, a dot and an extension are put together in one way. -/
theorem ofList_append_dot (stem : List Char) (extension : String) :
    String.ofList (stem ++ '.' :: extension.toList) =
      String.ofList stem ++ "." ++ extension := by
  rw [← String.toList_inj]
  simp

section Split

variable {path : Path} {before name tail : List Char} {extension : String}

/-- The stem of a path is that of its file name. -/
theorem Split.stem_eq (split : path.Split before name tail) :
    path.stem = String.ofList (divideName name).1 := by
  rw [stem, split.fileName?_eq]

/-- The extension of a path is that of its file name. -/
theorem Split.extension?_eq (split : path.Split before name tail) :
    path.extension? = (divideName name).2.map String.ofList := by
  rw [extension?, split.fileName?_eq]
  show (divideName name).2.bind _ = _
  cases (divideName name).2 <;> rfl

/-- A path ends in its name exactly if nothing is behind the name. -/
theorem Split.isSuffixOf_iff (split : path.Split before name tail) :
    name <:+ path.text.toList ↔ tail = [] := by
  constructor
  · intro ends
    by_contra nonempty
    obtain ⟨front, last, rfl, -, self⟩ := split.trailing.exists_last nonempty
    rw [split.text] at ends
    have behind : '/' :: last <:+ before ++ (name ++ (front ++ '/' :: last)) :=
      ⟨before ++ (name ++ front), by simp⟩
    rcases List.suffix_or_suffix_of_suffix ends behind with inside | outside
    · rcases List.suffix_cons_iff.mp inside with rfl | shorter
      · exact split.proper.solid List.mem_cons_self
      · -- What is behind the last slash is no proper name.
        rcases self with rfl | rfl
        · exact split.proper.nonempty (List.suffix_nil.mp shorter)
        · rcases List.suffix_cons_iff.mp shorter with rfl | none
          · exact split.proper.notSelf rfl
          · exact split.proper.nonempty (List.suffix_nil.mp none)
    · exact split.proper.solid (outside.subset List.mem_cons_self)
  · rintro rfl
    exact ⟨before, by rw [split.text, List.append_nil]⟩

/-! ## Other extensions -/

/-- A path is its text. -/
theorem eq_of_text {one other : Path} (same : one.text = other.text) : one = other := by
  cases one
  cases other
  exact congrArg Path.mk same

/-- As many characters as the extension has are dropped from the end of a path, which need not be
those of the extension. -/
theorem Split.toList_dropExtension {stem old : List Char}
    (split : path.Split before (stem ++ '.' :: old) tail) (nonempty : stem ≠ [])
    (plain : '.' ∉ old) :
    path.dropExtension.text.toList = before ++
      ((stem ++ '.' :: old.take tail.length) ++ tail.take (tail.length - old.length)) := by
  have length : path.text.length - (String.ofList old).length =
      before.length + (stem.length + (1 + tail.length)) := by
    rw [← String.length_toList, ← String.length_toList, split.text, String.toList_ofList]
    simp only [List.length_append, List.length_cons]
    omega
  rw [Path.dropExtension, split.extension?_eq, divideName_append nonempty plain]
  show (String.ofList (path.text.toList.take _)).toList = _
  rw [String.toList_ofList, length, split.text]
  simp only [List.append_assoc, List.cons_append, List.take_length_add_append]
  rw [Nat.add_comm 1, List.take_succ_cons, List.take_append]

/-- A path whose name has an extension ends, without it, in a beginning of the name that has the
same stem. -/
theorem Split.dropExtension {stem old : List Char}
    (split : path.Split before (stem ++ '.' :: old) tail) (nonempty : stem ≠ [])
    (plain : '.' ∉ old) (kept : stem ≠ ['.'] ∨ tail ≠ []) :
    ∃ rest other, '.' ∉ rest ∧ path.dropExtension.Split before (stem ++ '.' :: rest) other := by
  have solid := split.proper.solid
  rw [List.mem_append, List.mem_cons, not_or, not_or] at solid
  have restPlain : '.' ∉ old.take tail.length := fun dotted =>
    plain (List.mem_of_mem_take dotted)
  refine ⟨old.take tail.length, tail.take (tail.length - old.length), restPlain,
    split.toList_dropExtension nonempty plain, split.bounded, ?_,
    split.trailing.of_prefix (List.take_prefix _ _)⟩
  refine properName_append solid.1 (fun slash => solid.2.2 (List.mem_of_mem_take slash))
    restPlain ?_
  by_cases self : stem = ['.']
  · subst self
    refine Or.inl fun none => ?_
    rcases List.take_eq_nil_iff.mp none with empty | rfl
    · exact kept.elim (absurd rfl) (absurd (List.eq_nil_of_length_eq_zero empty))
    · exact split.proper.notParent rfl
  · exact Or.inr ⟨nonempty, self⟩

/-- The extension is exchanged behind the stem, and nothing is behind it. -/
theorem Split.withExtension_eq (split : path.Split before name tail)
    (kept : (divideName name).1 ≠ ['.'] ∨ tail ≠ []) (extension : String) :
    (path.withExtension extension).text.toList =
      before ++ ((divideName name).1 ++ '.' :: extension.toList) := by
  have set : ∀ {other : Path} {otherName otherTail : List Char},
      other.Split before otherName otherTail → (other.setExtension extension).text.toList =
        before ++ ((divideName otherName).1 ++ '.' :: extension.toList) := by
    intro other otherName otherTail otherSplit
    rw [setExtension, otherSplit.fileName?_eq]
    show (String.ofList (other.beforeName ++ _) ++ "." ++ extension).toList = _
    rw [otherSplit.beforeName_eq, String.toList_append, String.toList_append,
      String.toList_ofList]
    simp
  rcases divideName_cases name with whole | ⟨stem, old, rfl, nonempty, plain⟩
  · have unchanged : path.dropExtension = path := by
      rw [Path.dropExtension, split.extension?_eq, whole]
      rfl
    rw [withExtension, unchanged, set split]
  · rw [divideName_append nonempty plain] at kept ⊢
    obtain ⟨rest, other, restPlain, shorter⟩ := split.dropExtension nonempty plain kept
    rw [withExtension, set shorter, divideName_append nonempty restPlain]

/-- Two dots are no file name. -/
theorem fileName?_of_parent (bounded : ∀ character ∈ before.getLast?, character = '/') :
    fileName? ⟨String.ofList (before ++ ['.', '.'])⟩ = none := by
  have ends : ending ⟨String.ofList (before ++ ['.', '.'])⟩ = '.' :: '.' :: before.reverse := by
    rw [ending, String.toList_ofList, List.reverse_append]
    rfl
  have last : (ending ⟨String.ofList (before ++ ['.', '.'])⟩).takeWhile (· ≠ '/') =
      ['.', '.'] := by
    rw [ends, List.takeWhile_cons, if_pos (by decide), List.takeWhile_cons, if_pos (by decide),
      (takeWhile_reverse_of_bounded bounded).1]
  rw [fileName?, last]
  rfl

/-- If a name consists of a dot as its stem and of an extension, two dots are left. -/
theorem Split.withExtension_parent (split : path.Split before name [])
    (self : (divideName name).1 = ['.']) (extension : String) :
    (path.withExtension extension).text.toList = before ++ ['.', '.'] := by
  rcases divideName_cases name with whole | ⟨stem, old, rfl, nonempty, plain⟩
  · rw [whole] at self
    exact absurd self split.proper.notSelf
  · rw [divideName_append nonempty plain] at self
    obtain rfl : stem = ['.'] := self
    have short : path.dropExtension = ⟨String.ofList (before ++ ['.', '.'])⟩ := by
      refine eq_of_text (String.toList_inj.mp ?_)
      rw [split.toList_dropExtension nonempty plain, String.toList_ofList]
      simp
    have nameless : path.dropExtension.fileName? = none := by
      rw [short]
      exact fileName?_of_parent split.bounded
    rw [withExtension, setExtension, nameless, short]
    exact String.toList_ofList

/-- A name that is written with an extension behind a dot has it, unless the dot is the first
character of the name. -/
theorem Split.extension?_of_name {stem : String} (split : path.Split before name tail)
    (extended : PlainExtension extension)
    (named : String.ofList name = stem ++ "." ++ extension) :
    path.extension? = if stem = "" then none else some extension := by
  rw [← String.ofList_toList (s := stem), ← ofList_append_dot, String.ofList_inj] at named
  subst named
  rw [split.extension?_eq]
  split_ifs with empty
  · subst empty
    rcases divideName_cases ('.' :: extension.toList) with whole | ⟨stem, old, divided, some, plain⟩
    · show Option.map String.ofList (divideName ('.' :: extension.toList)).2 = none
      rw [whole]
      rfl
    · -- There would be a second dot in the extension.
      obtain ⟨first, rest, rfl⟩ := List.exists_cons_of_ne_nil some
      have second : '.' ∈ extension.toList := by
        rw [(List.cons.inj divided).2]
        simp
      exact absurd second extended.plain
  · have nonempty : stem.toList ≠ [] := by
      rwa [ne_eq, String.toList_eq_nil_iff]
    rw [divideName_append nonempty extended.plain]
    exact congrArg some String.ofList_toList

/-- The stem of a name is not empty. -/
theorem Split.stem_ne_empty (split : path.Split before name tail) : path.stem ≠ "" := by
  rw [split.stem_eq, ne_eq, ← String.toList_inj, String.toList_ofList]
  rcases divideName_cases name with whole | ⟨stem, old, rfl, nonempty, plain⟩
  · rw [whole]
    exact split.proper.nonempty
  · rwa [divideName_append nonempty plain]

/-- A path whose name has the extension already stays as it is. -/
theorem Split.withExtension_self (split : path.Split before name [])
    (extended : path.extension? = some extension) (kept : path.stem ≠ ".") :
    path.withExtension extension = path := by
  have stemKept : (divideName name).1 ≠ ['.'] := by
    intro self
    rw [split.stem_eq, self] at kept
    exact absurd rfl kept
  have name_eq : (divideName name).1 ++ '.' :: extension.toList = name := by
    rw [split.extension?_eq] at extended
    rcases divideName_cases name with whole | ⟨stem, old, rfl, nonempty, plain⟩
    · rw [whole] at extended
      cases extended
    · rw [divideName_append nonempty plain] at extended ⊢
      obtain rfl : String.ofList old = extension := Option.some.inj extended
      rw [String.toList_ofList]
  have same := split.withExtension_eq (Or.inl stemKept) extension
  rw [name_eq, ← List.append_nil name, ← split.text, String.toList_inj] at same
  exact eq_of_text same

end Split

/-- An appended extension stands behind a dot at the end of the path. -/
theorem toList_appendExtension (path : Path) (extension : String) :
    (path.appendExtension extension).text.toList =
      path.text.toList ++ '.' :: extension.toList := by
  show (path.text ++ "." ++ extension).toList = _
  simp

end Path

/-! ## Where the derived paths lead -/

namespace FileSystem

variable {path : Path} {before name tail : List Char} {extension : String}

/-- A path that ends in a proper name leads to an entry of that name. -/
theorem destination_of_text (files : FileSystem) (text : path.text.toList = before ++ name)
    (bounded : ∀ character ∈ before.getLast?, character = '/') (proper : Path.ProperName name) :
    files.destination path =
      files.destination ⟨String.ofList before⟩ ++ [String.ofList name] :=
  files.destination_of_split ⟨by rw [text, List.append_nil], bounded, proper, .nil⟩

/-- With another extension a path leads to a file beside it. -/
theorem destination_withExtension (files : FileSystem) (split : path.Split before name tail)
    (extended : Path.PlainExtension extension) (kept : path.stem ≠ "." ∨ tail ≠ []) :
    files.destination (path.withExtension extension) =
      files.destination ⟨String.ofList before⟩ ++ [path.stem ++ "." ++ extension] := by
  have solid : '/' ∉ (Path.divideName name).1 := by
    intro slash
    refine split.proper.solid ?_
    rcases Path.divideName_cases name with whole | ⟨stem, old, rfl, nonempty, plain⟩
    · rwa [whole] at slash
    · rw [Path.divideName_append nonempty plain] at slash
      exact List.mem_append_left _ slash
  have stemKept : (Path.divideName name).1 ≠ ['.'] ∨ tail ≠ [] := by
    refine kept.imp_left fun other self => other ?_
    rw [split.stem_eq, self]
  rw [files.destination_of_text (split.withExtension_eq stemKept extension) split.bounded
    (extended.properName solid), split.stem_eq, Path.ofList_append_dot]

/-- If two dots are left of the name, the path leads to the place around its directory. -/
theorem destination_withExtension_parent (files : FileSystem)
    (split : path.Split before name []) (self : path.stem = ".") (extension : String) :
    files.destination (path.withExtension extension) =
      (files.destination ⟨String.ofList before⟩).dropLast := by
  have dot : (Path.divideName name).1 = ['.'] := by
    rw [split.stem_eq] at self
    rw [← String.toList_ofList (l := (Path.divideName name).1), self]
    rfl
  rw [files.destination_append (split.withExtension_parent dot extension) split.bounded
    (by decide)]
  rfl

/-- An extension behind a path is one of what is behind the last slash. -/
theorem destination_appendExtension (files : FileSystem) {last : List Char}
    (text : path.text.toList = before ++ last)
    (bounded : ∀ character ∈ before.getLast?, character = '/') (solid : '/' ∉ last)
    (extended : Path.PlainExtension extension) :
    files.destination (path.appendExtension extension) =
      files.destination ⟨String.ofList before⟩ ++
        [String.ofList last ++ "." ++ extension] := by
  have appended : (path.appendExtension extension).text.toList =
      before ++ (last ++ '.' :: extension.toList) := by
    rw [Path.toList_appendExtension, text, List.append_assoc]
  rw [files.destination_of_text appended bounded (extended.properName solid),
    Path.ofList_append_dot]

/-- An extension behind a path that does not end in its name makes a name inside, of the extension
and at most a dot. -/
theorem destination_appendExtension_inside (files : FileSystem)
    (split : path.Split before name tail) (extended : Path.PlainExtension extension)
    (behind : tail ≠ []) :
    ∃ last, (last = "" ∨ last = ".") ∧
      files.destination (path.appendExtension extension) =
        files.destination ⟨String.ofList before⟩ ++
          [String.ofList name, last ++ "." ++ extension] := by
  obtain ⟨front, last, rfl, trailing, self⟩ := split.trailing.exists_last behind
  have solid : '/' ∉ last := by rcases self with rfl | rfl <;> decide
  have text : path.text.toList = (before ++ (name ++ (front ++ ['/']))) ++ last := by
    rw [split.text]
    simp
  have around : Path.Split ⟨String.ofList (before ++ (name ++ (front ++ ['/'])))⟩ before name
      (front ++ ['/']) :=
    ⟨String.toList_ofList, split.bounded, split.proper, .slash trailing⟩
  refine ⟨String.ofList last, self.imp (congrArg String.ofList) (congrArg String.ofList), ?_⟩
  rw [files.destination_appendExtension text (by simp) solid extended,
    files.destination_of_split around, List.append_assoc]
  rfl

end FileSystem

end StackLowering
