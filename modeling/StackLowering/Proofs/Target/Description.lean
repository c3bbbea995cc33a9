import StackLowering.Proofs.Json.Record
import StackLowering.Proofs.Sequencing
import StackLowering.Target.Reader

/-!
# Descriptions of targets

A target is described by objects whose members come in any order, laid out in any
way. `Target.read_discerns_description` says that reading such a description gives
back the target, and that no description is read in which a member is missing or a
number needs more than sixteen bits.
-/

namespace StackLowering

open Json
open Json.Reader (Reads Fails Discerns)

/-! ## Descriptions -/

/-- The description of a way of addressing. -/
def Addressing.description : Addressing → Value
  | .indirect pointer => .object [("indirect", .string pointer)]
  | .fixed base => .object [("fixed", .number base.text)]

/-- The members of the description of a segment table. -/
def SegmentTable.members (table : SegmentTable) : List (String × Value) :=
  [("argument", table.argument.description), ("local", table.locals.description),
    ("this", table.this.description), ("that", table.that.description),
    ("pointer", table.pointer.description), ("temp", table.temp.description)]

/-- The members of the description of the scratch cells. -/
def Scratch.members (scratch : Scratch) : List (String × Value) :=
  [("frame", .string scratch.frame), ("return_address", .string scratch.returnAddress)]

/-- The members of the description of a start. -/
def Bootstrap.members (bootstrap : Bootstrap) : List (String × Value) :=
  [("stack_base", .number bootstrap.stackBase.text), ("entry", .string bootstrap.entry)]

/-- The members of the description of a target, given those of its parts. -/
def Target.members (target : Target) (segments scratch bootstrap : List (String × Value)) :
    List (String × Value) :=
  [("name", .string target.name), ("stack_pointer", .string target.stackPointer),
    ("segments", .object segments), ("scratch", .object scratch),
    ("bootstrap", .object bootstrap)]

/-- A value describes a target, with the members of each object in some order. -/
inductive Target.DescribedBy (target : Target) : Value → Prop where
  | record {segments scratch bootstrap members : List (String × Value)}
      (segmentOrder : target.segments.members.Perm segments)
      (scratchOrder : target.scratch.members.Perm scratch)
      (bootstrapOrder : target.bootstrap.members.Perm bootstrap)
      (order : (target.members segments scratch bootstrap).Perm members) :
      target.DescribedBy (.object members)

/-- The strings in a target: its name, its entry, and the names of its cells. -/
def Target.strings (target : Target) : List String :=
  target.name :: target.bootstrap.entry :: target.cells

/-! ## Ways of addressing -/

namespace Addressing

variable {key : String} {value : Value} {variant : Reader Addressing}

/-- Behind its opening brace, a way of addressing is read like the inside of an object. -/
theorem reader_of_brace {lexemes : List (List Char)} {text : List Char}
    (spaced : Spaced (['\x7b'] :: lexemes) text) :
    ∃ inner, reader text = variantObject inner ∧ Spaced lexemes inner := by
  obtain ⟨inner, read, later⟩ := Reader.next_of_spaced (by decide) spaced
  refine ⟨inner, ?_, later⟩
  rw [reader, Reader.bind_of_done read]
  simp only
  rw [Reader.skip_bind, List.tail_cons, List.nil_append]

/-- Behind the name of a way of addressing, its value is read, and then the closing brace. -/
theorem reader_of_spaced {following : List (List Char)} {text : List Char}
    (plain : IsPlain key.toList) (known : variants.lookup key = some variant)
    (spaced : Spaced ((Value.object [(key, value)]).lexemes ++ following) text) :
    ∃ rest, Spaced (value.lexemes ++ ['\x7d'] :: following) rest ∧
      (∀ result place behind, variant rest = .done result place →
        Reader.next place = .done (some '\x7d') ('\x7d' :: behind) →
        reader text = .done result behind) ∧
      ∀ result behind, reader text = .done result behind →
        ∃ found place, variant rest = .done found place := by
  have lexemes : (Value.object [(key, value)]).lexemes ++ following =
      ['\x7b'] :: ('"' :: (key.toList ++ ['"'])) :: [':'] ::
        (value.lexemes ++ ['\x7d'] :: following) := by
    simp [Value.lexemes, Value.memberLexemes, Value.separator, Reader.toList_inQuotes]
  rw [lexemes] at spaced
  obtain ⟨inner, opened, spaced⟩ := reader_of_brace spaced
  obtain ⟨afterKey, readQuote, spaced⟩ := Reader.next_of_spaced (by decide) spaced
  obtain ⟨rest, readColon, spaced⟩ := Reader.colon_of_spaced spaced
  have readKey : Addressing.variant ('"' :: (key.toList ++ ['"'] ++ afterKey)) =
      .done variant afterKey := by
    rw [Addressing.variant, Reader.skip_bind, List.tail_cons, List.append_assoc,
      List.singleton_append, Reader.bind_of_done (Reader.string_of_plain plain afterKey)]
    simp only [String.ofList_toList, known]
    rfl
  rw [opened, variantObject, Reader.bind_of_done readQuote]
  simp only
  rw [Reader.bind_of_done readKey, Reader.bind_of_done readColon]
  refine ⟨rest, spaced, ?_, ?_⟩
  · intro result place behind readValue closing
    rw [Reader.bind_of_done readValue, Reader.bind_of_done closing]
    rfl
  · intro result behind finished
    obtain ⟨found, place, readValue, -⟩ := Reader.bind_eq_done_iff.mp finished
    exact ⟨found, place, readValue⟩

/-- An object without members is no way of addressing. -/
theorem reader_fails_of_empty : reader.Fails (Value.object []).lexemes := by
  intro following text delimited spaced result behind
  change Spaced (['\x7b'] :: ['\x7d'] :: following) text at spaced
  obtain ⟨inner, opened, spaced⟩ := reader_of_brace spaced
  obtain ⟨rest, readEnd, -⟩ := Reader.next_of_spaced (by decide) spaced
  rw [opened, variantObject, Reader.bind_of_done readEnd]
  rintro ⟨⟩

/-- A way of addressing is read like its value, and not once its name or value is spoiled. -/
theorem reader_discerns_variant {result : Addressing} (plain : IsPlain key.toList)
    (known : variants.lookup key = some variant) (discerns : variant.Discerns value result) :
    reader.Discerns (.object [(key, value)]) result where
  reads := by
    intro following text delimited spaced
    obtain ⟨rest, spaced, reads, -⟩ := reader_of_spaced plain known spaced
    obtain ⟨place, readValue, spaced⟩ :=
      discerns.reads _ _ (Reader.delimited_brace following) spaced
    obtain ⟨behind, closing, later⟩ := Reader.next_of_spaced (by decide) spaced
    exact ⟨behind, reads _ _ _ readValue closing, later⟩
  fails := by
    intro spoiled damage
    -- The object has one member, so that is the one that is gone or spoiled.
    generalize whole : [(key, value)] = members at damage
    cases damage with
    | removed front member back =>
      rcases List.append_eq_singleton_iff.mp whole.symm with ⟨rfl, same⟩ | ⟨-, nothing⟩
      · cases same
        exact reader_fails_of_empty
      · cases nothing
    | inside front otherKey back within =>
      rcases List.append_eq_singleton_iff.mp whole.symm with ⟨rfl, same⟩ | ⟨-, nothing⟩
      · cases same
        intro following text delimited spaced result behind finished
        obtain ⟨rest, spaced, -, reads⟩ := reader_of_spaced plain known spaced
        obtain ⟨found, place, readValue⟩ := reads result behind finished
        exact discerns.fails _ within _ _ (Reader.delimited_brace following) spaced found place
          readValue
      · cases nothing

/-- A way of addressing is read from its description, and not once it is spoiled. -/
theorem reader_discerns {addressing : Addressing}
    (plain : ∀ pointer ∈ addressing.pointer?, IsPlain pointer.toList) :
    reader.Discerns addressing.description addressing := by
  cases addressing with
  | indirect pointer =>
    exact reader_discerns_variant (by decide) rfl
      ((Reader.text_discerns (plain pointer rfl)).map Addressing.indirect)
  | fixed base =>
    exact reader_discerns_variant (by decide) rfl
      ((Reader.word_discerns base).map Addressing.fixed)

end Addressing

/-! ## Lawful shapes -/

/-- The fields of a segment table do not get in each other's way, and none can be missing. -/
theorem SegmentTable.lawful : SegmentTable.shape.Lawful where
  plain := by decide
  apart := by
    simp only [SegmentTable.shape, List.pairwise_cons, ← List.forall_iff_forall_mem, List.Forall,
      List.Pairwise.nil, and_true]
    and_intros
    all_goals exact field_apart (fun _ _ => rfl) (fun _ _ => rfl) (fun _ _ _ => rfl)
  sets := List.forall_iff_forall_mem.mp
    ⟨field_sets fun _ _ => rfl, field_sets fun _ _ => rfl, field_sets fun _ _ => rfl,
      field_sets fun _ _ => rfl, field_sets fun _ _ => rfl, field_sets fun _ _ => rfl⟩
  complete := by
    intro draft table built
    obtain ⟨argument, hasArgument, built⟩ := exists_of_bind_eq_ok built
    obtain ⟨locals, hasLocals, built⟩ := exists_of_bind_eq_ok built
    obtain ⟨this, hasThis, built⟩ := exists_of_bind_eq_ok built
    obtain ⟨that, hasThat, built⟩ := exists_of_bind_eq_ok built
    obtain ⟨pointer, hasPointer, built⟩ := exists_of_bind_eq_ok built
    obtain ⟨temp, hasTemp, -⟩ := exists_of_bind_eq_ok built
    exact List.forall_iff_forall_mem.mp
      ⟨isSome_of_required hasArgument, isSome_of_required hasLocals,
        isSome_of_required hasThis, isSome_of_required hasThat,
        isSome_of_required hasPointer, isSome_of_required hasTemp⟩

/-- The fields of the scratch cells do not get in each other's way, and none can be missing. -/
theorem Scratch.lawful : Scratch.shape.Lawful where
  plain := by decide
  apart := List.pairwise_pair.mpr <|
    field_apart (fun _ _ => rfl) (fun _ _ => rfl) (fun _ _ _ => rfl)
  sets := List.forall_iff_forall_mem.mp
    ⟨field_sets fun _ _ => rfl, field_sets fun _ _ => rfl⟩
  complete := by
    intro draft scratch built
    obtain ⟨frame, hasFrame, built⟩ := exists_of_bind_eq_ok built
    obtain ⟨returnAddress, hasReturnAddress, -⟩ := exists_of_bind_eq_ok built
    exact List.forall_iff_forall_mem.mp
      ⟨isSome_of_required hasFrame, isSome_of_required hasReturnAddress⟩

/-- The fields of a start do not get in each other's way, and none can be missing. -/
theorem Bootstrap.lawful : Bootstrap.shape.Lawful where
  plain := by decide
  apart := List.pairwise_pair.mpr <|
    field_apart (fun _ _ => rfl) (fun _ _ => rfl) (fun _ _ _ => rfl)
  sets := List.forall_iff_forall_mem.mp
    ⟨field_sets fun _ _ => rfl, field_sets fun _ _ => rfl⟩
  complete := by
    intro draft bootstrap built
    obtain ⟨stackBase, hasStackBase, built⟩ := exists_of_bind_eq_ok built
    obtain ⟨entry, hasEntry, -⟩ := exists_of_bind_eq_ok built
    exact List.forall_iff_forall_mem.mp
      ⟨isSome_of_required hasStackBase, isSome_of_required hasEntry⟩

/-- The fields of a target do not get in each other's way, and none can be missing. -/
theorem Target.lawful : Target.shape.Lawful where
  plain := by decide
  apart := by
    simp only [Target.shape, List.pairwise_cons, ← List.forall_iff_forall_mem, List.Forall,
      List.Pairwise.nil, and_true]
    and_intros
    all_goals exact field_apart (fun _ _ => rfl) (fun _ _ => rfl) (fun _ _ _ => rfl)
  sets := List.forall_iff_forall_mem.mp
    ⟨field_sets fun _ _ => rfl, field_sets fun _ _ => rfl, field_sets fun _ _ => rfl,
      field_sets fun _ _ => rfl, field_sets fun _ _ => rfl⟩
  complete := by
    intro draft target built
    obtain ⟨name, hasName, built⟩ := exists_of_bind_eq_ok built
    obtain ⟨stackPointer, hasStackPointer, built⟩ := exists_of_bind_eq_ok built
    obtain ⟨segments, hasSegments, built⟩ := exists_of_bind_eq_ok built
    obtain ⟨scratch, hasScratch, built⟩ := exists_of_bind_eq_ok built
    obtain ⟨bootstrap, hasBootstrap, -⟩ := exists_of_bind_eq_ok built
    exact List.forall_iff_forall_mem.mp
      ⟨isSome_of_required hasName, isSome_of_required hasStackPointer,
        isSome_of_required hasSegments, isSome_of_required hasScratch,
        isSome_of_required hasBootstrap⟩

/-! ## Records -/

/-- A segment table is read from its members in any order, and not once they are spoiled. -/
theorem SegmentTable.record_discerns {table : SegmentTable} {members : List (String × Value)}
    (plain : ∀ segment, ∀ pointer ∈ (table.addressing segment).pointer?, IsPlain pointer.toList)
    (order : table.members.Perm members) :
    (Reader.record SegmentTable.shape).Discerns (.object members) table := by
  have drafts : Drafts SegmentTable.shape SegmentTable.shape.empty table.members
      ⟨some table.argument, some table.locals, some table.this, some table.that,
        some table.pointer, some table.temp⟩ :=
    .field rfl rfl (Addressing.reader_discerns (plain .argument)) <|
    .field rfl rfl (Addressing.reader_discerns (plain .locals)) <|
    .field rfl rfl (Addressing.reader_discerns (plain .this)) <|
    .field rfl rfl (Addressing.reader_discerns (plain .that)) <|
    .field rfl rfl (Addressing.reader_discerns (plain .pointer)) <|
    .field rfl rfl (Addressing.reader_discerns (plain .temp)) (.nil _)
  exact Reader.record_discerns SegmentTable.lawful drafts rfl order

/-- The scratch cells are read from their members in any order, and not once they are spoiled. -/
theorem Scratch.record_discerns {scratch : Scratch} {members : List (String × Value)}
    (plainFrame : IsPlain scratch.frame.toList)
    (plainReturnAddress : IsPlain scratch.returnAddress.toList)
    (order : scratch.members.Perm members) :
    (Reader.record Scratch.shape).Discerns (.object members) scratch := by
  have drafts : Drafts Scratch.shape Scratch.shape.empty scratch.members
      ⟨some scratch.frame, some scratch.returnAddress⟩ :=
    .field rfl rfl (Reader.text_discerns plainFrame) <|
    .field rfl rfl (Reader.text_discerns plainReturnAddress) (.nil _)
  exact Reader.record_discerns Scratch.lawful drafts rfl order

/-- A start is read from its members in any order, and not once they are spoiled. -/
theorem Bootstrap.record_discerns {bootstrap : Bootstrap} {members : List (String × Value)}
    (plain : IsPlain bootstrap.entry.toList) (order : bootstrap.members.Perm members) :
    (Reader.record Bootstrap.shape).Discerns (.object members) bootstrap := by
  have drafts : Drafts Bootstrap.shape Bootstrap.shape.empty bootstrap.members
      ⟨some bootstrap.stackBase, some bootstrap.entry⟩ :=
    .field rfl rfl (Reader.word_discerns bootstrap.stackBase) <|
    .field rfl rfl (Reader.text_discerns plain) (.nil _)
  exact Reader.record_discerns Bootstrap.lawful drafts rfl order

/-! ## Targets -/

namespace Target

/-- A target is read from a value that describes it, and not once the value is spoiled. -/
theorem record_discerns {target : Target} {value : Value}
    (plain : ∀ content ∈ target.strings, IsPlain content.toList)
    (described : target.DescribedBy value) :
    (Reader.record Target.shape).Discerns value target := by
  obtain ⟨segmentOrder, scratchOrder, bootstrapOrder, order⟩ := described
  have plainPointer : ∀ segment, ∀ pointer ∈ (target.segments.addressing segment).pointer?,
      IsPlain pointer.toList := by
    intro segment pointer addressed
    have cell : pointer ∈ target.cells :=
      List.mem_append_right _ (List.mem_filterMap.mpr ⟨segment, segment.mem_all, addressed⟩)
    exact plain pointer (by simp [strings, cell])
  have drafts : Drafts Target.shape Target.shape.empty
      (target.members _ _ _)
      ⟨some target.name, some target.stackPointer, some target.segments, some target.scratch,
        some target.bootstrap⟩ :=
    .field rfl rfl (Reader.text_discerns (plain _ (by simp [strings]))) <|
    .field rfl rfl (Reader.text_discerns (plain _ (by simp [strings, cells]))) <|
    .field rfl rfl (SegmentTable.record_discerns plainPointer segmentOrder) <|
    .field rfl rfl (Scratch.record_discerns (plain _ (by simp [strings, cells]))
      (plain _ (by simp [strings, cells])) scratchOrder) <|
    .field rfl rfl (Bootstrap.record_discerns (plain _ (by simp [strings])) bootstrapOrder)
      (.nil _)
  exact Reader.record_discerns Target.lawful drafts rfl order

/-- A target is read from its description, and a description in which a member is missing or a
number needs more than sixteen bits is not read. -/
theorem read_discerns_description {target : Target} {value : Value}
    (plain : ∀ content ∈ target.strings, IsPlain content.toList)
    (described : target.DescribedBy value) :
    (∀ text : String, Spaced value.lexemes text.toList → Target.read text = .ok target) ∧
      ∀ (spoiled : Value) (text : String), value.Spoiled spoiled →
        Spaced spoiled.lexemes text.toList → ∃ failure, Target.read text = .error failure := by
  have discerns := record_discerns plain described
  constructor
  · intro text spaced
    exact Reader.readAll_of_reads discerns.reads spaced
  · intro spoiled text damage spaced
    exact Reader.exists_failure_of_fails (discerns.fails spoiled damage) spaced

/-- The description of the default target with the members of every object backwards, but for its
start. -/
def backwards (bootstrap : List (String × Value)) : Value :=
  .object (hack.members hack.segments.members.reverse hack.scratch.members.reverse
    bootstrap).reverse

/-- A text with every lexeme of a value on a line of its own. -/
def inLines (value : Value) : String :=
  String.ofList (value.lexemes.flatMap fun lexeme => ['\r', '\n', '\t'] ++ lexeme)

/-- Lines that are indented by a tab are a layout. -/
theorem spaced_inLines (value : Value) : Spaced value.lexemes (inLines value).toList := by
  rw [inLines, String.toList_ofList]
  exact Reader.spaced_flatMap (List.forall_iff_forall_mem.mp (by decide)) value.lexemes

/-- Backwards members are read; a missing entry function and a stack base of seventeen
bits are not. -/
theorem backwards_read :
    Target.read (inLines (backwards hack.bootstrap.members.reverse)) = .ok hack ∧
      (∃ failure, Target.read (inLines (backwards [("stack_base", .number "256")])) =
        .error failure) ∧
      ∃ failure, Target.read (inLines (backwards
        [("entry", .string "Sys.init"), ("stack_base", .number "65536")])) = .error failure := by
  have described : hack.DescribedBy (backwards hack.bootstrap.members.reverse) :=
    .record (List.reverse_perm _).symm (List.reverse_perm _).symm (List.reverse_perm _).symm
      (List.reverse_perm _).symm
  obtain ⟨reads, fails⟩ := read_discerns_description (by decide) described
  have large : 65535 < 65536 := by decide
  refine ⟨reads _ (spaced_inLines _), fails _ _ ?_ (spaced_inLines _),
    fails _ _ ?_ (spaced_inLines _)⟩
  · exact .inside [] "bootstrap" _ (.removed [] _ _)
  · exact .inside [] "bootstrap" _ (.inside [_] "stack_base" [] (.exceeded _ large))

end Target

end StackLowering
