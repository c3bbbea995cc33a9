import StackLowering.Proofs.Json.Scalar
import Mathlib.Data.List.Pairwise

/-!
# Members of a record in any order

A record is read into a draft, member after member. `Drafts` says which draft some
members leave. In a lawful shape, fields do not get in each other's way, and so the
draft does not depend on the order of the members (`Drafts.perm`); and a draft with
a gap amounts to nothing. `record_discerns` concludes that a record is read from
its members in any order, and that it is not read once it is spoiled.
-/

namespace StackLowering.Json

open Reader (Reads Fails Discerns)

variable {draft α : Type}

/-- A field can be read as a change of the draft. -/
def Field.Sets (field : Field draft) (set : draft → draft) : Prop :=
  ∃ text rest, field.read text = .done set rest

/-- Two fields do not get in each other's way. -/
def Field.Apart (first second : Field draft) : Prop :=
  ∀ set other, first.Sets set → second.Sets other → ∀ current,
    second.isSet (set current) = second.isSet current ∧
      first.isSet (other current) = first.isSet current ∧
      other (set current) = set (other current)

/-- The fields of a record have plain names and do not get in each other's way; reading a field
sets it, and nothing is made of a draft in which a field is missing. -/
structure Shape.Lawful (shape : Shape draft α) : Prop where
  plain : ∀ field ∈ shape.fields, IsPlain field.name.toList
  apart : shape.fields.Pairwise Field.Apart
  sets : ∀ field ∈ shape.fields, ∀ set, field.Sets set → ∀ current,
    field.isSet (set current) = true
  complete : ∀ current result, shape.build current = .ok result →
    ∀ field ∈ shape.fields, field.isSet current = true

/-- The field with a key. -/
def Shape.HasField (shape : Shape draft α) (key : String) (field : Field draft) : Prop :=
  shape.fields.find? (fun field => field.name == key) = some field

/-- Members that are read into a draft, one after the other. -/
inductive Drafts (shape : Shape draft α) : draft → List (String × Value) → draft → Prop where
  | nil (current : draft) : Drafts shape current [] current
  | cons {current final : draft} {key : String} {value : Value} {field : Field draft}
      {set : draft → draft} {members : List (String × Value)} (found : shape.HasField key field)
      (unset : field.isSet current = false) (discerns : field.read.Discerns value set)
      (later : Drafts shape (set current) members final) :
      Drafts shape current ((key, value) :: members) final

/-! ## Order of the members -/

/-- Whether two fields get in each other's way does not depend on their order. -/
theorem Field.Apart.symm {first second : Field draft} (apart : first.Apart second) :
    second.Apart first := by
  intro set other sets otherSets current
  obtain ⟨kept, otherKept, commute⟩ := apart other set otherSets sets current
  exact ⟨otherKept, kept, commute.symm⟩

instance : Std.Symm (@Field.Apart draft) where
  symm _ _ := Field.Apart.symm

/-- A field that reads its lexemes sets what it reads. -/
theorem Reader.Reads.sets {field : Field draft} {lexemes : List (List Char)}
    {set : draft → draft} (reads : field.read.Reads lexemes set) : field.Sets set := by
  obtain ⟨rest, read, -⟩ := reads [] _ delimited_nil (spaced_flatMap (List.forall_mem_nil _) _)
  exact ⟨_, rest, read⟩

namespace Shape

variable {shape : Shape draft α} {key : String} {field : Field draft}

/-- The field with a key is one of the shape. -/
theorem HasField.mem (found : shape.HasField key field) : field ∈ shape.fields :=
  List.mem_of_find?_eq_some found

/-- The field with a key has that key as its name. -/
theorem HasField.name_eq (found : shape.HasField key field) : field.name = key := by
  have passes : (field.name == key) = true :=
    @List.find?_some _ (fun field : Field draft => field.name == key) _ _ found
  exact beq_iff_eq.mp passes

/-- The keys of a lawful shape are plain. -/
theorem HasField.plain (lawful : shape.Lawful) (found : shape.HasField key field) :
    IsPlain key.toList := by
  rw [← found.name_eq]
  exact lawful.plain field found.mem

end Shape

namespace Drafts

variable {shape : Shape draft α} {current final : draft} {members others : List (String × Value)}

/-- Two members that follow each other may change places. -/
theorem swap (lawful : shape.Lawful) {first second : String × Value}
    (drafts : Drafts shape current (first :: second :: members) final) :
    Drafts shape current (second :: first :: members) final := by
  obtain - | ⟨found, unset, discerns, - | ⟨otherFound, otherUnset, otherDiscerns, later⟩⟩ := drafts
  rename_i firstKey firstValue field set secondKey secondValue otherField other
  have sets := discerns.reads.sets
  have different : field ≠ otherField := by
    rintro rfl
    rw [lawful.sets field found.mem set sets] at otherUnset
    cases otherUnset
  obtain ⟨kept, otherKept, commute⟩ := lawful.apart.forall found.mem
    otherFound.mem different set other sets otherDiscerns.reads.sets current
  refine .cons otherFound (kept ▸ otherUnset) otherDiscerns (.cons found ?_ discerns ?_)
  · rw [otherKept]
    exact unset
  · rw [← commute]
    exact later

/-- The order of the members does not matter. -/
theorem perm (lawful : shape.Lawful) (permutation : members.Perm others)
    (drafts : Drafts shape current members final) : Drafts shape current others final := by
  induction permutation generalizing current with
  | nil => exact drafts
  | cons member _ inductionHypothesis =>
    obtain - | ⟨found, unset, discerns, later⟩ := drafts
    exact .cons found unset discerns (inductionHypothesis later)
  | swap first second rest => exact drafts.swap lawful
  | trans _ _ firstHypothesis secondHypothesis => exact secondHypothesis (firstHypothesis drafts)

/-- Between the members at the front and those at the back there is a draft. -/
theorem exists_middle {front back : List (String × Value)}
    (drafts : Drafts shape current (front ++ back) final) :
    ∃ middle, Drafts shape current front middle ∧ Drafts shape middle back final := by
  induction front generalizing current with
  | nil => exact ⟨current, .nil current, drafts⟩
  | cons member rest inductionHypothesis =>
    obtain - | ⟨found, unset, discerns, later⟩ := drafts
    obtain ⟨middle, before, after⟩ := inductionHypothesis later
    exact ⟨middle, .cons found unset discerns before, after⟩

end Drafts

/-! ## Fields that are kept in places of a draft -/

section Places

variable {β γ : Type} {name otherName : String} {get : draft → Option β}
  {set : Option β → draft → draft} {reader : Reader β} {otherGet : draft → Option γ}
  {otherSet : Option γ → draft → draft} {otherReader : Reader γ}

/-- A field kept in a place is changed by storing a value there. -/
theorem Field.Sets.exists_value {change : draft → draft}
    (sets : (field name get set reader).Sets change) : ∃ value, change = set (some value) := by
  obtain ⟨text, rest, read⟩ := sets
  obtain ⟨value, middle, -, finished⟩ := Reader.bind_eq_done_iff.mp read
  cases finished
  exact ⟨value, rfl⟩

/-- Fields in places that are read and written independently do not get in each other's way. -/
theorem field_apart (kept : ∀ value current, otherGet (set value current) = otherGet current)
    (otherKept : ∀ value current, get (otherSet value current) = get current)
    (commute : ∀ value other current,
      otherSet other (set value current) = set value (otherSet other current)) :
    (field name get set reader).Apart (field otherName otherGet otherSet otherReader) := by
  intro change other sets otherSets current
  obtain ⟨value, rfl⟩ := sets.exists_value
  obtain ⟨otherValue, rfl⟩ := otherSets.exists_value
  exact ⟨congrArg Option.isSome (kept _ current), congrArg Option.isSome (otherKept _ current),
    commute _ _ current⟩

/-- A field is set once a value is stored in its place. -/
theorem field_sets (stored : ∀ value current, get (set value current) = value)
    (change : draft → draft) (sets : (field name get set reader).Sets change) (current : draft) :
    (field name get set reader).isSet (change current) = true := by
  obtain ⟨value, rfl⟩ := sets.exists_value
  exact congrArg Option.isSome (stored (some value) current)

/-- The member of a field that is kept in a place of the draft. -/
theorem Drafts.field {shape : Shape draft α} {current final : draft} {value : Value} {result : β}
    {members : List (String × Value)}
    (found : shape.HasField name (Json.field name get set reader)) (unset : get current = none)
    (discerns : reader.Discerns value result)
    (later : Drafts shape (set (some result) current) members final) :
    Drafts shape current ((name, value) :: members) final :=
  .cons found (congrArg Option.isSome unset) (discerns.map fun value => set (some value)) later

/-- A required field that has a value was found. -/
theorem isSome_of_required {value : β} {found : Option β}
    (complete : required name found = .ok value) : found.isSome = true := by
  cases found with
  | some => rfl
  | none => cases complete

end Places

/-! ## Reading members -/

namespace Reader

variable {shape : Shape draft α} {current final : draft} {key : String} {field : Field draft}
  {following : List (List Char)} {text : List Char}

/-- The colon behind a key is taken, with the blanks in front of it. -/
theorem colon_of_spaced {lexemes : List (List Char)} (spaced : Spaced ([':'] :: lexemes) text) :
    ∃ rest, colon text = .done () rest ∧ Spaced lexemes rest := by
  obtain ⟨rest, read, later⟩ := next_of_spaced (by decide) spaced
  refine ⟨rest, ?_, later⟩
  rw [colon, bind_of_done read]
  rfl

/-- Behind its key and the colon, a member is read like its field. -/
theorem member_of_spaced {value : Value} (plain : IsPlain key.toList)
    (found : shape.HasField key field) (unset : field.isSet current = false)
    (spaced : Spaced ([':'] :: (value.lexemes ++ following)) text) :
    ∃ rest, Spaced (value.lexemes ++ following) rest ∧ ∀ result behind,
      member shape current ((Value.inQuotes key).toList ++ text) = .done result behind ↔
        ∃ set, field.read rest = .done set behind ∧ result = set current := by
  obtain ⟨rest, read, later⟩ := colon_of_spaced spaced
  refine ⟨rest, later, fun result behind => ?_⟩
  unfold Shape.HasField at found
  rw [toList_inQuotes, member, skip_bind, List.cons_append, List.tail_cons, List.append_assoc,
    List.singleton_append, bind_of_done (string_of_plain plain text)]
  simp only [String.ofList_toList, found, unset]
  rw [if_neg Bool.false_ne_true, bind_of_done read, bind_eq_done_iff]
  constructor
  · rintro ⟨set, middle, readField, finished⟩
    cases finished
    exact ⟨set, readField, rfl⟩
  · rintro ⟨set, readField, rfl⟩
    exact ⟨set, behind, readField, rfl⟩

/-- From the quote of its key on, a member makes a turn of the loop. -/
theorem againMember_of_spaced (lawful : shape.Lawful) {value : Value}
    (found : shape.HasField key field) (unset : field.isSet current = false)
    (spaced : Spaced ((Value.inQuotes key).toList :: [':'] :: (value.lexemes ++ following)) text) :
    ∃ start rest, next text = .done (some '"') start ∧
      Spaced (value.lexemes ++ following) rest ∧ ∀ turn behind,
        (member shape current >>= fun after => pure (.again (true, after)) :
            Reader (Turn (Bool × draft) α)) start = .done turn behind ↔
          ∃ set, field.read rest = .done set behind ∧ turn = .again (true, set current) := by
  have plain := found.plain lawful
  rw [toList_inQuotes] at spaced
  obtain ⟨inner, read, spaced⟩ := next_of_spaced (by decide) spaced
  rw [← List.cons_append, ← toList_inQuotes] at read
  obtain ⟨rest, later, reads⟩ := member_of_spaced plain found unset spaced
  refine ⟨_, rest, read, later, fun turn behind => ?_⟩
  rw [bind_eq_done_iff]
  constructor
  · rintro ⟨after, middle, readMember, finished⟩
    cases finished
    obtain ⟨set, readField, rfl⟩ := (reads _ _).mp readMember
    exact ⟨set, readField, rfl⟩
  · rintro ⟨set, readField, rfl⟩
    exact ⟨set current, behind, (reads _ _).mpr ⟨set, readField, rfl⟩, rfl⟩

/-- A member is read like its field, with a comma in front unless it is the first one. -/
theorem memberTurn_of_spaced (lawful : shape.Lawful) {later : Bool} {value : Value}
    (found : shape.HasField key field) (unset : field.isSet current = false)
    (spaced : Spaced (Value.separator later ++
      (Value.inQuotes key).toList :: [':'] :: (value.lexemes ++ following)) text) :
    ∃ rest, Spaced (value.lexemes ++ following) rest ∧ ∀ turn behind,
      memberTurn shape (later, current) text = .done turn behind ↔
        ∃ set, field.read rest = .done set behind ∧ turn = .again (true, set current) := by
  cases later with
  | false =>
    obtain ⟨start, rest, read, spaced, reads⟩ := againMember_of_spaced lawful found unset spaced
    refine ⟨rest, spaced, fun turn behind => ?_⟩
    rw [memberTurn, bind_of_done read]
    exact reads turn behind
  | true =>
    obtain ⟨inner, readComma, spaced⟩ := next_of_spaced (by decide) spaced
    obtain ⟨start, rest, read, spaced, reads⟩ := againMember_of_spaced lawful found unset spaced
    refine ⟨rest, spaced, fun turn behind => ?_⟩
    rw [memberTurn, bind_of_done readComma]
    simp +decide only [if_true]
    rw [skip_bind, List.tail_cons, List.nil_append, bind_of_done read]
    exact reads turn behind

/-- A value may stand in front of a closing brace. -/
theorem delimited_brace (following : List (List Char)) : Delimited (['\x7d'] :: following) := by
  intro lexeme first
  obtain rfl : ['\x7d'] = lexeme := Option.some.inj first
  exact Or.inr rfl

/-- A value may stand in front of further members, which begin with a comma. -/
theorem delimited_memberLexemes (delimited : Delimited following)
    (members : List (String × Value)) :
    Delimited (Value.memberLexemes true members ++ following) := by
  cases members with
  | nil => exact delimited
  | cons member rest =>
    intro lexeme first
    obtain rfl : [','] = lexeme := Option.some.inj first
    exact Or.inl rfl

/-- The loop takes a turn for every member, and is left with the draft of the members. -/
theorem turns_of_drafts (lawful : shape.Lawful) {front : List (String × Value)}
    (drafts : Drafts shape current front final) (delimited : Delimited following)
    (back : List (String × Value)) {later : Bool}
    (spaced : Spaced (Value.memberLexemes later (front ++ back) ++ following) text) (more : Nat) :
    ∃ laterOn rest, Spaced (Value.memberLexemes laterOn back ++ following) rest ∧
      turns (memberTurn shape) (front.length + more) (later, current) text =
        turns (memberTurn shape) more (laterOn, final) rest := by
  induction drafts generalizing later text with
  | nil current => exact ⟨later, text, spaced, by rw [List.length_nil, Nat.zero_add]⟩
  | @cons current final key value field set members found unset discerns _ inductionHypothesis =>
    rw [List.cons_append, Value.memberLexemes, List.append_assoc, List.cons_append,
      List.cons_append, List.append_assoc] at spaced
    obtain ⟨middle, spaced, turn⟩ := memberTurn_of_spaced lawful found unset spaced
    obtain ⟨rest, read, spaced⟩ :=
      discerns.reads _ _ (delimited_memberLexemes delimited _) spaced
    obtain ⟨laterOn, final, spaced, run⟩ := inductionHypothesis spaced
    refine ⟨laterOn, final, spaced, ?_⟩
    rw [List.length_cons, Nat.add_right_comm,
      turns_again ((turn _ _).mpr ⟨set, read, rfl⟩), run]

/-- At the closing brace, the draft is completed. -/
theorem memberTurn_of_end {later : Bool} (spaced : Spaced (['\x7d'] :: following) text) :
    ∃ rest, Spaced following rest ∧ ∀ turn behind,
      memberTurn shape (later, current) text = .done turn behind ↔
        ∃ value, shape.build current = .ok value ∧ turn = .finish value ∧
          behind = '\x7d' :: rest := by
  obtain ⟨rest, read, later⟩ := next_of_spaced (by decide) spaced
  refine ⟨rest, later, fun turn behind => ?_⟩
  rw [memberTurn, bind_of_done read]
  simp only
  rw [bind_eq_done_iff, complete]
  cases built : shape.build current with
  | ok value =>
    constructor
    · rintro ⟨result, middle, completed, finished⟩
      cases completed
      cases finished
      exact ⟨value, rfl, rfl, rfl⟩
    · rintro ⟨result, same, rfl, rfl⟩
      cases same
      exact ⟨value, _, rfl, rfl⟩
  | error name =>
    constructor
    · rintro ⟨result, middle, completed, -⟩
      cases completed
    · rintro ⟨result, same, -⟩
      cases same

/-! ## Reading records -/

/-- A text is at least as long as its lexemes. -/
theorem length_flatten_le {lexemes : List (List Char)} (spaced : Spaced lexemes text) :
    lexemes.flatten.length ≤ text.length := by
  induction spaced with
  | finish => simp
  | lexeme =>
    simp only [List.flatten_cons, List.length_append]
    omega

/-- There are at least as many characters as members, so the loop has enough turns. -/
theorem length_le_memberLexemes (later : Bool) (members : List (String × Value)) :
    members.length ≤ (Value.memberLexemes later members).flatten.length := by
  induction members generalizing later with
  | nil => exact Nat.zero_le _
  | cons member rest inductionHypothesis =>
    have shorter := inductionHypothesis true
    simp only [Value.memberLexemes, List.flatten_append, List.flatten_cons, List.length_append,
      List.length_cons, List.length_nil]
    omega

/-- A closed part is done only if its content is. -/
theorem closed_eq_done {content : Reader α} {close : Reader Unit} {value : α}
    {rest : List Char} (read : closed content close text = .done value rest) :
    ∃ middle, content text = .done value middle := by
  rw [closed] at read
  split at read
  · rename_i found middle inner
    obtain ⟨-, place, -, finished⟩ := bind_eq_done_iff.mp read
    cases finished
    exact ⟨middle, inner⟩
  · cases read
  · split at read <;> cases read

/-- A record is read member by member as long as these make up a draft. -/
theorem record_of_drafts (lawful : shape.Lawful) {front : List (String × Value)}
    (drafts : Drafts shape shape.empty front final) (back : List (String × Value))
    (spaced : Spaced ((Value.object (front ++ back)).lexemes ++ following) text) :
    ∃ inner rest later more, record shape text = closed (members shape) endObject inner ∧
      Spaced (Value.memberLexemes later back ++ ['\x7d'] :: following) rest ∧
      members shape inner = turns (memberTurn shape) (more + 1) (later, final) rest := by
  rw [Value.lexemes, List.cons_append, List.cons_append, List.append_assoc,
    List.singleton_append] at spaced
  obtain ⟨inner, read, spaced⟩ := next_of_spaced (by decide) spaced
  have enough : front.length ≤ inner.length := by
    have written := length_flatten_le spaced
    have members := length_le_memberLexemes false (front ++ back)
    simp only [List.flatten_append, List.length_append] at written members
    omega
  obtain ⟨more, length⟩ := Nat.exists_eq_add_of_le enough
  obtain ⟨later, rest, spaced, run⟩ :=
    turns_of_drafts lawful drafts (delimited_brace following) back spaced (more + 1)
  refine ⟨inner, rest, later, more, ?_, spaced, ?_⟩
  · rw [record, bind_of_done read]
    rfl
  · rw [← run, members, loop, length, Nat.add_assoc]

/-- Whatever comes behind the members of a draft, it has to make another turn. -/
theorem exists_turn_of_record (lawful : shape.Lawful) {front : List (String × Value)}
    (drafts : Drafts shape shape.empty front final) (back : List (String × Value))
    (spaced : Spaced ((Value.object (front ++ back)).lexemes ++ following) text) {result : α}
    {place : List Char} (finished : record shape text = .done result place) :
    ∃ later rest turn behind,
      Spaced (Value.memberLexemes later back ++ ['\x7d'] :: following) rest ∧
      memberTurn shape (later, final) rest = .done turn behind := by
  obtain ⟨inner, rest, later, more, read, spaced, run⟩ :=
    record_of_drafts lawful drafts back spaced
  rw [read] at finished
  obtain ⟨middle, completed⟩ := closed_eq_done finished
  rw [run, turns, bind_eq_done_iff] at completed
  obtain ⟨turn, behind, taken, -⟩ := completed
  exact ⟨later, rest, turn, behind, spaced, taken⟩

/-- A record is read from its members. -/
theorem record_reads (lawful : shape.Lawful) {written : List (String × Value)} {result : α}
    (drafts : Drafts shape shape.empty written final) (built : shape.build final = .ok result) :
    (record shape).Reads (Value.object written).lexemes result := by
  intro following text delimited spaced
  rw [← List.append_nil written] at spaced
  obtain ⟨inner, rest, later, more, read, spaced, run⟩ :=
    record_of_drafts lawful drafts [] spaced
  obtain ⟨behind, spaced, turn⟩ := memberTurn_of_end spaced
  refine ⟨behind, ?_, spaced⟩
  rw [turns_finish ((turn _ _).mpr ⟨result, built, rfl, rfl⟩)] at run
  rw [read, closed, run]
  rfl

/-- A record is not read if a field is missing. -/
theorem record_fails_of_missing (lawful : shape.Lawful) {written : List (String × Value)}
    (drafts : Drafts shape shape.empty written final) (listed : field ∈ shape.fields)
    (unset : field.isSet final = false) :
    (record shape).Fails (Value.object written).lexemes := by
  intro following text delimited spaced value place finished
  rw [← List.append_nil written] at spaced
  obtain ⟨later, rest, taken, behind, spaced, took⟩ :=
    exists_turn_of_record lawful drafts [] spaced finished
  obtain ⟨closing, -, turn⟩ := memberTurn_of_end spaced
  obtain ⟨result, built, -⟩ := (turn _ _).mp took
  rw [lawful.complete final result built field listed] at unset
  cases unset

/-- A record is not read if the value of a field is not. -/
theorem record_fails_of_member (lawful : shape.Lawful) {front back : List (String × Value)}
    {value : Value} (drafts : Drafts shape shape.empty front final)
    (found : shape.HasField key field) (unset : field.isSet final = false)
    (fails : field.read.Fails value.lexemes) :
    (record shape).Fails (Value.object (front ++ (key, value) :: back)).lexemes := by
  intro following text delimited spaced result place finished
  obtain ⟨later, rest, taken, behind, spaced, took⟩ :=
    exists_turn_of_record lawful drafts ((key, value) :: back) spaced finished
  rw [Value.memberLexemes, List.append_assoc, List.cons_append, List.cons_append,
    List.append_assoc] at spaced
  obtain ⟨inValue, spaced, turn⟩ := memberTurn_of_spaced lawful found unset spaced
  obtain ⟨set, readField, -⟩ := (turn _ _).mp took
  exact fails _ _ (delimited_memberLexemes (delimited_brace following) back) spaced set behind
    readField

/-- A record is read from its members in any order, and not once it is spoiled. -/
theorem record_discerns (lawful : shape.Lawful) {members written : List (String × Value)}
    {result : α} (drafts : Drafts shape shape.empty members final)
    (built : shape.build final = .ok result) (permutation : members.Perm written) :
    (record shape).Discerns (.object written) result where
  reads := record_reads lawful (drafts.perm lawful permutation) built
  fails := by
    intro spoiled damage
    have drafts := drafts.perm lawful permutation
    cases damage with
    | removed front member back =>
      -- The member that is gone could as well have been the last one.
      have last : (front ++ member :: back).Perm (front ++ back ++ [member]) :=
        List.perm_middle.trans (List.perm_append_singleton member (front ++ back)).symm
      obtain ⟨middle, before, after⟩ := (drafts.perm lawful last).exists_middle
      obtain - | ⟨found, unset, -, -⟩ := after
      exact record_fails_of_missing lawful before found.mem unset
    | inside front key back within =>
      obtain ⟨middle, before, after⟩ := drafts.exists_middle
      obtain - | ⟨found, unset, discerns, -⟩ := after
      exact record_fails_of_member lawful before found unset (discerns.fails _ within)

end Reader

end StackLowering.Json
