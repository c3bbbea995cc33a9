import StackLowering.Proofs.Labels.Following
import Mathlib.Data.List.Dedup

/-!
# The attempts of a supply

A supply that is asked for a label tries one counter value after the other, and an
attempt fails when its label is present. `answers_issue` says where the attempts end,
from whatever state they begin. A `Ledger` goes along with a supply from its
beginning and notes what is issued, what is declared and which attempts fail. It is
`Balanced` after every demand: a failed attempt is the fault of a declared label, and
of each such label only once, because the labels of different attempts end with
different numbers. So the counter never gets further than the labels issued and the
labels declared, and a supply lasts as long as these are fewer than its counter
values (`attempts_accounted`).
-/

namespace StackLowering

namespace LabelSupply

/-! ## One request -/

/-- Without counter values left, a supply issues no label and stays as it is. -/
theorem issue_of_next_eq_limit {supply : LabelSupply} (spent : supply.next = limit)
    (unit : String) (line : Nat) (purpose : String) :
    supply.issue unit line purpose = (none, supply) := by
  cases answer : supply.issue unit line purpose with
  | mk outcome after =>
    cases outcome with
    | some label =>
      obtain ⟨counter, least, -, -⟩ := leastFree_of_issue answer
      have low := least.low
      have high := least.high
      omega
    | none =>
      obtain ⟨-, next_eq, present_eq⟩ := issue_eq_none answer
      cases supply
      cases after
      simp_all

/-- What becomes of a request for a label. -/
inductive Answers (supply : LabelSupply) (unit : String) (line : Nat) (purpose : String) :
    Option String × LabelSupply → Prop where
  | issued {counter : Nat} {after : LabelSupply}
      (least : supply.LeastFree unit line purpose counter) (next_eq : after.next = counter + 1)
      (present : ∀ other, after.contains other = true ↔
        other = spell unit line purpose counter ∨ supply.contains other = true) :
      Answers supply unit line purpose (some (spell unit line purpose counter), after)
  | exhausted {after : LabelSupply}
      (taken : ∀ counter, supply.next ≤ counter → counter < limit →
        supply.contains (spell unit line purpose counter) = true)
      (next_eq : after.next = limit) (present_eq : after.present = supply.present) :
      Answers supply unit line purpose (none, after)

/-- A supply issues the label with the least counter value that is left and free, or it is
exhausted. -/
theorem answers_issue (supply : LabelSupply) (unit : String) (line : Nat) (purpose : String) :
    supply.Answers unit line purpose (supply.issue unit line purpose) := by
  cases answer : supply.issue unit line purpose with
  | mk outcome after =>
    cases outcome with
    | some label =>
      obtain ⟨counter, least, rfl, next_eq⟩ := leastFree_of_issue answer
      obtain ⟨-, -, present⟩ := issue_eq_some answer
      exact .issued least next_eq present
    | none =>
      obtain ⟨taken, next_eq, present_eq⟩ := issue_eq_none answer
      exact .exhausted taken next_eq present_eq

/-! ## Failed attempts -/

/-- The counter values that a search passes over because they are taken. -/
def passedOver (taken : Nat → Bool) : (remaining : Nat) → List Nat
  | 0 => []
  | remaining + 1 =>
    let counter := limit - (remaining + 1)
    if taken counter then counter :: passedOver taken remaining else []

/-- The labels that a supply tries in vain on a request. -/
def failedAttempts (supply : LabelSupply) (unit : String) (line : Nat) (purpose : String) :
    List String :=
  (passedOver (fun counter => supply.contains (spell unit line purpose counter))
    (limit - supply.next)).map (spell unit line purpose)

/-- Only counters that are taken are passed over. -/
theorem taken_of_mem_passedOver {taken : Nat → Bool} {remaining counter : Nat}
    (member : counter ∈ passedOver taken remaining) : taken counter = true := by
  induction remaining with
  | zero => cases member
  | succ remaining inductionHypothesis =>
    simp only [passedOver] at member
    split at member
    · rename_i here
      rcases List.mem_cons.mp member with rfl | later
      · exact here
      · exact inductionHypothesis later
    · cases member

/-- A search passes over all values from its first one up to the one at which it ends. -/
theorem passedOver_eq (taken : Nat → Bool) {remaining : Nat} (bounded : remaining ≤ limit) :
    limit - remaining ≤ (search taken remaining).getD limit ∧
      passedOver taken remaining = List.range' (limit - remaining)
        ((search taken remaining).getD limit - (limit - remaining)) := by
  induction remaining with
  | zero => simp [search, passedOver]
  | succ remaining inductionHypothesis =>
    obtain ⟨low, passed⟩ := inductionHypothesis (by omega)
    have following : limit - remaining = limit - (remaining + 1) + 1 := by omega
    simp only [search, passedOver]
    split
    · refine ⟨by omega, ?_⟩
      generalize (search taken remaining).getD limit = stop at low passed ⊢
      have count : stop - (limit - (remaining + 1)) = stop - (limit - remaining) + 1 := by omega
      rw [passed, count, List.range'_succ, following]
    · simp

section Attempts

variable (supply : LabelSupply) (unit : String) (line : Nat) (purpose : String)

/-- A request leaves the counter where its search ends, or behind that value if it is issued. -/
theorem next_issue_eq_search :
    (supply.issue unit line purpose).2.next =
      (search (fun counter => supply.contains (spell unit line purpose counter))
        (limit - supply.next)).getD limit + (supply.issue unit line purpose).1.toList.length := by
  unfold issue
  dsimp only
  split
  · rename_i counter found
    simp [found]
  · rename_i missing
    simp [missing]

/-- The failed attempts go through the counter values from the next one on, and every attempt takes
one value, whether it fails or not. -/
theorem failedAttempts_spec :
    supply.failedAttempts unit line purpose =
        (List.range' supply.next (supply.failedAttempts unit line purpose).length).map
          (spell unit line purpose) ∧
      (supply.issue unit line purpose).2.next =
        supply.next + (supply.failedAttempts unit line purpose).length +
          (supply.issue unit line purpose).1.toList.length := by
  obtain ⟨low, passed⟩ := passedOver_eq
    (fun counter => supply.contains (spell unit line purpose counter))
    (Nat.sub_le limit supply.next)
  rw [limit_sub_remaining] at low passed
  rw [next_issue_eq_search, failedAttempts, passed, List.length_map, List.length_range']
  exact ⟨rfl, by omega⟩

/-- No attempt fails twice in one request. -/
theorem nodup_failedAttempts : (supply.failedAttempts unit line purpose).Nodup := by
  rw [(supply.failedAttempts_spec unit line purpose).1]
  exact List.Nodup.map (spell_injective unit line purpose) List.nodup_range'

variable {supply unit line purpose} {label : String}

/-- An attempt fails for a label that is present and that ends with a counter value which the
request uses up. -/
theorem of_mem_failedAttempts (member : label ∈ supply.failedAttempts unit line purpose) :
    supply.contains label = true ∧ supply.next ≤ ending label ∧
      ending label < (supply.issue unit line purpose).2.next := by
  obtain ⟨attempts, next_eq⟩ := supply.failedAttempts_spec unit line purpose
  constructor
  · obtain ⟨counter, passed, rfl⟩ := List.mem_map.mp member
    exact taken_of_mem_passedOver passed
  · rw [attempts] at member
    obtain ⟨counter, passed, rfl⟩ := List.mem_map.mp member
    rw [List.mem_range'_1] at passed
    rw [ending_spell]
    omega

/-- What is present after a request was present before it, or ends with a number that is used up. -/
theorem contains_or_ending_lt (present : (supply.issue unit line purpose).2.contains label = true) :
    supply.contains label = true ∨ ending label < (supply.issue unit line purpose).2.next := by
  generalize answered : supply.issue unit line purpose = answer at present ⊢
  have answers := supply.answers_issue unit line purpose
  rw [answered] at answers
  cases answers with
  | issued least next_eq presentAfter =>
    rcases (presentAfter label).mp present with rfl | earlier
    · rw [ending_spell, next_eq]
      exact Or.inr (Nat.lt_succ_self _)
    · exact Or.inl earlier
  | exhausted taken next_eq present_eq =>
    rw [contains, present_eq] at present
    exact Or.inl present

end Attempts

/-! ## Many requests -/

/-- What a supply can be asked for. -/
inductive Demand where
  | issue (unit : String) (line : Nat) (purpose : String)
  | declare (label : String)
deriving DecidableEq, Repr

/-- A supply with the labels that it has issued, those of its failed attempts and those that were
declared, in order and as often as it happened. -/
structure Ledger where
  supply : LabelSupply := {}
  issued : List String := []
  failed : List String := []
  declared : List String := []
deriving DecidableEq, Repr

namespace Ledger

/-- Meets a demand, and notes what happens. -/
def record (ledger : Ledger) : Demand → Ledger
  | .issue unit line purpose =>
    let answer := ledger.supply.issue unit line purpose
    { ledger with
      supply := answer.2
      issued := ledger.issued ++ answer.1.toList
      failed := ledger.failed ++ ledger.supply.failedAttempts unit line purpose }
  | .declare label =>
    { ledger with
      supply := ledger.supply.declare label
      declared := ledger.declared ++ [label] }

/-- Meets demands one after the other. -/
def recordAll (ledger : Ledger) (demands : List Demand) : Ledger := demands.foldl record ledger

/-- The counter has a value for each issued label and each failed attempt. A label fails one attempt
at most, and it has been declared; all others that are present end with a number already used up. -/
structure Balanced (ledger : Ledger) : Prop where
  next_eq : ledger.supply.next = ledger.issued.length + ledger.failed.length
  distinct : ledger.failed.Nodup
  blamed : ∀ label ∈ ledger.failed, label ∈ ledger.declared
  usedUp : ∀ label ∈ ledger.failed, ending label < ledger.supply.next
  present : ∀ label, ledger.supply.contains label = true →
    label ∈ ledger.declared ∨ ending label < ledger.supply.next

variable {ledger : Ledger}

/-- Issuing a label keeps the books balanced. -/
theorem Balanced.issue (balanced : ledger.Balanced) (unit : String) (line : Nat)
    (purpose : String) : (ledger.record (.issue unit line purpose)).Balanced := by
  obtain ⟨-, next_eq⟩ := ledger.supply.failedAttempts_spec unit line purpose
  have before := balanced.next_eq
  have attempts : ∀ label ∈ ledger.supply.failedAttempts unit line purpose, _ :=
    fun label => of_mem_failedAttempts
  constructor
  · simp only [record, List.length_append]
    omega
  · refine balanced.distinct.append (nodup_failedAttempts ..) fun label earlier now => ?_
    -- What failed before ends with a number used up by then.
    have passed := balanced.usedUp label earlier
    have pending := (attempts label now).2.1
    omega
  · intro label member
    rcases List.mem_append.mp member with earlier | now
    · exact balanced.blamed label earlier
    · obtain ⟨contained, pending, -⟩ := attempts label now
      exact (balanced.present label contained).resolve_right (Nat.not_lt.mpr pending)
  · intro label member
    rcases List.mem_append.mp member with earlier | now
    · have passed := balanced.usedUp label earlier
      simp only [record]
      omega
    · exact (attempts label now).2.2
  · intro label contained
    rcases contains_or_ending_lt contained with earlier | passed
    · refine (balanced.present label earlier).imp_right fun passed => ?_
      simp only [record]
      omega
    · exact Or.inr passed

/-- Declaring a name keeps the books balanced. -/
theorem Balanced.declare (balanced : ledger.Balanced) (label : String) :
    (ledger.record (.declare label)).Balanced where
  next_eq := balanced.next_eq
  distinct := balanced.distinct
  blamed := fun other member => List.mem_append_left _ (balanced.blamed other member)
  usedUp := balanced.usedUp
  present := by
    intro other contained
    rcases (ledger.supply.contains_declare label other).mp contained with rfl | earlier
    · exact Or.inl (List.mem_append_right _ List.mem_cons_self)
    · exact (balanced.present other earlier).imp_left (List.mem_append_left _)

/-- A ledger that is balanced stays so. -/
theorem Balanced.recordAll (balanced : ledger.Balanced) (demands : List Demand) :
    (ledger.recordAll demands).Balanced := by
  induction demands generalizing ledger with
  | nil => exact balanced
  | cons demand rest inductionHypothesis =>
    apply inductionHypothesis
    cases demand with
    | issue unit line purpose => exact balanced.issue unit line purpose
    | declare label => exact balanced.declare label

/-- A new supply has nothing to account for. -/
theorem balanced_new : Balanced {} :=
  ⟨rfl, List.nodup_nil, by simp, by simp, by simp [contains]⟩

/-- There are no more failed attempts than there are declared labels. -/
theorem Balanced.length_failed_le (balanced : ledger.Balanced) :
    ledger.failed.length ≤ ledger.declared.dedup.length := by
  apply List.Subperm.length_le
  apply balanced.distinct.subperm
  intro label member
  exact List.mem_dedup.mpr (balanced.blamed label member)

/-- The counter never gets ahead of the issued labels and the declared names together. -/
theorem Balanced.next_le (balanced : ledger.Balanced) :
    ledger.supply.next ≤ ledger.issued.length + ledger.declared.dedup.length := by
  have next_eq := balanced.next_eq
  have failures := balanced.length_failed_le
  omega

/-- A supply lasts as long as its labels, issued or declared, are fewer than its counter values. -/
theorem Balanced.issues (balanced : ledger.Balanced)
    (few : ledger.issued.length + ledger.declared.dedup.length < limit)
    (unit : String) (line : Nat) (purpose : String) :
    ∃ label after, ledger.supply.issue unit line purpose = (some label, after) := by
  cases answer : ledger.supply.issue unit line purpose with
  | mk outcome after =>
    cases outcome with
    | some label => exact ⟨label, after, rfl⟩
    | none =>
      -- Had the request failed, the counter would have used up all its values.
      have bound := (balanced.issue unit line purpose).next_le
      obtain ⟨-, next_eq, -⟩ := issue_eq_none answer
      simp only [record, answer, Option.toList_none, List.append_nil] at bound
      omega

/-- No demand brings a counter value back. -/
theorem next_recordAll_of_spent (spent : ledger.supply.next = limit) (demands : List Demand) :
    (ledger.recordAll demands).supply.next = limit := by
  induction demands generalizing ledger with
  | nil => exact spent
  | cons demand rest inductionHypothesis =>
    apply inductionHypothesis
    cases demand with
    | issue unit line purpose =>
      simp only [record, issue_of_next_eq_limit spent unit line purpose]
      exact spent
    | declare label => exact spent

end Ledger

/-- Whatever is asked of a supply meanwhile, it issues no label any more and stays as it is when it
is asked for one. -/
def IsExhausted (supply : LabelSupply) : Prop :=
  ∀ (demands : List Demand) (unit : String) (line : Nat) (purpose : String),
    let later := (Ledger.recordAll { supply := supply } demands).supply
    later.issue unit line purpose = (none, later)

/-- A request that is refused leaves an exhausted supply. -/
theorem isExhausted_of_issue {supply : LabelSupply} {unit purpose : String} {line : Nat}
    (refused : (supply.issue unit line purpose).1 = none) :
    (supply.issue unit line purpose).2.IsExhausted := by
  obtain ⟨-, next_eq, -⟩ := issue_eq_none (Prod.ext refused rfl)
  intro demands otherUnit otherLine otherPurpose
  exact issue_of_next_eq_limit (Ledger.next_recordAll_of_spent next_eq demands) _ _ _

/-- In every state and for every unit, line and purpose, a supply issues the label of the least
counter value left that is free, moves its counter behind this value and adds this label only; if
there is no such value, the fault is a lack of labels, only the counter changes, and no later
request gets a label. Whatever is asked of a new supply, no label makes two attempts fail, and only declared
labels make any. So the counter, which has passed one value for each issued label and each failed
attempt, is bounded by the numbers of labels issued and of different labels declared, and as long as
these stay below the limit, the next request gets its label. -/
theorem attempts_accounted (supply : LabelSupply) (unit : String) (line : Nat) (purpose : String)
    (demands : List Demand) :
    supply.Answers unit line purpose (supply.issue unit line purpose) ∧
      (Context.freshLabel ⟨unit, line, supply⟩ purpose).1 =
        (supply.issue unit line purpose).1.elim (.error .labelsExhausted) .ok ∧
      ((supply.issue unit line purpose).1 = none →
        (supply.issue unit line purpose).2.IsExhausted) ∧
      let ledger := Ledger.recordAll {} demands
      ledger.failed.Nodup ∧ (∀ label ∈ ledger.failed, label ∈ ledger.declared) ∧
        ledger.supply.next = ledger.issued.length + ledger.failed.length ∧
        ledger.supply.next ≤ ledger.issued.length + ledger.declared.dedup.length ∧
        (ledger.issued.length + ledger.declared.dedup.length < limit →
          ∃ label after, ledger.supply.issue unit line purpose = (some label, after)) := by
  have balanced := Ledger.balanced_new.recordAll demands
  refine ⟨supply.answers_issue unit line purpose, ?_, isExhausted_of_issue, balanced.distinct,
    balanced.blamed, balanced.next_eq, balanced.next_le,
    fun few => balanced.issues few unit line purpose⟩
  unfold Context.freshLabel
  split
  · rename_i issued
    rw [issued]
    rfl
  · rename_i refused
    rw [refused]
    rfl

/-- Two declared names imitate the first labels of a comparison. Each of them makes one attempt
fail, and after the second comparison neither is in the way any more. -/
theorem imitations_accounted :
    let ledger := Ledger.recordAll {}
      [.declare "Main_1_lt_0", .declare "Main_1_lt_1", .declare "Main_1_lt_0",
        .issue "Main" 1 "lt", .issue "Main" 1 "lt"]
    let last := (LabelSupply.startingAt limit).issue "Main" 1 "lt"
    ledger.failed = ["Main_1_lt_0", "Main_1_lt_1"] ∧
      ledger.issued = ["Main_1_lt_2", "Main_1_lt_3"] ∧
      (∃ label after, ledger.supply.issue "Main" 1 "lt" = (some label, after)) ∧
      last.1 = none ∧ last.2.IsExhausted := by
  have accounted := attempts_accounted (LabelSupply.startingAt limit) "Main" 1 "lt"
    [.declare "Main_1_lt_0", .declare "Main_1_lt_1", .declare "Main_1_lt_0",
      .issue "Main" 1 "lt", .issue "Main" 1 "lt"]
  obtain ⟨-, -, exhausted, -, -, -, -, issues⟩ := accounted
  exact ⟨by decide +kernel, by decide +kernel, issues (by decide +kernel), by decide +kernel,
    exhausted (by decide +kernel)⟩

end LabelSupply

end StackLowering
