import Proforma.Proofs.Number.Decimal
import Proforma.Proofs.Number.Value
import Proforma.Scenario.Reply

/-!
# Integers in replies

A field of a reply denotes an integer when it is a number of that value, or a text that is a
literal of it once trimmed (`Denotes`). What 64 bits hold is read as it is. A text beyond that is
absent, but a whole number beyond it is not: the end of the range is read in its place (`Beyond`).
So a reply counts as stored not only under the positive integer that its identifier denotes, but
also when the identifier is too large to be one.
-/

namespace Proforma

open Number

theorem Number.toInt64?_eq_some_iff {z : ℤ} {n : Int64} : toInt64? z = some n ↔ z = n.toInt := by
  unfold toInt64?
  constructor
  · intro h
    rw [Option.ite_none_right_eq_some] at h
    obtain ⟨⟨hlo, hhi⟩, hn⟩ := h
    rw [← Option.some.inj hn, Int64.toInt_ofInt_of_le hlo hhi]
  · rintro rfl
    rw [if_pos ⟨n.le_toInt, n.toInt_lt⟩, Int64.ofInt_toInt]

/-- A literal is read as a 64-bit integer if it denotes one. -/
theorem Number.int64Literal?_eq_some_iff {cs : List Char} {n : Int64} :
    int64Literal? cs = some n ↔ IntegerLiteral cs n.toInt := by
  rw [← integerLiteral?_iff]
  unfold int64Literal?
  simp only [Option.bind_eq_bind, Option.bind_eq_some_iff, toInt64?_eq_some_iff]
  exact exists_eq_right

namespace Json

/-- The integer that a value denotes. -/
inductive Denotes : Json → ℤ → Prop where
  | number {v : JsonNumber} {z : ℤ} : v.value = z → Denotes (.number v) z
  | text {s : String} {z : ℤ} : IntegerLiteral (Text.trimChars s.toList) z → Denotes (.string s) z

/-- The end of the range of 64 bits that a whole number lies beyond. -/
inductive Beyond : Json → Int64 → Prop where
  | above {v : JsonNumber} {z : ℤ} : v.value = z → 2 ^ 63 ≤ z → Beyond (.number v) Int64.maxValue
  | below {v : JsonNumber} {z : ℤ} : v.value = z → z < -2 ^ 63 → Beyond (.number v) Int64.minValue

/-- The nearest 64-bit integer is the integer itself or an end of the range. -/
theorem eq_clampInt64_iff (n : Int64) (z : ℤ) :
    n = clampInt64 z ↔
      z = n.toInt ∨ 2 ^ 63 ≤ z ∧ n = Int64.maxValue ∨ z < -2 ^ 63 ∧ n = Int64.minValue := by
  have hlo := n.le_toInt
  have hhi := n.toInt_lt
  have hmax : Int64.maxValue.toInt = 2 ^ 63 - 1 := rfl
  have hmin : Int64.minValue.toInt = -2 ^ 63 := rfl
  rw [← Int64.toInt_inj, ← Int64.toInt_inj, ← Int64.toInt_inj, toInt_clampInt64, hmax, hmin]
  omega

theorem integer?_eq_some_iff (j : Json) (n : Int64) :
    j.integer? = some n ↔ j.Denotes n.toInt ∨ j.Beyond n := by
  cases j with
  | number v =>
    show integerOfNumber? v = some n ↔ _
    rw [integerOfNumber?_eq_some_iff]
    constructor
    · rintro ⟨z, hvalue, hn⟩
      rcases (eq_clampInt64_iff n z).mp hn with rfl | ⟨hz, rfl⟩ | ⟨hz, rfl⟩
      · exact .inl (.number hvalue)
      · exact .inr (.above hvalue hz)
      · exact .inr (.below hvalue hz)
    · rintro (h | h)
      · cases h with
        | number hvalue => exact ⟨_, hvalue, (eq_clampInt64_iff _ _).mpr (.inl rfl)⟩
      · cases h with
        | above hvalue hz =>
          exact ⟨_, hvalue, (eq_clampInt64_iff _ _).mpr (.inr (.inl ⟨hz, rfl⟩))⟩
        | below hvalue hz =>
          exact ⟨_, hvalue, (eq_clampInt64_iff _ _).mpr (.inr (.inr ⟨hz, rfl⟩))⟩
  | string s =>
    show int64Literal? (Text.trimChars s.toList) = some n ↔ _
    rw [int64Literal?_eq_some_iff]
    constructor
    · exact fun hliteral => .inl (.text hliteral)
    · rintro (h | h)
      · cases h with
        | text hliteral => exact hliteral
      · cases h
  | _ =>
    constructor
    · nofun
    · rintro (h | h)
      · cases h
      · cases h

/-- What is beyond the range does not denote the end of it. -/
theorem Denotes.not_beyond {j : Json} {n : Int64} (h : j.Denotes n.toInt) : ¬j.Beyond n := by
  intro hbeyond
  cases h with
  | number hvalue =>
    cases hbeyond with
    | above hz hlarge =>
      have hmax : Int64.maxValue.toInt = 2 ^ 63 - 1 := rfl
      have hsame := Int.cast_injective (hvalue.symm.trans hz)
      omega
    | below hz hsmall =>
      have hmin : Int64.minValue.toInt = -2 ^ 63 := rfl
      have hsame := Int.cast_injective (hvalue.symm.trans hz)
      omega
  | text => cases hbeyond

namespace Object

/-- The field of that name denotes the integer. -/
def Says (o : Object) (name : String) (n : Int64) : Prop :=
  ∃ j, NameMap.get? o name = some j ∧ j.Denotes n.toInt

/-- The field of that name is beyond the range, at that end of it. -/
def Exceeds (o : Object) (name : String) (n : Int64) : Prop :=
  ∃ j, NameMap.get? o name = some j ∧ j.Beyond n

/-- The integer that an object gives under a name: the one that the field denotes, or the end of
the range that the field is beyond. -/
def Gives (o : Object) (name : String) (n : Int64) : Prop :=
  o.Says name n ∨ o.Exceeds name n

theorem not_gives_nil (name : String) (n : Int64) : ¬Gives [] name n := by
  rintro (⟨j, hj, -⟩ | ⟨j, hj, -⟩)
  · cases hj
  · cases hj

theorem integer?_eq_some_iff (o : Object) (name : String) (n : Int64) :
    o.integer? name = some n ↔ o.Gives name n := by
  unfold integer? field? Gives Says Exceeds
  rw [Option.bind_eq_bind, Option.bind_eq_some_iff, ← exists_or]
  refine exists_congr fun j => ?_
  rw [Json.integer?_eq_some_iff, ← and_or_left, Option.filter_eq_some_iff]
  constructor
  · rintro ⟨⟨hj, -⟩, hn⟩
    exact ⟨hj, hn⟩
  · rintro ⟨hj, hn⟩
    refine ⟨⟨hj, ?_⟩, hn⟩
    have hread := (Json.integer?_eq_some_iff j n).mpr hn
    simp only [ne_eq, decide_not, Bool.not_eq_true', decide_eq_false_iff_not]
    rintro rfl
    cases hread

/-- An integer is given exactly as the field denotes it unless the field is beyond the range. -/
theorem gives_and_not_exceeds_iff (o : Object) (name : String) (n : Int64) :
    o.Gives name n ∧ ¬o.Exceeds name n ↔ o.Says name n := by
  constructor
  · rintro ⟨hsaid | hexceeds, hnot⟩
    · exact hsaid
    · exact absurd hexceeds hnot
  · rintro ⟨j, hj, hdenotes⟩
    refine ⟨.inl ⟨j, hj, hdenotes⟩, ?_⟩
    rintro ⟨k, hk, hbeyond⟩
    obtain rfl : j = k := Option.some.inj (hj.symm.trans hk)
    exact hdenotes.not_beyond hbeyond

end Object

end Json

open Json

/-- A scenario counts as stored, under a positive identifier, if that is what the reply gives. -/
theorem Scenario.isPersisted_ofReply_iff (p : Json) (n : Int64) :
    (ofReply p).isPersisted = true ∧ (ofReply p).scenarioId = n ↔
      0 < n ∧ ∃ o : Object, p = .object o ∧ o.Gives "scenario_id" n := by
  -- a missing identifier reads as zero, which is not positive
  have hid (o : Object) (hn : 0 < n) :
      (o.integer? "scenario_id").getD 0 = n ↔ o.Gives "scenario_id" n := by
    rw [← Object.integer?_eq_some_iff]
    cases o.integer? "scenario_id" with
    | none => exact ⟨fun h => absurd hn (by rw [← h]; decide), nofun⟩
    | some m => exact ⟨congrArg some, Option.some.inj⟩
  have hstored : (ofReply p).isPersisted = true ∧ (ofReply p).scenarioId = n ↔
      0 < n ∧ ((p.object?.getD []).integer? "scenario_id").getD 0 = n := by
    constructor
    · rintro ⟨hpos, rfl⟩
      exact ⟨of_decide_eq_true hpos, rfl⟩
    · rintro ⟨hpos, rfl⟩
      exact ⟨decide_eq_true hpos, rfl⟩
  rw [hstored]
  refine and_congr_right fun hn => ?_
  rw [hid _ hn]
  cases p with
  | object o => exact ⟨fun h => ⟨o, rfl, h⟩, by rintro ⟨_, ⟨⟩, h⟩; exact h⟩
  | _ => exact ⟨fun h => absurd h (Object.not_gives_nil _ n), by rintro ⟨_, ⟨⟩, -⟩⟩

/-- **Integers in replies are read exactly, unless they are beyond 64 bits**, where the end of the
range is read. So it is for every field, for the identifier under which a scenario counts as stored,
and for all other integers of its parts. -/
theorem integers_of_reply (p : Json) (o : Object) (name : String) (n : Int64) :
    (o.integer? name = some n ↔ o.Gives name n) ∧
      (o.Gives name n ∧ ¬o.Exceeds name n ↔ o.Says name n) ∧
      ((Scenario.ofReply p).isPersisted = true ∧ (Scenario.ofReply p).scenarioId = n ↔
        0 < n ∧ ∃ o : Object, p = .object o ∧ o.Gives "scenario_id" n) ∧
      ((StackSlice.ofReply o).trancheOrder = some n ↔ o.Gives "tranche_order" n) ∧
      ((FacilityInterest.ofReply o).periodsPerYear = some n ↔ o.Gives "periods_per_year" n) ∧
      ((LoanInterest.ofReply o).periodsPerYear = some n ↔ o.Gives "periods_per_year" n) ∧
      ((ConstructionLoan.ofReply o).periodsPerYear = some n ↔ o.Gives "periods_per_year" n) ∧
      ((LoanFacility.ofReply o).periodsPerYear = some n ↔ o.Gives "periods_per_year" n) ∧
      ((LoanFacility.ofReply o).reserveMonths = some n ↔ o.Gives "reserve_months" n) ∧
      ((LoanFacility.ofReply o).amortisationMonths = some n ↔ o.Gives "amortisation_months" n) ∧
      ((SensitivityJob.ofReply o).scenarioId = some n ↔ o.Gives "scenario_id" n) := by
  have hgives (name : String) := Object.integer?_eq_some_iff o name n
  exact ⟨hgives name, Object.gives_and_not_exceeds_iff o name n,
    Scenario.isPersisted_ofReply_iff p n, hgives _, hgives _, hgives _, hgives _, hgives _,
    hgives _, hgives _, hgives _⟩

/-- An identifier that is too large counts as stored, under an integer that it does not denote. -/
theorem isPersisted_of_beyond :
    let v : JsonNumber := .int (2 ^ 63) (by decide)
    let reply : Scenario := .ofReply (.object [("scenario_id", .number v)])
    reply.isPersisted = true ∧ reply.scenarioId = 9223372036854775807 ∧
      ¬Denotes (.number v) 9223372036854775807 := by
  intro v reply
  have hgives : Object.Gives [("scenario_id", .number v)] "scenario_id" 9223372036854775807 :=
    .inr ⟨.number v, rfl, .above rfl le_rfl⟩
  obtain ⟨hstored, hid⟩ := (Scenario.isPersisted_ofReply_iff
    (.object [("scenario_id", .number v)]) 9223372036854775807).mpr ⟨by decide, _, rfl, hgives⟩
  refine ⟨hstored, hid, ?_⟩
  rintro ⟨hvalue⟩
  have hsame : (2 ^ 63 : ℤ) = 9223372036854775807 := Int.cast_injective hvalue
  exact absurd hsame (by decide)

end Proforma
