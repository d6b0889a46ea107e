import Proforma.Json.Record

/-!
# Terms

Loan terms and sensitivity bands. A study asks for them and a scenario repeats them, so they have
both readings and both spellings. Amounts and rates are kept as the texts that were given.
-/

namespace Proforma

open Json

/-- The range in which one input parameter is varied. -/
structure SensitivityBand where
  parameter : String
  low : Option String
  base : Option String
  high : Option String
  notes : Option String
  deriving DecidableEq

/-- One facility of a construction loan. -/
structure LoanFacility where
  name : String
  amount : Option String
  interestRate : Option String
  periodsPerYear : Option Int64
  capitaliseInterest : Option Bool
  upfrontFeePct : Option String
  exitFeePct : Option String
  reserveMonths : Option Int64
  amortisationMonths : Option Int64
  metadata : Option Json
  deriving DecidableEq

/-- The terms of construction financing. -/
structure ConstructionLoan where
  interestRate : String
  periodsPerYear : Option Int64
  capitaliseInterest : Bool
  facilities : List LoanFacility
  deriving DecidableEq

/-! ## Records -/

def SensitivityBand.record (spelling : Spelling) (b : SensitivityBand) : Json :=
  Json.record spelling
    [("parameter", .string b.parameter),
     ("low", ofOption .string b.low),
     ("base", ofOption .string b.base),
     ("high", ofOption .string b.high),
     ("notes", ofOption .string b.notes)]

def SensitivityBand.read? : Json → Option SensitivityBand :=
  RecordReader.run do
    return {
      parameter := ← .required "parameter" readString?
      low := ← .optional "low" readString?
      base := ← .optional "base" readString?
      high := ← .optional "high" readString?
      notes := ← .optional "notes" readString? }

def LoanFacility.record (spelling : Spelling) (f : LoanFacility) : Json :=
  Json.record spelling
    [("name", .string f.name),
     ("amount", ofOption .string f.amount),
     ("interest_rate", ofOption .string f.interestRate),
     ("periods_per_year", ofOption ofInt64 f.periodsPerYear),
     ("capitalise_interest", ofOption .bool f.capitaliseInterest),
     ("upfront_fee_pct", ofOption .string f.upfrontFeePct),
     ("exit_fee_pct", ofOption .string f.exitFeePct),
     ("reserve_months", ofOption ofInt64 f.reserveMonths),
     ("amortisation_months", ofOption ofInt64 f.amortisationMonths),
     ("metadata", f.metadata.getD .null)]

def LoanFacility.read? : Json → Option LoanFacility :=
  RecordReader.run do
    return {
      name := ← .required "name" readString?
      amount := ← .optional "amount" readString?
      interestRate := ← .optional "interest_rate" readString?
      periodsPerYear := ← .optional "periods_per_year" readInt64?
      capitaliseInterest := ← .optional "capitalise_interest" readBool?
      upfrontFeePct := ← .optional "upfront_fee_pct" readString?
      exitFeePct := ← .optional "exit_fee_pct" readString?
      reserveMonths := ← .optional "reserve_months" readInt64?
      amortisationMonths := ← .optional "amortisation_months" readInt64?
      metadata := ← .optional "metadata" some }

def ConstructionLoan.record (spelling : Spelling) (l : ConstructionLoan) : Json :=
  Json.record spelling
    [("interest_rate", .string l.interestRate),
     ("periods_per_year", ofOption ofInt64 l.periodsPerYear),
     ("capitalise_interest", .bool l.capitaliseInterest),
     ("facilities", .array (l.facilities.map (LoanFacility.record spelling)))]

def ConstructionLoan.read? : Json → Option ConstructionLoan :=
  RecordReader.run do
    return {
      interestRate := ← .required "interest_rate" readString?
      periodsPerYear := ← .optional "periods_per_year" readInt64?
      capitaliseInterest := ← .required "capitalise_interest" readBool?
      facilities := ← .listed "facilities" LoanFacility.read? }

end Proforma
