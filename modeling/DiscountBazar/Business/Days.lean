/-
Business days (`businessTime.js`).

A day is kept as its number since 1 January 1970, so that days are compared and counted as numbers
where the code compares and counts their `YYYY-MM-DD` keys. What `Intl` knows of a time zone is its
offset from UTC at every moment.
-/
import DiscountBazar.Finance.Types

namespace DiscountBazar.Business

/-! ## Days -/

abbrev DateKey := ℤ

/-- The offset of a time zone from UTC at each moment (`tzOffsetMs`). -/
abbrev Zone := Date → ℤ

/-- `DEFAULT_TZ`, "Asia/Kolkata". -/
def defaultZone : Zone := fun _ => 19800000

def dayLength : ℤ := 86400000

def dateKeyOf (zone : Zone) (date : Date) : DateKey := (date + zone date) / dayLength

/-- The moment of a local time of day: guessed with the offset at that time in UTC, and once more
with the offset at the guess. -/
def localToInstant (zone : Zone) (key : DateKey) (msOfDay : ℤ) : Date :=
  let naive := key * dayLength + msOfDay
  let guess := naive - zone naive
  naive - zone guess

def dayStart (zone : Zone) (key : DateKey) : Date := localToInstant zone key 0

def dayEnd (zone : Zone) (key : DateKey) : Date := localToInstant zone key 86399999

/-- The year, month and day of a day, counted in years from March and in eras of 400 years. -/
def civil (key : DateKey) : ℤ × ℤ × ℤ :=
  let z := key + 719468
  let era := z / 146097
  let doe := z % 146097
  let yoe := (doe - doe / 1460 + doe / 36524 - doe / 146096) / 365
  let doy := doe - (365 * yoe + yoe / 4 - yoe / 100)
  let mp := (5 * doy + 2) / 153
  let month := if mp < 10 then mp + 3 else mp - 9
  (yoe + era * 400 + (if month ≤ 2 then 1 else 0), month, doy - (153 * mp + 2) / 5 + 1)

/-- A number with leading zeros. -/
def padded (width : ℕ) (n : ℤ) : String :=
  let digits := toString n.toNat
  String.ofList (List.replicate (width - digits.length) '0') ++ digits

/-- `YYYY-MM-DD`. -/
def dateKeyText (key : DateKey) : String :=
  let (year, month, day) := civil key
  padded 4 year ++ "-" ++ padded 2 month ++ "-" ++ padded 2 day

example : civil 0 = (1970, 1, 1) ∧ civil 20513 = (2026, 3, 1) ∧ civil 20512 = (2026, 2, 28) := by
  decide

/-! ## Closed days -/

/-- `CashDay`, without its history. -/
structure CashDay where
  dateKey : DateKey
  openingCash : ℚ := 0
  countedClosingCash : Option ℚ := none
  closed : Bool := false

/-- The rows of a seller; the index allows one for a day. -/
abbrev CashDays := Table CashDay.dateKey

def isClosed (days : CashDays) (key : DateKey) : Bool := (days.get? key).any CashDay.closed

def dayClosedError (key : DateKey) : ServiceError :=
  ⟨"Business day " ++ dateKeyText key ++ " is closed. Reopen it to make changes.", some 423⟩

def assertDayOpen (zone : Zone) (days : CashDays) (date : Date) : Except ServiceError Unit :=
  let key := dateKeyOf zone date
  if isClosed days key then throw (dayClosedError key) else pure ()

end DiscountBazar.Business
