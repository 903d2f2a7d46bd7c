/-
The contacts of a seller and their normal forms (`normalizeEmail`, `normalizePhone`).

An email address is compared in lower case without the space around it wherever it is used; a phone
number is verified by its first ten digits, looked up by all of its digits, and stored as it was
typed.
-/
import DiscountBazar.Auth.CustomerOtp
import Mathlib.Data.List.DropRight

namespace DiscountBazar.Sellers

open Auth (OtpError)
open List

/-! ## Space -/

/-- `\s`, which is what `trim` takes away. -/
def isSpace (c : Char) : Bool :=
  decide (9 ≤ c.toNat ∧ c.toNat ≤ 13) || decide (c.toNat = 32) || decide (c.toNat = 160) ||
    decide (c.toNat = 5760) || decide (8192 ≤ c.toNat ∧ c.toNat ≤ 8202) ||
    decide (c.toNat = 8232) || decide (c.toNat = 8233) || decide (c.toNat = 8239) ||
    decide (c.toNat = 8287) || decide (c.toNat = 12288) || decide (c.toNat = 65279)

def trim (s : String) : String :=
  String.ofList ((s.toList.dropWhile isSpace).reverse.dropWhile isSpace).reverse

theorem dropWhile_reverse_comm {α : Type} (p : α → Bool) {l : List α} (h : l.dropWhile p = l) :
    ((l.reverse.dropWhile p).reverse).dropWhile p = (l.reverse.dropWhile p).reverse := by
  cases l with
  | nil => rfl
  | cons a l =>
    have ha : p a ≠ true := by
      intro ha
      rw [dropWhile_cons_of_pos ha] at h
      have hlength := congrArg length h
      have hle := (dropWhile_suffix (l := l) p).length_le
      rw [length_cons] at hlength
      omega
    rw [reverse_cons, dropWhile_append]
    split
    · rw [dropWhile_cons_of_neg ha]
      exact dropWhile_cons_of_neg ha
    · rw [reverse_append]
      exact dropWhile_cons_of_neg ha

theorem trim_trim (s : String) : trim (trim s) = trim s := by
  unfold trim
  rw [String.toList_ofList]
  rw [dropWhile_reverse_comm isSpace (dropWhile_idempotent isSpace s.toList), reverse_reverse,
    dropWhile_idempotent]

theorem mem_dropWhile_of_neg {α : Type} {p : α → Bool} {l : List α} {a : α} (hp : p a ≠ true) :
    a ∈ l.dropWhile p ↔ a ∈ l := by
  induction l with
  | nil => rfl
  | cons b l ih =>
    by_cases hb : p b = true
    · rw [dropWhile_cons_of_pos hb, ih, mem_cons]
      constructor
      · exact .inr
      · rintro (rfl | hmem)
        · exact absurd hb hp
        · exact hmem
    · rw [dropWhile_cons_of_neg hb]

/-- `includes('@')`. -/
def hasAt (s : String) : Bool := decide ('@' ∈ s.toList)

theorem hasAt_trim (s : String) : hasAt (trim s) = hasAt s := by
  have hspace : isSpace '@' ≠ true := by decide
  unfold hasAt trim
  rw [String.toList_ofList, decide_eq_decide, mem_reverse, mem_dropWhile_of_neg hspace,
    mem_reverse, mem_dropWhile_of_neg hspace]

/-! ## Email addresses -/

/-- `toLowerCase`: what the default case conversion of a string has to do with space and with `@`. -/
structure LowerCase where
  lower : String → String
  lower_lower : ∀ s, lower (lower s) = lower s
  trim_lower : ∀ s, trim (lower s) = lower (trim s)
  hasAt_lower : ∀ s, hasAt (lower s) = hasAt s

/-- `/^[^\s@]+@[^\s@]+\.[^\s@]+$/`: one `@`, no space, and a dot inside what follows the `@`. -/
def isEmail (s : String) : Bool :=
  let chars := s.toList
  let domain := (chars.dropWhile (fun c => decide (c ≠ '@'))).tail
  chars.all (fun c => !isSpace c) && decide (chars.count '@' = 1) &&
    decide (chars.head? ≠ some '@') && decide ('.' ∈ domain.tail.dropLast)

variable (letters : LowerCase)

def normalizeEmail (value : String) : Except OtpError String :=
  let email := letters.lower (trim value)
  if isEmail email then .ok email
  else .error (.status 400 "Please enter a valid email address")

/-- What the schema makes of an email address that is stored or looked up: `lowercase: true,
trim: true`. -/
def castEmail (value : String) : String := trim (letters.lower value)

variable {letters}

theorem castEmail_castEmail (value : String) :
    castEmail letters (castEmail letters value) = castEmail letters value := by
  unfold castEmail
  rw [← letters.trim_lower, letters.lower_lower, trim_trim]

theorem castEmail_lower (value : String) :
    castEmail letters (letters.lower value) = castEmail letters value := by
  unfold castEmail
  rw [letters.lower_lower]

theorem hasAt_castEmail (value : String) : hasAt (castEmail letters value) = hasAt value := by
  unfold castEmail
  rw [hasAt_trim, letters.hasAt_lower]

theorem isEmail_hasAt {s : String} (h : isEmail s = true) : hasAt s = true := by
  unfold isEmail at h
  simp only [Bool.and_eq_true, decide_eq_true_eq] at h
  have hcount : s.toList.count '@' = 1 := h.1.1.2
  unfold hasAt
  exact decide_eq_true (count_pos_iff.mp (by omega))

variable {value email : String}

theorem normalizeEmail_ok (h : normalizeEmail letters value = .ok email) :
    email = castEmail letters value ∧ isEmail email = true := by
  unfold normalizeEmail at h
  dsimp only at h
  split at h
  next hemail =>
    cases h
    exact ⟨(letters.trim_lower value).symm, hemail⟩
  next => cases h

theorem normalizeEmail_self (h : normalizeEmail letters value = .ok email) :
    normalizeEmail letters email = .ok email := by
  obtain ⟨rfl, hemail⟩ := normalizeEmail_ok h
  have hself : letters.lower (trim (castEmail letters value)) = castEmail letters value := by
    rw [← letters.trim_lower]
    exact castEmail_castEmail value
  unfold normalizeEmail
  dsimp only
  rw [hself, if_pos hemail]

theorem normalizeEmail_hasAt (h : normalizeEmail letters value = .ok email) :
    hasAt value = true := by
  obtain ⟨rfl, hemail⟩ := normalizeEmail_ok h
  have hsame : hasAt (castEmail letters value) = hasAt value := hasAt_castEmail value
  rw [← hsame]
  exact isEmail_hasAt hemail

/-! ## Phone numbers -/

/-- `replace(/\D/g, "")`. -/
def digits (s : String) : String := String.ofList (s.toList.filter Char.isDigit)

/-- `/^[6-9]\d{9}$/`. -/
def isPhone (s : String) : Bool :=
  decide (s.toList.length = 10) && s.toList.all Char.isDigit &&
    s.toList.head?.any (fun c => decide ('6' ≤ c))

def normalizePhone (value : String) : Except OtpError String :=
  let phone := String.ofList ((digits value).toList.take 10)
  if isPhone phone then .ok phone
  else .error (.status 400 "Please enter a valid 10-digit mobile number")

theorem normalizePhone_ok {value phone : String} (h : normalizePhone value = .ok phone) :
    isPhone phone = true := by
  unfold normalizePhone at h
  dsimp only at h
  split at h
  next hphone =>
    cases h
    exact hphone
  next => cases h

variable {phone : String}

theorem digits_of_isPhone (h : isPhone phone = true) : digits phone = phone := by
  unfold isPhone at h
  simp only [Bool.and_eq_true] at h
  unfold digits
  rw [filter_eq_self.mpr (all_eq_true.mp h.1.2), String.ofList_toList]

theorem normalizePhone_of_isPhone (h : isPhone phone = true) :
    normalizePhone phone = .ok phone := by
  have hlength : phone.toList.length = 10 := by
    unfold isPhone at h
    simp only [Bool.and_eq_true, decide_eq_true_eq] at h
    exact h.1.1
  unfold normalizePhone
  dsimp only
  rw [digits_of_isPhone h, take_of_length_le hlength.le, String.ofList_toList, if_pos h]

theorem hasAt_of_isPhone (h : isPhone phone = true) : hasAt phone = false := by
  unfold isPhone at h
  simp only [Bool.and_eq_true] at h
  refine decide_eq_false (fun hmem => ?_)
  exact absurd (all_eq_true.mp h.1.2 '@' hmem) (by decide)

end DiscountBazar.Sellers
