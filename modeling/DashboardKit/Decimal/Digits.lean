/-!
# Decimal: digits of natural numbers

Writing a number with its decimal digits and reading digits back.  Main statement: `value_digits`,
reading what was written gives the number.
-/

set_option autoImplicit false

namespace DashboardKit.Decimal

/-- The character of a digit below ten. -/
def digitChar (d : Nat) : Char := Char.ofNat (48 + d)

/-- Whether a character is one of the ten ASCII digits. -/
def isDigit (c : Char) : Bool := '0' ≤ c && c ≤ '9'

/-- The value of an ASCII digit. -/
def digitValue (c : Char) : Nat := c.toNat - 48

/-- The decimal digits of a number in front of `acc`. -/
def digitsOnto (n : Nat) (acc : List Char) : List Char :=
  if n < 10 then digitChar n :: acc
  else digitsOnto (n / 10) (digitChar (n % 10) :: acc)

/-- The decimal digits of a number, without leading zeros. -/
def digits (n : Nat) : List Char := digitsOnto n []

/-- The number that digits stand for, `start` being the value of the digits before them. -/
def valueFrom (start : Nat) (ds : List Char) : Nat :=
  ds.foldl (fun n c => n * 10 + digitValue c) start

/-- The number that digits stand for. -/
def value (ds : List Char) : Nat := valueFrom 0 ds

/-- The decimal text of an integer. -/
def intDigits : Int → List Char
  | .ofNat n => digits n
  | .negSucc n => '-' :: digits (n + 1)

theorem digitValue_digitChar {d : Nat} (h : d < 10) : digitValue (digitChar d) = d := by
  have : ∀ d : Fin 10, digitValue (digitChar d.val) = d.val := by decide
  exact this ⟨d, h⟩

theorem isDigit_digitChar {d : Nat} (h : d < 10) : isDigit (digitChar d) = true := by
  have : ∀ d : Fin 10, isDigit (digitChar d.val) = true := by decide
  exact this ⟨d, h⟩

theorem digitsOnto_eq (n : Nat) (acc : List Char) : digitsOnto n acc = digits n ++ acc := by
  induction n using Nat.strongRecOn generalizing acc with
  | ind n ih =>
    unfold digits
    rw [digitsOnto, digitsOnto.eq_def n []]
    by_cases h : n < 10
    · simp [h]
    · have hlt : n / 10 < n := by omega
      simp only [h, if_false]
      rw [ih _ hlt, ih _ hlt [digitChar (n % 10)]]
      simp

theorem digits_of_lt {n : Nat} (h : n < 10) : digits n = [digitChar n] := by
  rw [digits, digitsOnto, if_pos h]

theorem digits_of_ge {n : Nat} (h : 10 ≤ n) :
    digits n = digits (n / 10) ++ [digitChar (n % 10)] := by
  rw [digits, digitsOnto, if_neg (by omega), digitsOnto_eq]

theorem valueFrom_append (start : Nat) (a b : List Char) :
    valueFrom start (a ++ b) = valueFrom (valueFrom start a) b := by
  simp [valueFrom]

/-- Reading the digits that were written gives the number. -/
theorem value_digits (n : Nat) : value (digits n) = n := by
  induction n using Nat.strongRecOn with
  | ind n ih =>
    by_cases h : n < 10
    · simp [digits_of_lt h, value, valueFrom, digitValue_digitChar h]
    · have hlt : n / 10 < n := by omega
      rw [digits_of_ge (by omega), value, valueFrom_append]
      have := ih _ hlt
      rw [value] at this
      rw [this]
      simp only [valueFrom, List.foldl_cons, List.foldl_nil,
        digitValue_digitChar (Nat.mod_lt n (by omega : 0 < 10))]
      omega

/-- Only digits are written. -/
theorem all_isDigit_digits (n : Nat) : (digits n).all isDigit = true := by
  induction n using Nat.strongRecOn with
  | ind n ih =>
    by_cases h : n < 10
    · simp [digits_of_lt h, isDigit_digitChar h]
    · rw [digits_of_ge (by omega), List.all_append, ih _ (by omega)]
      simp [isDigit_digitChar (Nat.mod_lt n (by omega : 0 < 10))]

/-- At least one digit is written. -/
theorem digits_ne_nil (n : Nat) : digits n ≠ [] := by
  by_cases h : n < 10
  · simp [digits_of_lt h]
  · simp [digits_of_ge (Nat.le_of_not_lt h)]

/-- The longest integer that is read from or written to decimal text. -/
def digitLimit : Nat := 4300

/-- The wording of a number with more digits than that. -/
def limitMessage (count : Nat) : List Char :=
  "Exceeds the limit (4300 digits) for integer string conversion: value has ".toList
    ++ digits count
    ++ " digits; use sys.set_int_max_str_digits() to increase the limit".toList

/-- Whether a number has more digits than may be written. -/
def exceedsLimit (n : Int) : Bool := Nat.pow 10 digitLimit ≤ n.natAbs

end DashboardKit.Decimal
