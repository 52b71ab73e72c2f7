import Mathlib.Data.List.Basic
import Mathlib.Tactic.Linarith

/-!
# Signed decimal literals

What a literal denotes, and a one-pass reader that stops at the first step leaving
an interval. The reader accepts exactly the literals whose value lies in the
interval: the digits only move the accumulator away from zero, so an intermediate
value outside the interval already condemns the final one.
-/
namespace FlussGateway.Foundation.Decimal

/-- Why a reader rejects a literal. -/
inductive IntError where
  | empty
  | invalidDigit
  | posOverflow
  | negOverflow
deriving DecidableEq

/-- One optional sign, and the rest of the literal. `true` stands for a minus sign. -/
def splitSign : List Char → Bool × List Char
  | '-' :: digits => (true, digits)
  | '+' :: digits => (false, digits)
  | digits => (false, digits)

def signed (negative : Bool) (n : Nat) : Int := if negative then -(n : Int) else n

/-- The integer a literal denotes: an optional sign and at least one digit. -/
def reading (text : List Char) : Option Int :=
  let (negative, digits) := splitSign text
  if digits ≠ [] ∧ digits.all Char.isDigit = true then
    some (signed negative (Nat.ofDigitChars 10 digits 0))
  else none

/-- Extend an accumulator digit by digit. Both the scaled and the extended value must
stay in the interval; a character that is no digit is reported before either. -/
def accumulate (lo hi : Int) (negative : Bool) : Int → List Char → Except IntError Int
  | acc, [] => .ok acc
  | acc, c :: cs =>
    if c.isDigit = false then .error .invalidDigit
    else
      let overflow := if negative then IntError.negOverflow else .posOverflow
      let scaled := acc * 10
      let next := scaled + signed negative (c.toNat - '0'.toNat)
      -- Scaling and adding are checked one after the other.
      if ¬(lo ≤ scaled ∧ scaled ≤ hi) then .error overflow
      else if ¬(lo ≤ next ∧ next ≤ hi) then .error overflow
      else accumulate lo hi negative next cs

/-- Read a signed literal into the interval from `lo` to `hi`. -/
def parseInt (lo hi : Int) (text : List Char) : Except IntError Int :=
  if text = [] then .error .empty
  else if text = ['-'] ∨ text = ['+'] then .error .invalidDigit
  else
    let (negative, digits) := splitSign text
    accumulate lo hi negative 0 digits

theorem le_ofDigitChars (cs : List Char) (n : Nat) : n ≤ Nat.ofDigitChars 10 cs n := by
  induction cs generalizing n with
  | nil => simp
  | cons c cs ih =>
    rw [Nat.ofDigitChars_cons]
    have rest := ih (10 * n + (c.toNat - '0'.toNat))
    omega

/-- The accumulator's invariant: it stays the signed value of the digits read so far,
so the reader ends with the value of the whole literal or leaves the interval. -/
theorem accumulate_ok_iff (lo hi : Int) (negative : Bool)
    (cs : List Char) (n : Nat) (v : Int) (inside : lo ≤ signed negative n ∧ signed negative n ≤ hi) :
    accumulate lo hi negative (signed negative n) cs = .ok v ↔
      cs.all Char.isDigit = true ∧ v = signed negative (Nat.ofDigitChars 10 cs n) ∧
        lo ≤ v ∧ v ≤ hi := by
  induction cs generalizing n with
  | nil =>
    simp only [accumulate, Except.ok.injEq, List.all_nil, Nat.ofDigitChars_nil, true_and]
    constructor
    · rintro rfl; exact ⟨rfl, inside⟩
    · rintro ⟨rfl, _⟩; rfl
  | cons c cs ih =>
    -- A digit moves the value away from zero, on the side of the sign.
    have next_eq : signed negative n * 10 + signed negative (c.toNat - '0'.toNat) =
        signed negative (10 * n + (c.toNat - '0'.toNat)) := by
      cases negative <;> simp only [signed, if_true, Bool.false_eq_true, if_false] <;> omega
    have grows := le_ofDigitChars cs (10 * n + (c.toNat - '0'.toNat))
    simp only [accumulate, List.all_cons, Bool.and_eq_true, Nat.ofDigitChars_cons, next_eq]
    by_cases digit : c.isDigit = true
    · simp only [digit, Bool.true_eq_false, if_false, true_and]
      by_cases stays : lo ≤ signed negative (10 * n + (c.toNat - '0'.toNat)) ∧
          signed negative (10 * n + (c.toNat - '0'.toNat)) ≤ hi
      · have scaled : lo ≤ signed negative n * 10 ∧ signed negative n * 10 ≤ hi := by
          cases negative <;> simp only [signed, if_true, Bool.false_eq_true, if_false] at * <;> omega
        simp only [scaled, stays, and_self, not_true, if_false]
        exact ih _ stays
      · -- The next value is outside, and the final one is at least as far from zero.
        have left : ∀ e : IntError, (if ¬(lo ≤ signed negative n * 10 ∧ signed negative n * 10 ≤ hi) then
            Except.error e else if ¬(lo ≤ signed negative (10 * n + (c.toNat - '0'.toNat)) ∧
              signed negative (10 * n + (c.toNat - '0'.toNat)) ≤ hi) then Except.error e
            else accumulate lo hi negative (signed negative (10 * n + (c.toNat - '0'.toNat))) cs) =
            .error e := by
          intro e
          simp only [stays, not_false_eq_true, if_true, ite_self]
        rw [left]
        constructor
        · intro impossible; cases impossible
        · rintro ⟨_, rfl, low, high⟩
          exfalso
          apply stays
          cases negative <;> simp only [signed, if_true, Bool.false_eq_true, if_false] at * <;> omega
    · simp [digit]

/-- The reader accepts a literal exactly when its value lies in the interval. -/
theorem parseInt_ok_iff (lo hi : Int) (below : lo ≤ 0) (above : 0 ≤ hi) (text : List Char) (v : Int) :
    parseInt lo hi text = .ok v ↔ reading text = some v ∧ lo ≤ v ∧ v ≤ hi := by
  unfold parseInt
  by_cases empty : text = []
  · subst text; simp [reading, splitSign]
  · by_cases bare : text = ['-'] ∨ text = ['+']
    · rcases bare with rfl | rfl <;> simp [reading, splitSign]
    · have nonempty : (splitSign text).2 ≠ [] := by
        unfold splitSign
        split
        · rintro rfl; exact bare (.inl rfl)
        · rintro rfl; exact bare (.inr rfl)
        · exact empty
      -- The accumulator starts at zero, the value of no digits.
      have start := accumulate_ok_iff lo hi (splitSign text).1 (splitSign text).2 0 v
      have zero : signed (splitSign text).1 0 = 0 := by simp [signed]
      rw [zero] at start
      simp only [empty, bare, if_false, reading, start ⟨below, above⟩]
      by_cases digits : (splitSign text).2.all Char.isDigit = true
      · simp only [nonempty, digits, ne_eq, not_false_eq_true, and_self, if_true, true_and,
          Option.some.injEq]
        constructor
        · rintro ⟨rfl, range⟩; exact ⟨rfl, range⟩
        · rintro ⟨rfl, range⟩; exact ⟨rfl, range⟩
      · simp [digits]

theorem all_digits (n : Nat) : (Nat.toDigits 10 n).all Char.isDigit = true :=
  List.all_eq_true.mpr fun _ member => Nat.isDigit_of_mem_toDigits (by decide) (by decide) member

/-- A digit string does not start with a sign. -/
theorem splitSign_toDigits (n : Nat) : splitSign (Nat.toDigits 10 n) = (false, Nat.toDigits 10 n) := by
  have digits := all_digits n
  unfold splitSign
  split
  next rest equal => rw [equal] at digits; simp at digits
  next rest equal => rw [equal] at digits; simp at digits
  next => rfl

/-- Printing an integer and reading it back. -/
@[simp] theorem reading_toString (z : Int) : reading (toString z).toList = some z := by
  cases z with
  | ofNat n =>
    have printed : (toString (Int.ofNat n)).toList = Nat.toDigits 10 n := by
      change (Nat.repr n).toList = _
      exact Nat.toList_repr
    simp only [reading, printed, splitSign_toDigits, ne_eq, Nat.toDigits_ne_nil, not_false_eq_true,
      all_digits, and_self, if_true, Nat.ofDigitChars_ten_toDigits, signed, Bool.false_eq_true, if_false]
    rfl
  | negSucc n =>
    -- A negative integer prints as a minus sign and the digits of its absolute value.
    have printed : (toString (Int.negSucc n)).toList = '-' :: Nat.toDigits 10 (n + 1) := by
      change ("-" ++ Nat.repr (n + 1)).toList = _
      simp [Nat.toList_repr]
    simp only [reading, printed, splitSign, ne_eq, Nat.toDigits_ne_nil, not_false_eq_true,
      all_digits, and_self, if_true, Nat.ofDigitChars_ten_toDigits, signed]
    rfl

end FlussGateway.Foundation.Decimal
