/-!
# Decimal integers

Integers are written in base ten, with a minus sign when negative and no leading
zeros. Reading is more generous: one sign of either kind may come first, and any
number of leading zeros is allowed, but at least one ASCII digit must follow and
nothing else may appear.

* `Decimal.ofInt`, `Decimal.ofNat` write;
* `Decimal.natOfDigits?`, `Decimal.toInt?` read;
* `toInt?_ofInt`: reading undoes writing.
-/

namespace GridRobot.Decimal

/-- The decimal text of a natural number. -/
def ofNat (n : Nat) : String := String.ofList (Nat.toDigits 10 n)

/-- The decimal text of an integer. -/
def ofInt : Int → String
  | .ofNat n => ofNat n
  | .negSucc n => "-" ++ ofNat (n + 1)

/-- The value of a nonempty run of ASCII digits. -/
def natOfDigits? (ds : List Char) : Option Nat :=
  if ds ≠ [] ∧ ds.all Char.isDigit then some (Nat.ofDigitChars 10 ds 0) else none

/-- The value of an optionally signed decimal integer. -/
def toInt? : List Char → Option Int
  | '+' :: ds => (natOfDigits? ds).map Int.ofNat
  | '-' :: ds => (natOfDigits? ds).map fun n => -Int.ofNat n
  | ds => (natOfDigits? ds).map Int.ofNat

@[simp] theorem toList_ofNat (n : Nat) : (ofNat n).toList = Nat.toDigits 10 n := by
  simp [ofNat]

@[simp] theorem natOfDigits?_toDigits (n : Nat) :
    natOfDigits? (Nat.toDigits 10 n) = some n := by
  have hd : (Nat.toDigits 10 n).all Char.isDigit = true := by
    rw [List.all_eq_true]
    exact fun c hc => Nat.isDigit_of_mem_toDigits (by decide) (by decide) hc
  simp [natOfDigits?, hd, Nat.toDigits_ne_nil, Nat.ofDigitChars_toDigits]

@[simp] theorem natOfDigits?_toList_ofNat (n : Nat) :
    natOfDigits? (ofNat n).toList = some n := by
  simp

/-- A text of digits has no sign to strip. -/
theorem toInt?_of_isDigit {c : Char} {ds : List Char} (h : c.isDigit) :
    toInt? (c :: ds) = (natOfDigits? (c :: ds)).map Int.ofNat := by
  unfold toInt?
  split
  · simp_all
  · simp_all
  · rfl

theorem toInt?_toList_ofNat (n : Nat) : toInt? (ofNat n).toList = some (Int.ofNat n) := by
  have hn := natOfDigits?_toList_ofNat n
  match hs : (ofNat n).toList with
  | [] => simp [hs, natOfDigits?] at hn
  | c :: ds =>
    have hc : c.isDigit := by
      apply Nat.isDigit_of_mem_toDigits (b := 10) (n := n) (by decide) (by decide)
      rw [← toList_ofNat, hs]
      simp
    rw [toInt?_of_isDigit hc, ← hs, hn]
    rfl

/-- Reading undoes writing. -/
@[simp] theorem toInt?_ofInt (z : Int) : toInt? (ofInt z).toList = some z := by
  match z with
  | .ofNat n => exact toInt?_toList_ofNat n
  | .negSucc n =>
    simp [ofInt, toInt?, Int.negSucc_eq]

end GridRobot.Decimal
