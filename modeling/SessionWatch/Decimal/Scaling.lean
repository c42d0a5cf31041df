/-
# Doubles from a significand and a power of ten

A number that is not an integer of 64 bits becomes a double in two steps: the
significand is rounded to a double, and this is multiplied or divided by a
rounded power of ten. The result can differ from the nearest double in its
last digit, which the printed digits show.

Key definitions: `Decimal.scale?`.
-/

namespace SessionWatch.Decimal

/-- The double nearest to a power of ten. -/
def powerOfTen (n : Nat) : Float := Float.ofScientific 1 false n

/-- The largest power of ten that is a finite double. -/
def greatestPower : Nat := 308

/-- Divides by ten to the power `n`, by at most `10 ^ 308` at a time. -/
def shrink (x : Float) (n : Nat) : Float :=
  if n ≤ greatestPower then x / powerOfTen n
  else if x == 0 then x
  else shrink (x / powerOfTen greatestPower) (n - greatestPower)
termination_by n
decreasing_by simp [greatestPower] at *; omega

/-- `significand · 10 ^ exponent`; nothing if that is beyond every double. -/
def scale? (significand : Nat) (exponent : Int) : Option Float :=
  let x := (UInt64.ofNat significand).toFloat
  if exponent < 0 then some (shrink x exponent.natAbs)
  else if exponent.toNat ≤ greatestPower then
    let y := x * powerOfTen exponent.toNat
    if y.isInf then none else some y
  else if x == 0 then some x
  else none

end SessionWatch.Decimal
