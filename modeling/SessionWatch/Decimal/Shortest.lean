/-
# The fewest digits that read back

A double stands for every real that rounds to it. `Decimal.shortest` finds the
decimal with the fewest digits among them, of two such the nearer, of two as
near the even one. All of it is exact arithmetic on `Nat`: the double is
`m · 2 ^ q`, the reals that round to it reach half a unit up and down (a
quarter down from a power of two), ends included when `m` is even.

Key definitions: `Decimal.Binary`, `Decimal.shortest`, `Decimal.Layout`.
-/

namespace SessionWatch.Decimal

/-- A positive double: `significand · 2 ^ exponent`. `tight` says that the next
smaller double is only half as far away as the next larger one. -/
structure Binary where
  significand : Nat
  exponent : Int
  tight : Bool

/-- The parts of a double that is finite and not zero, without its sign. -/
def Binary.ofBits (bits : UInt64) : Binary :=
  let fraction : Nat := bits.toNat % Nat.pow 2 52
  let biased : Nat := bits.toNat / Nat.pow 2 52 % Nat.pow 2 11
  if biased = 0 then ⟨fraction, -1074, false⟩
  else ⟨Nat.pow 2 52 + fraction, (biased : Int) - 1075, decide (fraction = 0 ∧ 1 < biased)⟩

/-- The decimal `digits · 10 ^ exponent`. -/
structure Scientific where
  digits : Nat
  exponent : Int

/-- A non-negative rational as a fraction. -/
structure Ratio where
  num : Nat
  den : Nat

/-- `n · b ^ e`. -/
def Ratio.scaled (n : Nat) (b : Nat) (e : Int) : Ratio :=
  if 0 ≤ e then ⟨n * Nat.pow b e.toNat, 1⟩ else ⟨n, Nat.pow b (-e).toNat⟩

def Ratio.le (x y : Ratio) : Bool := x.num * y.den ≤ y.num * x.den

def Ratio.lt (x y : Ratio) : Bool := x.num * y.den < y.num * x.den

/-- The value and the ends of the reals that round to it. -/
structure Neighbourhood where
  value : Ratio
  low : Ratio
  high : Ratio
  closed : Bool

def Binary.neighbourhood (b : Binary) : Neighbourhood where
  value := .scaled (4 * b.significand) 2 (b.exponent - 2)
  low := .scaled (4 * b.significand - if b.tight then 1 else 2) 2 (b.exponent - 2)
  high := .scaled (4 * b.significand + 2) 2 (b.exponent - 2)
  closed := decide (b.significand % 2 = 0)

def Neighbourhood.holds (n : Neighbourhood) (x : Ratio) : Bool :=
  if n.closed then n.low.le x && x.le n.high else n.low.lt x && x.lt n.high

/-- The least `k` from `start` on with `x < 10 ^ k`, looking at most `steps` times. -/
def magnitude (x : Ratio) : (steps : Nat) → (start : Int) → Int
  | 0, k => k
  | steps + 1, k => if x.lt (.scaled 1 10 k) then k else magnitude x steps (k + 1)

/-- A point of the grid with step `10 ^ e` that rounds to the value: the nearer
of the two around it, of two as near the even one. -/
def Neighbourhood.onGrid? (n : Neighbourhood) (e : Int) : Option Scientific :=
  let unit := Ratio.scaled 1 10 e
  let den := n.value.den * unit.num
  let num := n.value.num * unit.den
  let below := num / den
  let point (c : Nat) : Ratio := .scaled c 10 e
  match n.holds (point below), n.holds (point (below + 1)) with
  | false, false => none
  | true, false => some ⟨below, e⟩
  | false, true => some ⟨below + 1, e⟩
  | true, true =>
    let rest := 2 * (num % den)
    if rest < den then some ⟨below, e⟩
    else if den < rest then some ⟨below + 1, e⟩
    else some ⟨if below % 2 = 0 then below else below + 1, e⟩

/-- The first grid with a hit, from `count` digits on. -/
def Neighbourhood.search (n : Neighbourhood) (k : Int) : (steps : Nat) → (count : Nat) → Scientific
  | 0, _ => ⟨0, 0⟩
  | steps + 1, count =>
    match n.onGrid? (k - count) with
    | some d => d
    | none => n.search k steps (count + 1)

/-- The same decimal without zeros at the end of its digits. -/
def Scientific.stripped (d : Scientific) : (steps : Nat) → Scientific
  | 0 => d
  | steps + 1 =>
    if d.digits ≠ 0 ∧ d.digits % 10 = 0 then
      Scientific.stripped ⟨d.digits / 10, d.exponent + 1⟩ steps
    else d

/-- The decimal with the fewest digits that reads back as the double with these bits. -/
def shortest (bits : UInt64) : Scientific :=
  let n := (Binary.ofBits bits).neighbourhood
  let bitLength : Int := (Nat.log2 n.value.num : Int) - Nat.log2 n.value.den
  let k := magnitude n.value 8 (bitLength * 30103 / 100000 - 3)
  (n.search k 18 1).stripped 20

/-- How a decimal is laid out: which places of the first digit are written
without an exponent, and whether a positive exponent has its sign. -/
structure Layout where
  lowest : Int
  highest : Int
  plus : Bool

/-- The text of a positive decimal. -/
def Layout.text (l : Layout) (d : Scientific) : String :=
  let ds := toString d.digits
  let point : Int := ds.length + d.exponent
  let zeros (n : Int) : String := String.ofList (List.replicate n.toNat '0')
  if point - 1 < l.lowest ∨ l.highest < point - 1 then
    let lead := String.ofList (ds.toList.take 1)
    let rest := String.ofList (ds.toList.drop 1)
    let mantissa := if rest = "" then lead else lead ++ "." ++ rest
    let e := point - 1
    mantissa ++ "e" ++ (if e < 0 then "-" else if l.plus then "+" else "") ++ toString e.natAbs
  else if 0 ≤ d.exponent then ds ++ zeros d.exponent ++ ".0"
  else if 0 < point then
    String.ofList (ds.toList.take point.toNat) ++ "." ++ String.ofList (ds.toList.drop point.toNat)
  else "0." ++ zeros (-point) ++ ds

/-- The text of a finite double; zero keeps its sign. -/
def Layout.double (l : Layout) (x : Float) : String :=
  let bits := x.toBits
  let sign := if bits.toNat / Nat.pow 2 63 = 1 then "-" else ""
  if bits.toNat % Nat.pow 2 63 = 0 then sign ++ "0.0" else sign ++ l.text (shortest bits)

end SessionWatch.Decimal
