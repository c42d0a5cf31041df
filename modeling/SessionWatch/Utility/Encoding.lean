/-
# Bytes as sixty-four letters

Three bytes are written as four letters; equals signs fill up the end.

Key definitions: `Utility.encode64`, `Utility.decode64?`, `Utility.base64`.
-/
import SessionWatch.Utility.Basic

namespace SessionWatch.Utility

/-- The letters in the order of their values. -/
def letters64 : List Char :=
  "ABCDEFGHIJKLMNOPQRSTUVWXYZabcdefghijklmnopqrstuvwxyz0123456789+/".toList

def letter64 (n : Nat) : Char := (letters64[n % 64]?).getD 'A'

/-- The letters for bytes. -/
def encode64 : List Char → List Char
  | a :: b :: c :: rest =>
    let n := a.toNat * 65536 + b.toNat * 256 + c.toNat
    letter64 (n / 262144) :: letter64 (n / 4096) :: letter64 (n / 64) :: letter64 n
      :: encode64 rest
  | [a, b] =>
    let n := a.toNat * 65536 + b.toNat * 256
    [letter64 (n / 262144), letter64 (n / 4096), letter64 (n / 64), '=']
  | [a] =>
    let n := a.toNat * 65536
    [letter64 (n / 262144), letter64 (n / 4096), '=', '=']
  | [] => []

/-- The bytes that two or three letters stand for, as far as these are whole. -/
def decodePart (letters : List Char) : List Char :=
  match (letters.map fun l => letters64.findIdx? (· = l)) with
  | [some a, some b, some x] =>
    let n := a * 262144 + b * 4096 + x * 64
    [Char.ofNat (n / 65536 % 256), Char.ofNat (n / 256 % 256)]
  | some a :: some b :: _ => [Char.ofNat ((a * 262144 + b * 4096) / 65536 % 256)]
  | _ => []

/-- The bytes that letters stand for, and whether all of them could be read. -/
def decode64 : List Char → List Char × Bool
  | [] => ([], true)
  | a :: b :: c :: d :: rest =>
    let value := fun l : Char => letters64.findIdx? (· = l)
    let byte := fun n : Nat => Char.ofNat (n % 256)
    match value a, value b, value c, value d with
    | some a, some b, some x, some y =>
      let n := a * 262144 + b * 4096 + x * 64 + y
      let (more, whole) := decode64 rest
      (byte (n / 65536) :: byte (n / 256) :: byte n :: more, whole)
    | some a, some b, some x, none =>
      let n := a * 262144 + b * 4096 + x * 64
      ([byte (n / 65536), byte (n / 256)], d = '=' && rest.isEmpty)
    | some a, some b, none, _ =>
      ([byte ((a * 262144 + b * 4096) / 65536)], c = '=' && d = '=' && rest.isEmpty)
    | _, _, _, _ => ([], false)
  | [a, b, c] => ((decodePart [a, b, c]), false)
  | [a, b] => ((decodePart [a, b]), false)
  | [_] => ([], false)

/-- A text in lines of a length. -/
def inLines (width : Nat) : (fuel : Nat) → List Char → List (List Char)
  | 0, _ | _, [] => []
  | fuel + 1, cs => cs.take width :: inLines width fuel (cs.drop width)

/-- Writes bytes as letters, or reads them back. -/
def base64 (c : Call) : Effect :=
  match c.options { flags := "di", valued := "w", long := [("decode", 'd'), ("wrap", 'w'),
      ("ignore-garbage", 'i')] } true with
  | .error why => c.misused why 1
  | .ok o =>
    let (contents, errors) := c.contents (o.operands.take 1)
    let cs := contents.flatMap (·.2)
    let rest := c.after o.operands
    if o.has 'd' then
      let (out, whole) := decode64 (cs.filter fun l =>
        l ≠ '\n' && (!o.has 'i' || letters64.contains l || l = '='))
      { output := String.ofList out, rest := rest, status := if whole ∧ errors = "" then 0 else 1
        errors := if whole then errors else c.name ++ ": invalid input\n" }
    else
      let width := ((o.value? 'w').bind number?).getD 76
      let letters := encode64 cs
      let out := if width = 0 then letters else unlines (inLines width letters.length letters)
      { output := String.ofList out, errors := errors, rest := rest
        status := if errors = "" then 0 else 1 }

end SessionWatch.Utility
