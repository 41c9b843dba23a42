/-!
Hexadecimal digits.
-/

namespace BotPayload

inductive HexCase where
  | lower
  | upper
deriving DecidableEq, Repr

def hexChar (case : HexCase) (n : Nat) : Char :=
  if n < 10 then Char.ofNat (48 + n)
  else Char.ofNat ((match case with | .lower => 87 | .upper => 55) + n)

def hexValue? (c : Char) : Option Nat :=
  let n := c.toNat
  if 48 ≤ n && n ≤ 57 then some (n - 48)
  else if 65 ≤ n && n ≤ 70 then some (n - 55)
  else if 97 ≤ n && n ≤ 102 then some (n - 87)
  else none

def hexDigits (case : HexCase) : Nat → Nat → List Char
  | 0, _ => []
  | width + 1, n => hexChar case (n / Nat.pow 16 width % 16) :: hexDigits case width n

def hexBytes (bytes : List UInt8) : String :=
  String.ofList (bytes.flatMap fun b => hexDigits .lower 2 b.toNat)

theorem hexValue?_hexChar (case : HexCase) {n : Nat} (h : n < 16) :
    hexValue? (hexChar case n) = some n := by
  revert n
  cases case <;> decide

theorem hexDigits_two (case : HexCase) (n : Nat) :
    hexDigits case 2 n = [hexChar case (n / 16 % 16), hexChar case (n % 16)] := by
  simp [hexDigits]

end BotPayload
