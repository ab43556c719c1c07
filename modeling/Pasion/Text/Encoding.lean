import Mathlib.Tactic.Common

/-! The CRC-32 checksum of ISO-HDLC and the decoding of unpadded base64url. -/
namespace Encoding

def crcShift : ℕ → ℕ → ℕ
  | 0, crc => crc
  | n + 1, crc => crcShift n (if crc % 2 = 1 then (crc >>> 1) ^^^ 0xEDB88320 else crc >>> 1)

def crcByte (crc : ℕ) (byte : UInt8) : ℕ := crcShift 8 (crc ^^^ byte.toNat)

/-- The reflected CRC with polynomial `0x04C11DB7`, started and finished with all ones. -/
def crc32 (bytes : List UInt8) : ℕ := bytes.foldl crcByte 0xFFFFFFFF ^^^ 0xFFFFFFFF

def sextet (c : Char) : Option ℕ :=
  if 'A' ≤ c ∧ c ≤ 'Z' then some (c.toNat - 65)
  else if 'a' ≤ c ∧ c ≤ 'z' then some (c.toNat - 71)
  else if '0' ≤ c ∧ c ≤ '9' then some (c.toNat + 4)
  else if c = '-' then some 62
  else if c = '_' then some 63
  else none

/-- The bytes of whole and partial groups of four digits. A single digit is no group. -/
def groups : List ℕ → Option (List ℕ)
  | [] => some []
  | [_] => none
  | [a, b] => some [(a * 4 + b / 16) % 256]
  | [a, b, c] => some [(a * 4 + b / 16) % 256, (b * 16 + c / 4) % 256]
  | a :: b :: c :: d :: rest =>
    (groups rest).map
      ([(a * 4 + b / 16) % 256, (b * 16 + c / 4) % 256, (c * 64 + d) % 256] ++ ·)

def base64UrlUnpadded (s : String) : Option (List ℕ) := (s.toList.mapM sextet).bind groups

example : crc32 "123456789".toUTF8.toList = 0xCBF43926 := by decide +kernel

end Encoding
