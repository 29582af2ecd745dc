import Mathlib.Data.List.Basic
import Mathlib.Data.String.Basic

/-!
# Texts as bytes

A text has one list of bytes. A list of bytes that is no text, such as one that was cut
inside a character, is read with a replacement character for every part that cannot be read:
the longest start of a character, or a single byte.

## Main definitions

* `Utf8.bytes` — the bytes of a text.
* `Utf8.fromLossy` — the text of a list of bytes.
-/

namespace Utf8

def bytes (s : String) : List UInt8 := s.toList.flatMap String.utf8EncodeChar

/-- How a byte starts a character: the bytes that follow it, the bits it carries, and the
range of the second byte. -/
def leading (b : UInt8) : Option (ℕ × ℕ × UInt8 × UInt8) :=
  if b < 0x80 then some (0, b.toNat, 0x80, 0xBF)
  else if 0xC2 ≤ b ∧ b ≤ 0xDF then some (1, b.toNat - 0xC0, 0x80, 0xBF)
  else if b = 0xE0 then some (2, 0, 0xA0, 0xBF)
  else if b = 0xED then some (2, 0xD, 0x80, 0x9F)
  else if 0xE1 ≤ b ∧ b ≤ 0xEF then some (2, b.toNat - 0xE0, 0x80, 0xBF)
  else if b = 0xF0 then some (3, 0, 0x90, 0xBF)
  else if 0xF1 ≤ b ∧ b ≤ 0xF3 then some (3, b.toNat - 0xF0, 0x80, 0xBF)
  else if b = 0xF4 then some (3, 4, 0x80, 0x8F)
  else none

/-- The rest of a character: how many bytes are still to come, the range of the next one, the
bits so far. Nothing when they do not come. -/
def continuations : ℕ → UInt8 → UInt8 → ℕ → List UInt8 → Option ℕ × List UInt8
  | 0, _, _, value, rest => (some value, rest)
  | _ + 1, _, _, _, [] => (none, [])
  | missing + 1, low, high, value, b :: rest =>
    if low ≤ b ∧ b ≤ high then
      continuations missing 0x80 0xBF (value * 64 + (b.toNat - 0x80)) rest
    else (none, b :: rest)

theorem length_continuations (missing : ℕ) (low high : UInt8) (value : ℕ) (rest : List UInt8) :
    (continuations missing low high value rest).2.length ≤ rest.length := by
  induction missing generalizing low high value rest with
  | zero => simp [continuations]
  | succ missing ih =>
    cases rest with
    | nil => simp [continuations]
    | cons b rest =>
      simp only [continuations]
      split_ifs
      · have hrest := ih 0x80 0xBF (value * 64 + (b.toNat - 0x80)) rest
        simp only [List.length_cons]
        omega
      · simp

/-- The characters of a list of bytes. -/
def decode : List UInt8 → List Char
  | [] => []
  | b :: rest =>
    match leading b with
    | none => Char.ofNat 0xFFFD :: decode rest
    | some (missing, value, low, high) =>
      Char.ofNat ((continuations missing low high value rest).1.getD 0xFFFD) ::
        decode (continuations missing low high value rest).2
termination_by bytes => bytes.length
decreasing_by
  · simp
  · have hrest := length_continuations missing low high value rest
    simp only [List.length_cons]
    omega

def fromLossy (b : List UInt8) : String := String.ofList (decode b)

end Utf8
