import HobitQueue.Lib.Utf8

/-!
# ASCII characters among the bytes of a text

A character below 128 is one byte, and every byte of any other character is 128 or above: a
byte below 128 is never a part of a longer character.

## Main definitions

* `Utf8.encode` — the bytes of a list of characters.

## Main results

* `Utf8.map_toUInt8_prefix_encode` — when a text begins with ASCII characters.
* `Utf8.encode_cons_head` — what the first byte of a text says of its first character.
-/

namespace Utf8

def encode (cs : List Char) : List UInt8 := cs.flatMap String.utf8EncodeChar

theorem bytes_eq_encode (s : String) : bytes s = encode s.toList := rfl

@[simp] theorem encode_nil : encode [] = [] := rfl

theorem encode_cons (c : Char) (cs : List Char) :
    encode (c :: cs) = String.utf8EncodeChar c ++ encode cs := rfl

theorem encode_append (cs ds : List Char) : encode (cs ++ ds) = encode cs ++ encode ds := by
  simp [encode]

theorem utf8EncodeChar_ascii {c : Char} (h : c.toNat < 128) :
    String.utf8EncodeChar c = [c.toUInt8] := by
  refine String.utf8EncodeChar_eq_singleton (Char.utf8Size_eq_one_iff.2 ?_)
  rw [UInt32.le_iff_toNat_le]
  exact Nat.le_of_lt_succ h

theorem encode_cons_ascii {c : Char} (h : c.toNat < 128) (cs : List Char) :
    encode (c :: cs) = c.toUInt8 :: encode cs := by
  rw [encode_cons, utf8EncodeChar_ascii h]
  rfl

theorem toNat_toUInt8 {c : Char} (h : c.toNat < 128) : c.toUInt8.toNat = c.toNat :=
  (UInt32.toNat_toUInt8 c.val).trans (Nat.mod_eq_of_lt (Nat.lt_trans h (by decide)))

theorem toUInt8_inj {c d : Char} (hc : c.toNat < 128) (hd : d.toNat < 128) :
    c.toUInt8 = d.toUInt8 ↔ c = d := by
  constructor
  · intro h
    have hnat := congrArg UInt8.toNat h
    rw [toNat_toUInt8 hc, toNat_toUInt8 hd] at hnat
    exact Char.toNat_inj.1 hnat
  · intro h
    rw [h]

/-- Every byte of a character that is not ASCII is 128 or above. -/
theorem le_of_mem_utf8EncodeChar {c : Char} (h : 128 ≤ c.toNat) {b : UInt8}
    (hb : b ∈ String.utf8EncodeChar c) : 128 ≤ b.toNat := by
  have hval : c.val.toNat = c.toNat := rfl
  simp only [String.utf8EncodeChar, hval] at hb
  split_ifs at hb with h₁ h₂ h₃
  · omega
  · simp only [List.mem_cons, List.not_mem_nil, or_false] at hb
    rcases hb with rfl | rfl
    · rw [UInt8.toNat_ofNat']
      omega
    · rw [UInt8.toNat_ofNat']
      omega
  · simp only [List.mem_cons, List.not_mem_nil, or_false] at hb
    rcases hb with rfl | rfl | rfl
    · rw [UInt8.toNat_ofNat']
      omega
    · rw [UInt8.toNat_ofNat']
      omega
    · rw [UInt8.toNat_ofNat']
      omega
  · simp only [List.mem_cons, List.not_mem_nil, or_false] at hb
    rcases hb with rfl | rfl | rfl | rfl
    · rw [UInt8.toNat_ofNat']
      omega
    · rw [UInt8.toNat_ofNat']
      omega
    · rw [UInt8.toNat_ofNat']
      omega
    · rw [UInt8.toNat_ofNat']
      omega

/-- What the first byte of a text says of its first character: below 128 it is the character,
and otherwise one of the bytes of a character that is not ASCII. -/
theorem encode_cons_head (c : Char) (cs : List Char) :
    ∃ b bs, encode (c :: cs) = b :: bs ∧
      ((c.toNat < 128 ∧ b = c.toUInt8 ∧ bs = encode cs) ∨
        (128 ≤ c.toNat ∧ 128 ≤ b.toNat)) := by
  by_cases h : c.toNat < 128
  · exact ⟨_, _, encode_cons_ascii h cs, .inl ⟨h, rfl, rfl⟩⟩
  · have hhigh : 128 ≤ c.toNat := Nat.le_of_not_lt h
    cases hbytes : String.utf8EncodeChar c with
    | nil =>
      have hsize := String.length_utf8EncodeChar c
      rw [hbytes] at hsize
      exact absurd hsize.symm (Nat.pos_iff_ne_zero.1 (Char.utf8Size_pos c))
    | cons b bs =>
      refine ⟨b, bs ++ encode cs, by rw [encode_cons, hbytes, List.cons_append], .inr ⟨hhigh, ?_⟩⟩
      exact le_of_mem_utf8EncodeChar hhigh (hbytes ▸ List.mem_cons_self)

theorem encode_of_ascii {cs : List Char} (h : ∀ c ∈ cs, c.toNat < 128) :
    encode cs = cs.map Char.toUInt8 := by
  induction cs with
  | nil => rfl
  | cons c cs ih =>
    rw [encode_cons_ascii (h c List.mem_cons_self), ih fun d hd => h d (List.mem_cons_of_mem c hd),
      List.map_cons]

/-- The bytes of ASCII characters begin a text when the characters do. -/
theorem map_toUInt8_prefix_encode {start cs : List Char} (h : ∀ c ∈ start, c.toNat < 128) :
    start.map Char.toUInt8 <+: encode cs ↔ start <+: cs := by
  induction start generalizing cs with
  | nil => simp
  | cons c start ih =>
    have hc := h c List.mem_cons_self
    cases cs with
    | nil => simp
    | cons d cs =>
      obtain ⟨b, bs, hbytes, hcases⟩ := encode_cons_head d cs
      rw [hbytes, List.map_cons, List.cons_prefix_cons, List.cons_prefix_cons]
      rcases hcases with ⟨hd, rfl, rfl⟩ | ⟨hd, hhigh⟩
      · rw [toUInt8_inj hc hd, ih fun e he => h e (List.mem_cons_of_mem c he)]
      · refine iff_of_false (fun hsame => ?_) (fun hsame => ?_)
        · rw [← hsame.1, toNat_toUInt8 hc] at hhigh
          omega
        · rw [hsame.1] at hc
          omega

end Utf8
