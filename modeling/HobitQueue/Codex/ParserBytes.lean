import HobitQueue.Codex.JsonParser
import HobitQueue.Codex.ValueTexts
import HobitQueue.Lib.Utf8Bytes
import Mathlib.Data.Bool.AllAny

/-!
# The parser over bytes follows the parser over characters

Every byte the parser compares with something is below 128, so it stands for a character; the
other characters occur inside strings, where the parser steps over their bytes one by one.

## Main results

* `rest?_parseValue` — the parser over the bytes of a text is done when the parser over its
  characters is, and leaves the bytes of what that one leaves.
* `parseLightweightJsonLine_eq` — both parsers give the same line.
-/

namespace HobitQueue.Codex.JsonParser

open Utf8
open Outcome (done failed)

variable {input : List UInt8} {p : JsonParser input} {cs : List Char}

/-! ## Outcomes -/

/-- The bytes that are left when the parser is done. -/
def Outcome.rest? : Outcome p → Option (List UInt8)
  | done q _ => some q.rest
  | failed _ _ => none

@[simp] theorem rest?_done (q : JsonParser input) (h : p.index ≤ q.index) :
    (done q h).rest? = some q.rest := rfl

@[simp] theorem rest?_failed (q : JsonParser input) (h : p.index ≤ q.index) :
    (failed q h).rest? = none := rfl

@[simp] theorem rest?_since {q : JsonParser input} (h : p.index ≤ q.index) (o : Outcome q) :
    (o.since h).rest? = o.rest? := by
  cases o <;> rfl

theorem rest?_andThen {o : Outcome p}
    {next : ∀ q : JsonParser input, p.index ≤ q.index → Outcome q} {r : Option (List Char)}
    {f : List Char → Option (List Char)} (ho : o.rest? = r.map encode)
    (hnext : ∀ q h after, r = some after → q.rest = encode after →
      (next q h).rest? = (f after).map encode) :
    (o.andThen next).rest? = (r.bind f).map encode := by
  cases o with
  | done q h =>
    cases r with
    | none => cases ho
    | some after =>
      have hq : q.rest = encode after := Option.some.inj ho
      simp [Outcome.andThen, hnext q h after rfl hq]
  | failed q h =>
    cases r with
    | none => rfl
    | some after => cases ho

/-! ## Bytes and characters -/

theorem peek_eq_head? (p : JsonParser input) : p.peek = p.rest.head? := by
  rw [peek, rest, List.head?_drop]

theorem rest_advance (p : JsonParser input) (h : p.index < input.length) :
    (p.advance h).rest = p.rest.tail := by
  rw [rest, rest, List.tail_drop]
  rfl

theorem peek_of_nil (hp : p.rest = encode []) : p.peek = none := by
  rw [peek_eq_head?, hp]
  rfl

theorem rest_advance_ascii {c : Char} (hp : p.rest = encode (c :: cs)) (hc : c.toNat < 128)
    (h : p.index < input.length) : (p.advance h).rest = encode cs := by
  rw [rest_advance, hp, encode_cons_ascii hc, List.tail_cons]

/-- The next byte is the next character, or one of its bytes. -/
theorem byte_of_cons {c : Char} {b : UInt8} (hp : p.rest = encode (c :: cs))
    (hb : p.peek = some b) :
    (c.toNat < 128 ∧ b = c.toUInt8) ∨ (128 ≤ c.toNat ∧ 128 ≤ b.toNat) := by
  obtain ⟨b', bs, hbytes, hcases⟩ := encode_cons_head c cs
  rw [peek_eq_head?, hp, hbytes, List.head?_cons, Option.some.injEq] at hb
  subst hb
  rcases hcases with ⟨hc, hbyte, -⟩ | hhigh
  · exact .inl ⟨hc, hbyte⟩
  · exact .inr hhigh

theorem exists_byte {c : Char} (hp : p.rest = encode (c :: cs)) : ∃ b, p.peek = some b := by
  obtain ⟨b, bs, hbytes, -⟩ := encode_cons_head c cs
  exact ⟨b, by rw [peek_eq_head?, hp, hbytes, List.head?_cons]⟩

/-- A byte is compared with an ASCII character as the next character is. -/
theorem byte_eq_iff {c x : Char} {b : UInt8} (hp : p.rest = encode (c :: cs))
    (hb : p.peek = some b) (hx : x.toNat < 128) : b = x.toUInt8 ↔ c = x := by
  rcases byte_of_cons hp hb with ⟨hc, rfl⟩ | ⟨hc, hhigh⟩
  · exact toUInt8_inj hc hx
  · constructor
    · rintro rfl
      rw [toNat_toUInt8 hx] at hhigh
      omega
    · rintro rfl
      omega

/-- A test of bytes that is a test of characters below 128. -/
structure AsciiTest (test : UInt8 → Bool) (t : Char → Bool) : Prop where
  ascii : ∀ c : Char, c.toNat < 128 → test c.toUInt8 = t c
  high : ∀ b : UInt8, 128 ≤ b.toNat → test b = false
  other : ∀ c : Char, 128 ≤ c.toNat → t c = false

theorem AsciiTest.agree {test : UInt8 → Bool} {t : Char → Bool} (h : AsciiTest test t) {c : Char}
    {b : UInt8} (hp : p.rest = encode (c :: cs)) (hb : p.peek = some b) : test b = t c := by
  rcases byte_of_cons hp hb with ⟨hc, rfl⟩ | ⟨hc, hhigh⟩
  · exact h.ascii c hc
  · rw [h.high b hhigh, h.other c hc]

theorem AsciiTest.lt {test : UInt8 → Bool} {t : Char → Bool} (h : AsciiTest test t) {c : Char}
    (hc : t c = true) : c.toNat < 128 := by
  by_contra hge
  rw [h.other c (Nat.le_of_not_lt hge)] at hc
  cases hc

theorem isDigit_iff (c : Char) : c.isDigit = true ↔ 48 ≤ c.toNat ∧ c.toNat ≤ 57 := by
  simp [Char.isDigit, UInt32.le_iff_toNat_le]

theorem between_iff (b : UInt8) (x y : Char) (hx : x.toNat < 128) (hy : y.toNat < 128) :
    (x.toUInt8 ≤ b ∧ b ≤ y.toUInt8) ↔ (x.toNat ≤ b.toNat ∧ b.toNat ≤ y.toNat) := by
  rw [UInt8.le_iff_toNat_le, UInt8.le_iff_toNat_le, toNat_toUInt8 hx, toNat_toUInt8 hy]

theorem asciiTest_isDigit : AsciiTest isDigitByte Char.isDigit := by
  have hbyte : ∀ b : UInt8, isDigitByte b = true ↔ 48 ≤ b.toNat ∧ b.toNat ≤ 57 := by
    intro b
    rw [isDigitByte, Bool.and_eq_true, decide_eq_true_eq, decide_eq_true_eq,
      between_iff b '0' '9' (by decide) (by decide)]
    rfl
  refine ⟨fun c hc => ?_, fun b hb => ?_, fun c hc => ?_⟩
  · rw [Bool.eq_iff_iff, hbyte, isDigit_iff, toNat_toUInt8 hc]
  · rw [← Bool.not_eq_true, hbyte]
    omega
  · rw [← Bool.not_eq_true, isDigit_iff]
    omega

theorem asciiTest_isHexDigit : AsciiTest isHexDigitByte isHexDigit := by
  have hbyte : ∀ b : UInt8, isHexDigitByte b = true ↔ (48 ≤ b.toNat ∧ b.toNat ≤ 57) ∨
      (97 ≤ b.toNat ∧ b.toNat ≤ 102) ∨ (65 ≤ b.toNat ∧ b.toNat ≤ 70) := by
    intro b
    rw [isHexDigitByte]
    simp only [Bool.or_eq_true, Bool.and_eq_true, decide_eq_true_eq]
    rw [between_iff b '0' '9' (by decide) (by decide), between_iff b 'a' 'f' (by decide)
      (by decide), between_iff b 'A' 'F' (by decide) (by decide), or_assoc]
    rfl
  have hchar : ∀ c : Char, isHexDigit c = true ↔ (48 ≤ c.toNat ∧ c.toNat ≤ 57) ∨
      (97 ≤ c.toNat ∧ c.toNat ≤ 102) ∨ (65 ≤ c.toNat ∧ c.toNat ≤ 70) := by
    intro c
    have hle : ∀ x y : Char, x ≤ y ↔ x.toNat ≤ y.toNat := fun x y =>
      Char.le_def.trans UInt32.le_iff_toNat_le
    rw [isHexDigit]
    simp only [Bool.or_eq_true, Bool.and_eq_true, decide_eq_true_eq, isDigit_iff, hle]
    rw [or_assoc]
    rfl
  refine ⟨fun c hc => ?_, fun b hb => ?_, fun c hc => ?_⟩
  · rw [Bool.eq_iff_iff, hbyte, hchar, toNat_toUInt8 hc]
  · rw [← Bool.not_eq_true, hbyte]
    omega
  · rw [← Bool.not_eq_true, hchar]
    omega

theorem asciiTest_or {test test' : UInt8 → Bool} {t t' : Char → Bool} (h : AsciiTest test t)
    (h' : AsciiTest test' t') : AsciiTest (fun b => test b || test' b) (fun c => t c || t' c) :=
  ⟨fun c hc => by rw [h.ascii c hc, h'.ascii c hc],
    fun b hb => by rw [h.high b hb, h'.high b hb]; rfl,
    fun c hc => by rw [h.other c hc, h'.other c hc]; rfl⟩

theorem asciiTest_eq {x : Char} (hx : x.toNat < 128) : AsciiTest (· == x.toUInt8) (· == x) := by
  refine ⟨fun c hc => ?_, fun b hb => ?_, fun c hc => ?_⟩
  · rw [Bool.eq_iff_iff, beq_iff_eq, beq_iff_eq, toUInt8_inj hc hx]
  · rw [← Bool.not_eq_true, beq_iff_eq]
    rintro rfl
    rw [toNat_toUInt8 hx] at hb
    omega
  · rw [← Bool.not_eq_true, beq_iff_eq]
    rintro rfl
    omega

/-! ## Single bytes -/

theorem rest_skipWhile {test : UInt8 → Bool} {t : Char → Bool} (htest : AsciiTest test t)
    (hp : p.rest = encode cs) : (p.skipWhile test).rest = encode (cs.dropWhile t) := by
  induction cs generalizing p with
  | nil =>
    rw [skipWhile]
    split
    · rename_i b hb
      rw [peek_of_nil hp] at hb
      cases hb
    · exact hp
  | cons c cs ih =>
    obtain ⟨b, hb⟩ := exists_byte hp
    have hagree := htest.agree hp hb
    rw [skipWhile]
    split
    · rename_i b' hb'
      obtain rfl : b = b' := Option.some.inj (hb.symm.trans hb')
      rw [hagree]
      by_cases hc : t c = true
      · rw [if_pos hc, List.dropWhile_cons_of_pos hc]
        exact ih (rest_advance_ascii hp (htest.lt hc) _)
      · rw [if_neg hc, List.dropWhile_cons_of_neg hc]
        exact hp
    · rename_i hnone
      rw [hnone] at hb
      cases hb

theorem rest_skipWhitespace (hp : p.rest = encode cs) :
    p.skipWhitespace.rest = encode (Codex.skipWhitespace cs) :=
  rest_skipWhile (asciiTest_or (asciiTest_or (asciiTest_or (asciiTest_eq (by decide))
    (asciiTest_eq (by decide))) (asciiTest_eq (by decide))) (asciiTest_eq (by decide))) hp

theorem rest_skipDigits (hp : p.rest = encode cs) :
    (p.skipWhile isDigitByte).rest = encode (skipDigits cs) :=
  rest_skipWhile asciiTest_isDigit hp

/-- A byte is there when the character is, and the parser behind it is the one behind the
character. -/
theorem consumeByte_map {x : Char} (hx : x.toNat < 128) (hp : p.rest = encode cs) :
    (p.consumeByte x.toUInt8).map (·.1.rest) = (afterChar x cs).map encode := by
  cases cs with
  | nil =>
    unfold consumeByte
    split
    · rename_i b hb
      rw [peek_of_nil hp] at hb
      cases hb
    · rfl
  | cons c cs =>
    obtain ⟨b, hb⟩ := exists_byte hp
    have hbyte := byte_eq_iff hp hb hx
    unfold consumeByte
    split
    · rename_i b' hb'
      obtain rfl : b = b' := Option.some.inj (hb.symm.trans hb')
      by_cases hc : c = x
      · have hlt : c.toNat < 128 := by rwa [hc]
        rw [if_pos (hbyte.2 hc), afterChar, if_pos hc]
        exact congrArg some (rest_advance_ascii hp hlt _)
      · rw [if_neg (mt hbyte.1 hc), afterChar, if_neg hc]
        rfl
    · rename_i hnone
      rw [hnone] at hb
      cases hb

theorem rest?_expect {x : Char} (hx : x.toNat < 128) (hp : p.rest = encode cs)
    {next : ∀ q : JsonParser input, p.index < q.index → Outcome q}
    {f : List Char → Option (List Char)}
    (hnext : ∀ q h after, afterChar x cs = some after → q.rest = encode after →
      (next q h).rest? = (f after).map encode) :
    (p.expect x.toUInt8 next).rest? = ((afterChar x cs).bind f).map encode := by
  have hmap := consumeByte_map hx hp
  unfold expect
  cases hconsume : p.consumeByte x.toUInt8 with
  | none =>
    rw [hconsume] at hmap
    cases hafter : afterChar x cs with
    | none => rfl
    | some after =>
      rw [hafter] at hmap
      cases hmap
  | some q =>
    rw [hconsume] at hmap
    cases hafter : afterChar x cs with
    | none =>
      rw [hafter] at hmap
      cases hmap
    | some after =>
      rw [hafter] at hmap
      have hq : q.1.rest = encode after := Option.some.inj hmap
      simp [hnext q.1 q.2 after hafter hq]

theorem rest?_acceptOr {x : Char} (hx : x.toNat < 128) (hp : p.rest = encode cs) {o : Outcome p}
    {r : Option (List Char)} (ho : o.rest? = r.map encode) :
    (p.acceptOr x.toUInt8 o).rest? = ((afterChar x cs).or r).map encode := by
  have hmap := consumeByte_map hx hp
  unfold acceptOr
  cases hconsume : p.consumeByte x.toUInt8 with
  | none =>
    rw [hconsume] at hmap
    cases hafter : afterChar x cs with
    | none => exact ho
    | some after =>
      rw [hafter] at hmap
      cases hmap
  | some q =>
    rw [hconsume] at hmap
    cases hafter : afterChar x cs with
    | none =>
      rw [hafter] at hmap
      cases hmap
    | some after =>
      rw [hafter] at hmap
      exact hmap

theorem rest_optionalByte {test : UInt8 → Bool} {t : Char → Bool} (htest : AsciiTest test t)
    (hp : p.rest = encode cs) :
    (p.optionalByte test).rest = encode (dropIf t cs) := by
  cases cs with
  | nil =>
    unfold optionalByte
    split
    · rename_i b hb
      rw [peek_of_nil hp] at hb
      cases hb
    · exact hp
  | cons c cs =>
    obtain ⟨b, hb⟩ := exists_byte hp
    have hagree := htest.agree hp hb
    unfold optionalByte
    split
    · rename_i b' hb'
      obtain rfl : b = b' := Option.some.inj (hb.symm.trans hb')
      rw [hagree, dropIf]
      by_cases hc : t c = true
      · rw [if_pos hc, if_pos hc]
        exact rest_advance_ascii hp (htest.lt hc) _
      · rw [if_neg hc, if_neg hc]
        exact hp
    · rename_i hnone
      rw [hnone] at hb
      cases hb

/-- The text behind a literal. -/
theorem rest?_consumeLiteral {literal : List Char} (hascii : ∀ c ∈ literal, c.toNat < 128)
    (hp : p.rest = encode cs) :
    (p.consumeLiteral (literal.map Char.toUInt8)).rest? =
      (if literal <+: cs then some (cs.drop literal.length) else none).map encode := by
  have hstarts : literal.map Char.toUInt8 <+: p.rest ↔ literal <+: cs := by
    rw [hp]
    exact map_toUInt8_prefix_encode hascii
  unfold consumeLiteral
  by_cases hliteral : literal <+: cs
  · rw [dif_pos (hstarts.2 hliteral), if_pos hliteral]
    obtain ⟨after, rfl⟩ := hliteral
    simp only [rest?_done, Option.map_some, Option.some.injEq, List.drop_left]
    have hdrop : (p.rest).drop (literal.map Char.toUInt8).length = encode after := by
      rw [hp, encode_append, encode_of_ascii hascii, List.drop_left]
    rw [← hdrop]
    simp only [rest, List.drop_drop]
  · rw [dif_neg (mt hstarts.1 hliteral), if_neg hliteral]
    rfl

/-! ## Strings -/

theorem rest?_hexDigits (n : ℕ) (hp : p.rest = encode cs) :
    (hexDigits n p).rest? = (afterHex n cs).map encode := by
  induction n generalizing p cs with
  | zero => exact congrArg some hp
  | succ n ih =>
    cases cs with
    | nil =>
      unfold hexDigits
      split
      · rename_i b hb
        rw [peek_of_nil hp] at hb
        cases hb
      · rfl
    | cons c cs =>
      obtain ⟨b, hb⟩ := exists_byte hp
      have hagree := asciiTest_isHexDigit.agree hp hb
      unfold hexDigits
      split
      · rename_i b' hb'
        obtain rfl : b = b' := Option.some.inj (hb.symm.trans hb')
        rw [afterHex]
        by_cases hc : isHexDigit c = true
        · rw [if_pos (hagree.trans hc), if_pos hc, rest?_since]
          exact ih (rest_advance_ascii hp (asciiTest_isHexDigit.lt hc) _)
        · rw [if_neg (by rw [hagree]; exact hc), if_neg hc]
          rfl
      · rename_i hnone
        rw [hnone] at hb
        cases hb

theorem lt_of_mem_escapeChars {c : Char} (h : c ∈ escapeChars) : c.toNat < 128 := by
  have hall : ∀ c ∈ escapeChars, c.toNat < 128 := List.all_iff_forall_prop.1 (by decide)
  exact hall c h

theorem rest?_parseEscape (hp : p.rest = encode cs) :
    (parseEscape p).rest? = (afterEscape cs).map encode := by
  cases cs with
  | nil =>
    unfold parseEscape
    split
    · rename_i b hb
      rw [peek_of_nil hp] at hb
      cases hb
    · rfl
  | cons c cs =>
    obtain ⟨b, hb⟩ := exists_byte hp
    have hmem : b ∈ escapeBytes ↔ c ∈ escapeChars := by
      have hbytes : escapeBytes = escapeChars.map Char.toUInt8 := rfl
      rw [hbytes, List.mem_map]
      constructor
      · rintro ⟨x, hx, hbyte⟩
        rwa [(byte_eq_iff hp hb (lt_of_mem_escapeChars hx)).1 hbyte.symm]
      · intro hc
        exact ⟨c, hc, ((byte_eq_iff hp hb (lt_of_mem_escapeChars hc)).2 rfl).symm⟩
    have hu : b = 'u'.toUInt8 ↔ c = 'u' := byte_eq_iff hp hb (by decide)
    unfold parseEscape
    split
    · rename_i b' hb'
      obtain rfl : b = b' := Option.some.inj (hb.symm.trans hb')
      rw [afterEscape]
      by_cases hescape : c ∈ escapeChars
      · rw [if_pos (hmem.2 hescape), if_pos hescape]
        exact congrArg some (rest_advance_ascii hp (lt_of_mem_escapeChars hescape) _)
      · rw [if_neg (mt hmem.1 hescape), if_neg hescape]
        by_cases hc : c = 'u'
        · rw [if_pos (hu.2 hc), if_pos hc, rest?_since]
          exact rest?_hexDigits 4 (rest_advance_ascii hp (by rw [hc]; decide) _)
        · rw [if_neg (mt hu.1 hc), if_neg hc]
          rfl
    · rename_i hnone
      rw [hnone] at hb
      cases hb

/-- The loop steps over bytes of characters that are not ASCII. -/
theorem rest?_stringLoop_high {bs bytes : List UInt8} (hhigh : ∀ b ∈ bs, 128 ≤ b.toNat)
    (hp : p.rest = bs ++ bytes) :
    ∃ q : JsonParser input, q.rest = bytes ∧ (stringLoop p).rest? = (stringLoop q).rest? := by
  induction bs generalizing p with
  | nil => exact ⟨p, hp, rfl⟩
  | cons b bs ih =>
    have hb : p.peek = some b := by rw [peek_eq_head?, hp, List.cons_append, List.head?_cons]
    have hlow : 128 ≤ b.toNat := hhigh b List.mem_cons_self
    have hrest : (p.advance (lt_of_peek hb)).rest = bs ++ bytes := by
      rw [rest_advance, hp, List.cons_append, List.tail_cons]
    obtain ⟨q, hq, hloop⟩ := ih (fun b hb => hhigh b (List.mem_cons_of_mem _ hb)) hrest
    refine ⟨q, hq, ?_⟩
    rw [← hloop, stringLoop]
    have hquote : b ≠ quoteMark.toUInt8 := by
      rintro rfl
      exact absurd hlow (by decide)
    have hescape : b ≠ backslash.toUInt8 := by
      rintro rfl
      exact absurd hlow (by decide)
    have hcontrol : ¬ b ≤ 0x1f := by
      rw [UInt8.le_iff_toNat_le]
      have hvalue : (0x1f : UInt8).toNat = 31 := rfl
      omega
    split
    · rename_i b' hb'
      obtain rfl : b = b' := Option.some.inj (hb.symm.trans hb')
      rw [if_neg hquote, if_neg hescape, if_neg hcontrol, rest?_since]
    · rename_i hnone
      rw [hnone] at hb
      cases hb

/-- **The loop over the bytes of a string** ends where the loop over its characters does. -/
theorem rest?_stringLoop (hp : p.rest = encode cs) :
    (stringLoop p).rest? = (parseStringBody cs).map encode := by
  induction hn : cs.length using Nat.strong_induction_on generalizing p cs with
  | _ n ih =>
    subst hn
    cases cs with
    | nil =>
      rw [stringLoop]
      split
      · rename_i b hb
        rw [peek_of_nil hp] at hb
        cases hb
      · rfl
    | cons c cs =>
      by_cases hc : c.toNat < 128
      · obtain ⟨b, hb⟩ := exists_byte hp
        have hrest := rest_advance_ascii hp hc (lt_of_peek hb)
        have hquote : b = quoteMark.toUInt8 ↔ c = quoteMark := byte_eq_iff hp hb (by decide)
        have hescape : b = backslash.toUInt8 ↔ c = backslash := byte_eq_iff hp hb (by decide)
        have hbyte : b = c.toUInt8 := (byte_eq_iff hp hb hc).2 rfl
        have hcontrol : b ≤ 0x1f ↔ c.toNat < 32 := by
          have hvalue : (0x1f : UInt8).toNat = 31 := rfl
          rw [UInt8.le_iff_toNat_le, hbyte, toNat_toUInt8 hc, hvalue]
          omega
        rw [stringLoop]
        split
        · rename_i b' hb'
          obtain rfl : b = b' := Option.some.inj (hb.symm.trans hb')
          rw [parseStringBody_cons]
          by_cases h₁ : c = quoteMark
          · rw [if_pos (hquote.2 h₁), if_pos h₁]
            exact congrArg some hrest
          · rw [if_neg (mt hquote.1 h₁), if_neg h₁]
            by_cases h₂ : c = backslash
            · rw [if_pos (hescape.2 h₂), rest?_since, if_pos h₂]
              refine rest?_andThen (rest?_parseEscape hrest) fun q _ after hafter hq => ?_
              have hshorter := length_afterEscape hafter
              exact ih after.length (by rw [List.length_cons]; omega) hq rfl
            · rw [if_neg (mt hescape.1 h₂), if_neg h₂]
              by_cases h₃ : c.toNat < 32
              · rw [if_pos (hcontrol.2 h₃), if_pos h₃]
                rfl
              · rw [if_neg (mt hcontrol.1 h₃), if_neg h₃, rest?_since]
                exact ih cs.length (Nat.lt_succ_self _) hrest rfl
        · rename_i hnone
          rw [hnone] at hb
          cases hb
      · have hhigh : 128 ≤ c.toNat := Nat.le_of_not_lt hc
        obtain ⟨q, hq, hloop⟩ := rest?_stringLoop_high
          (fun b hb => le_of_mem_utf8EncodeChar hhigh hb) hp
        have h₁ : c ≠ quoteMark := by
          rintro rfl
          exact absurd hhigh (by decide)
        have h₂ : c ≠ backslash := by
          rintro rfl
          exact absurd hhigh (by decide)
        have h₃ : ¬ c.toNat < 32 := by omega
        rw [hloop, parseStringBody_cons, if_neg h₁, if_neg h₂, if_neg h₃]
        exact ih cs.length (Nat.lt_succ_self _) hq rfl

theorem rest?_parseString (hp : p.rest = encode cs) :
    (parseString p).rest? = ((afterChar quoteMark cs).bind parseStringBody).map encode :=
  rest?_expect (by decide) hp fun _ _ _ _ hq => rest?_stringLoop hq

/-! ## Numbers -/

theorem rest?_requireDigits (hp : p.rest = encode cs) :
    (requireDigits p).rest? = (parseDigits cs).map encode := by
  cases cs with
  | nil =>
    unfold requireDigits
    split
    · rename_i b hb
      rw [peek_of_nil hp] at hb
      cases hb
    · rfl
  | cons c cs =>
    obtain ⟨b, hb⟩ := exists_byte hp
    have hagree := asciiTest_isDigit.agree hp hb
    unfold requireDigits
    split
    · rename_i b' hb'
      obtain rfl : b = b' := Option.some.inj (hb.symm.trans hb')
      rw [hagree, parseDigits]
      by_cases hc : c.isDigit = true
      · rw [if_pos hc, if_pos hc]
        exact congrArg some
          (rest_skipDigits (rest_advance_ascii hp (asciiTest_isDigit.lt hc) _))
      · rw [if_neg hc, if_neg hc]
        rfl
    · rename_i hnone
      rw [hnone] at hb
      cases hb

theorem rest?_integerPart (hp : p.rest = encode cs) :
    (integerPart p).rest? = (afterInteger cs).map encode := by
  cases cs with
  | nil =>
    unfold integerPart
    split
    · rename_i b hb
      rw [peek_of_nil hp] at hb
      cases hb
    · rfl
  | cons c cs =>
    obtain ⟨b, hb⟩ := exists_byte hp
    have hagree := asciiTest_isDigit.agree hp hb
    have hzero : b = '0'.toUInt8 ↔ c = '0' := byte_eq_iff hp hb (by decide)
    unfold integerPart
    split
    · rename_i b' hb'
      obtain rfl : b = b' := Option.some.inj (hb.symm.trans hb')
      rw [hagree, afterInteger]
      by_cases h₁ : c = '0'
      · rw [if_pos (hzero.2 h₁), if_pos h₁]
        exact congrArg some (rest_advance_ascii hp (by rw [h₁]; decide) _)
      · rw [if_neg (mt hzero.1 h₁), if_neg h₁]
        by_cases hc : c.isDigit = true
        · rw [if_pos hc, if_pos hc]
          exact congrArg some
            (rest_skipDigits (rest_advance_ascii hp (asciiTest_isDigit.lt hc) _))
        · rw [if_neg hc, if_neg hc]
          rfl
    · rename_i hnone
      rw [hnone] at hb
      cases hb

theorem rest?_fractionPart (hp : p.rest = encode cs) :
    (fractionPart p).rest? = (afterFraction cs).map encode := by
  have hmap := @consumeByte_map input p cs '.' (by decide) hp
  unfold fractionPart afterFraction
  cases hconsume : p.consumeByte '.'.toUInt8 with
  | none =>
    rw [hconsume] at hmap
    cases hafter : afterChar '.' cs with
    | none => exact congrArg some hp
    | some after =>
      rw [hafter] at hmap
      cases hmap
  | some q =>
    rw [hconsume] at hmap
    cases hafter : afterChar '.' cs with
    | none =>
      rw [hafter] at hmap
      cases hmap
    | some after =>
      rw [hafter] at hmap
      simp only [rest?_since]
      exact rest?_requireDigits (Option.some.inj hmap)

theorem rest?_exponentPart (hp : p.rest = encode cs) :
    (exponentPart p).rest? = (parseExponent cs).map encode := by
  cases cs with
  | nil =>
    unfold exponentPart
    split
    · rename_i b hb
      rw [peek_of_nil hp] at hb
      cases hb
    · exact congrArg some hp
  | cons c cs =>
    obtain ⟨b, hb⟩ := exists_byte hp
    have hlower : b = 'e'.toUInt8 ↔ c = 'e' := byte_eq_iff hp hb (by decide)
    have hupper : b = 'E'.toUInt8 ↔ c = 'E' := byte_eq_iff hp hb (by decide)
    have hexponent : (b = 'e'.toUInt8 ∨ b = 'E'.toUInt8) ↔ (c = 'e' ∨ c = 'E') := by
      rw [hlower, hupper]
    unfold exponentPart
    split
    · rename_i b' hb'
      obtain rfl : b = b' := Option.some.inj (hb.symm.trans hb')
      rw [parseExponent_cons]
      by_cases hc : c = 'e' ∨ c = 'E'
      · have hascii : c.toNat < 128 := by
          rcases hc with rfl | rfl <;> decide
        rw [if_pos (hexponent.2 hc), if_pos hc, rest?_since]
        exact rest?_requireDigits (rest_optionalByte (asciiTest_or (asciiTest_eq (by decide))
          (asciiTest_eq (by decide))) (rest_advance_ascii hp hascii _))
      · rw [if_neg (mt hexponent.1 hc), if_neg hc]
        exact congrArg some hp
    · rename_i hnone
      rw [hnone] at hb
      cases hb

theorem rest?_parseNumber (hp : p.rest = encode cs) :
    (parseNumber p).rest? = (Codex.parseNumber cs).map encode := by
  rw [parseNumber, rest?_since, Codex.parseNumber_eq]
  refine rest?_andThen (rest?_integerPart (rest_optionalByte (asciiTest_eq (by decide)) hp))
    fun q _ after _ hq => ?_
  rw [parseFraction_eq]
  exact rest?_andThen (rest?_fractionPart hq) fun r _ _ _ hr => rest?_exponentPart hr

/-- A number or a literal at the start of the text. -/
theorem rest?_scalar {c : Char} {q : JsonParser input}
    (hp : p.rest = encode (c :: cs)) (hskip : q.index ≤ p.index) :
    Outcome.rest? (p := q)
      (if c = '-' ∨ c.isDigit then (parseNumber p).since hskip
      else if c = 't' then
        (p.consumeLiteral ("true".toList.map Char.toUInt8)).since hskip
      else if c = 'f' then
        (p.consumeLiteral ("false".toList.map Char.toUInt8)).since hskip
      else if c = 'n' then
        (p.consumeLiteral ("null".toList.map Char.toUInt8)).since hskip
      else failed p hskip) = (parseScalar (c :: cs)).map encode := by
  by_cases ht : c = 't'
  · subst ht
    rw [if_neg (by decide), if_pos rfl, rest?_since]
    exact rest?_consumeLiteral (List.all_iff_forall_prop.1 (by decide)) hp
  by_cases hf : c = 'f'
  · subst hf
    rw [if_neg (by decide), if_neg (by decide), if_pos rfl, rest?_since]
    exact rest?_consumeLiteral (List.all_iff_forall_prop.1 (by decide)) hp
  by_cases hn : c = 'n'
  · subst hn
    rw [if_neg (by decide), if_neg (by decide), if_neg (by decide), if_pos rfl, rest?_since]
    exact rest?_consumeLiteral (List.all_iff_forall_prop.1 (by decide)) hp
  rw [parseScalar_eq_number ht hf hn, if_neg ht, if_neg hf, if_neg hn]
  split_ifs with hnumber
  · rw [rest?_since]
    exact rest?_parseNumber hp
  · rfl

/-! ## Values -/

/-- The parser over bytes does on this text what the parser over characters does. -/
structure Follows (cs : List Char) : Prop where
  value : ∀ {input : List UInt8} {p : JsonParser input}, p.rest = encode cs →
    (parseValue p).rest? = (afterValue cs).map encode
  members : ∀ {input : List UInt8} {p : JsonParser input}, p.rest = encode cs →
    (objectLoop p).rest? = (afterMembers cs).map encode
  elements : ∀ {input : List UInt8} {p : JsonParser input}, p.rest = encode cs →
    (arrayLoop p).rest? = (afterElements cs).map encode

section Step

variable (ih : ∀ rest : List Char, rest.length < cs.length → Follows rest)

include ih

/-- An object at the start of the text. -/
theorem rest?_parseObject (hp : p.rest = encode cs) :
    (parseObject p).rest? =
      ((afterChar openBrace cs).bind fun rest =>
        closedOr closeBrace rest (afterMembers rest)).map encode := by
  rw [parseObject]
  refine rest?_expect (by decide) hp fun q _ after hafter hq => ?_
  have hshorter := length_afterChar hafter
  have hskip := length_skipWhitespace after
  rw [rest?_since, closedOr, ← afterMembers_skipWhitespace]
  exact rest?_acceptOr (by decide) (rest_skipWhitespace hq)
    ((ih _ (by omega)).members (rest_skipWhitespace hq))

/-- An array at the start of the text. -/
theorem rest?_parseArray (hp : p.rest = encode cs) :
    (parseArray p).rest? =
      ((afterChar '[' cs).bind fun rest =>
        closedOr ']' rest (afterElements rest)).map encode := by
  rw [parseArray]
  refine rest?_expect (by decide) hp fun q _ after hafter hq => ?_
  have hshorter := length_afterChar hafter
  have hskip := length_skipWhitespace after
  rw [rest?_since, closedOr, ← afterElements_skipWhitespace]
  exact rest?_acceptOr (by decide) (rest_skipWhitespace hq)
    ((ih _ (by omega)).elements (rest_skipWhitespace hq))

theorem rest?_parseValue_step (hp : p.rest = encode cs) :
    (parseValue p).rest? = (afterValue cs).map encode := by
  have hskipped := rest_skipWhitespace hp
  have hlength := length_skipWhitespace cs
  have hbelow : ∀ rest : List Char, rest.length < (Codex.skipWhitespace cs).length →
      Follows rest := fun rest hrest => ih rest (by omega)
  rw [parseValue, afterValue_eq]
  cases hcs : Codex.skipWhitespace cs with
  | nil =>
    rw [hcs] at hskipped
    rw [peek_of_nil hskipped]
    rfl
  | cons c rest =>
    rw [hcs] at hskipped hbelow
    obtain ⟨b, hb⟩ := exists_byte hskipped
    have hbyte : ∀ {x : Char}, x.toNat < 128 → (b = x.toUInt8 ↔ c = x) :=
      fun hx => byte_eq_iff hskipped hb hx
    have hdigit : isDigitByte b = c.isDigit := asciiTest_isDigit.agree hskipped hb
    rw [hb]
    simp only [hbyte (show openBrace.toNat < 128 by decide),
      hbyte (show '['.toNat < 128 by decide), hbyte (show quoteMark.toNat < 128 by decide),
      hbyte (show '-'.toNat < 128 by decide), hbyte (show 't'.toNat < 128 by decide),
      hbyte (show 'f'.toNat < 128 by decide), hbyte (show 'n'.toNat < 128 by decide), hdigit]
    by_cases h₁ : c = openBrace
    · rw [if_pos h₁, if_pos h₁, rest?_since, rest?_parseObject hbelow hskipped, afterChar,
        if_pos h₁]
      rfl
    rw [if_neg h₁, if_neg h₁]
    by_cases h₂ : c = '['
    · rw [if_pos h₂, if_pos h₂, rest?_since, rest?_parseArray hbelow hskipped, afterChar,
        if_pos h₂]
      rfl
    rw [if_neg h₂, if_neg h₂]
    by_cases h₃ : c = quoteMark
    · rw [if_pos h₃, if_pos h₃, rest?_since, rest?_parseString hskipped, afterChar, if_pos h₃]
      rfl
    rw [if_neg h₃, if_neg h₃]
    exact rest?_scalar hskipped p.index_le_skipWhitespace

theorem rest?_objectLoop_step (hp : p.rest = encode cs) :
    (objectLoop p).rest? = (afterMembers cs).map encode := by
  rw [objectLoop, afterMembers_eq]
  refine rest?_andThen ?_ fun key _ afterKey hkey hkeyRest => ?_
  · rw [rest?_since, rest?_parseString (rest_skipWhitespace hp), afterString]
  have hkeyLength := length_afterString hkey
  rw [rest?_since]
  refine rest?_expect (by decide) (rest_skipWhitespace hkeyRest)
    fun colon _ afterColon hcolon hcolonRest => ?_
  have hcolonLength := length_afterChar hcolon
  have hkeySkip := length_skipWhitespace afterKey
  refine rest?_andThen ((ih _ (by omega)).value hcolonRest)
    fun value _ afterVal hval hvalRest => ?_
  have hvalLength := length_afterValue hval
  rw [rest?_since, closedOr]
  refine rest?_acceptOr (by decide) (rest_skipWhitespace hvalRest) ?_
  refine rest?_expect (by decide) (rest_skipWhitespace hvalRest)
    fun comma _ afterComma hcomma hcommaRest => ?_
  have hcommaLength := length_afterChar hcomma
  have hvalSkip := length_skipWhitespace afterVal
  exact (ih _ (by omega)).members hcommaRest

theorem rest?_arrayLoop_step (hp : p.rest = encode cs) :
    (arrayLoop p).rest? = (afterElements cs).map encode := by
  rw [arrayLoop, afterElements_eq]
  refine rest?_andThen (rest?_parseValue_step ih hp) fun value _ afterVal hval hvalRest => ?_
  have hvalLength := length_afterValue hval
  rw [rest?_since, closedOr]
  refine rest?_acceptOr (by decide) (rest_skipWhitespace hvalRest) ?_
  refine rest?_expect (by decide) (rest_skipWhitespace hvalRest)
    fun comma _ afterComma hcomma hcommaRest => ?_
  have hcommaLength := length_afterChar hcomma
  have hvalSkip := length_skipWhitespace afterVal
  exact (ih _ (by omega)).elements hcommaRest

end Step

theorem follows (cs : List Char) : Follows cs := by
  induction hn : cs.length using Nat.strong_induction_on generalizing cs with
  | _ n ih =>
    have hbelow : ∀ rest : List Char, rest.length < cs.length → Follows rest :=
      fun rest hrest => ih rest.length (hn ▸ hrest) rest rfl
    exact ⟨rest?_parseValue_step hbelow, rest?_objectLoop_step hbelow,
      rest?_arrayLoop_step hbelow⟩

theorem rest?_parseValue (hp : p.rest = encode cs) :
    (parseValue p).rest? = (afterValue cs).map encode :=
  (follows cs).value hp

/-! ## The line -/

theorem encode_eq_nil {cs : List Char} : encode cs = [] ↔ cs = [] := by
  cases cs with
  | nil => exact iff_of_true rfl rfl
  | cons c cs =>
    obtain ⟨b, bs, hbytes, -⟩ := encode_cons_head c cs
    rw [hbytes]
    exact iff_of_false (List.cons_ne_nil _ _) (List.cons_ne_nil _ _)

/-- The parser is at the end when nothing is left. -/
theorem index_eq_length_iff (p : JsonParser input) :
    p.index = input.length ↔ p.rest = [] := by
  have hwithin := p.within
  rw [rest, List.drop_eq_nil_iff]
  omega

theorem isFinished_iff (hp : p.rest = encode cs) :
    p.isFinished = true ↔ Codex.skipWhitespace cs = [] := by
  rw [isFinished, beq_iff_eq, index_eq_length_iff, rest_skipWhitespace hp, encode_eq_nil]

theorem afterValue_nil : afterValue [] = none := afterValue_eq []

/-- The line is accepted when white space is all that follows one value in it. -/
theorem parseLightweightJsonLine_eq_some {line text : String} :
    parseLightweightJsonLine line = some text ↔
      text = Text.trim line ∧ ∃ rest, afterValue text.toList = some rest ∧
        Codex.skipWhitespace rest = [] := by
  have hnew : (new (Utf8.bytes (Text.trim line))).rest = encode (Text.trim line).toList := by
    rw [rest, new, List.drop_zero, bytes_eq_encode]
  have hparse := rest?_parseValue hnew
  unfold parseLightweightJsonLine
  by_cases hempty : Text.trim line = ""
  · simp only [hempty, if_pos]
    constructor
    · intro h
      cases h
    · rintro ⟨rfl, rest, hrest, -⟩
      rw [String.toList_empty, afterValue_nil] at hrest
      cases hrest
  simp only [if_neg hempty]
  split
  · rename_i q hq houtcome
    rw [houtcome, rest?_done] at hparse
    cases hafter : afterValue (Text.trim line).toList with
    | none =>
      rw [hafter] at hparse
      cases hparse
    | some rest =>
      rw [hafter] at hparse
      have hqRest : q.rest = encode rest := Option.some.inj hparse
      have hfinished := isFinished_iff hqRest
      by_cases hdone : Codex.skipWhitespace rest = []
      · rw [if_pos (hfinished.2 hdone)]
        constructor
        · intro h
          obtain rfl := Option.some.inj h
          exact ⟨rfl, rest, hafter, hdone⟩
        · rintro ⟨rfl, -⟩
          rfl
      · rw [if_neg (mt hfinished.1 hdone)]
        constructor
        · intro h
          cases h
        · rintro ⟨rfl, rest', hrest', hdone'⟩
          obtain rfl := Option.some.inj (hafter.symm.trans hrest')
          exact absurd hdone' hdone
  · rename_i q hq houtcome
    rw [houtcome, rest?_failed] at hparse
    constructor
    · intro h
      cases h
    · rintro ⟨rfl, rest, hrest, -⟩
      rw [hrest] at hparse
      cases hparse

end HobitQueue.Codex.JsonParser

namespace HobitQueue.Codex

open JsonParser in
/-- The parser over characters accepts the lines that the parser over bytes accepts. -/
theorem parseLightweightJsonLine_eq (line : String) :
    JsonParser.parseLightweightJsonLine line = parseLightweightJsonLine line := by
  ext text
  rw [parseLightweightJsonLine_eq_some]
  unfold parseLightweightJsonLine
  by_cases hempty : Text.trim line = ""
  · simp only [hempty, if_pos]
    constructor
    · rintro ⟨rfl, rest, hrest, -⟩
      rw [String.toList_empty, afterValue_nil] at hrest
      cases hrest
    · intro h
      cases h
  simp only [if_neg hempty, afterValue]
  constructor
  · rintro ⟨rfl, rest, hrest, hdone⟩
    obtain ⟨r, hr, rfl⟩ := Option.map_eq_some_iff.1 hrest
    simp only [hr, if_pos hdone]
  · intro h
    split at h
    · cases h
    · rename_i r hr
      split_ifs at h with hdone
      obtain rfl := Option.some.inj h
      exact ⟨rfl, r.1, by rw [hr]; rfl, hdone⟩

end HobitQueue.Codex
