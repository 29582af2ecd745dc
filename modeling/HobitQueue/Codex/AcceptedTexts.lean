import HobitQueue.Codex.ValueTexts
import HobitQueue.Lib.JsonSyntax

/-!
# What the parser accepts is JSON

Each function of the parser reads a word of a production of the grammar and leaves what stands
behind it. The productions compose as the calls do.

## Main results

* `reads_number`, `reads_string` — the lexical productions.
* `reads_value` — white space and a value.
-/

namespace HobitQueue.Codex

open JsonSyntax (Reads isWs isDigit isHexdig isDigit1to9 stringChar unicodeEscape isShortEscape
  reads_char reads_oneOf reads_optional reads_kstar le_optional mem_kstar_oneOf)
open Computability

/-! ## White space and single characters -/

theorem reads_ws (cs : List Char) : Reads JsonSyntax.ws cs (skipWhitespace cs) := by
  refine ⟨cs.takeWhile fun c => c == ' ' || c == '\n' || c == '\r' || c == '\t',
    mem_kstar_oneOf.2 fun c hc => ?_, (List.takeWhile_append_dropWhile).symm⟩
  have hspace := List.mem_takeWhile_imp hc
  simp only [Bool.or_eq_true, beq_iff_eq] at hspace
  unfold isWs
  tauto

theorem mem_ws_of_skipWhitespace {cs : List Char} (h : skipWhitespace cs = []) :
    cs ∈ JsonSyntax.ws := by
  obtain ⟨w, hw, hcs⟩ := reads_ws cs
  rw [h, List.append_nil] at hcs
  rwa [hcs]

theorem afterChar_eq_some {x : Char} {cs rest : List Char} :
    afterChar x cs = some rest ↔ cs = x :: rest := by
  cases cs with
  | nil => simp [afterChar]
  | cons c cs =>
    rw [afterChar]
    by_cases hc : c = x
    · simp [hc]
    · simp [hc]

/-- A character behind white space. -/
theorem reads_afterChar {x : Char} {cs rest : List Char}
    (h : afterChar x (skipWhitespace cs) = some rest) :
    Reads (JsonSyntax.ws * JsonSyntax.char x) cs rest := by
  have hread := reads_ws cs
  rw [afterChar_eq_some.1 h] at hread
  exact hread.mul reads_char

/-- A character between white space. -/
theorem reads_structural {x : Char} {cs rest : List Char}
    (h : afterChar x (skipWhitespace cs) = some rest) :
    Reads (JsonSyntax.ws * JsonSyntax.char x * JsonSyntax.ws) cs rest :=
  (reads_afterChar h).mul (reads_kstar rest)

/-! ## Numbers -/

theorem isDigit_iff_isDigit (c : Char) : c.isDigit = true ↔ isDigit c := by
  simp [Char.isDigit, isDigit, Char.le_def, UInt32.le_iff_toNat_le]

theorem reads_skipDigits (cs : List Char) :
    Reads (JsonSyntax.oneOf isDigit)∗ cs (skipDigits cs) :=
  ⟨cs.takeWhile Char.isDigit,
    mem_kstar_oneOf.2 fun _ hc => (isDigit_iff_isDigit _).1 (List.mem_takeWhile_imp hc),
    (List.takeWhile_append_dropWhile).symm⟩

theorem reads_parseDigits {cs rest : List Char} (h : parseDigits cs = some rest) :
    Reads JsonSyntax.digits cs rest := by
  cases cs with
  | nil => cases h
  | cons c cs =>
    rw [parseDigits] at h
    split_ifs at h with hc
    obtain rfl := Option.some.inj h
    exact (reads_oneOf ((isDigit_iff_isDigit _).1 hc)).mul (reads_skipDigits cs)

theorem isDigit1to9_of_isDigit {c : Char} (h : c.isDigit = true) (hne : c ≠ '0') :
    isDigit1to9 c := by
  have hdigit := (isDigit_iff_isDigit c).1 h
  have hval : c.toNat ≠ '0'.toNat := fun heq => hne (Char.toNat_inj.1 heq)
  simp only [isDigit, isDigit1to9, Char.le_def, UInt32.le_iff_toNat_le] at hdigit ⊢
  have h0 : ('0' : Char).val.toNat = 48 := rfl
  have h1 : ('1' : Char).val.toNat = 49 := rfl
  have h0' : ('0' : Char).toNat = 48 := rfl
  have hc : c.toNat = c.val.toNat := rfl
  omega

theorem reads_afterInteger {cs rest : List Char} (h : afterInteger cs = some rest) :
    Reads JsonSyntax.int cs rest := by
  cases cs with
  | nil => cases h
  | cons c cs =>
    rw [afterInteger] at h
    split_ifs at h with hzero hdigit
    · obtain rfl := Option.some.inj h
      rw [hzero]
      exact reads_char.mono fun _ hw => .inl hw
    · obtain rfl := Option.some.inj h
      have hread := (reads_oneOf (isDigit1to9_of_isDigit hdigit hzero)).mul (reads_skipDigits cs)
      exact hread.mono fun _ hw => .inr hw

theorem reads_dropIf {t : Char → Bool} {p : Char → Prop} (h : ∀ c, t c = true → p c)
    (cs : List Char) :
    Reads (JsonSyntax.optional (JsonSyntax.oneOf p)) cs (dropIf t cs) := by
  cases cs with
  | nil => exact reads_optional []
  | cons c cs =>
    rw [dropIf]
    split_ifs with hc
    · exact (reads_oneOf (h c hc)).mono (le_optional _)
    · exact reads_optional _

theorem reads_afterFraction {cs rest : List Char} (h : afterFraction cs = some rest) :
    Reads (JsonSyntax.optional JsonSyntax.frac) cs rest := by
  unfold afterFraction at h
  split at h
  · rename_i digits hpoint
    rw [afterChar_eq_some.1 hpoint]
    exact (reads_char.mul (reads_parseDigits h)).mono (le_optional _)
  · obtain rfl := Option.some.inj h
    exact reads_optional cs

theorem reads_parseExponent {cs rest : List Char} (h : parseExponent cs = some rest) :
    Reads (JsonSyntax.optional JsonSyntax.exp) cs rest := by
  cases cs with
  | nil =>
    obtain rfl := Option.some.inj h
    exact reads_optional []
  | cons c cs =>
    rw [parseExponent_cons] at h
    split_ifs at h with hc
    · have hsign : ∀ c : Char, (c == '+' || c == '-') = true → c = '-' ∨ c = '+' := by
        intro c hc
        simpa [or_comm] using hc
      have hread := ((reads_oneOf (p := fun c => c = 'e' ∨ c = 'E') hc).mul
        (reads_dropIf hsign cs)).mul (reads_parseDigits h)
      exact hread.mono (le_optional _)
    · obtain rfl := Option.some.inj h
      exact reads_optional _

theorem reads_number {cs rest : List Char} (h : parseNumber cs = some rest) :
    Reads JsonSyntax.number cs rest := by
  rw [parseNumber_eq, Option.bind_eq_some_iff] at h
  obtain ⟨mid, hinteger, h⟩ := h
  rw [parseFraction_eq, Option.bind_eq_some_iff] at h
  obtain ⟨behind, hfraction, hexponent⟩ := h
  have hsign : Reads (JsonSyntax.optional (JsonSyntax.char '-')) cs (dropIf (· == '-') cs) := by
    refine (reads_dropIf (p := (· = '-')) (fun c hc => by simpa using hc) cs).mono ?_
    rintro w (hnil | ⟨c, rfl, rfl⟩)
    · exact .inl hnil
    · exact .inr rfl
  exact ((hsign.mul (reads_afterInteger hinteger)).mul (reads_afterFraction hfraction)).mul
    (reads_parseExponent hexponent)

/-! ## Strings -/

theorem isHexdig_of_isHexDigit {c : Char} (h : isHexDigit c = true) : isHexdig c := by
  simp only [isHexDigit, Bool.or_eq_true, Bool.and_eq_true, decide_eq_true_eq] at h
  rcases h with (hdigit | hlower) | hupper
  · exact .inl ((isDigit_iff_isDigit _).1 hdigit)
  · exact .inr (.inr hlower)
  · exact .inr (.inl hupper)

theorem reads_afterHex {n : ℕ} {cs rest : List Char} (h : afterHex n cs = some rest) :
    Reads (JsonSyntax.oneOf isHexdig ^ n) cs rest := by
  induction n generalizing cs with
  | zero =>
    obtain rfl := Option.some.inj h
    exact JsonSyntax.reads_one cs
  | succ n ih =>
    cases cs with
    | nil => cases h
    | cons c cs =>
      rw [afterHex] at h
      split_ifs at h with hc
      rw [pow_succ']
      exact (reads_oneOf (isHexdig_of_isHexDigit hc)).mul (ih h)

theorem reads_afterEscape {cs rest : List Char} (h : afterEscape cs = some rest) :
    Reads (JsonSyntax.oneOf isShortEscape + unicodeEscape) cs rest := by
  cases cs with
  | nil => cases h
  | cons c cs =>
    rw [afterEscape] at h
    split_ifs at h with hshort hunicode
    · obtain rfl := Option.some.inj h
      exact (reads_oneOf (p := isShortEscape) hshort).mono fun _ hw => .inl hw
    · rw [hunicode]
      exact (reads_char.mul (reads_afterHex h)).mono fun _ hw => .inr hw

theorem isUnescaped_of_ne {c : Char} (hquote : c ≠ quoteMark) (hescape : c ≠ backslash)
    (hcontrol : ¬ c.toNat < 32) : JsonSyntax.isUnescaped c := by
  have h₁ : c.toNat ≠ quoteMark.toNat := fun heq => hquote (Char.toNat_inj.1 heq)
  have h₂ : c.toNat ≠ backslash.toNat := fun heq => hescape (Char.toNat_inj.1 heq)
  have h₃ : quoteMark.toNat = 34 := rfl
  have h₄ : backslash.toNat = 92 := rfl
  have hmax : c.toNat ≤ 0x10FFFF := by
    rcases c.valid with hlow | ⟨-, hhigh⟩
    · exact (hlow.trans (by decide)).le
    · exact Nat.le_of_lt_succ hhigh
  unfold JsonSyntax.isUnescaped
  omega

/-- The text up to the closing quote, by induction on its length: an escape leaves less. -/
theorem reads_parseStringBody {cs rest : List Char} (h : parseStringBody cs = some rest) :
    Reads (stringChar∗ * JsonSyntax.char quoteMark) cs rest := by
  induction hn : cs.length using Nat.strong_induction_on generalizing cs with
  | _ n ih =>
    cases cs with
    | nil =>
      rw [parseStringBody] at h
      cases h
    | cons c cs =>
      have hmore : ∀ mid : List Char, Reads stringChar (c :: cs) mid →
          Reads (stringChar∗ * JsonSyntax.char quoteMark) mid rest →
          Reads (stringChar∗ * JsonSyntax.char quoteMark) (c :: cs) rest := by
        intro mid hfirst hrest
        have hread := hfirst.mul hrest
        rw [← mul_assoc] at hread
        exact hread.mono (mul_le_mul_left mul_kstar_le_kstar _)
      rw [parseStringBody_cons] at h
      split_ifs at h with hquote hescape hcontrol
      · obtain rfl := Option.some.inj h
        rw [hquote]
        exact (reads_kstar _).mul reads_char
      · obtain ⟨mid, hmid, hrest⟩ := Option.bind_eq_some_iff.1 h
        have hshorter := length_afterEscape hmid
        rw [List.length_cons] at hn
        refine hmore mid ?_ (ih mid.length (by omega) hrest rfl)
        rw [hescape]
        exact (reads_char.mul (reads_afterEscape hmid)).mono fun _ hw => .inr hw
      · have hunescaped := isUnescaped_of_ne hquote hescape hcontrol
        exact hmore cs ((reads_oneOf hunescaped).mono fun _ hw => .inl hw)
          (ih cs.length (hn ▸ Nat.lt_succ_self _) h rfl)

theorem reads_string {cs rest : List Char} (h : afterString cs = some rest) :
    Reads (JsonSyntax.ws * JsonSyntax.string) cs rest := by
  obtain ⟨body, hbody, hrest⟩ := Option.bind_eq_some_iff.1 h
  have hread := (reads_afterChar hbody).mul (reads_parseStringBody hrest)
  rw [mul_assoc, ← mul_assoc (JsonSyntax.char quoteMark)] at hread
  exact hread

/-! ## Values -/

theorem reads_scalar {cs rest : List Char} (h : parseScalar cs = some rest) :
    Reads JsonSyntax.value cs rest := by
  have hliteral : ∀ {literal : String}, consumeLiteral literal cs = some rest →
      Reads (JsonSyntax.literal literal) cs rest := by
    intro literal hconsume
    rw [consumeLiteral] at hconsume
    split_ifs at hconsume with hprefix
    obtain ⟨after, rfl⟩ := hprefix
    rw [← String.length_toList, List.drop_left, Option.some.injEq] at hconsume
    exact ⟨literal.toList, rfl, by rw [hconsume]⟩
  unfold parseScalar at h
  split at h
  · exact (hliteral h).mono fun _ hw => JsonSyntax.literal_le_value (.inr hw)
  · exact (hliteral h).mono fun _ hw => JsonSyntax.literal_le_value (.inl (.inl hw))
  · exact (hliteral h).mono fun _ hw => JsonSyntax.literal_le_value (.inl (.inr hw))
  · split_ifs at h
    exact (reads_number h).mono JsonSyntax.number_le_value
  · cases h

theorem closedOr_eq_some {x : Char} {cs rest : List Char} {otherwise : Option (List Char)}
    (h : closedOr x cs otherwise = some rest) :
    afterChar x (skipWhitespace cs) = some rest ∨ otherwise = some rest := by
  rw [closedOr, Option.or_eq_some_iff] at h
  exact h.imp_right And.right

/-- What the mutually recursive functions read. -/
structure Accepts (cs : List Char) : Prop where
  value : ∀ {rest : List Char}, afterValue cs = some rest →
    Reads (JsonSyntax.ws * JsonSyntax.value) cs rest
  members : ∀ {rest : List Char}, afterMembers cs = some rest →
    Reads (JsonSyntax.ws * JsonSyntax.members * JsonSyntax.endObject) cs rest
  elements : ∀ {rest : List Char}, afterElements cs = some rest →
    Reads (JsonSyntax.ws * JsonSyntax.elements * JsonSyntax.endArray) cs rest

/-- Brackets with nothing between them. -/
theorem reads_empty {opening closing : Char} {cs rest : List Char}
    (h : afterChar closing (skipWhitespace cs) = some rest) :
    Reads (JsonSyntax.ws * JsonSyntax.char opening * JsonSyntax.ws *
      (JsonSyntax.ws * JsonSyntax.char closing * JsonSyntax.ws)) (opening :: cs) rest :=
  (((reads_kstar _).mul reads_char).mul (reads_kstar _)).mul (reads_structural h)

/-- Brackets with something between them. -/
theorem reads_enclosed {opening : Char} {l m : Language Char} {cs rest : List Char}
    (h : Reads (JsonSyntax.ws * l * m) cs rest) :
    Reads (JsonSyntax.ws * JsonSyntax.char opening * JsonSyntax.ws * l * m) (opening :: cs)
      rest := by
  have hread := ((reads_kstar (l := JsonSyntax.oneOf isWs) _).mul
    (@reads_char _ opening cs)).mul h
  simp only [mul_assoc] at hread ⊢
  exact hread

section Step

variable {cs rest : List Char} (ih : ∀ mid : List Char, mid.length < cs.length → Accepts mid)

include ih

theorem reads_value_step (h : afterValue cs = some rest) :
    Reads (JsonSyntax.ws * JsonSyntax.value) cs rest := by
  have hws := reads_ws cs
  have hlength := length_skipWhitespace cs
  rw [afterValue_eq] at h
  cases hcs : skipWhitespace cs with
  | nil =>
    rw [hcs] at h
    cases h
  | cons c mid =>
    rw [hcs] at h hws hlength
    rw [List.length_cons] at hlength
    have hmid := ih mid (by omega)
    refine hws.mul ?_
    dsimp only at h
    split_ifs at h with hbrace hbracket hquote
    · rw [hbrace]
      rcases closedOr_eq_some h with hclosed | hmembers
      · exact (reads_empty hclosed).mono JsonSyntax.emptyObject_le_value
      · exact (reads_enclosed (hmid.members hmembers)).mono JsonSyntax.object_le_value
    · rw [hbracket]
      rcases closedOr_eq_some h with hclosed | helements
      · exact (reads_empty hclosed).mono JsonSyntax.emptyArray_le_value
      · exact (reads_enclosed (hmid.elements helements)).mono JsonSyntax.array_le_value
    · rw [hquote]
      have hread := (reads_char (c := quoteMark)).mul (reads_parseStringBody h)
      rw [← mul_assoc] at hread
      exact hread.mono JsonSyntax.string_le_value
    · exact reads_scalar h

theorem reads_members_step (h : afterMembers cs = some rest) :
    Reads (JsonSyntax.ws * JsonSyntax.members * JsonSyntax.endObject) cs rest := by
  rw [afterMembers_eq, Option.bind_eq_some_iff] at h
  obtain ⟨key, hkey, h⟩ := h
  obtain ⟨colon, hcolon, h⟩ := Option.bind_eq_some_iff.1 h
  obtain ⟨val, hval, h⟩ := Option.bind_eq_some_iff.1 h
  have hkeyLength := length_afterString hkey
  have hcolonLength := length_afterChar hcolon
  have hvalLength := length_afterValue hval
  have hkeySkip := length_skipWhitespace key
  have hvalSkip := length_skipWhitespace val
  have hfirst := ((reads_string hkey).mul (reads_afterChar hcolon)).mul
    ((ih colon (by omega)).value hval)
  rcases closedOr_eq_some h with hclosed | hmore
  · have hread := hfirst.mul (reads_structural hclosed)
    have hle : JsonSyntax.ws * (JsonSyntax.string * JsonSyntax.nameSeparator * JsonSyntax.value) *
        JsonSyntax.endObject ≤ JsonSyntax.ws * JsonSyntax.members * JsonSyntax.endObject :=
      mul_le_mul_left (mul_le_mul_right JsonSyntax.lastMember_le_members _) _
    refine Reads.mono ?_ hle
    simp only [JsonSyntax.nameSeparator, JsonSyntax.endObject, mul_assoc] at hread ⊢
    exact hread
  · obtain ⟨comma, hcomma, hmembers⟩ := Option.bind_eq_some_iff.1 hmore
    have hcommaLength := length_afterChar hcomma
    have hread := (hfirst.mul (reads_afterChar hcomma)).mul
      ((ih comma (by omega)).members hmembers)
    have hle : JsonSyntax.ws * (JsonSyntax.string * JsonSyntax.nameSeparator * JsonSyntax.value *
        JsonSyntax.valueSeparator * JsonSyntax.members) * JsonSyntax.endObject ≤
        JsonSyntax.ws * JsonSyntax.members * JsonSyntax.endObject :=
      mul_le_mul_left (mul_le_mul_right JsonSyntax.member_le_members _) _
    refine Reads.mono ?_ hle
    simp only [JsonSyntax.nameSeparator, JsonSyntax.valueSeparator, mul_assoc] at hread ⊢
    exact hread

theorem reads_elements_step (h : afterElements cs = some rest) :
    Reads (JsonSyntax.ws * JsonSyntax.elements * JsonSyntax.endArray) cs rest := by
  rw [afterElements_eq, Option.bind_eq_some_iff] at h
  obtain ⟨val, hval, h⟩ := h
  have hvalLength := length_afterValue hval
  have hvalSkip := length_skipWhitespace val
  have hfirst := reads_value_step ih hval
  rcases closedOr_eq_some h with hclosed | hmore
  · exact (hfirst.mul (reads_structural hclosed)).mono
      (mul_le_mul_left (mul_le_mul_right JsonSyntax.value_le_elements _) _)
  · obtain ⟨comma, hcomma, helements⟩ := Option.bind_eq_some_iff.1 hmore
    have hcommaLength := length_afterChar hcomma
    have hread := (hfirst.mul (reads_afterChar hcomma)).mul
      ((ih comma (by omega)).elements helements)
    have hle : JsonSyntax.ws * (JsonSyntax.value * JsonSyntax.valueSeparator *
        JsonSyntax.elements) * JsonSyntax.endArray ≤
        JsonSyntax.ws * JsonSyntax.elements * JsonSyntax.endArray :=
      mul_le_mul_left (mul_le_mul_right JsonSyntax.element_le_elements _) _
    refine Reads.mono ?_ hle
    simp only [JsonSyntax.valueSeparator, mul_assoc] at hread ⊢
    exact hread

end Step

theorem accepts (cs : List Char) : Accepts cs := by
  induction hn : cs.length using Nat.strong_induction_on generalizing cs with
  | _ n ih =>
    have hbelow : ∀ mid : List Char, mid.length < cs.length → Accepts mid :=
      fun mid hmid => ih mid.length (hn ▸ hmid) mid rfl
    exact ⟨reads_value_step hbelow, reads_members_step hbelow, reads_elements_step hbelow⟩

theorem reads_value {cs rest : List Char} (h : afterValue cs = some rest) :
    Reads (JsonSyntax.ws * JsonSyntax.value) cs rest :=
  (accepts cs).value h

end HobitQueue.Codex
