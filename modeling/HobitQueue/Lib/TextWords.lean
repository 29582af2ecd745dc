import HobitQueue.Lib.TextLines
import Mathlib.Data.List.DropRight

/-!
# Words, paragraphs and line endings

A text is cut into words at its blanks. Whatever only adds or removes blanks between words, such
as trimming, cutting at blank separators and joining with blanks, keeps the words.

## Main definitions

* `words` — the longest parts of a text without a blank.
* `Tidy` — a text that neither is empty nor begins or ends with a blank.
* `strip` — a text without the blanks at its ends.
* `splitPair`, `replacePair` — `str::split` and `str::replace` for a separator of two characters.
* `anyLines` — the lines of a text with line endings of any of three kinds.

## Main results

* `words_intercalate` — the words of texts joined with blanks.
* `intercalate_splitPair` — the pieces make up the text.
-/

namespace TextWords

section Words

variable {α : Type*} {blank : α → Bool}

/-- `split_whitespace`: the parts between blanks that are not empty. -/
def words (blank : α → Bool) (text : List α) : List (List α) :=
  (text.splitOnP blank).filter (!·.isEmpty)

@[simp] theorem words_nil : words blank [] = [] := by simp [words]

/-- A blank separates words. -/
theorem words_append_cons {c : α} (before after : List α) (hc : blank c = true) :
    words blank (before ++ c :: after) = words blank before ++ words blank after := by
  rw [words, List.splitOnP_append_cons before after hc, List.filter_append]
  rfl

theorem words_cons {c : α} (text : List α) (hc : blank c = true) :
    words blank (c :: text) = words blank text := by
  have h := words_append_cons [] text hc
  simpa using h

/-- Blanks before a text leave its words. -/
theorem words_append_left {blanks : List α} (text : List α) (h : ∀ c ∈ blanks, blank c = true) :
    words blank (blanks ++ text) = words blank text := by
  induction blanks with
  | nil => rfl
  | cons c blanks ih =>
    rw [List.cons_append, words_cons _ (h c List.mem_cons_self)]
    exact ih fun d hd => h d (List.mem_cons_of_mem c hd)

/-- Blanks behind a text leave its words. -/
theorem words_append_right {blanks : List α} (text : List α) (h : ∀ c ∈ blanks, blank c = true) :
    words blank (text ++ blanks) = words blank text := by
  cases blanks with
  | nil => rw [List.append_nil]
  | cons c blanks =>
    have hrest : words blank blanks = [] := by
      have hall := words_append_left [] fun d hd => h d (List.mem_cons_of_mem c hd)
      simpa using hall
    rw [words_append_cons text blanks (h c List.mem_cons_self), hrest, List.append_nil]

/-- Blanks between two texts separate their words. -/
theorem words_join {blanks : List α} (before after : List α) (hne : blanks ≠ [])
    (h : ∀ c ∈ blanks, blank c = true) :
    words blank (before ++ blanks ++ after) = words blank before ++ words blank after := by
  cases blanks with
  | nil => exact absurd rfl hne
  | cons c blanks =>
    rw [List.append_assoc, List.cons_append, words_append_cons before _ (h c List.mem_cons_self),
      words_append_left after fun d hd => h d (List.mem_cons_of_mem c hd)]

theorem words_intercalate {blanks : List α} (hne : blanks ≠ [])
    (h : ∀ c ∈ blanks, blank c = true) (pieces : List (List α)) :
    words blank (blanks.intercalate pieces) = pieces.flatMap (words blank) := by
  induction pieces with
  | nil => rw [List.intercalate_nil, words_nil, List.flatMap_nil]
  | cons piece pieces ih =>
    cases pieces with
    | nil => simp
    | cons next rest =>
      rw [List.intercalate_cons_cons, words_join _ _ hne h, ih, ← List.flatMap_cons]

/-- A text without blanks is one word. -/
theorem words_eq_singleton {text : List α} (hne : text ≠ [])
    (h : ∀ c ∈ text, blank c = false) : words blank text = [text] := by
  rw [words, List.splitOnP_eq_singleton h]
  simp [hne]

/-- A word is not empty and has no blank. -/
theorem of_mem_words {text word : List α} (h : word ∈ words blank text) :
    word ≠ [] ∧ ∀ c ∈ word, blank c = false := by
  induction text generalizing word with
  | nil => simp at h
  | cons c text ih =>
    by_cases hc : blank c = true
    · rw [words_cons text hc] at h
      exact ih h
    · have hblank : blank c = false := by simpa using hc
      rw [words, List.mem_filter, List.splitOnP_cons_eq_if_modifyHead, if_neg hc] at h
      obtain ⟨hmem, hne⟩ := h
      refine ⟨by simpa using hne, ?_⟩
      obtain ⟨first, rest, hsplit⟩ :=
        List.exists_cons_of_ne_nil (List.splitOnP_ne_nil blank text)
      rw [hsplit, List.modifyHead_cons, List.mem_cons] at hmem
      have hwords : ∀ part ∈ first :: rest, ∀ d ∈ part, blank d = false := by
        intro part hpart d hd
        have hmemWords : part ∈ words blank text := by
          rw [words, hsplit, List.mem_filter]
          exact ⟨hpart, by simpa using List.ne_nil_of_mem hd⟩
        exact (ih hmemWords).2 d hd
      obtain rfl | hrest := hmem
      · intro d hd
        obtain rfl | hd := List.mem_cons.1 hd
        · exact hblank
        · exact hwords first List.mem_cons_self d hd
      · exact hwords word (List.mem_cons_of_mem first hrest)

/-- A text with a blank in it is not one of its words. -/
theorem words_ne_singleton {text : List α} {c : α} (hmem : c ∈ text) (hc : blank c = true) :
    words blank text ≠ [text] := by
  intro heq
  have hword : text ∈ words blank text := by simp [heq]
  have hfalse := (of_mem_words hword).2 c hmem
  rw [hc] at hfalse
  exact absurd hfalse (by decide)

/-! ## Tidy texts -/

/-- A text that is not empty and has no blank at its ends. -/
structure Tidy (blank : α → Bool) (text : List α) : Prop where
  ne_nil : text ≠ []
  head : ∀ c ∈ text.head?, blank c = false
  last : ∀ c ∈ text.getLast?, blank c = false

theorem tidy_of_ends {text : List α} {first last : α} (hfirst : text.head? = some first)
    (hlast : text.getLast? = some last) (hfirstBlank : blank first = false)
    (hlastBlank : blank last = false) : Tidy blank text := by
  refine ⟨fun hnil => ?_, fun c hc => ?_, fun c hc => ?_⟩
  · rw [hnil] at hfirst
    cases hfirst
  · rw [hfirst, Option.mem_some_iff] at hc
    rwa [← hc]
  · rw [hlast, Option.mem_some_iff] at hc
    rwa [← hc]

/-- Joined tidy texts are tidy. -/
theorem Tidy.join {before after : List α} (hbefore : Tidy blank before) (hafter : Tidy blank after)
    (between : List α) : Tidy blank (before ++ between ++ after) := by
  refine ⟨?_, ?_, ?_⟩
  · simp [hbefore.ne_nil]
  · intro c hc
    rw [List.append_assoc, List.head?_append_of_ne_nil _ hbefore.ne_nil] at hc
    exact hbefore.head c hc
  · intro c hc
    rw [List.getLast?_append_of_ne_nil _ hafter.ne_nil] at hc
    exact hafter.last c hc

/-- A word is tidy. -/
theorem tidy_of_mem_words {text word : List α} (h : word ∈ words blank text) : Tidy blank word := by
  obtain ⟨hne, hblank⟩ := of_mem_words h
  exact ⟨hne, fun c hc => hblank c (List.mem_of_mem_head? hc),
    fun c hc => hblank c (List.mem_of_getLast? hc)⟩

/-! ## Stripped texts -/

/-- A text without the blanks at its ends. -/
def strip (blank : α → Bool) (text : List α) : List α := (text.dropWhile blank).rdropWhile blank

/-- Nothing is stripped off a tidy text. -/
theorem strip_of_tidy {text : List α} (h : Tidy blank text) : strip blank text = text := by
  have hstart : text.dropWhile blank = text := by
    rw [List.dropWhile_eq_self_iff]
    intro hlen
    simpa using h.head _ (List.head?_eq_getElem? ▸ List.getElem?_eq_getElem hlen)
  rw [strip, hstart, List.rdropWhile_eq_self_iff]
  intro hne
  simpa using h.last _ (List.getLast?_eq_some_getLast hne)

/-- What is left behind stripping is tidy. -/
theorem tidy_strip {text : List α} (h : strip blank text ≠ []) : Tidy blank (strip blank text) := by
  refine ⟨h, ?_, ?_⟩
  · intro c hc
    have hprefix : strip blank text <+: text.dropWhile blank := List.rdropWhile_prefix _ _
    obtain ⟨rest, hrest⟩ := hprefix
    have hhead : (text.dropWhile blank).head? = some c := by
      rw [← hrest, List.head?_append_of_ne_nil _ h]
      exact hc
    have hnot := List.head?_dropWhile_not blank text
    rw [hhead] at hnot
    simpa using hnot
  · intro c hc
    have hlast := List.rdropWhile_last_not blank _ h
    rw [List.getLast?_eq_some_getLast h, Option.mem_def, Option.some.injEq] at hc
    rw [← hc]
    exact Bool.eq_false_of_not_eq_true hlast

/-- Stripping keeps the words. -/
theorem words_strip (text : List α) : words blank (strip blank text) = words blank text := by
  have hback : words blank (strip blank text) = words blank (text.dropWhile blank) := by
    conv_rhs => rw [← List.rdropWhile_append_rtakeWhile (p := blank) (l := text.dropWhile blank)]
    refine (words_append_right _ fun c hc => ?_).symm
    exact List.rtakeWhile_eq_self_iff.1 (List.rtakeWhile_idempotent blank _) c hc
  rw [hback]
  conv_rhs => rw [← List.takeWhile_append_dropWhile (p := blank) (l := text)]
  exact (words_append_left _ fun c hc => List.mem_takeWhile_imp hc).symm

end Words

theorem trimmed_eq_strip (text : List Char) :
    TextLines.trimmed text = strip Text.isWhiteSpace text := rfl

/-! ## Separators of two characters -/

section Pairs

variable {α : Type*} [DecidableEq α]

/-- `text.split` at two characters: the first separator from the left, then the next behind it. -/
def splitPair (a b : α) : List α → List (List α)
  | [] => [[]]
  | [c] => [[c]]
  | c :: d :: rest =>
    if c = a ∧ d = b then [] :: splitPair a b rest
    else (splitPair a b (d :: rest)).modifyHead (c :: ·)

theorem splitPair_ne_nil (a b : α) (text : List α) : splitPair a b text ≠ [] := by
  induction text using splitPair.induct a b with
  | case1 => simp [splitPair]
  | case2 c => simp [splitPair]
  | case3 c d rest h _ => simp [splitPair, h]
  | case4 c d rest h ih => simp [splitPair, h, ih]

/-- The pieces make up the text. -/
theorem intercalate_splitPair (a b : α) (text : List α) :
    [a, b].intercalate (splitPair a b text) = text := by
  induction text using splitPair.induct a b with
  | case1 => rfl
  | case2 c => simp [splitPair]
  | case3 c d rest h ih =>
    rw [splitPair, if_pos h, List.intercalate_cons_of_ne_nil (splitPair_ne_nil a b rest), ih,
      h.1, h.2]
    rfl
  | case4 c d rest h ih =>
    obtain ⟨first, more, hsplit⟩ := List.exists_cons_of_ne_nil (splitPair_ne_nil a b (d :: rest))
    rw [splitPair, if_neg h]
    rw [hsplit] at ih ⊢
    rw [List.modifyHead_cons]
    cases more with
    | nil => simpa using ih
    | cons next more =>
      rw [List.intercalate_cons_cons] at ih ⊢
      rw [List.cons_append, List.cons_append, ih]

/-- `text.replace` of two characters by one. -/
def replacePair (a b replacement : α) : List α → List α
  | [] => []
  | [c] => [c]
  | c :: d :: rest =>
    if c = a ∧ d = b then replacement :: replacePair a b replacement rest
    else c :: replacePair a b replacement (d :: rest)

/-- `text.replace` of a character. -/
def replaceChar (a replacement : α) (text : List α) : List α :=
  text.map fun c => if c = a then replacement else c

end Pairs

/-! ## Line endings -/

open TextLines (newline carriageReturn)

/-- The lines of a text where a carriage return with a newline, a carriage return and a newline
end a line alike. -/
def anyLines : List Char → List (List Char)
  | [] => [[]]
  | [c] => if c = carriageReturn ∨ c = newline then [[], []] else [[c]]
  | c :: d :: rest =>
    if c = carriageReturn ∧ d = newline then [] :: anyLines rest
    else if c = carriageReturn ∨ c = newline then [] :: anyLines (d :: rest)
    else (anyLines (d :: rest)).modifyHead (c :: ·)

theorem anyLines_ne_nil (text : List Char) : anyLines text ≠ [] := by
  induction text using anyLines.induct with
  | case1 => simp [anyLines]
  | case2 c h => simp [anyLines, h]
  | case3 c h => simp [anyLines, h]
  | case4 c d rest h _ => simp [anyLines, h]
  | case5 c d rest h hend _ => simp [anyLines, h, hend]
  | case6 c d rest h hend ih => simp [anyLines, h, hend, ih]

/-- Every line ending as a newline. -/
def withNewlines (text : List Char) : List Char :=
  replaceChar carriageReturn newline (replacePair carriageReturn newline newline text)

/-- The text with newlines is its lines, joined. -/
theorem withNewlines_eq (text : List Char) :
    withNewlines text = [newline].intercalate (anyLines text) := by
  unfold withNewlines
  induction text using anyLines.induct with
  | case1 => rfl
  | case2 c h =>
    obtain rfl | rfl := h
    · rfl
    · rfl
  | case3 c h =>
    rw [not_or] at h
    simp [replacePair, replaceChar, anyLines, h]
  | case4 c d rest h ih =>
    rw [replacePair, if_pos h, anyLines, if_pos h,
      List.intercalate_cons_of_ne_nil (anyLines_ne_nil rest), ← ih]
    rfl
  | case5 c d rest h hend ih =>
    rw [replacePair, if_neg h, anyLines, if_neg h, if_pos hend,
      List.intercalate_cons_of_ne_nil (anyLines_ne_nil (d :: rest)), ← ih]
    obtain rfl | rfl := hend
    · rfl
    · rfl
  | case6 c d rest h hend ih =>
    obtain ⟨first, more, hlines⟩ := List.exists_cons_of_ne_nil (anyLines_ne_nil (d :: rest))
    have hc : c ≠ carriageReturn := fun hreturn => hend (Or.inl hreturn)
    have hhead : [newline].intercalate ((c :: first) :: more) =
        c :: [newline].intercalate (first :: more) := by
      cases more with
      | nil => simp
      | cons next more => simp [List.intercalate_cons_cons]
    rw [replacePair, if_neg h, anyLines, if_neg h, if_neg hend, hlines, List.modifyHead_cons,
      hhead, ← hlines, ← ih, replaceChar, List.map_cons, if_neg hc]
    rfl

private theorem modifyHead_nil_append {α : Type*} (lines : List (List α)) :
    lines.modifyHead ([] ++ ·) = lines := by
  cases lines <;> rfl

theorem words_append_anyLines (before text : List Char) :
    words Text.isWhiteSpace (before ++ text) =
      ((anyLines text).modifyHead (before ++ ·)).flatMap (words Text.isWhiteSpace) := by
  have hreturn : Text.isWhiteSpace carriageReturn = true := by decide
  have hnewline : Text.isWhiteSpace newline = true := by decide
  have hends : ∀ c, c = carriageReturn ∨ c = newline → Text.isWhiteSpace c = true := by
    intro c hc
    obtain rfl | rfl := hc
    · exact hreturn
    · exact hnewline
  induction text using anyLines.induct generalizing before with
  | case1 => simp [anyLines]
  | case2 c h =>
    rw [anyLines, if_pos h, words_append_cons before [] (hends c h)]
    simp
  | case3 c h => simp [anyLines, h]
  | case4 c d rest h ih =>
    have hrest := ih []
    rw [modifyHead_nil_append] at hrest
    rw [anyLines, if_pos h, h.1, h.2, words_append_cons before _ hreturn, words_cons _ hnewline]
    simpa using hrest
  | case5 c d rest h hend ih =>
    have hrest := ih []
    rw [modifyHead_nil_append] at hrest
    rw [anyLines, if_neg h, if_pos hend, words_append_cons before _ (hends c hend)]
    simpa using hrest
  | case6 c d rest h hend ih =>
    have hrest := ih (before ++ [c])
    rw [anyLines, if_neg h, if_neg hend, List.modifyHead_modifyHead]
    simpa [Function.comp_def] using hrest

/-- The words of a text are those of its lines. -/
theorem words_anyLines (text : List Char) :
    words Text.isWhiteSpace text = (anyLines text).flatMap (words Text.isWhiteSpace) := by
  have h := words_append_anyLines [] text
  rwa [modifyHead_nil_append] at h

/-- Texts with the same lines are the same with newlines. -/
theorem withNewlines_congr {text other : List Char} (h : anyLines text = anyLines other) :
    withNewlines text = withNewlines other := by
  rw [withNewlines_eq, withNewlines_eq, h]

end TextWords
