import HobitQueue.Lib.TextWords

/-!
# Chunks of knowledge documents

The text of a document is stored for search in chunks. Paragraphs are joined while they stay
under a target; a paragraph that is over the maximum is cut between its words.

## Main results

* `Chunking.Holds` — the words that a state of the loop holds, kept by every step.
* `allFit_foldl` — the chunks of a run are bounded exactly when the joined texts are.
* `chunks_keep_words_and_bound` — when the chunks of a text are as they should be.
-/

namespace HobitQueue.KnowledgeSearch

open TextWords TextLines
open Text (isWhiteSpace)

/-! ## The model -/

def targetChunkChars : ℕ := 1600

def maxChunkChars : ℕ := 2000

def minChunkChars : ℕ := 1000

/-- The text that is being put together, and the finished chunks. -/
structure Chunking where
  current : List Char
  chunks : List (List Char)

/-- The current text as a chunk, with an empty one after it. -/
def Chunking.push (state : Chunking) : Chunking :=
  { current := [], chunks := state.chunks ++ [trimmed state.current] }

/-- A text behind the current one, with a separator between them. -/
def Chunking.append (state : Chunking) (separator text : List Char) : Chunking :=
  { state with
    current := (if state.current = [] then [] else state.current ++ separator) ++ text }

/-- The chunks, and the current text as the last one if there is anything in it. -/
def Chunking.finish (state : Chunking) : List (List Char) :=
  if trimmed state.current = [] then state.chunks else state.push.chunks

/-- The length of the current text with another one behind it. -/
def Chunking.nextLen (state : Chunking) (separatorChars : ℕ) (text : List Char) : ℕ :=
  state.current.length + (if state.current = [] then 0 else separatorChars) + text.length

def appendWord (state : Chunking) (word : List Char) : Chunking :=
  let flushed := if targetChunkChars < state.nextLen 1 word ∧ state.current ≠ [] then state.push
    else state
  flushed.append [' '] word

/-- The parts of a paragraph that is too long for one chunk. -/
def splitLargeParagraph (paragraph : List Char) (chunks : List (List Char)) : List (List Char) :=
  ((words isWhiteSpace paragraph).foldl appendWord { current := [], chunks }).finish

/-- One paragraph added to the chunks. -/
def appendParagraphToChunks (state : Chunking) (paragraph : List Char) : Chunking :=
  if maxChunkChars < paragraph.length then
    let flushed := if trimmed state.current = [] then state else state.push
    { flushed with chunks := splitLargeParagraph paragraph flushed.chunks }
  else
    let flushed := if targetChunkChars < state.nextLen 2 paragraph ∧
        minChunkChars ≤ state.current.length then state.push else state
    let joined := flushed.append [newline, newline] paragraph
    if maxChunkChars ≤ joined.current.length then joined.push else joined

/-- The trimmed paragraphs of a text that are not empty. -/
def paragraphsOf (content : List Char) : List (List Char) :=
  ((splitPair newline newline (withNewlines content)).map trimmed).filter (!·.isEmpty)

/-- The chunks of a text. -/
def chunkKnowledgeDocumentContent (content : List Char) : List (List Char) :=
  let paragraphs := paragraphsOf content
  if paragraphs = [] then []
  else (paragraphs.foldl appendParagraphToChunks { current := [], chunks := [] }).finish

/-! ## The words of a state -/

/-- A finished chunk is as long as it may be, or is one word. -/
def Fits (chunk : List Char) : Prop :=
  chunk.length ≤ maxChunkChars ∨ words isWhiteSpace chunk = [chunk]

/-- Every chunk fits. -/
def AllFit (chunks : List (List Char)) : Prop := ∀ chunk ∈ chunks, Fits chunk

@[simp] theorem allFit_append_singleton {chunks : List (List Char)} {chunk : List Char} :
    AllFit (chunks ++ [chunk]) ↔ AllFit chunks ∧ Fits chunk := by
  simp [AllFit, or_imp, forall_and]

/-- The chunks and the current text are tidy and hold the given words in their order. -/
structure Chunking.Holds (state : Chunking) (held : List (List Char)) : Prop where
  chunks_tidy : ∀ chunk ∈ state.chunks, Tidy isWhiteSpace chunk
  current_tidy : state.current ≠ [] → Tidy isWhiteSpace state.current
  words_eq : state.chunks.flatMap (words isWhiteSpace) ++ words isWhiteSpace state.current = held

theorem Chunking.holds_start {chunks : List (List Char)}
    (h : ∀ chunk ∈ chunks, Tidy isWhiteSpace chunk) :
    Chunking.Holds { current := [], chunks } (chunks.flatMap (words isWhiteSpace)) := by
  refine ⟨h, ?_, ?_⟩
  · intro hne
    exact absurd rfl hne
  · simp

namespace Chunking.Holds

variable {state : Chunking} {held : List (List Char)}

theorem trimmed_current (h : state.Holds held) : trimmed state.current = state.current := by
  by_cases hcurrent : state.current = []
  · rw [hcurrent]
    rfl
  · exact strip_of_tidy (h.current_tidy hcurrent)

theorem push (h : state.Holds held) (hne : state.current ≠ []) : state.push.Holds held := by
  refine ⟨?_, ?_, ?_⟩
  · intro chunk hchunk
    obtain hchunk | hchunk := List.mem_append.1 hchunk
    · exact h.chunks_tidy chunk hchunk
    · rw [List.mem_singleton.1 hchunk, h.trimmed_current]
      exact h.current_tidy hne
  · intro hpushed
    exact absurd rfl hpushed
  · have hwords := h.words_eq
    simpa [Chunking.push, h.trimmed_current] using hwords

/-- A text behind blanks adds its words. -/
theorem append {separator text : List Char} (h : state.Holds held)
    (hseparator : separator ≠ []) (hblank : ∀ c ∈ separator, isWhiteSpace c = true)
    (htext : Tidy isWhiteSpace text) :
    (state.append separator text).Holds (held ++ words isWhiteSpace text) := by
  refine ⟨h.chunks_tidy, ?_, ?_⟩
  · intro _
    by_cases hcurrent : state.current = []
    · simpa [Chunking.append, hcurrent] using htext
    · simpa [Chunking.append, hcurrent] using (h.current_tidy hcurrent).join htext separator
  · have hwords := h.words_eq
    by_cases hcurrent : state.current = []
    · rw [hcurrent, words_nil, List.append_nil] at hwords
      simp [Chunking.append, hcurrent, hwords]
    · simp only [Chunking.append, if_neg hcurrent]
      rw [words_join _ _ hseparator hblank, ← List.append_assoc, hwords]

theorem finish (h : state.Holds held) :
    (∀ chunk ∈ state.finish, Tidy isWhiteSpace chunk) ∧
      state.finish.flatMap (words isWhiteSpace) = held := by
  rw [Chunking.finish, h.trimmed_current]
  by_cases hcurrent : state.current = []
  · rw [if_pos hcurrent]
    have hwords := h.words_eq
    rw [hcurrent, words_nil, List.append_nil] at hwords
    exact ⟨h.chunks_tidy, hwords⟩
  · rw [if_neg hcurrent]
    have hpush := h.push hcurrent
    have hwords := hpush.words_eq
    refine ⟨hpush.chunks_tidy, ?_⟩
    simpa [Chunking.push] using hwords

end Chunking.Holds

/-! ## Large paragraphs -/

@[simp] theorem length_append {state : Chunking} {separator text : List Char} :
    (state.append separator text).current.length = state.nextLen separator.length text := by
  by_cases h : state.current = []
  · simp [Chunking.append, Chunking.nextLen, h]
  · simp [Chunking.append, Chunking.nextLen, h, Nat.add_assoc]

@[simp] theorem chunks_append {state : Chunking} {separator text : List Char} :
    (state.append separator text).chunks = state.chunks := rfl

/-- Between two words the current text is bounded by the target, or is one word. -/
def CurrentFits (state : Chunking) : Prop :=
  state.current.length ≤ targetChunkChars ∨ words isWhiteSpace state.current = [state.current]

theorem CurrentFits.fits {state : Chunking} (h : CurrentFits state) : Fits state.current := by
  obtain hlength | hword := h
  · left
    unfold targetChunkChars at hlength
    unfold maxChunkChars
    omega
  · exact Or.inr hword

section Words

variable {state : Chunking} {held : List (List Char)} {word : List Char}

theorem holds_appendWord (h : state.Holds held) (hword : words isWhiteSpace word = [word]) :
    (appendWord state word).Holds (held ++ [word]) := by
  have htidy : Tidy isWhiteSpace word := tidy_of_mem_words (hword ▸ List.mem_singleton_self word)
  have hblank : ∀ c ∈ [' '], isWhiteSpace c = true := List.all_eq_true.1 (by decide)
  have hflushed : (if targetChunkChars < state.nextLen 1 word ∧ state.current ≠ [] then state.push
      else state).Holds held := by
    by_cases hflush : targetChunkChars < state.nextLen 1 word ∧ state.current ≠ []
    · rw [if_pos hflush]
      exact h.push hflush.2
    · rw [if_neg hflush]
      exact h
  have happend := hflushed.append (List.cons_ne_nil ' ' []) hblank htidy
  rwa [hword] at happend

/-- A word keeps the bounds: what is flushed was bounded, and what is current is again. -/
theorem fits_appendWord (h : state.Holds held) (hfits : CurrentFits state)
    (hword : words isWhiteSpace word = [word]) :
    CurrentFits (appendWord state word) ∧
      (AllFit (appendWord state word).chunks ↔ AllFit state.chunks) := by
  by_cases hcurrent : state.current = []
  · have happend : appendWord state word = state.append [' '] word := by simp [appendWord, hcurrent]
    have hnew : (state.append [' '] word).current = word := by simp [Chunking.append, hcurrent]
    rw [happend, chunks_append]
    refine ⟨Or.inr ?_, Iff.rfl⟩
    rw [hnew, hword]
  · by_cases hover : targetChunkChars < state.nextLen 1 word
    · have happend : appendWord state word = state.push.append [' '] word := by
        simp [appendWord, hcurrent, hover]
      have hnew : (state.push.append [' '] word).current = word := by
        simp [Chunking.append, Chunking.push]
      rw [happend, chunks_append]
      refine ⟨Or.inr ?_, ?_⟩
      · rw [hnew, hword]
      · rw [Chunking.push, allFit_append_singleton, h.trimmed_current]
        exact and_iff_left hfits.fits
    · have happend : appendWord state word = state.append [' '] word := by
        simp [appendWord, hover]
      rw [happend, chunks_append]
      refine ⟨Or.inl ?_, Iff.rfl⟩
      rw [length_append]
      exact Nat.le_of_not_lt hover

/-- The words of a paragraph, one after the other. -/
theorem foldl_appendWord {wordList : List (List Char)}
    (hwords : ∀ word ∈ wordList, words isWhiteSpace word = [word]) (h : state.Holds held)
    (hfits : CurrentFits state) :
    (wordList.foldl appendWord state).Holds (held ++ wordList) ∧
      CurrentFits (wordList.foldl appendWord state) ∧
      (AllFit (wordList.foldl appendWord state).chunks ↔ AllFit state.chunks) := by
  induction wordList generalizing state held with
  | nil => exact ⟨by rwa [List.append_nil], hfits, Iff.rfl⟩
  | cons word wordList ih =>
    have hword := hwords word List.mem_cons_self
    have hstep := fits_appendWord h hfits hword
    have hrest := ih (fun other hother => hwords other (List.mem_cons_of_mem word hother))
      (holds_appendWord h hword) hstep.1
    rw [List.append_assoc, List.singleton_append] at hrest
    exact ⟨hrest.1, hrest.2.1, hrest.2.2.trans hstep.2⟩

end Words

theorem Chunking.Holds.allFit_finish {state : Chunking} {held : List (List Char)}
    (h : state.Holds held) (hfits : Fits state.current) :
    AllFit state.finish ↔ AllFit state.chunks := by
  rw [Chunking.finish, h.trimmed_current]
  by_cases hcurrent : state.current = []
  · rw [if_pos hcurrent]
  · rw [if_neg hcurrent, Chunking.push, allFit_append_singleton, h.trimmed_current]
    exact and_iff_left hfits

theorem words_singleton_of_mem {text word : List Char} (h : word ∈ words isWhiteSpace text) :
    words isWhiteSpace word = [word] :=
  words_eq_singleton (of_mem_words h).1 (of_mem_words h).2

/-- A large paragraph adds chunks with its words, all of them bounded. -/
theorem splitLargeParagraph_spec {chunks : List (List Char)} {paragraph : List Char}
    (htidy : ∀ chunk ∈ chunks, Tidy isWhiteSpace chunk) :
    (∀ chunk ∈ splitLargeParagraph paragraph chunks, Tidy isWhiteSpace chunk) ∧
      (splitLargeParagraph paragraph chunks).flatMap (words isWhiteSpace) =
        chunks.flatMap (words isWhiteSpace) ++ words isWhiteSpace paragraph ∧
      (AllFit (splitLargeParagraph paragraph chunks) ↔ AllFit chunks) := by
  have hstart := Chunking.holds_start htidy
  have hfits : CurrentFits { current := [], chunks } := Or.inl (Nat.zero_le _)
  obtain ⟨hholds, hcurrent, hchunks⟩ := foldl_appendWord
    (fun word hword => words_singleton_of_mem hword) hstart hfits
  exact ⟨hholds.finish.1, hholds.finish.2, (hholds.allFit_finish hcurrent.fits).trans hchunks⟩

/-! ## Paragraphs -/

/-- The length of the text that a paragraph is put into, where some characters are pending: it
starts a text of its own where none are pending, or where enough are and it goes over the
target. -/
def joinedLength (pending length : ℕ) : ℕ :=
  if pending = 0 ∨ (minChunkChars ≤ pending ∧ targetChunkChars < pending + 2 + length) then length
  else pending + 2 + length

/-- No paragraph of up to the maximum is put into a text over the maximum. The lengths are those
of the paragraphs, and so many characters are pending before them. -/
def joinsFit (pending : ℕ) : List ℕ → Bool
  | [] => true
  | length :: lengths =>
    if maxChunkChars < length then joinsFit 0 lengths
    else
      decide (joinedLength pending length ≤ maxChunkChars) &&
        joinsFit (if joinedLength pending length < maxChunkChars then joinedLength pending length
          else 0) lengths

section Paragraphs

variable {state : Chunking} {held : List (List Char)} {paragraph : List Char}

/-- The state that a paragraph of up to the maximum is put behind. -/
def flushedFor (state : Chunking) (paragraph : List Char) : Chunking :=
  if targetChunkChars < state.nextLen 2 paragraph ∧ minChunkChars ≤ state.current.length then
    state.push
  else state

theorem holds_flushedFor (h : state.Holds held) : (flushedFor state paragraph).Holds held := by
  unfold flushedFor
  split_ifs with hflush
  · refine h.push ?_
    intro hcurrent
    have hmin := hflush.2
    rw [hcurrent] at hmin
    exact absurd hmin (by decide)
  · exact h

theorem allFit_flushedFor (h : state.Holds held) (hcurrent : state.current.length < maxChunkChars) :
    AllFit (flushedFor state paragraph).chunks ↔ AllFit state.chunks := by
  unfold flushedFor
  split_ifs with hflush
  · rw [Chunking.push, allFit_append_singleton, h.trimmed_current]
    exact and_iff_left (Or.inl hcurrent.le)
  · exact Iff.rfl

theorem nextLen_flushedFor :
    (flushedFor state paragraph).nextLen 2 paragraph =
      joinedLength state.current.length paragraph.length := by
  by_cases hempty : state.current = []
  · have hno : ¬ (targetChunkChars < state.nextLen 2 paragraph ∧
        minChunkChars ≤ state.current.length) := by
      rw [hempty]
      exact fun h => absurd h.2 (by decide)
    rw [flushedFor, if_neg hno]
    simp [Chunking.nextLen, joinedLength, hempty]
  · have hlength : state.current.length ≠ 0 := by simpa using hempty
    have hnext : state.nextLen 2 paragraph = state.current.length + 2 + paragraph.length := by
      simp [Chunking.nextLen, hempty]
    by_cases hflush : targetChunkChars < state.nextLen 2 paragraph ∧
        minChunkChars ≤ state.current.length
    · have hstart : state.current.length = 0 ∨ (minChunkChars ≤ state.current.length ∧
          targetChunkChars < state.current.length + 2 + paragraph.length) :=
        Or.inr ⟨hflush.2, hnext ▸ hflush.1⟩
      rw [flushedFor, if_pos hflush, joinedLength, if_pos hstart]
      simp [Chunking.nextLen, Chunking.push]
    · have hjoin : ¬ (state.current.length = 0 ∨ (minChunkChars ≤ state.current.length ∧
          targetChunkChars < state.current.length + 2 + paragraph.length)) := by
        rw [← hnext]
        tauto
      rw [flushedFor, if_neg hflush, joinedLength, if_neg hjoin, hnext]

theorem appendParagraph_of_large (h : state.Holds held)
    (hlarge : maxChunkChars < paragraph.length) :
    ∃ flushed : Chunking, flushed.Holds held ∧ flushed.current = [] ∧
      (state.current.length < maxChunkChars → (AllFit flushed.chunks ↔ AllFit state.chunks)) ∧
      appendParagraphToChunks state paragraph =
        { flushed with chunks := splitLargeParagraph paragraph flushed.chunks } := by
  rw [appendParagraphToChunks, if_pos hlarge, h.trimmed_current]
  by_cases hcurrent : state.current = []
  · rw [if_pos hcurrent]
    exact ⟨state, h, hcurrent, fun _ => Iff.rfl, rfl⟩
  · rw [if_neg hcurrent]
    refine ⟨state.push, h.push hcurrent, rfl, ?_, rfl⟩
    intro hlength
    rw [Chunking.push, allFit_append_singleton, h.trimmed_current]
    exact and_iff_left (Or.inl hlength.le)

theorem appendParagraph_of_small (hsmall : ¬ maxChunkChars < paragraph.length) :
    appendParagraphToChunks state paragraph =
      if maxChunkChars ≤ joinedLength state.current.length paragraph.length then
        ((flushedFor state paragraph).append [newline, newline] paragraph).push
      else (flushedFor state paragraph).append [newline, newline] paragraph := by
  have hlength : ((flushedFor state paragraph).append [newline, newline] paragraph).current.length =
      joinedLength state.current.length paragraph.length := by
    rw [length_append]
    exact nextLen_flushedFor
  rw [appendParagraphToChunks, if_neg hsmall, ← hlength]
  rfl

theorem isWhiteSpace_newlines : ∀ c ∈ [newline, newline], isWhiteSpace c = true :=
  List.all_eq_true.1 (by decide)

/-- A paragraph adds its words. -/
theorem holds_appendParagraph (h : state.Holds held) (htidy : Tidy isWhiteSpace paragraph) :
    (appendParagraphToChunks state paragraph).Holds (held ++ words isWhiteSpace paragraph) := by
  by_cases hlarge : maxChunkChars < paragraph.length
  · obtain ⟨flushed, hflushed, hempty, -, heq⟩ := appendParagraph_of_large h hlarge
    have hspec := @splitLargeParagraph_spec flushed.chunks paragraph hflushed.chunks_tidy
    have hwords := hflushed.words_eq
    rw [hempty, words_nil, List.append_nil] at hwords
    rw [heq]
    refine ⟨hspec.1, hflushed.current_tidy, ?_⟩
    rw [hempty, words_nil, List.append_nil, hspec.2.1, hwords]
  · have happend := (@holds_flushedFor _ _ paragraph h).append (List.cons_ne_nil newline [newline])
      isWhiteSpace_newlines htidy
    rw [appendParagraph_of_small hlarge]
    split_ifs
    · refine happend.push ?_
      simp [Chunking.append, htidy.ne_nil]
    · exact happend

/-- A joined text is bounded or it is too long: with its separator it is no single word. -/
theorem fits_append_iff (hsmall : ¬ maxChunkChars < paragraph.length) :
    Fits (state.append [newline, newline] paragraph).current ↔
      (state.append [newline, newline] paragraph).current.length ≤ maxChunkChars := by
  constructor
  · intro hfits
    obtain hlength | hword := hfits
    · exact hlength
    · by_cases hcurrent : state.current = []
      · simpa [Chunking.append, hcurrent] using hsmall
      · have hmem : newline ∈ (state.append [newline, newline] paragraph).current := by
          simp [Chunking.append, hcurrent]
        exact absurd hword (words_ne_singleton hmem (by decide))
  · exact Or.inl

/-- After a paragraph, the pending characters and the bound of the chunks follow the lengths. -/
theorem fits_appendParagraph (h : state.Holds held) (htidy : Tidy isWhiteSpace paragraph)
    (hcurrent : state.current.length < maxChunkChars)
    (hsmall : ¬ maxChunkChars < paragraph.length) :
    (appendParagraphToChunks state paragraph).current.length =
      (if joinedLength state.current.length paragraph.length < maxChunkChars then
        joinedLength state.current.length paragraph.length else 0) ∧
    (AllFit (appendParagraphToChunks state paragraph).chunks ↔
      AllFit state.chunks ∧
        joinedLength state.current.length paragraph.length ≤ maxChunkChars) := by
  have hchunks := @allFit_flushedFor _ _ paragraph h hcurrent
  have hlength : ((flushedFor state paragraph).append [newline, newline] paragraph).current.length =
      joinedLength state.current.length paragraph.length := by
    rw [length_append]
    exact nextLen_flushedFor
  have happend := (@holds_flushedFor _ _ paragraph h).append (List.cons_ne_nil newline [newline])
    isWhiteSpace_newlines htidy
  rw [appendParagraph_of_small hsmall]
  by_cases hfull : maxChunkChars ≤ joinedLength state.current.length paragraph.length
  · rw [if_pos hfull, if_neg (Nat.not_lt.2 hfull), Chunking.push, allFit_append_singleton,
      happend.trimmed_current, chunks_append, hchunks, fits_append_iff hsmall, hlength]
    exact ⟨rfl, Iff.rfl⟩
  · rw [if_neg hfull, if_pos (Nat.lt_of_not_le hfull), chunks_append, hchunks]
    exact ⟨hlength, (and_iff_left (Nat.le_of_not_le hfull)).symm⟩

/-- The words of a run over paragraphs. -/
theorem holds_foldl {paragraphs : List (List Char)}
    (htidy : ∀ paragraph ∈ paragraphs, Tidy isWhiteSpace paragraph) (h : state.Holds held) :
    (paragraphs.foldl appendParagraphToChunks state).Holds
      (held ++ paragraphs.flatMap (words isWhiteSpace)) := by
  induction paragraphs generalizing state held with
  | nil => simpa using h
  | cons paragraph paragraphs ih =>
    have hstep := holds_appendParagraph h (htidy paragraph List.mem_cons_self)
    have hrest := ih (fun other hother => htidy other (List.mem_cons_of_mem paragraph hother)) hstep
    rwa [List.append_assoc, ← List.flatMap_cons] at hrest

/-- The chunks of a run over paragraphs are bounded exactly when the joined texts are. -/
theorem allFit_foldl {paragraphs : List (List Char)}
    (htidy : ∀ paragraph ∈ paragraphs, Tidy isWhiteSpace paragraph) (h : state.Holds held)
    (hcurrent : state.current.length < maxChunkChars) :
    AllFit (paragraphs.foldl appendParagraphToChunks state).finish ↔
      AllFit state.chunks ∧
        joinsFit state.current.length (paragraphs.map List.length) = true := by
  induction paragraphs generalizing state held with
  | nil =>
    simp only [List.foldl_nil, List.map_nil, joinsFit, and_true]
    exact h.allFit_finish (Or.inl hcurrent.le)
  | cons paragraph paragraphs ih =>
    have hparagraph := htidy paragraph List.mem_cons_self
    have hrest := fun other hother => htidy other (List.mem_cons_of_mem paragraph hother)
    have hholds := holds_appendParagraph h hparagraph
    rw [List.foldl_cons, List.map_cons, joinsFit]
    by_cases hlarge : maxChunkChars < paragraph.length
    · obtain ⟨flushed, hflushed, hempty, hchunks, heq⟩ := appendParagraph_of_large h hlarge
      have hspec := @splitLargeParagraph_spec flushed.chunks paragraph hflushed.chunks_tidy
      have hnone : (appendParagraphToChunks state paragraph).current = [] := by rw [heq, hempty]
      have hall :
          AllFit (appendParagraphToChunks state paragraph).chunks ↔ AllFit state.chunks := by
        rw [heq]
        exact hspec.2.2.trans (hchunks hcurrent)
      rw [ih hrest hholds (by rw [hnone]; decide), hall, hnone, if_pos hlarge]
      rfl
    · obtain ⟨hlength, hall⟩ := fits_appendParagraph h hparagraph hcurrent hlarge
      have hbound : (appendParagraphToChunks state paragraph).current.length < maxChunkChars := by
        rw [hlength]
        split_ifs with hlt
        · exact hlt
        · decide
      rw [ih hrest hholds hbound, hall, hlength, if_neg hlarge, Bool.and_eq_true, decide_eq_true_eq,
        and_assoc]

end Paragraphs

/-! ## Documents -/

theorem tidy_paragraphsOf (content : List Char) :
    ∀ paragraph ∈ paragraphsOf content, Tidy isWhiteSpace paragraph := by
  intro paragraph h
  rw [paragraphsOf, List.mem_filter, List.mem_map] at h
  obtain ⟨⟨piece, -, rfl⟩, hne⟩ := h
  exact tidy_strip (by simpa [trimmed_eq_strip] using hne)

/-- Cutting at empty lines and trimming keep the words. -/
theorem words_paragraphsOf (content : List Char) :
    (paragraphsOf content).flatMap (words isWhiteSpace) = words isWhiteSpace content := by
  have hpieces : ∀ pieces : List (List Char),
      ((pieces.map trimmed).filter (!·.isEmpty)).flatMap (words isWhiteSpace) =
        pieces.flatMap (words isWhiteSpace) := by
    intro pieces
    induction pieces with
    | nil => rfl
    | cons piece pieces ih =>
      have hpiece : words isWhiteSpace (trimmed piece) = words isWhiteSpace piece :=
        words_strip piece
      rw [List.map_cons, List.filter_cons, List.flatMap_cons, ← ih, ← hpiece]
      by_cases hempty : trimmed piece = []
      · simp [hempty]
      · simp [hempty]
  have hnewline : ∀ c ∈ [newline], isWhiteSpace c = true := List.all_eq_true.1 (by decide)
  rw [paragraphsOf, hpieces,
    ← words_intercalate (List.cons_ne_nil newline [newline]) isWhiteSpace_newlines,
    intercalate_splitPair, withNewlines_eq, words_intercalate (List.cons_ne_nil _ _) hnewline]
  exact (words_anyLines content).symm

theorem chunkKnowledgeDocumentContent_eq (content : List Char) :
    chunkKnowledgeDocumentContent content =
      ((paragraphsOf content).foldl appendParagraphToChunks
        { current := [], chunks := [] }).finish := by
  unfold chunkKnowledgeDocumentContent
  extract_lets paragraphs
  split_ifs with hnone
  · rw [show paragraphsOf content = [] from hnone]
    rfl
  · rfl

/-- What the chunks of a document are for: they are tidy, they hold the words of its text in
their order, they are bounded, and the kinds of its line endings do not matter. -/
structure ChunksFaithfully (content : List Char) : Prop where
  tidy : ∀ chunk ∈ chunkKnowledgeDocumentContent content, chunk ≠ [] ∧ trimmed chunk = chunk
  words_eq : (chunkKnowledgeDocumentContent content).flatMap (words isWhiteSpace) =
    words isWhiteSpace content
  bounded : ∀ chunk ∈ chunkKnowledgeDocumentContent content,
    chunk.length ≤ maxChunkChars ∨ words isWhiteSpace chunk = [chunk]
  lineEndings : ∀ other, anyLines other = anyLines content →
    chunkKnowledgeDocumentContent other = chunkKnowledgeDocumentContent content

theorem chunks_tidy_and_words (content : List Char) :
    (∀ chunk ∈ chunkKnowledgeDocumentContent content, chunk ≠ [] ∧ trimmed chunk = chunk) ∧
      (chunkKnowledgeDocumentContent content).flatMap (words isWhiteSpace) =
        words isWhiteSpace content := by
  have hstart : Chunking.Holds { current := [], chunks := [] } [] :=
    Chunking.holds_start fun chunk hchunk => absurd hchunk List.not_mem_nil
  have hfinish := (holds_foldl (tidy_paragraphsOf content) hstart).finish
  rw [List.nil_append, words_paragraphsOf, ← chunkKnowledgeDocumentContent_eq] at hfinish
  refine ⟨?_, hfinish.2⟩
  intro chunk hchunk
  have htidy := hfinish.1 chunk hchunk
  exact ⟨htidy.ne_nil, strip_of_tidy htidy⟩

theorem chunks_bounded_iff (content : List Char) :
    AllFit (chunkKnowledgeDocumentContent content) ↔
      joinsFit 0 ((paragraphsOf content).map List.length) = true := by
  have hstart : Chunking.Holds { current := [], chunks := [] } [] :=
    Chunking.holds_start fun chunk hchunk => absurd hchunk List.not_mem_nil
  have hrun := allFit_foldl (tidy_paragraphsOf content) hstart (by decide)
  rw [chunkKnowledgeDocumentContent_eq, hrun]
  exact and_iff_right fun chunk hchunk => absurd hchunk List.not_mem_nil

/-- The chunks keep the words of every text; they keep their bound exactly for the texts whose
paragraphs are not joined to texts over the maximum. -/
theorem chunks_keep_words_and_bound (content : List Char) :
    ChunksFaithfully content ↔ joinsFit 0 ((paragraphsOf content).map List.length) = true := by
  rw [← chunks_bounded_iff]
  constructor
  · exact fun h => h.bounded
  · intro h
    obtain ⟨htidy, hwords⟩ := chunks_tidy_and_words content
    refine ⟨htidy, hwords, h, ?_⟩
    intro other hother
    unfold chunkKnowledgeDocumentContent paragraphsOf
    rw [withNewlines_congr hother]

/-- A paragraph of 900 characters and one of 1900 make a chunk of 2802 characters. -/
theorem short_and_long_paragraph_make_a_chunk_over_the_maximum :
    let content := List.replicate 900 'a' ++ [newline, newline] ++ List.replicate 1900 'b'
    chunkKnowledgeDocumentContent content = [content] ∧ content.length = 2802 ∧
      ¬ ChunksFaithfully content := by
  intro content
  have hlength : content.length = 2802 := by decide +kernel
  refine ⟨by decide +kernel, hlength, ?_⟩
  intro h
  have hfit := (chunks_bounded_iff content).1 h.bounded
  have hnot : joinsFit 0 ((paragraphsOf content).map List.length) = false := by decide +kernel
  rw [hnot] at hfit
  exact absurd hfit (by decide)

end HobitQueue.KnowledgeSearch
