import HobitQueue.Lib.RecentOutput
import HobitQueue.Terminal.Sessions

/-!
# The output of a terminal session

The buffer of a session keeps the end of what its process has written, within a cap, in the pieces
in which the reader thread handed it over. The numbers of the chunks and of the dropped bytes count
what came before.

## Main results

* `ShowsEnd.push` — one more block of output.
-/

namespace HobitQueue.TerminalPty

theorem saturatingAdd_min (n m : ℕ) :
    saturatingAdd (min n wordMax) m = min (n + m) wordMax := by
  rw [saturatingAdd]
  generalize wordMax = word
  omega

/-- The chunks are the pieces of the end of the blocks, with the numbers to them. -/
structure ShowsEnd (b : TerminalPtyOutputBuffer) (blocks pieces : List (List UInt8)) : Prop where
  texts : b.chunks.map (·.text) = pieces.map Utf8.fromLossy
  lengths : b.chunks.map (·.byteLen) = pieces.map List.length
  suffix : pieces.flatten <:+ blocks.flatten
  total : b.totalBufferedBytes = pieces.flatten.length
  bounded : pieces.flatten.length ≤ b.capBytes
  dropped : b.droppedBytes =
    min (blocks.flatten.length - pieces.flatten.length) wordMax
  newest : ∀ block ∈ blocks.getLast?, Recent.newest b.capBytes block <:+ pieces.flatten
  sequences : b.capBytes ≠ 0 → b.chunks.map (·.sequence) <:+
    (List.range' 1 blocks.length).map (min · wordMax)
  next : b.capBytes ≠ 0 → b.nextSequence = min (blocks.length + 1) wordMax

theorem showsEnd_nil (capBytes : ℕ) : ShowsEnd { capBytes := capBytes } [] [] where
  texts := rfl
  lengths := rfl
  suffix := List.suffix_refl _
  total := rfl
  bounded := Nat.zero_le _
  dropped := rfl
  newest block hblock := by cases hblock
  sequences _ := List.suffix_refl _
  next _ := rfl

namespace TerminalPtyOutputBuffer

/-- The chunks go with their pieces. -/
theorem popFront_trim {capBytes : ℕ} {chunks : List TerminalPtyOutputChunk}
    {pieces : List (List UInt8)} (hlengths : chunks.map (·.byteLen) = pieces.map List.length)
    {dropped : ℕ} (hdropped : dropped ≤ wordMax) :
    ∃ popped gone, chunks = popped ++ (popFront capBytes chunks pieces.flatten.length dropped).1 ∧
      pieces = gone ++ Recent.trim capBytes pieces ∧ popped.length = gone.length ∧
      (popFront capBytes chunks pieces.flatten.length dropped).2 =
        ((Recent.trim capBytes pieces).flatten.length,
          min (dropped + gone.flatten.length) wordMax) := by
  induction pieces generalizing chunks dropped with
  | nil =>
    obtain rfl := List.map_eq_nil_iff.1 hlengths
    refine ⟨[], [], rfl, rfl, rfl, ?_⟩
    simp only [popFront, Recent.trim, List.flatten_nil, List.length_nil, Nat.add_zero]
    rw [Nat.min_eq_left hdropped]
  | cons piece pieces ih =>
    cases chunks with
    | nil => cases hlengths
    | cons chunk chunks =>
      obtain ⟨hchunk, hrest⟩ := List.cons.inj hlengths
      simp only at hchunk
      rw [popFront, Recent.trim]
      by_cases hover : capBytes < (piece :: pieces).flatten.length
      · have hleft : (piece :: pieces).flatten.length - chunk.byteLen =
            pieces.flatten.length := by
          simp [hchunk]
        have hadded : saturatingAdd dropped chunk.byteLen ≤ wordMax := Nat.min_le_right _ _
        obtain ⟨popped, gone, hpopped, hgone, hlength, hnumbers⟩ := ih hrest hadded
        rw [if_pos hover, if_pos hover, hleft]
        refine ⟨chunk :: popped, piece :: gone, congrArg (chunk :: ·) hpopped,
          congrArg (piece :: ·) hgone, congrArg (· + 1) hlength, ?_⟩
        rw [hnumbers, saturatingAdd, hchunk]
        simp only [List.flatten_cons, List.length_append, Prod.mk.injEq, true_and]
        omega
      · rw [if_neg hover, if_neg hover]
        refine ⟨[], [], rfl, rfl, rfl, ?_⟩
        simp only [List.flatten_nil, List.length_nil, Nat.add_zero]
        rw [Nat.min_eq_left hdropped]

/-- The chunk that a block becomes. -/
def chunkOf (b : TerminalPtyOutputBuffer) (streamKind : String) (bytes : List UInt8) :
    TerminalPtyOutputChunk :=
  ⟨b.nextSequence, streamKind, Utf8.fromLossy (Recent.newest b.capBytes bytes),
    (Recent.newest b.capBytes bytes).length⟩

/-- The block as it is stored, and the bytes of it that are not. -/
theorem push_of_pos {b : TerminalPtyOutputBuffer} (hcap : b.capBytes ≠ 0) (streamKind : String)
    (bytes : List UInt8) (hdropped : b.droppedBytes ≤ wordMax) :
    b.push streamKind bytes =
      let rest := popFront b.capBytes (b.chunks ++ [b.chunkOf streamKind bytes])
        (saturatingAdd b.totalBufferedBytes (Recent.newest b.capBytes bytes).length)
        (saturatingAdd b.droppedBytes
          (bytes.length - (Recent.newest b.capBytes bytes).length))
      { b with
        chunks := rest.1
        totalBufferedBytes := rest.2.1
        droppedBytes := rest.2.2
        nextSequence := saturatingAdd b.nextSequence 1 } := by
  have hkept : saturatingAdd b.droppedBytes 0 = b.droppedBytes := Nat.min_eq_left hdropped
  rw [push, if_neg hcap]
  by_cases hlong : bytes.length > b.capBytes
  · have hlength : bytes.length - (Recent.newest b.capBytes bytes).length =
        bytes.length - b.capBytes := by
      rw [Recent.length_newest]
      omega
    simp only [if_pos hlong, hlength]
    rfl
  · have hall := Recent.newest_of_le (Nat.le_of_not_gt hlong)
    simp only [if_neg hlong, chunkOf, hall, Nat.sub_self, hkept]

end TerminalPtyOutputBuffer

open TerminalPtyOutputBuffer

/-- Nothing is kept by a buffer that may keep nothing. -/
theorem ShowsEnd.push_zero {b : TerminalPtyOutputBuffer} {blocks pieces : List (List UInt8)}
    (h : ShowsEnd b blocks pieces) (hzero : b.capBytes = 0) (streamKind : String)
    (bytes : List UInt8) : ShowsEnd (b.push streamKind bytes) (blocks ++ [bytes]) pieces := by
  have hempty : pieces.flatten = [] := by
    have hbounded := h.bounded
    exact List.length_eq_zero_iff.1 (by omega)
  have hdropped := h.dropped
  rw [hempty, List.length_nil, Nat.sub_zero] at hdropped
  rw [TerminalPtyOutputBuffer.push, if_pos hzero]
  refine { h with suffix := ?_, dropped := ?_, newest := ?_, sequences := ?_, next := ?_ }
  · rw [hempty]
    exact List.nil_suffix
  · rw [hdropped, saturatingAdd_min, hempty, List.flatten_append, List.flatten_singleton,
      List.length_append]
    rfl
  · intro block _
    have hlength := Recent.length_newest b.capBytes block
    have hnone : Recent.newest b.capBytes block = [] := List.length_eq_zero_iff.1 (by omega)
    exact hnone ▸ List.nil_suffix
  · exact fun hpos => absurd hzero hpos
  · exact fun hpos => absurd hzero hpos

theorem ShowsEnd.push_pos {b : TerminalPtyOutputBuffer} {blocks pieces : List (List UInt8)}
    (h : ShowsEnd b blocks pieces) (hpos : b.capBytes ≠ 0)
    (hcap : b.capBytes ≤ maxOutputBufferCapBytes) (streamKind : String) (bytes : List UInt8) :
    ShowsEnd (b.push streamKind bytes) (blocks ++ [bytes])
      (Recent.keep b.capBytes pieces bytes) := by
  have hdropped : b.droppedBytes ≤ wordMax := h.dropped ▸ Nat.min_le_right _ _
  have hstored := Recent.length_newest b.capBytes bytes
  have htotal : saturatingAdd b.totalBufferedBytes (Recent.newest b.capBytes bytes).length =
      (pieces ++ [Recent.newest b.capBytes bytes]).flatten.length := by
    have hbounded := h.bounded
    have hword : 2 * maxOutputBufferCapBytes ≤ wordMax := by decide
    rw [saturatingAdd, h.total, List.flatten_append, List.flatten_singleton, List.length_append]
    omega
  have hlengths : (b.chunks ++ [b.chunkOf streamKind bytes]).map (·.byteLen) =
      (pieces ++ [Recent.newest b.capBytes bytes]).map List.length := by
    rw [List.map_append, List.map_append, h.lengths]
    rfl
  obtain ⟨popped, gone, hpopped, hgone, hlength, hnumbers⟩ :=
    @popFront_trim b.capBytes _ _ hlengths
      (saturatingAdd b.droppedBytes (bytes.length - (Recent.newest b.capBytes bytes).length))
      (Nat.min_le_right _ _)
  rw [push_of_pos hpos _ _ hdropped, htotal]
  -- what is left over from popping is all that matters of it
  generalize popFront b.capBytes _ _ _ = rest at hpopped hnumbers ⊢
  obtain ⟨chunks, total, dropped⟩ := rest
  obtain ⟨rfl, rfl⟩ := Prod.mk.inj hnumbers
  have hsuffix : chunks <:+ b.chunks ++ [b.chunkOf streamKind bytes] := ⟨popped, hpopped.symm⟩
  refine ⟨?_, ?_, ?_, rfl, Recent.length_flatten_keep_le _ _ _, ?_, ?_, ?_, ?_⟩
  · have htexts := congrArg (List.map (·.text)) hpopped
    have hpieces := congrArg (List.map Utf8.fromLossy) hgone
    rw [List.map_append, List.map_append, h.texts] at htexts
    rw [List.map_append, List.map_append] at hpieces
    exact (List.append_inj (htexts.symm.trans hpieces) (by simpa using hlength)).2
  · have hpieces := congrArg (List.map List.length) hgone
    rw [← hlengths, hpopped, List.map_append, List.map_append] at hpieces
    exact (List.append_inj hpieces (by simpa using hlength)).2
  · rw [List.flatten_append, List.flatten_singleton]
    exact Recent.flatten_keep_suffix h.suffix bytes
  · have hall := congrArg (fun pieces => pieces.flatten.length) hgone
    have hkept := h.suffix.length_le
    simp only [List.flatten_append, List.flatten_singleton, List.length_append] at hall ⊢
    rw [Recent.keep, saturatingAdd, h.dropped]
    omega
  · intro block hblock
    rw [List.getLast?_concat, Option.mem_some_iff] at hblock
    exact hblock ▸ Recent.newest_suffix_keep _ _ _
  · intro _
    obtain ⟨before, hbefore⟩ := h.sequences hpos
    refine (hsuffix.map (·.sequence)).trans ⟨before, ?_⟩
    rw [List.map_append, ← List.append_assoc, hbefore, List.length_append, List.length_singleton,
      List.range'_concat, List.map_append]
    simp [chunkOf, h.next hpos, Nat.add_comm]
  · intro _
    show saturatingAdd b.nextSequence 1 = _
    rw [h.next hpos, saturatingAdd_min, List.length_append, List.length_singleton]

theorem ShowsEnd.push {b : TerminalPtyOutputBuffer} {blocks pieces : List (List UInt8)}
    (h : ShowsEnd b blocks pieces) (hcap : b.capBytes ≤ maxOutputBufferCapBytes)
    (streamKind : String) (bytes : List UInt8) :
    ∃ pieces, ShowsEnd (b.push streamKind bytes) (blocks ++ [bytes]) pieces := by
  by_cases hzero : b.capBytes = 0
  · exact ⟨pieces, h.push_zero hzero streamKind bytes⟩
  · exact ⟨_, h.push_pos hzero hcap streamKind bytes⟩

end HobitQueue.TerminalPty
