import Mathlib.Data.List.DropRight
import Mathlib.Data.String.Basic

/-!
# The visible part of an SQL text

What is left of an SQL text once its literals, quoted identifiers and comments are replaced by
blanks. The text is read from left to right, one element at a time, and a place says what the
next element stands in. The elements are characters or the units of an encoding: `char` gives
the element of a character. Dialects differ in what ends a line comment, and in whether block
comments nest.

## Main definitions

* `Dialect`, `Dialect.plain` — what ends a comment.
* `step`, `visible` — one element, and a whole text.
* `EndsAlike` — a text whose comments end in a dialect where they end in the plain one.

## Main results

* `visible_eq_plain` — such a text is read alike.
* `visible_trim` — removing blanks at the ends removes them from the visible part.
* `visible_recode` — reading commutes with an encoding.
-/

namespace SqlText

/-- What a literal or a quoted identifier stands between. -/
inductive Quote
  | single
  | double
  deriving DecidableEq

def Quote.mark : Quote → Char
  | .single => Char.ofNat 39
  | .double => Char.ofNat 34

def newline : Char := Char.ofNat 10

/-- The characters that open or close a literal or a comment. -/
def delimiters : List Char := ['-', '/', '*', Quote.single.mark, Quote.double.mark]

/-- The characters that reading looks at or shows. -/
def marks : List Char := delimiters ++ [newline, ' ']

theorem Quote.mark_mem (q : Quote) : q.mark ∈ delimiters := by
  cases q <;> decide

/-- What a text ends in. -/
inductive Unclosed
  | comment
  | quoted
  deriving DecidableEq

/-- What the next element stands in. -/
inductive Place
  | text
  | dash
  | slash
  | line
  | block (depth : ℕ)
  | star (depth : ℕ)
  | slashIn (depth : ℕ)
  | quoted (quote : Quote)
  | quoteIn (quote : Quote)
  deriving DecidableEq

variable {α β : Type}

/-- A text without its blanks at both ends. -/
def trimBy (blank : α → Bool) (cs : List α) : List α :=
  (cs.dropWhile blank).rdropWhile blank

theorem exists_trimBy (blank : α → Bool) (cs : List α) :
    ∃ before after, cs = before ++ trimBy blank cs ++ after ∧
      (∀ c ∈ before, blank c = true) ∧ ∀ c ∈ after, blank c = true := by
  refine ⟨cs.takeWhile blank, (cs.dropWhile blank).rtakeWhile blank, ?_, ?_, ?_⟩
  · rw [List.append_assoc, trimBy, List.rdropWhile_append_rtakeWhile,
      List.takeWhile_append_dropWhile]
  · intro c hc
    exact List.mem_takeWhile_imp hc
  · intro c hc
    exact List.mem_rtakeWhile_imp hc

theorem map_nil_append (shown : Except Unclosed (List α)) : shown.map ([] ++ ·) = shown := by
  cases shown <;> rfl

variable [DecidableEq α] [DecidableEq β]

/-- A dialect says which elements end a line comment; a newline is one of them. -/
structure Dialect (char : Char → α) where
  endsLine : α → Bool
  nested : Bool
  endsLine_newline : endsLine (char newline) = true

/-- The dialect in which only a newline ends a line comment and block comments do not nest. -/
def Dialect.plain (char : Char → α) : Dialect char where
  endsLine c := c == char newline
  nested := false
  endsLine_newline := beq_self_eq_true _

section Reading

variable (char : Char → α)

/-- An element outside of everything. -/
def outside (c : α) : List α × Place :=
  if c = char '-' then ([], .dash)
  else if c = char '/' then ([], .slash)
  else if c = char Quote.single.mark then ([char ' '], .quoted .single)
  else if c = char Quote.double.mark then ([char ' '], .quoted .double)
  else ([c], .text)

/-- What an element shows, and where the next one stands. -/
def step (d : Dialect char) : Place → α → List α × Place
  | .text, c => outside char c
  | .dash, c =>
    if c = char '-' then ([char ' '], .line)
    else (char '-' :: (outside char c).1, (outside char c).2)
  | .slash, c =>
    if c = char '*' then ([char ' '], .block 0)
    else (char '/' :: (outside char c).1, (outside char c).2)
  | .line, c => if d.endsLine c then ([c], .text) else ([], .line)
  | .block n, c =>
    if c = char '*' then ([], .star n) else if c = char '/' then ([], .slashIn n)
    else ([], .block n)
  | .star n, c =>
    if c = char '/' then ([], if n = 0 then .text else .block (n - 1))
    else if c = char '*' then ([], .star n) else ([], .block n)
  | .slashIn n, c =>
    if c = char '*' then ([], if d.nested then .block (n + 1) else .star n)
    else if c = char '/' then ([], .slashIn n) else ([], .block n)
  | .quoted q, c => if c = char q.mark then ([], .quoteIn q) else ([], .quoted q)
  | .quoteIn q, c => if c = char q.mark then ([], .quoted q) else outside char c

/-- The end of the text. -/
def final : Place → Except Unclosed (List α)
  | .text | .line | .quoteIn _ => .ok []
  | .dash => .ok [char '-']
  | .slash => .ok [char '/']
  | .block _ | .star _ | .slashIn _ => .error .comment
  | .quoted _ => .error .quoted

/-- The visible part of a text. -/
def visible (d : Dialect char) : Place → List α → Except Unclosed (List α)
  | p, [] => final char p
  | p, c :: cs => (visible d (step char d p c).2 cs).map ((step char d p c).1 ++ ·)

def placeAfter (d : Dialect char) (p : Place) (cs : List α) : Place :=
  cs.foldl (fun p c => (step char d p c).2) p

/-- What a text shows before it ends. -/
def shown (d : Dialect char) : Place → List α → List α
  | _, [] => []
  | p, c :: cs => (step char d p c).1 ++ shown d (step char d p c).2 cs

theorem visible_append (d : Dialect char) (p : Place) (cs rest : List α) :
    visible char d p (cs ++ rest) =
      (visible char d (placeAfter char d p cs) rest).map (shown char d p cs ++ ·) := by
  induction cs generalizing p with
  | nil => exact (map_nil_append _).symm
  | cons c cs ih =>
    have hplace : placeAfter char d p (c :: cs) = placeAfter char d (step char d p c).2 cs := rfl
    rw [List.cons_append, visible, ih, hplace, shown]
    cases visible char d (placeAfter char d (step char d p c).2 cs) rest <;> simp [Except.map]

/-! ## Dialects -/

/-- A comment that ends in the dialect, or deepens, where it does not in the plain one. -/
def Dialect.differsAt (d : Dialect char) : Place → α → Bool
  | .line, c => d.endsLine c && c != char newline
  | .slashIn _, c => d.nested && c == char '*'
  | _, _ => false

/-- Read plainly, no comment of the text contains what would end or deepen it in the dialect. -/
def EndsAlike (d : Dialect char) (p : Place) (cs : List α) : Prop :=
  ∀ i, (h : i < cs.length) →
    d.differsAt char (placeAfter char (.plain char) p (cs.take i)) cs[i] = false

instance (d : Dialect char) (p : Place) (cs : List α) : Decidable (EndsAlike char d p cs) :=
  inferInstanceAs (Decidable (∀ i, (h : i < cs.length) → _ = false))

variable {char}

theorem step_eq_plain {d : Dialect char} {p : Place} {c : α}
    (h : d.differsAt char p c = false) : step char d p c = step char (.plain char) p c := by
  cases p with
  | line =>
    by_cases hc : c = char newline
    · subst hc
      simp only [step, d.endsLine_newline, (Dialect.plain char).endsLine_newline]
    · have hd : d.endsLine c = false := by simpa [Dialect.differsAt, hc] using h
      simp [step, hd, Dialect.plain, hc]
  | slashIn n =>
    by_cases hc : c = char '*'
    · have hd : d.nested = false := by simpa [Dialect.differsAt, hc] using h
      simp [step, hc, hd, Dialect.plain]
    · simp [step, hc]
  | _ => rfl

/-- **A text whose comments end alike has one visible part.** -/
theorem visible_eq_plain {d : Dialect char} {p : Place} {cs : List α}
    (h : EndsAlike char d p cs) : visible char d p cs = visible char (.plain char) p cs := by
  induction cs generalizing p with
  | nil => rfl
  | cons c cs ih =>
    have hstep := step_eq_plain (h 0 (Nat.zero_lt_succ _))
    have hrest : EndsAlike char d (step char (.plain char) p c).2 cs := by
      intro i hi
      exact h (i + 1) (Nat.succ_lt_succ hi)
    simp only [List.take_zero, placeAfter, List.foldl_nil, List.getElem_cons_zero] at hstep
    rw [visible, visible, hstep, ih hrest]

end Reading

/-! ## Blanks at the ends -/

section Blanks

variable {char : Char → α} {d : Dialect char}

/-- An element that opens and closes nothing. -/
def Inert (char : Char → α) (c : α) : Prop := ∀ m ∈ delimiters, c ≠ char m

theorem outside_inert {c : α} (h : Inert char c) : outside char c = ([c], .text) := by
  have hdash := h '-' (by decide)
  have hslash := h '/' (by decide)
  have hsingle := h Quote.single.mark (by decide)
  have hdouble := h Quote.double.mark (by decide)
  simp [outside, hdash, hslash, hsingle, hdouble]

theorem visible_singleton {p : Place} {c : α} (h : Inert char c) :
    visible char d p [c] = final char p ∨
      visible char d p [c] = (final char p).map (· ++ [c]) := by
  have hdash := h '-' (by decide)
  have hslash := h '/' (by decide)
  have hstar := h '*' (by decide)
  simp only [visible]
  cases p with
  | quoted q =>
    left
    simp [step, h q.mark q.mark_mem, final, Except.map]
  | quoteIn q =>
    right
    simp [step, h q.mark q.mark_mem, outside_inert h, final, Except.map]
  | line =>
    by_cases hline : d.endsLine c = true
    · right
      simp [step, hline, final, Except.map]
    · left
      simp [step, hline, final, Except.map]
  | text =>
    right
    simp [step, outside_inert h, final, Except.map]
  | dash =>
    right
    simp [step, outside_inert h, hdash, final, Except.map]
  | slash =>
    right
    simp [step, outside_inert h, hstar, final, Except.map]
  | _ =>
    left
    simp [step, hstar, hslash, final, Except.map]

/-- An inert element at the end is shown at the end, or swallowed by a comment. -/
theorem visible_concat {p : Place} {cs : List α} {c : α} (h : Inert char c) :
    visible char d p (cs ++ [c]) = visible char d p cs ∨
      visible char d p (cs ++ [c]) = (visible char d p cs).map (· ++ [c]) := by
  induction cs generalizing p with
  | nil => exact visible_singleton h
  | cons a cs ih =>
    simp only [List.cons_append, visible]
    obtain hsame | hshown := @ih (step char d p a).2
    · left
      rw [hsame]
    · right
      rw [hshown]
      cases visible char d (step char d p a).2 cs with
      | error e => rfl
      | ok shown => simp [Except.map]

theorem visible_append_blanks {p : Place} {cs blanks : List α}
    (h : ∀ c ∈ blanks, Inert char c) :
    ∃ kept, (∀ c ∈ kept, c ∈ blanks) ∧
      visible char d p (cs ++ blanks) = (visible char d p cs).map (· ++ kept) := by
  induction blanks using List.reverseRecOn with
  | nil =>
    refine ⟨[], by simp, ?_⟩
    cases hcs : visible char d p cs <;> simp [hcs, Except.map]
  | append_singleton blanks c ih =>
    obtain ⟨kept, hkept, hvisible⟩ := ih fun b hb => h b (List.mem_append_left [c] hb)
    have hc : Inert char c := h c (by simp)
    rw [← List.append_assoc]
    obtain hsame | hshown := @visible_concat α _ char d p (cs ++ blanks) c hc
    · refine ⟨kept, fun b hb => List.mem_append_left [c] (hkept b hb), ?_⟩
      rw [hsame, hvisible]
    · refine ⟨kept ++ [c], ?_, ?_⟩
      · intro b hb
        rw [List.mem_append] at hb ⊢
        exact hb.imp (hkept b) id
      · rw [hshown, hvisible]
        cases visible char d p cs <;> simp [Except.map]

theorem visible_blanks_append {cs blanks : List α} (h : ∀ c ∈ blanks, Inert char c) :
    visible char d .text (blanks ++ cs) = (visible char d .text cs).map (blanks ++ ·) := by
  induction blanks with
  | nil => cases hcs : visible char d .text cs <;> simp [hcs, Except.map]
  | cons b blanks ih =>
    have hb := outside_inert (h b List.mem_cons_self)
    rw [List.cons_append, visible, step, hb, ih fun c hc => h c (List.mem_cons_of_mem b hc)]
    cases visible char d .text cs <;> simp [Except.map]

/-- **Trimming removes blanks from the visible part.** -/
theorem visible_trim {blank : α → Bool} (hblank : ∀ c, blank c = true → Inert char c)
    (cs : List α) :
    ∃ before after, (∀ c ∈ before, blank c = true) ∧ (∀ c ∈ after, blank c = true) ∧
      visible char d .text cs =
        (visible char d .text (trimBy blank cs)).map fun shown => before ++ shown ++ after := by
  obtain ⟨before, after, hcs, hbefore, hafter⟩ := exists_trimBy blank cs
  obtain ⟨kept, hkept, hvisible⟩ := @visible_append_blanks α _ char d .text
    (trimBy blank cs) after fun c hc => hblank c (hafter c hc)
  refine ⟨before, kept, hbefore, fun c hc => hafter c (hkept c hc), ?_⟩
  conv_lhs => rw [hcs, List.append_assoc]
  rw [visible_blanks_append fun c hc => hblank c (hbefore c hc), hvisible]
  cases visible char d .text (trimBy blank cs) <;> simp [Except.map]

end Blanks

/-! ## Encodings -/

section Encoding

variable {char : Char → α} {char' : Char → β} {f : α → List β}

/-- An encoding keeps the characters that reading looks at, and makes none of them from
another one. -/
structure Recoding (char : Char → α) (char' : Char → β) (f : α → List β) : Prop where
  mark : ∀ m ∈ marks, f (char m) = [char' m]
  ne_nil : ∀ a, (∀ m ∈ marks, a ≠ char m) → f a ≠ []
  ne_mark : ∀ a, (∀ m ∈ marks, a ≠ char m) → ∀ b ∈ f a, ∀ m ∈ marks, b ≠ char' m
  eq_iff : ∀ m ∈ marks, ∀ m' ∈ marks, char m = char m' ↔ char' m = char' m'

theorem flatMap_outside_mark (h : Recoding char char' f) {m : Char} (hm : m ∈ marks) :
    outside char' (char' m) =
      ((outside char (char m)).1.flatMap f, (outside char (char m)).2) := by
  have hspace := h.mark ' ' (by decide)
  have hself := h.mark m hm
  have hdash := h.eq_iff m hm '-' (by decide)
  have hslash := h.eq_iff m hm '/' (by decide)
  have hsingle := h.eq_iff m hm Quote.single.mark (by decide)
  have hdouble := h.eq_iff m hm Quote.double.mark (by decide)
  simp only [outside, hdash, hslash, hsingle, hdouble]
  split_ifs <;> simp [hspace, hself]

theorem flatMap_step_mark (h : Recoding char char' f) (p : Place) {m : Char} (hm : m ∈ marks) :
    step char' (.plain char') p (char' m) =
      ((step char (.plain char) p (char m)).1.flatMap f,
        (step char (.plain char) p (char m)).2) := by
  have hspace := h.mark ' ' (by decide)
  have hdashes := h.mark '-' (by decide)
  have hslashes := h.mark '/' (by decide)
  have hself := h.mark m hm
  have hdash := h.eq_iff m hm '-' (by decide)
  have hslash := h.eq_iff m hm '/' (by decide)
  have hstar := h.eq_iff m hm '*' (by decide)
  have hnewline := h.eq_iff m hm newline (by decide)
  have houtside := flatMap_outside_mark h hm
  cases p with
  | quoted q =>
    have hq := h.eq_iff m hm q.mark (by cases q <;> decide)
    simp only [step, hq]
    split_ifs <;> simp
  | quoteIn q =>
    have hq := h.eq_iff m hm q.mark (by cases q <;> decide)
    simp only [step, hq, houtside]
    split_ifs <;> simp
  | line =>
    simp only [step, Dialect.plain, beq_iff_eq, hnewline]
    split_ifs <;> simp [hself]
  | text => simp only [step, houtside]
  | _ =>
    simp only [step, houtside, hdash, hslash, hstar, Dialect.plain]
    split_ifs <;> simp [hspace, hdashes, hslashes]

/-- What an element that is no mark makes visible of the elements before it. -/
def pending (char : Char → α) : Place → List α
  | .dash => [char '-']
  | .slash => [char '/']
  | _ => []

/-- Where an element that is no mark leads. -/
def Place.settled : Place → Place
  | .text | .dash | .slash | .quoteIn _ => .text
  | .line => .line
  | .block n | .star n | .slashIn n => .block n
  | .quoted q => .quoted q

theorem settled_settled (p : Place) : p.settled.settled = p.settled := by
  cases p <;> rfl

omit [DecidableEq α] in
theorem pending_settled (char : Char → α) (p : Place) : pending char p.settled = [] := by
  cases p <;> rfl

theorem step_other {c : α} (h : ∀ m ∈ marks, c ≠ char m) (p : Place) :
    step char (.plain char) p c =
      (pending char p ++ (if p.settled = .text then [c] else []), p.settled) := by
  have hdash := h '-' (by decide)
  have hslash := h '/' (by decide)
  have hstar := h '*' (by decide)
  have hnewline := h newline (by decide)
  have houtside : outside char c = ([c], .text) :=
    outside_inert fun m hm => h m (List.mem_append_left _ hm)
  cases p with
  | quoted q =>
    have hq := h q.mark (List.mem_append_left _ q.mark_mem)
    simp [step, hq, Place.settled, pending]
  | quoteIn q =>
    have hq := h q.mark (List.mem_append_left _ q.mark_mem)
    simp [step, hq, houtside, Place.settled, pending]
  | _ =>
    simp [step, houtside, hdash, hslash, hstar, hnewline, Dialect.plain, Place.settled, pending]

theorem visible_settled_append {p : Place} {bs : List β} (hp : p.settled = p)
    (h : ∀ b ∈ bs, ∀ m ∈ marks, b ≠ char' m) (rest : List β) :
    visible char' (.plain char') p (bs ++ rest) =
      (visible char' (.plain char') p rest).map
        ((if p = .text then bs else []) ++ ·) := by
  induction bs with
  | nil => cases hrest : visible char' (.plain char') p rest <;> simp [hrest, Except.map]
  | cons b bs ih =>
    have hpending : pending char' p = [] := by
      rw [← hp]
      exact pending_settled char' p
    rw [List.cons_append, visible, step_other (h b List.mem_cons_self), hp, hpending,
      ih fun c hc => h c (List.mem_cons_of_mem b hc)]
    by_cases htext : p = .text
    · cases visible char' (.plain char') p rest <;> simp [htext, Except.map]
    · cases visible char' (.plain char') p rest <;> simp [htext, Except.map]

/-- **Reading commutes with an encoding.** -/
theorem visible_recode (h : Recoding char char' f) (p : Place) (cs : List α) :
    visible char' (.plain char') p (cs.flatMap f) =
      (visible char (.plain char) p cs).map (List.flatMap f) := by
  induction cs generalizing p with
  | nil =>
    have hdash := h.mark '-' (by decide)
    have hslash := h.mark '/' (by decide)
    cases p <;> simp [visible, final, Except.map, hdash, hslash]
  | cons c cs ih =>
    rw [List.flatMap_cons]
    by_cases hc : ∃ m ∈ marks, c = char m
    · obtain ⟨m, hm, rfl⟩ := hc
      rw [h.mark m hm, List.singleton_append, visible, visible, flatMap_step_mark h p hm, ih]
      cases visible char (.plain char) (step char (.plain char) p (char m)).2 cs <;>
        simp [Except.map]
    · have hother : ∀ m ∈ marks, c ≠ char m := fun m hm heq => hc ⟨m, hm, heq⟩
      have hmark := h.ne_mark c hother
      have hdash := h.mark '-' (by decide)
      have hslash := h.mark '/' (by decide)
      obtain ⟨b, bs, hbs⟩ := List.exists_cons_of_ne_nil (h.ne_nil c hother)
      have hpending : (pending char p).flatMap f = pending char' p := by
        cases p <;> simp [pending, hdash, hslash]
      rw [hbs] at hmark ⊢
      rw [List.cons_append, visible, step_other (hmark b List.mem_cons_self),
        visible_settled_append (settled_settled p)
          fun u hu => hmark u (List.mem_cons_of_mem b hu),
        visible, step_other hother, ih]
      cases visible char (.plain char) p.settled cs with
      | error e => rfl
      | ok shown =>
        by_cases htext : p.settled = .text
        · simp [htext, Except.map, hpending, hbs]
        · simp [htext, Except.map, hpending]

end Encoding

end SqlText
