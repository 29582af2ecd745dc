import HobitQueue.Lib.Checks
import HobitQueue.Lib.JsonDocument
import Mathlib.Data.Bool.AllAny

/-!
# The canonical text of a value

The canonical printer has no length prefixes: that its texts can be told apart rests on the
characters that a value begins with and that may follow it. So a value is read off the front
of a text, and whatever comes after it is left over.

## Main definitions

* `Json.readChar` — the character a printed text of a string begins with.
* `Json.joined`, `Json.print` — texts separated by commas, and the text of a value with its
  members as they are listed.
* `Json.ordered` — the value with its members in key order at every depth.
* `Json.Proper`, `Json.Value` — values as a parser makes them.

## Main results

* `Json.print_append_inj` — a value and what follows it are determined by the text.
* `Json.canonicalString_eq_iff` — one canonical text for the values that differ in the order
  of members only.
-/

namespace Json

/-! ## Strings -/

def quoteMark : Char := Char.ofNat 34

/-- The value of a hexadecimal digit. -/
def digitValue (c : Char) : ℕ := if c.isDigit then c.toNat - 48 else c.toNat - 87

/-- The character that the printed text of a string begins with, and the rest of the text. -/
def readChar : List Char → Option (Char × List Char)
  | [] => none
  | c :: rest =>
      if c.toNat = 92 then
        match rest with
        | 'u' :: _ :: _ :: high :: low :: rest =>
            some (Char.ofNat (16 * digitValue high + digitValue low), rest)
        | 'b' :: rest => some (Char.ofNat 8, rest)
        | 't' :: rest => some (Char.ofNat 9, rest)
        | 'n' :: rest => some (Char.ofNat 10, rest)
        | 'f' :: rest => some (Char.ofNat 12, rest)
        | 'r' :: rest => some (Char.ofNat 13, rest)
        | escaped :: rest => some (escaped, rest)
        | [] => none
      else some (c, rest)

theorem digitValue_digitChar : ∀ n < 32,
    16 * digitValue (Nat.digitChar (n / 16)) + digitValue (Nat.digitChar (n % 16)) = n := by
  decide

/-- **A printed character is read back.** -/
theorem readChar_escapeChar (c : Char) (rest : List Char) :
    readChar (escapeChar c ++ rest) = some (c, rest) := by
  have hofNat : ∀ n, c.toNat = n → Char.ofNat n = c := fun n hn => by
    rw [← hn, Char.ofNat_toNat]
  unfold escapeChar
  simp only
  split
  · next h => rw [← hofNat 34 h]; rfl
  · next h => rw [← hofNat 92 h]; rfl
  · next h => rw [← hofNat 8 h]; rfl
  · next h => rw [← hofNat 9 h]; rfl
  · next h => rw [← hofNat 10 h]; rfl
  · next h => rw [← hofNat 12 h]; rfl
  · next h => rw [← hofNat 13 h]; rfl
  · next n h34 h92 h8 h9 h10 h12 h13 =>
    by_cases hlow : c.toNat < 32
    · rw [if_pos hlow]
      have hread : readChar ([Char.ofNat 92, 'u', '0', '0', Nat.digitChar (c.toNat / 16),
          Nat.digitChar (c.toNat % 16)] ++ rest) =
          some (Char.ofNat (16 * digitValue (Nat.digitChar (c.toNat / 16)) +
            digitValue (Nat.digitChar (c.toNat % 16))), rest) := rfl
      rw [hread, digitValue_digitChar _ hlow, Char.ofNat_toNat]
    · rw [if_neg hlow]
      exact if_neg h92

/-- No printed character begins with the mark that ends the string. -/
theorem escapeChar_append_ne (c : Char) (rest after : List Char) :
    escapeChar c ++ rest ≠ quoteMark :: after := by
  intro h
  have hread : readChar (quoteMark :: after) = some (quoteMark, after) := rfl
  have hc := readChar_escapeChar c rest
  rw [h, hread, Option.some.injEq, Prod.mk.injEq] at hc
  have hescape : escapeChar quoteMark = [Char.ofNat 92, quoteMark] := rfl
  rw [← hc.1, hescape] at h
  exact absurd (List.cons.inj h).1 (by decide)

/-- The characters of a string, and what follows its end mark, are determined by the text. -/
theorem escaped_append_inj {cs ds r u : List Char}
    (h : cs.flatMap escapeChar ++ quoteMark :: r = ds.flatMap escapeChar ++ quoteMark :: u) :
    cs = ds ∧ r = u := by
  induction cs generalizing ds with
  | nil =>
    cases ds with
    | nil => exact ⟨rfl, (List.cons.inj h).2⟩
    | cons d ds =>
      rw [List.flatMap_cons, List.append_assoc] at h
      exact absurd h.symm (escapeChar_append_ne d _ _)
  | cons c cs ih =>
    rw [List.flatMap_cons, List.append_assoc] at h
    cases ds with
    | nil => exact absurd h (escapeChar_append_ne c _ _)
    | cons d ds =>
      rw [List.flatMap_cons, List.append_assoc] at h
      have hread := readChar_escapeChar c (cs.flatMap escapeChar ++ quoteMark :: r)
      rw [h, readChar_escapeChar, Option.some.injEq, Prod.mk.injEq] at hread
      obtain ⟨hcs, hr⟩ := ih hread.2.symm
      exact ⟨by rw [hread.1, hcs], hr⟩

theorem toList_quote (s : String) :
    (quote s).toList = quoteMark :: (s.toList.flatMap escapeChar ++ [quoteMark]) := by
  simp [quote, quoteMark]

/-- **A string and what follows it are determined by the text.** -/
theorem quote_append_inj {s t : String} {r u : List Char}
    (h : (quote s).toList ++ r = (quote t).toList ++ u) : s = t ∧ r = u := by
  rw [toList_quote, toList_quote] at h
  simp only [List.cons_append, List.append_assoc, List.cons.injEq, true_and] at h
  obtain ⟨hst, hru⟩ := escaped_append_inj h
  exact ⟨String.toList_injective hst, hru⟩

/-! ## Texts separated by commas -/

/-- The texts with a comma between each two of them. -/
def joined : List (List Char) → List Char
  | [] => []
  | text :: rest => text ++ (if rest.isEmpty then [] else ',' :: joined rest)

theorem toList_intercalate (texts : List String) :
    (",".intercalate texts).toList = joined (texts.map String.toList) := by
  induction texts with
  | nil => rfl
  | cons text rest ih =>
    cases rest with
    | nil => simp [joined]
    | cons other rest =>
      rw [List.map_cons, joined, ← ih]
      simp

/-- A value of an array or object is followed by one of these, or by nothing. -/
def IsStop (c : Char) : Prop := c = ',' ∨ c = ']' ∨ c = Char.ofNat 125

instance (c : Char) : Decidable (IsStop c) := inferInstanceAs (Decidable (_ ∨ _ ∨ _))

/-- What follows a value. -/
def Stopped (rest : List Char) : Prop := ∀ c ∈ rest.head?, IsStop c

/-- A text begins with a character that does not stand behind a value. -/
def Starts (text : List Char) : Prop := ∃ c rest, text = c :: rest ∧ ¬ IsStop c

/-- Whatever stands behind the first of some texts in brackets stops it. -/
theorem stopped_after {close : Char} (hclose : IsStop close) (rest : List (List Char))
    (r : List Char) :
    Stopped ((if rest.isEmpty then [] else ',' :: joined rest) ++ close :: r) := by
  intro c hc
  cases rest with
  | nil =>
    simp only [List.isEmpty_nil, if_true, List.nil_append, List.head?_cons, Option.mem_def,
      Option.some.injEq] at hc
    exact hc ▸ hclose
  | cons other rest =>
    simp only [List.isEmpty_cons, Bool.false_eq_true, if_false, List.cons_append,
      List.head?_cons, Option.mem_def, Option.some.injEq] at hc
    exact hc ▸ Or.inl rfl

/-- **The items between brackets are determined by the text**, when each of them can be read
off the front of a text. -/
theorem joined_append_inj {α : Type} {text : α → List Char} {xs ys : List α} {close : Char}
    {r u : List Char} (hclose : IsStop close) (hcomma : close ≠ ',')
    (hx : ∀ x ∈ xs, Starts (text x)) (hy : ∀ y ∈ ys, Starts (text y))
    (hread : ∀ x ∈ xs, ∀ y ∈ ys, ∀ r u, Stopped r → Stopped u →
      text x ++ r = text y ++ u → x = y ∧ r = u)
    (h : joined (xs.map text) ++ close :: r = joined (ys.map text) ++ close :: u) :
    xs = ys ∧ r = u := by
  have hstart : ∀ {t rest after : List Char}, Starts t → close :: rest ≠ t ++ after := by
    rintro t rest after ⟨c, rest', rfl, hc⟩ heq
    exact hc ((List.cons.inj heq).1 ▸ hclose)
  induction xs generalizing ys with
  | nil =>
    cases ys with
    | nil => exact ⟨rfl, (List.cons.inj h).2⟩
    | cons y ys =>
      rw [List.map_cons, joined, List.append_assoc] at h
      exact absurd h (hstart (hy y List.mem_cons_self))
  | cons x xs ih =>
    rw [List.map_cons, joined, List.append_assoc] at h
    cases ys with
    | nil => exact absurd h.symm (hstart (hx x List.mem_cons_self))
    | cons y ys =>
      rw [List.map_cons, joined, List.append_assoc] at h
      obtain ⟨rfl, htail⟩ := hread x List.mem_cons_self y List.mem_cons_self _ _
        (stopped_after hclose _ _) (stopped_after hclose _ _) h
      cases xs with
      | nil =>
        cases ys with
        | nil => exact ⟨rfl, (List.cons.inj htail).2⟩
        | cons z ys => exact absurd (List.cons.inj htail).1 hcomma
      | cons w xs =>
        cases ys with
        | nil => exact absurd (List.cons.inj htail).1.symm hcomma
        | cons z ys =>
          obtain ⟨hrest, hru⟩ := ih (fun v hv => hx v (List.mem_cons_of_mem _ hv))
            (fun v hv => hy v (List.mem_cons_of_mem _ hv))
            (fun v hv v' hv' => hread v (List.mem_cons_of_mem _ hv) v' (List.mem_cons_of_mem _ hv'))
            (List.cons.inj htail).2
          exact ⟨by rw [hrest], hru⟩

/-! ## Values -/

/-- Induction over a value: a fact of all the values inside is a fact of the value. -/
@[elab_as_elim]
theorem induction_on {P : Json → Prop} (null : P null) (bool : ∀ b, P (bool b))
    (num : ∀ numeral, P (num numeral)) (str : ∀ s, P (str s))
    (arr : ∀ items, (∀ v ∈ items, P v) → P (arr items))
    (obj : ∀ members, (∀ entry ∈ members, P entry.2) → P (obj members)) : (v : Json) → P v
  | .null => null
  | .bool b => bool b
  | .num numeral => num numeral
  | .str s => str s
  | .arr items => arr items fun v _ => induction_on null bool num str arr obj v
  | .obj members => obj members fun entry _ => induction_on null bool num str arr obj entry.2
termination_by v => sizeOf v
decreasing_by
  · have hsize := List.sizeOf_lt_of_mem ‹v ∈ items›
    simp only [Json.arr.sizeOf_spec]
    omega
  · have hsize := List.sizeOf_lt_of_mem ‹entry ∈ members›
    have hentry : sizeOf entry.2 < sizeOf entry := by
      cases entry
      simp only [Prod.mk.sizeOf_spec]
      omega
    simp only [Json.obj.sizeOf_spec]
    omega

/-- A text that a number may be printed as. -/
def IsNumeral (s : String) : Prop :=
  s ≠ "" ∧ ∀ c ∈ s.toList, c.isDigit = true ∨ c ∈ ['-', '+', '.', 'e', 'E']

instance (s : String) : Decidable (IsNumeral s) := inferInstanceAs (Decidable (_ ∧ _))

mutual

/-- A value as a parser makes it: numbers are numerals, and the members of an object have
different keys. -/
def Proper : Json → Prop
  | null | bool _ | str _ => True
  | num numeral => IsNumeral numeral
  | arr items => ProperItems items
  | obj members => (members.map Prod.fst).Nodup ∧ ProperMembers members

def ProperItems : List Json → Prop
  | [] => True
  | item :: rest => Proper item ∧ ProperItems rest

def ProperMembers : List (String × Json) → Prop
  | [] => True
  | (_, value) :: rest => Proper value ∧ ProperMembers rest

end

/-- The values of a parser. -/
def Value : Type := { v : Json // v.Proper }

theorem properItems_iff {items : List Json} : ProperItems items ↔ ∀ v ∈ items, Proper v := by
  induction items with
  | nil => simp [ProperItems]
  | cons item rest ih => simp [ProperItems, ih]

theorem properMembers_iff {members : List (String × Json)} :
    ProperMembers members ↔ ∀ entry ∈ members, Proper entry.2 := by
  induction members with
  | nil => simp [ProperMembers]
  | cons entry rest ih => simp [ProperMembers, ih]

mutual

/-- The text of a value, with the members of its objects as they are listed. -/
def print : Json → List Char
  | null => "null".toList
  | bool b => (if b then "true" else "false").toList
  | num numeral => numeral.toList
  | str s => (quote s).toList
  | arr items => '[' :: (joined (printItems items) ++ [']'])
  | obj members => Char.ofNat 123 :: (joined (printMembers members) ++ [Char.ofNat 125])

def printItems : List Json → List (List Char)
  | [] => []
  | item :: rest => print item :: printItems rest

def printMembers : List (String × Json) → List (List Char)
  | [] => []
  | (key, value) :: rest => ((quote key).toList ++ ':' :: print value) :: printMembers rest

end

/-- The text of a member. -/
def printMember (entry : String × Json) : List Char :=
  (quote entry.1).toList ++ ':' :: print entry.2

theorem printItems_eq_map (items : List Json) : printItems items = items.map print := by
  induction items with
  | nil => rfl
  | cons item rest ih => rw [printItems, ih, List.map_cons]

theorem printMembers_eq_map (members : List (String × Json)) :
    printMembers members = members.map printMember := by
  induction members with
  | nil => rfl
  | cons entry rest ih => rw [printMembers, ih, List.map_cons, printMember]

/-- The kind of a value, by the character its text begins with. -/
def kindOfChar (c : Char) : ℕ :=
  if c = 'n' then 0 else if c = 't' then 1 else if c = 'f' then 2 else if c = quoteMark then 3
  else if c = '[' then 4 else if c = Char.ofNat 123 then 5 else 6

def kind : Json → ℕ
  | null => 0
  | bool true => 1
  | bool false => 2
  | str _ => 3
  | arr _ => 4
  | obj _ => 5
  | num _ => 6

theorem isNumeral_head {s : String} (h : IsNumeral s) :
    ∃ c rest, s.toList = c :: rest ∧ kindOfChar c = 6 ∧ ¬ IsStop c := by
  cases hs : s.toList with
  | nil => exact absurd (String.toList_eq_nil_iff.1 hs) h.1
  | cons c rest =>
    refine ⟨c, rest, rfl, ?_⟩
    have hc := h.2 c (by rw [hs]; exact List.mem_cons_self)
    have hother : ∀ d ∈ ['n', 't', 'f', quoteMark, '[', Char.ofNat 123, ',', ']', Char.ofNat 125],
        ¬ (d.isDigit = true ∨ d ∈ ['-', '+', '.', 'e', 'E']) :=
      List.all_iff_forall_prop.1 (by decide)
    have hne : ∀ d ∈ ['n', 't', 'f', quoteMark, '[', Char.ofNat 123, ',', ']', Char.ofNat 125],
        c ≠ d := by
      rintro d hd rfl
      exact hother _ hd hc
    simp only [List.forall_mem_cons] at hne
    obtain ⟨hn, ht, hf, hquote, harr, hobj, hcomma, hitems, hmembers, -⟩ := hne
    constructor
    · simp [kindOfChar, hn, ht, hf, hquote, harr, hobj]
    · simp [IsStop, hcomma, hitems, hmembers]

/-- The text of a value begins with a character that tells its kind. -/
theorem print_head {v : Json} (h : v.Proper) :
    ∃ c rest, print v = c :: rest ∧ kindOfChar c = v.kind ∧ ¬ IsStop c := by
  cases v with
  | null => exact ⟨'n', "ull".toList, rfl, by decide, by decide⟩
  | bool b =>
    cases b with
    | true => exact ⟨'t', "rue".toList, rfl, by decide, by decide⟩
    | false => exact ⟨'f', "alse".toList, rfl, by decide, by decide⟩
  | num numeral => exact isNumeral_head h
  | str s => exact ⟨quoteMark, _, toList_quote s, rfl, by decide⟩
  | arr items => exact ⟨'[', _, rfl, rfl, by decide⟩
  | obj members => exact ⟨Char.ofNat 123, _, rfl, rfl, by decide⟩

theorem starts_print {v : Json} (h : v.Proper) : Starts (print v) := by
  obtain ⟨c, rest, hprint, -, hstop⟩ := print_head h
  exact ⟨c, rest, hprint, hstop⟩

theorem starts_printMember (entry : String × Json) : Starts (printMember entry) := by
  rw [printMember, toList_quote]
  exact ⟨quoteMark, _, rfl, by decide⟩

/-- A numeral ends where a character stands that no numeral has. -/
theorem numeral_append_inj {s t : String} {r u : List Char} (hs : IsNumeral s) (ht : IsNumeral t)
    (hr : Stopped r) (hu : Stopped u) (h : s.toList ++ r = t.toList ++ u) : s = t ∧ r = u := by
  let p : Char → Bool := fun c => c.isDigit || ['-', '+', '.', 'e', 'E'].contains c
  have hall : ∀ {v : String}, IsNumeral v → ∀ c ∈ v.toList, p c = true := by
    intro v hv c hc
    have hchar := hv.2 c hc
    simpa [p] using hchar
  have hnone : ∀ {rest : List Char}, Stopped rest → rest.takeWhile p = [] := by
    intro rest hrest
    cases rest with
    | nil => rfl
    | cons c rest =>
      have hc : p c = false := by
        rcases hrest c rfl with rfl | rfl | rfl <;> decide
      rw [List.takeWhile_cons, hc]
      rfl
  have htake : ∀ {v : String} {rest : List Char}, IsNumeral v → Stopped rest →
      (v.toList ++ rest).takeWhile p = v.toList := by
    intro v rest hv hrest
    rw [List.takeWhile_append_of_pos (hall hv), hnone hrest, List.append_nil]
  have hst : s.toList = t.toList := by
    rw [← htake hs hr, h, htake ht hu]
  rw [hst] at h
  exact ⟨String.toList_injective hst, List.append_cancel_left h⟩

/-- Texts with the same beginning are texts of values of one kind. -/
theorem kind_eq {a b : Json} (ha : a.Proper) (hb : b.Proper) {r u : List Char}
    (h : print a ++ r = print b ++ u) : a.kind = b.kind := by
  obtain ⟨c, rest, hprint, hc, -⟩ := print_head ha
  obtain ⟨c', rest', hprint', hc', -⟩ := print_head hb
  rw [hprint, hprint'] at h
  rw [← hc, ← hc', (List.cons.inj h).1]

/-- **A value and what follows it are determined by the text.** -/
theorem print_append_inj (a b : Json) (ha : a.Proper) (hb : b.Proper) (r u : List Char)
    (hr : Stopped r) (hu : Stopped u) (h : print a ++ r = print b ++ u) : a = b ∧ r = u := by
  have hkind := kind_eq ha hb h
  induction a using induction_on generalizing b r u with
  | null =>
    cases b with
    | null => exact ⟨rfl, List.append_cancel_left h⟩
    | bool b => cases b <;> cases hkind
    | _ => cases hkind
  | bool a =>
    cases b with
    | bool b =>
      have hab : a = b := by cases a <;> cases b <;> first | rfl | cases hkind
      subst hab
      exact ⟨rfl, List.append_cancel_left h⟩
    | _ => cases a <;> cases hkind
  | num m =>
    cases b with
    | num n =>
      obtain ⟨rfl, hru⟩ := numeral_append_inj ha hb hr hu h
      exact ⟨rfl, hru⟩
    | bool b => cases b <;> cases hkind
    | _ => cases hkind
  | str s =>
    cases b with
    | str t =>
      obtain ⟨rfl, hru⟩ := quote_append_inj h
      exact ⟨rfl, hru⟩
    | bool b => cases b <;> cases hkind
    | _ => cases hkind
  | arr xs ih =>
    cases b with
    | arr ys =>
      have hxs := properItems_iff.1 ha
      have hys := properItems_iff.1 hb
      simp only [print, printItems_eq_map, List.cons_append, List.append_assoc, List.cons.injEq,
        true_and] at h
      obtain ⟨rfl, hru⟩ := joined_append_inj (Or.inr (Or.inl rfl)) (by decide)
        (fun x hx => starts_print (hxs x hx)) (fun y hy => starts_print (hys y hy))
        (fun x hx y hy r u hr hu h => ih x hx y (hxs x hx) (hys y hy) r u hr hu h
          (kind_eq (hxs x hx) (hys y hy) h)) h
      exact ⟨rfl, hru⟩
    | bool b => cases b <;> cases hkind
    | _ => cases hkind
  | obj xs ih =>
    cases b with
    | obj ys =>
      have hxs := properMembers_iff.1 ha.2
      have hys := properMembers_iff.1 hb.2
      simp only [print, printMembers_eq_map, List.cons_append, List.append_assoc,
        List.cons.injEq, true_and] at h
      obtain ⟨rfl, hru⟩ := joined_append_inj (Or.inr (Or.inr rfl)) (by decide)
        (fun x _ => starts_printMember x) (fun y _ => starts_printMember y)
        (fun x hx y hy r u hr hu h => by
          simp only [printMember, List.append_assoc, List.cons_append] at h
          obtain ⟨hkey, hrest⟩ := quote_append_inj h
          have hvalue := (List.cons.inj hrest).2
          obtain ⟨hval, hru⟩ := ih x hx y.2 (hxs x hx) (hys y hy) r u hr hu hvalue
            (kind_eq (hxs x hx) (hys y hy) hvalue)
          exact ⟨Prod.ext hkey hval, hru⟩) h
      exact ⟨rfl, hru⟩
    | bool b => cases b <;> cases hkind
    | _ => cases hkind

/-! ## Key order -/

mutual

/-- The value with its members in key order at every depth. -/
def ordered : Json → Json
  | null => null
  | bool b => bool b
  | num numeral => num numeral
  | str s => str s
  | arr items => arr (orderedItems items)
  | obj members => obj ((orderedMembers members).insertionSort fun a b => a.1 ≤ b.1)

def orderedItems : List Json → List Json
  | [] => []
  | item :: rest => ordered item :: orderedItems rest

def orderedMembers : List (String × Json) → List (String × Json)
  | [] => []
  | (key, value) :: rest => (key, ordered value) :: orderedMembers rest

end

theorem orderedItems_eq_map (items : List Json) : orderedItems items = items.map ordered := by
  induction items with
  | nil => rfl
  | cons item rest ih => rw [orderedItems, ih, List.map_cons]

theorem orderedMembers_eq_map (members : List (String × Json)) :
    orderedMembers members = members.map fun entry => (entry.1, ordered entry.2) := by
  induction members with
  | nil => rfl
  | cons entry rest ih => rw [orderedMembers, ih, List.map_cons]

theorem canonicalItems_eq_map (items : List Json) :
    canonicalItems items = items.map canonicalString := by
  induction items with
  | nil => rfl
  | cons item rest ih => rw [canonicalItems, ih, List.map_cons]

theorem canonicalMembers_eq_map (members : List (String × Json)) :
    canonicalMembers members = members.map fun entry => (entry.1, canonicalString entry.2) := by
  induction members with
  | nil => rfl
  | cons entry rest ih => rw [canonicalMembers, ih, List.map_cons]

/-- Members may be changed before or after they are put in key order. -/
theorem insertionSort_map_snd {α β : Type} (f : α → β) (members : List (String × α)) :
    (members.map fun entry => (entry.1, f entry.2)).insertionSort (fun a b => a.1 ≤ b.1) =
      (members.insertionSort fun a b => a.1 ≤ b.1).map fun entry => (entry.1, f entry.2) :=
  (List.map_insertionSort (fun a b : String × α => a.1 ≤ b.1) (fun a b : String × β => a.1 ≤ b.1)
    (fun entry => (entry.1, f entry.2)) members fun _ _ _ _ => Iff.rfl).symm

/-- **The canonical text of a value is the text of the ordered value.** -/
theorem toList_canonicalString (v : Json) : (canonicalString v).toList = print (ordered v) := by
  induction v using induction_on with
  | null => rfl
  | bool b => cases b <;> rfl
  | num numeral => rfl
  | str s => rfl
  | arr items ih =>
    have hitems : (items.map canonicalString).map String.toList =
        (items.map ordered).map print := by
      rw [List.map_map, List.map_map]
      exact List.map_congr_left ih
    rw [canonicalString, ordered, print, printItems_eq_map, orderedItems_eq_map,
      canonicalItems_eq_map, ← hitems, ← toList_intercalate]
    simp
  | obj members ih =>
    have hmembers : ((members.insertionSort fun a b => a.1 ≤ b.1).map fun entry =>
          quote entry.1 ++ ":" ++ canonicalString entry.2).map String.toList =
        (members.insertionSort fun a b => a.1 ≤ b.1).map fun entry =>
          printMember (entry.1, ordered entry.2) := by
      rw [List.map_map]
      refine List.map_congr_left fun entry hentry => ?_
      rw [List.mem_insertionSort] at hentry
      simp [printMember, ih entry hentry]
    rw [canonicalString, ordered, print, printMembers_eq_map, orderedMembers_eq_map,
      canonicalMembers_eq_map, insertionSort_map_snd, insertionSort_map_snd, List.map_map,
      List.map_map]
    simp only [Function.comp_def]
    rw [← hmembers, ← toList_intercalate]
    simp

theorem proper_ordered {v : Json} (h : v.Proper) : (ordered v).Proper := by
  induction v using induction_on with
  | null => trivial
  | bool b => trivial
  | num numeral => exact h
  | str s => trivial
  | arr items ih =>
    rw [ordered, Proper, orderedItems_eq_map, properItems_iff]
    intro w hw
    obtain ⟨v, hv, rfl⟩ := List.mem_map.1 hw
    exact ih v hv (properItems_iff.1 h v hv)
  | obj members ih =>
    rw [ordered, Proper, orderedMembers_eq_map, properMembers_iff]
    constructor
    · refine ((List.perm_insertionSort _ _).map Prod.fst).nodup_iff.2 ?_
      rw [List.map_map]
      exact h.1
    · intro entry hentry
      rw [List.mem_insertionSort] at hentry
      obtain ⟨old, hold, rfl⟩ := List.mem_map.1 hentry
      exact ih old hold (properMembers_iff.1 h.2 old hold)

/-! ## One text for reordered values -/

theorem Reordered.symm {v w : Json} (h : Reordered v w) : Reordered w v := by
  induction h with
  | refl v => exact .refl v
  | trans _ _ ih₁ ih₂ => exact .trans ih₂ ih₁
  | members hperm hkeys => exact .members hperm.symm ((hperm.map Prod.fst).nodup_iff.1 hkeys)
  | item before later _ ih => exact .item before later ih
  | member before later key _ ih => exact .member before later key ih

/-- Items may be reordered one after the other. -/
theorem reordered_items {f : Json → Json} {items : List Json} (h : ∀ v ∈ items, Reordered v (f v))
    (before : List Json) : Reordered (arr (before ++ items)) (arr (before ++ items.map f)) := by
  induction items generalizing before with
  | nil => exact .refl _
  | cons item rest ih =>
    have hrest := ih (fun v hv => h v (List.mem_cons_of_mem _ hv)) (before ++ [f item])
    rw [List.append_assoc, List.append_assoc] at hrest
    exact .trans (.item before rest (h item List.mem_cons_self)) hrest

theorem reordered_members {f : Json → Json} {members : List (String × Json)}
    (h : ∀ entry ∈ members, Reordered entry.2 (f entry.2)) (before : List (String × Json)) :
    Reordered (obj (before ++ members))
      (obj (before ++ members.map fun entry => (entry.1, f entry.2))) := by
  induction members generalizing before with
  | nil => exact .refl _
  | cons entry rest ih =>
    have hrest := ih (fun v hv => h v (List.mem_cons_of_mem _ hv))
      (before ++ [(entry.1, f entry.2)])
    rw [List.append_assoc, List.append_assoc] at hrest
    exact .trans (.member before rest entry.1 (h entry List.mem_cons_self)) hrest

/-- A value is a reordering of the ordered one. -/
theorem reordered_ordered {v : Json} (h : v.Proper) : Reordered v (ordered v) := by
  induction v using induction_on with
  | arr items ih =>
    rw [ordered, orderedItems_eq_map]
    exact reordered_items (fun v hv => ih v hv (properItems_iff.1 h v hv)) []
  | obj members ih =>
    rw [ordered, orderedMembers_eq_map]
    refine .trans (reordered_members (fun entry hentry =>
      ih entry hentry (properMembers_iff.1 h.2 entry hentry)) []) ?_
    refine .members (List.perm_insertionSort _ _).symm ?_
    rw [List.nil_append, List.map_map]
    exact h.1
  | _ => exact .refl _

/-- Reordered values have one canonical text. -/
theorem canonicalString_of_reordered {v w : Json} (h : Reordered v w) :
    canonicalString v = canonicalString w := by
  induction h with
  | refl v => rfl
  | trans _ _ ih₁ ih₂ => exact ih₁.trans ih₂
  | @members l l' hperm hkeys =>
    have hperm' := hperm.map fun entry : String × Json => (entry.1, canonicalString entry.2)
    have hkeys' : ((l.map fun entry => (entry.1, canonicalString entry.2)).map Prod.fst).Nodup := by
      rw [List.map_map]
      exact hkeys
    rw [canonicalString, canonicalString, canonicalMembers_eq_map, canonicalMembers_eq_map,
      Checks.insertionSort_perm Prod.fst hperm' hkeys']
  | item before later _ ih => simp [canonicalString, canonicalItems_eq_map, ih]
  | member before later key _ ih => simp [canonicalString, canonicalMembers_eq_map, ih]

/-- A canonical text determines the ordered value. -/
theorem ordered_eq_of_canonicalString_eq {a b : Json} (ha : a.Proper) (hb : b.Proper)
    (h : canonicalString a = canonicalString b) : ordered a = ordered b := by
  have hprint : print (ordered a) ++ [] = print (ordered b) ++ [] := by
    rw [← toList_canonicalString, ← toList_canonicalString, h]
  have hstop : Stopped [] := by
    intro c hc
    cases hc
  exact (print_append_inj _ _ (proper_ordered ha) (proper_ordered hb) [] [] hstop hstop hprint).1

/-- **The canonical text is a canonical form**: two values of a parser have the same text if
and only if they differ in the order of object members only. -/
theorem canonicalString_eq_iff (a b : Value) :
    canonicalString a.val = canonicalString b.val ↔ Reordered a.val b.val := by
  constructor
  · intro h
    have ha := reordered_ordered a.2
    rw [ordered_eq_of_canonicalString_eq a.2 b.2 h] at ha
    exact ha.trans (reordered_ordered b.2).symm
  · exact canonicalString_of_reordered

/-! ## Lengths -/

theorem length_le_joined {text : List Char} {texts : List (List Char)} (h : text ∈ texts) :
    text.length ≤ (joined texts).length := by
  induction texts with
  | nil => cases h
  | cons other rest ih =>
    rw [joined, List.length_append]
    rcases List.mem_cons.1 h with rfl | hrest
    · omega
    · have hne : rest.isEmpty = false := by
        rw [List.isEmpty_eq_false_iff]
        exact List.ne_nil_of_mem hrest
      have hle := ih hrest
      rw [hne, if_neg Bool.false_ne_true, List.length_cons]
      omega

/-- The text of a string is no shorter than the string. -/
theorem length_le_canonicalString_str (s : String) :
    s.length ≤ (canonicalString (str s)).length := by
  have hchar : ∀ c, 1 ≤ (escapeChar c).length := by
    intro c
    simp only [escapeChar]
    split <;> first | simp | (split <;> simp)
  have hchars : ∀ cs : List Char, cs.length ≤ (cs.flatMap escapeChar).length := by
    intro cs
    induction cs with
    | nil => simp
    | cons c cs ih =>
      have hone := hchar c
      rw [List.flatMap_cons, List.length_cons, List.length_append]
      omega
  have hle := hchars s.toList
  rw [canonicalString, ← String.length_toList, ← String.length_toList, toList_quote,
    List.length_cons, List.length_append]
  omega

/-- The text of an object is no shorter than the text of a member. -/
theorem length_canonicalString_le {entry : String × Json} {members : List (String × Json)}
    (h : entry ∈ members) :
    (canonicalString entry.2).length ≤ (canonicalString (obj members)).length := by
  have hmem : printMember (entry.1, ordered entry.2) ∈
      printMembers ((orderedMembers members).insertionSort fun a b => a.1 ≤ b.1) := by
    rw [printMembers_eq_map, orderedMembers_eq_map]
    exact List.mem_map_of_mem ((List.mem_insertionSort _).2 (List.mem_map.2 ⟨entry, h, rfl⟩))
  have hle := length_le_joined hmem
  rw [← String.length_toList, ← String.length_toList, toList_canonicalString,
    toList_canonicalString, ordered, print, List.length_cons, List.length_append]
  simp only [printMember, List.length_append, List.length_cons] at hle
  omega

/-- A text has no fewer bytes than characters. -/
theorem length_le_utf8Length (s : String) : s.length ≤ utf8Length s := by
  have hchars : ∀ cs : List Char, cs.length ≤ (cs.map Char.utf8Size).sum := by
    intro cs
    induction cs with
    | nil => simp
    | cons c cs ih =>
      have hpos := Char.utf8Size_pos c
      rw [List.map_cons, List.sum_cons, List.length_cons]
      omega
  rw [← String.length_toList]
  exact hchars s.toList

/-! ## A member written into an object -/

/-- The members of a parsed object: in the order of their keys, none of them twice. -/
def Ascending (members : List (String × Json)) : Prop := members.Pairwise fun a b => a.1 < b.1

section Written

variable {key : String} {value : Json} {members : List (String × Json)}

theorem Ascending.nodup (h : Ascending members) : (members.map Prod.fst).Nodup :=
  List.pairwise_map.2 (h.imp ne_of_lt)

theorem mem_insertMember {entry : String × Json} (h : entry ∈ insertMember key value members) :
    entry = (key, value) ∨ entry ∈ members := by
  induction members with
  | nil => exact Or.inl (List.mem_singleton.1 h)
  | cons e rest ih =>
    rw [insertMember] at h
    split_ifs at h
    · exact (List.mem_cons.1 h).imp_right (List.mem_cons_of_mem e)
    · exact List.mem_cons.1 h
    · rcases List.mem_cons.1 h with rfl | h
      · exact Or.inr List.mem_cons_self
      · exact (ih h).imp_right (List.mem_cons_of_mem e)

theorem Ascending.insertMember (h : Ascending members) (key : String) (value : Json) :
    Ascending (insertMember key value members) := by
  induction members with
  | nil => exact List.pairwise_singleton _ _
  | cons e rest ih =>
    obtain ⟨k, v⟩ := e
    obtain ⟨hfirst, hrest⟩ := List.pairwise_cons.1 h
    rcases lt_trichotomy key k with hlt | rfl | hgt
    · rw [insertMember_of_lt hlt]
      refine List.pairwise_cons.2 ⟨fun e he => ?_, h⟩
      rcases List.mem_cons.1 he with rfl | he
      · exact hlt
      · exact hlt.trans (hfirst e he)
    · rw [insertMember_of_eq]
      exact List.pairwise_cons.2 ⟨hfirst, hrest⟩
    · rw [insertMember_of_gt hgt]
      refine List.pairwise_cons.2 ⟨fun e he => ?_, ih hrest⟩
      rcases mem_insertMember he with rfl | he
      · exact hgt
      · exact hfirst e he

/-- A member that was not there is added. -/
theorem perm_insertMember (h : members.lookup key = none) (value : Json) :
    (insertMember key value members).Perm ((key, value) :: members) := by
  induction members with
  | nil => exact List.Perm.refl _
  | cons e rest ih =>
    obtain ⟨k, v⟩ := e
    have hne : key ≠ k := by
      rintro rfl
      rw [List.lookup_cons, beq_self_eq_true] at h
      cases h
    have hbeq : (key == k) = false := by simpa using hne
    rw [List.lookup_cons, hbeq] at h
    rw [insertMember, if_neg hne]
    split
    · exact List.Perm.refl _
    · exact ((ih h).cons _).trans (List.Perm.swap _ _ _)

/-- An object with a new member is proper when its members are. -/
theorem Proper.insertMember (h : (obj members).Proper) (hvalue : value.Proper)
    (habsent : members.lookup key = none) : (obj (insertMember key value members)).Proper := by
  have hperm := perm_insertMember habsent value
  refine ⟨?_, properMembers_iff.2 fun entry hentry => ?_⟩
  · rw [(hperm.map Prod.fst).nodup_iff]
    refine List.nodup_cons.2 ⟨fun hmem => ?_, h.1⟩
    obtain ⟨⟨k, v⟩, hkv, rfl⟩ := List.mem_map.1 hmem
    exact absurd (List.lookup_eq_none_iff.1 habsent _ hkv) (by simp)
  · rcases mem_insertMember hentry with rfl | hentry
    · exact hvalue
    · exact properMembers_iff.1 h.2 entry hentry

end Written

end Json
