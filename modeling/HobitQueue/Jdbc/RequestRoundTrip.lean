import HobitQueue.Jdbc.JsonParser
import HobitQueue.Jdbc.Requests
import HobitQueue.Lib.Checks
import Mathlib.Data.Bool.AllAny

/-!
# Does the sidecar read what the backend writes

The printer of the backend escapes every control character; the parser of the sidecar knows
the escapes of tabs and line ends only. So a request is read back exactly when none of its
texts contains another control character, and no other request is read at all.

## Main results

* `parsed_parseObject_canonicalString` — what the parser makes of a printed object.
* `sidecar_reads_request_iff` — when the sidecar reads the request of the backend.
-/

namespace HobitQueue.Jdbc

open JsonParser

/-- A character that the printer leaves alone, or one whose escape the parser knows. -/
def ReadableChar (c : Char) : Prop :=
  32 ≤ c.toNat ∨ c.toNat = 9 ∨ c.toNat = 10 ∨ c.toNat = 13

instance (c : Char) : Decidable (ReadableChar c) :=
  inferInstanceAs (Decidable (32 ≤ c.toNat ∨ c.toNat = 9 ∨ c.toNat = 10 ∨ c.toNat = 13))

/-- The sidecar reads every character. -/
def ReadableText (s : String) : Prop := ∀ c ∈ s.toList, ReadableChar c

instance (s : String) : Decidable (ReadableText s) :=
  List.decidableBAll ReadableChar s.toList

/-- A value without the control characters the parser refuses. -/
def FieldValue.Readable : FieldValue → Prop
  | text s => ReadableText s
  | _ => True

instance : (value : FieldValue) → Decidable value.Readable
  | .text s => inferInstanceAs (Decidable (ReadableText s))
  | .integer _ => isTrue trivial
  | .boolean _ => isTrue trivial
  | .null => isTrue trivial

/-- The value that the sidecar should read. -/
def FieldValue.java : FieldValue → JavaValue
  | text s => .string (Java.text s)
  | integer n => .number n
  | boolean b => .boolean b
  | null => .null

/-- The integers of a value are integers of the sidecar. -/
def FieldValue.Small : FieldValue → Prop
  | integer n => n ≤ 2147483647
  | _ => True

/-! ## Strings -/

/-- The units of a printed text. -/
theorem text_quote (s : String) :
    Java.text (Json.quote s) =
      34 :: (s.toList.flatMap fun c => (Json.escapeChar c).flatMap Java.units) ++ [34] := by
  have hmark : Java.units (Char.ofNat 34) = [34] := by decide
  simp only [Json.quote, Java.text_ofList, List.flatMap_cons, List.flatMap_append,
    List.flatMap_nil, hmark, List.flatMap_assoc, List.cons_append, List.nil_append,
    List.append_nil]

theorem parseStringBody_units {us : List ℕ} (hus : ∀ u ∈ us, u ≠ 34 ∧ u ≠ 92) (rest : List ℕ) :
    parseStringBody (us ++ rest) =
      (parseStringBody rest).map fun (value, after) => (us ++ value, after) := by
  induction us with
  | nil =>
    rw [List.nil_append]
    cases parseStringBody rest <;> rfl
  | cons u us ih =>
    obtain ⟨hquote, hescape⟩ := hus u List.mem_cons_self
    have htail := ih fun v hv => hus v (List.mem_cons_of_mem u hv)
    rw [List.cons_append, parseStringBody.eq_def]
    simp only [if_neg hquote, if_pos hescape, htail]
    cases parseStringBody rest <;> rfl

/-- An escape that the parser knows. -/
theorem parseStringBody_known {c letter : Char} (hc : c.toNat < 0x10000)
    (hletter : letter.toNat < 0x10000) (h : unescape letter.toNat = some c.toNat)
    (rest : List ℕ) :
    parseStringBody ([Char.ofNat 92, letter].flatMap Java.units ++ rest) =
      (parseStringBody rest).map fun (value, after) => (Java.units c ++ value, after) := by
  have hunits : [Char.ofNat 92, letter].flatMap Java.units = [92, letter.toNat] := by
    rw [List.flatMap_cons, List.flatMap_singleton, Java.units_of_lt hletter]
    rfl
  rw [hunits, Java.units_of_lt hc, List.cons_append, parseStringBody.eq_def]
  simp only [List.cons_append, List.nil_append, h]
  rfl

/-- An escape that the parser does not know. -/
theorem parseStringBody_unknown {letter : Char} (hletter : letter.toNat < 0x10000)
    (h : unescape letter.toNat = none) (more : List Char) (rest : List ℕ) :
    parseStringBody ((Char.ofNat 92 :: letter :: more).flatMap Java.units ++ rest) =
      .error "unsupported escape" := by
  have hunits : (Char.ofNat 92 :: letter :: more).flatMap Java.units =
      92 :: letter.toNat :: more.flatMap Java.units := by
    rw [List.flatMap_cons, List.flatMap_cons, Java.units_of_lt hletter]
    rfl
  rw [hunits, List.cons_append, parseStringBody.eq_def]
  simp only [List.cons_append, h]
  rfl

/-- One printed character is read back, or refused. -/
theorem parseStringBody_escapeChar (c : Char) (rest : List ℕ) :
    parseStringBody ((Json.escapeChar c).flatMap Java.units ++ rest) =
      if ReadableChar c then
        (parseStringBody rest).map fun (value, after) => (Java.units c ++ value, after)
      else .error "unsupported escape" := by
  unfold Json.escapeChar
  simp only
  split
  · next h =>
    have hreadable : ReadableChar c := Or.inl (by omega)
    rw [if_pos hreadable]
    exact parseStringBody_known (by omega) (by omega) (by rw [h]; rfl) rest
  · next h =>
    have hreadable : ReadableChar c := Or.inl (by omega)
    rw [if_pos hreadable]
    exact parseStringBody_known (by omega) (by omega) (by rw [h]; rfl) rest
  · next h =>
    have hrefused : ¬ ReadableChar c := by simp only [ReadableChar]; omega
    rw [if_neg hrefused]
    exact parseStringBody_unknown (by decide) (by decide) [] rest
  · next h =>
    have hreadable : ReadableChar c := Or.inr (Or.inl h)
    rw [if_pos hreadable]
    exact parseStringBody_known (by omega) (by decide) (by rw [h]; rfl) rest
  · next h =>
    have hreadable : ReadableChar c := Or.inr (Or.inr (Or.inl h))
    rw [if_pos hreadable]
    exact parseStringBody_known (by omega) (by decide) (by rw [h]; rfl) rest
  · next h =>
    have hrefused : ¬ ReadableChar c := by simp only [ReadableChar]; omega
    rw [if_neg hrefused]
    exact parseStringBody_unknown (by decide) (by decide) [] rest
  · next h =>
    have hreadable : ReadableChar c := Or.inr (Or.inr (Or.inr h))
    rw [if_pos hreadable]
    exact parseStringBody_known (by omega) (by decide) (by rw [h]; rfl) rest
  · next hquote hescape hb ht hn hf hr =>
    have hplain : c.toNat ≠ 34 ∧ c.toNat ≠ 92 := ⟨hquote, hescape⟩
    have hother : c.toNat ≠ 9 ∧ c.toNat ≠ 10 ∧ c.toNat ≠ 13 := ⟨ht, hn, hr⟩
    by_cases hcontrol : c.toNat < 32
    · have hrefused : ¬ ReadableChar c := by simp only [ReadableChar]; omega
      rw [if_pos hcontrol, if_neg hrefused]
      exact parseStringBody_unknown (by decide) (by decide) _ rest
    · have hreadable : ReadableChar c := Or.inl (by omega)
      rw [if_neg hcontrol, if_pos hreadable, List.flatMap_singleton]
      refine parseStringBody_units (fun u hu => ?_) rest
      by_cases hascii : c.toNat < 128
      · rw [Java.units_of_lt (by omega), List.mem_singleton] at hu
        omega
      · have hu' := Java.le_of_mem_units (by omega) hu
        omega

theorem parseStringBody_text (cs : List Char) (rest : List ℕ) :
    parseStringBody
        ((cs.flatMap fun c => (Json.escapeChar c).flatMap Java.units) ++ 34 :: rest) =
      if cs.all (fun c => ReadableChar c) then .ok (cs.flatMap Java.units, rest)
      else .error "unsupported escape" := by
  induction cs with
  | nil =>
    rw [List.flatMap_nil, List.nil_append, parseStringBody.eq_def]
    simp
  | cons c cs ih =>
    rw [List.flatMap_cons, List.append_assoc, parseStringBody_escapeChar, ih, List.all_cons]
    by_cases hc : ReadableChar c
    · rw [if_pos hc, decide_eq_true hc, Bool.true_and]
      by_cases hcs : cs.all (fun c => ReadableChar c) = true
      · rw [if_pos hcs, if_pos hcs, List.flatMap_cons]
        rfl
      · rw [if_neg hcs, if_neg hcs]
        rfl
    · rw [if_neg hc, decide_eq_false hc, Bool.false_and]
      rfl

theorem skipWhitespace_of_head {u : ℕ} (h : Java.isWhitespace u = false) (rest : List ℕ) :
    skipWhitespace (u :: rest) = u :: rest := by
  rw [skipWhitespace, List.dropWhile_cons, h]
  rfl

theorem expect_head {u : ℕ} (h : Java.isWhitespace u = false) (rest : List ℕ) :
    expect u (u :: rest) = .ok rest := by
  rw [expect, skipWhitespace_of_head h]
  simp

/-- A printed text is read back when the parser knows its escapes, and is refused otherwise. -/
theorem parseString_quote (s : String) (rest : List ℕ) :
    parseString (Java.text (Json.quote s) ++ rest) =
      if ReadableText s then .ok (Java.text s, rest) else .error "unsupported escape" := by
  rw [text_quote, parseString, List.cons_append, List.cons_append, expect_head (by decide)]
  simp only [Except.bind, List.append_assoc, List.singleton_append]
  have hbody := parseStringBody_text s.toList rest
  have hiff : s.toList.all (fun c => ReadableChar c) = true ↔ ReadableText s :=
    List.all_iff_forall_prop
  by_cases hs : ReadableText s
  · rw [if_pos (hiff.2 hs)] at hbody
    rw [if_pos hs]
    exact hbody
  · rw [if_neg (mt hiff.1 hs)] at hbody
    rw [if_neg hs]
    exact hbody

/-! ## Values -/

/-- What may follow a value of an object: a comma or a closing brace. -/
def Ends (rest : List ℕ) : Prop := rest.head? = some 44 ∨ rest.head? = some 125

/-- The digits of a number, without what follows them. -/
theorem numeralAt_toString (n : ℕ) {rest : List ℕ} (hrest : Ends rest) :
    numeralAt (Java.text (toString n) ++ rest) = Java.text (toString n) := by
  have hend : rest.takeWhile Java.isDigit = [] := by
    cases rest with
    | nil => rfl
    | cons u rest =>
      have hu : u = 44 ∨ u = 125 := by
        rcases hrest with h | h
        · exact Or.inl (Option.some.inj h)
        · exact Or.inr (Option.some.inj h)
      rw [List.takeWhile_cons, Java.isDigit_eq_false (by omega) (by omega)]
      rfl
  obtain ⟨u, us, htext, hlow, hhigh⟩ := Java.exists_text_toString n
  have hminus : ¬ (Java.text (toString n) ++ rest).head? = some 45 := by
    rw [htext, List.cons_append, List.head?_cons, Option.some.injEq]
    omega
  rw [numeralAt, if_neg hminus, List.takeWhile_append_of_pos, hend, List.append_nil]
  intro v hv
  obtain ⟨hvlow, hvhigh⟩ := Java.digit_of_mem_text_toString hv
  exact Java.isDigit_ascii hvlow hvhigh

theorem parseNumber_toString {n : ℕ} (hn : n ≤ 2147483647) {rest : List ℕ} (hrest : Ends rest) :
    parseNumber (Java.text (toString n) ++ rest) = .ok ((n : ℤ), rest) := by
  obtain ⟨u, us, htext, -⟩ := Java.exists_text_toString n
  have hne : Java.text (toString n) ≠ [] := by
    rw [htext]
    simp
  rw [parseNumber, numeralAt_toString n hrest, if_neg hne, Java.parseInt_toString hn,
    List.drop_left]

/-- A printed value is read back, unless it is a text that the parser refuses. -/
theorem parsed_parseValue_json {value : FieldValue} (hsmall : value.Small) {rest : List ℕ}
    (hrest : Ends rest) :
    parsed (parseValue (Java.text value.json.canonicalString ++ rest)) =
      if value.Readable then .ok (value.java, rest) else .error "unsupported escape" := by
  rw [parsed_parseValue]
  cases value with
  | text s =>
    have hprinted :
        Java.text (FieldValue.text s).json.canonicalString = Java.text (Json.quote s) := by
      simp only [FieldValue.json, Json.canonicalString]
    have hhead : (Java.text (Json.quote s) ++ rest).head? = some 34 := by
      rw [text_quote]
      rfl
    have hskip : skipWhitespace (Java.text (Json.quote s) ++ rest) =
        Java.text (Json.quote s) ++ rest := by
      rw [text_quote, List.cons_append, List.cons_append, skipWhitespace_of_head (by decide)]
    simp only [hprinted, hskip, if_pos hhead, parseString_quote]
    by_cases hs : ReadableText s
    · have hreadable : (FieldValue.text s).Readable := hs
      rw [if_pos hs, if_pos hreadable]
      rfl
    · have hrefused : ¬ (FieldValue.text s).Readable := hs
      rw [if_neg hs, if_neg hrefused]
      rfl
  | integer n =>
    have hprinted : Java.text (FieldValue.integer n).json.canonicalString =
        Java.text (toString n) := by
      simp only [FieldValue.json, Json.canonicalString]
    obtain ⟨u, us, htext, hlow, hhigh⟩ := Java.exists_text_toString n
    have hblank : Java.isWhitespace u = false := by
      simp only [Java.isWhitespace, Bool.or_eq_false_iff, Bool.and_eq_false_iff,
        decide_eq_false_iff_not, beq_eq_false_iff_ne, ne_eq]
      omega
    have hskip : skipWhitespace (Java.text (toString n) ++ rest) =
        Java.text (toString n) ++ rest := by
      rw [htext, List.cons_append, skipWhitespace_of_head hblank]
    have hhead : (Java.text (toString n) ++ rest).head? = some u := by
      rw [htext]
      rfl
    have hword : ∀ v word, v ≠ u →
        startsWith (v :: word) (Java.text (toString n) ++ rest) = false := by
      intro v word hv
      simp only [startsWith, htext, List.cons_append, List.isPrefixOf, Bool.and_eq_false_iff,
        beq_eq_false_iff_ne]
      exact Or.inl hv
    have htrue : startsWith (Java.text "true") (Java.text (toString n) ++ rest) = false :=
      hword 116 (Java.text "rue") (by omega)
    have hfalse : startsWith (Java.text "false") (Java.text (toString n) ++ rest) = false :=
      hword 102 (Java.text "alse") (by omega)
    have hnull : startsWith (Java.text "null") (Java.text (toString n) ++ rest) = false :=
      hword 110 (Java.text "ull") (by omega)
    have hquote : ¬ some u = some 34 := by
      rw [Option.some.injEq]
      omega
    have hbrace : ¬ some u = some 123 := by
      rw [Option.some.injEq]
      omega
    have hreadable : (FieldValue.integer n).Readable := trivial
    simp only [hprinted, hskip, hhead, if_neg hquote, if_neg hbrace, htrue, hfalse, hnull,
      Bool.false_eq_true, if_false, parseNumber_toString hsmall hrest, if_pos hreadable]
    rfl
  | boolean b =>
    have hreadable : (FieldValue.boolean b).Readable := trivial
    rw [if_pos hreadable]
    cases b with
    | true => rfl
    | false => rfl
  | null =>
    have hreadable : FieldValue.null.Readable := trivial
    rw [if_pos hreadable]
    rfl

/-! ## Objects -/

/-- One printed member. -/
def memberText (entry : String × FieldValue) : String :=
  Json.quote entry.1 ++ ":" ++ entry.2.json.canonicalString

/-- The entry that a member should become. -/
def javaEntry (entry : String × FieldValue) : List ℕ × JavaValue :=
  (Java.text entry.1, entry.2.java)

theorem put_new {key : List ℕ} {entries : List (List ℕ × JavaValue)}
    (h : key ∉ entries.map Prod.fst) (value : JavaValue) :
    put key value entries = entries ++ [(key, value)] := by
  induction entries with
  | nil => rfl
  | cons entry entries ih =>
    obtain ⟨k, v⟩ := entry
    simp only [List.map_cons, List.mem_cons, not_or] at h
    rw [put, if_neg (Ne.symm h.1), ih h.2, List.cons_append]

theorem closes_of_ne {u : ℕ} (hblank : Java.isWhitespace u = false) (hu : u ≠ 125)
    (rest : List ℕ) : closes (u :: rest) = none := by
  rw [closes, skipWhitespace_of_head hblank]
  split
  · next heq => exact absurd (List.cons.inj heq).1 hu
  · rfl

theorem closes_of_brace (rest : List ℕ) : closes (125 :: rest) = some rest := by
  rw [closes, skipWhitespace_of_head (by decide)]
  rfl

/-- One printed member is read, and the parser stands behind it. -/
theorem parsed_parseMembers_member {entry : String × FieldValue} (hkey : ReadableText entry.1)
    (hsmall : entry.2.Small) {rest : List ℕ} (hrest : Ends rest)
    (values : List (List ℕ × JavaValue)) :
    parsed (parseMembers (Java.text (memberText entry) ++ rest) values) =
      if entry.2.Readable then
        match closes rest with
        | some after => .ok (put (Java.text entry.1) entry.2.java values, after)
        | none => (expect 44 (skipWhitespace rest)).bind fun after =>
          parsed (parseMembers after (put (Java.text entry.1) entry.2.java values))
      else .error "unsupported escape" := by
  have hcolon : Java.text ":" = [58] := by decide
  rw [parsed_parseMembers, memberText, Java.text_append, Java.text_append, hcolon,
    List.append_assoc, List.append_assoc, parseString_quote, if_pos hkey]
  simp only [Except.bind, List.cons_append, List.nil_append]
  rw [expect_head (by decide)]
  simp only [parsed_parseValue_json hsmall hrest]
  by_cases hreadable : entry.2.Readable
  · cases hcloses : closes rest <;> simp only [if_pos hreadable, hcloses]
  · simp only [if_neg hreadable]

/-- **Printed members are all read, or one of them is refused.** -/
theorem parsed_parseMembers_members {members : List (String × FieldValue)} (hne : members ≠ [])
    (hkeys : ∀ entry ∈ members, ReadableText entry.1)
    (hsmall : ∀ entry ∈ members, entry.2.Small) (rest : List ℕ)
    {values : List (List ℕ × JavaValue)}
    (hnodup : (values.map Prod.fst ++ members.map fun entry => Java.text entry.1).Nodup) :
    parsed (parseMembers (Java.text (",".intercalate (members.map memberText)) ++ 125 :: rest)
        values) =
      if ∀ entry ∈ members, entry.2.Readable then .ok (values ++ members.map javaEntry, rest)
      else .error "unsupported escape" := by
  induction members generalizing values with
  | nil => exact absurd rfl hne
  | cons entry members ih =>
    have hkey := hkeys entry List.mem_cons_self
    have hvalue := hsmall entry List.mem_cons_self
    have hnew : Java.text entry.1 ∉ values.map Prod.fst := by
      intro hmem
      rw [List.map_cons] at hnodup
      exact (List.disjoint_of_nodup_append hnodup) hmem List.mem_cons_self
    cases members with
    | nil =>
      rw [List.map_singleton, String.intercalate_singleton,
        parsed_parseMembers_member hkey hvalue (Or.inr rfl), closes_of_brace, put_new hnew]
      simp [javaEntry]
    | cons next members =>
      have hcomma : Java.text "," = [44] := by decide
      rw [List.map_cons, List.map_cons, String.intercalate_cons_cons, ← List.map_cons,
        Java.text_append, Java.text_append, hcomma, List.append_assoc, List.append_assoc,
        parsed_parseMembers_member hkey hvalue (Or.inl rfl), put_new hnew]
      simp only [List.cons_append, List.nil_append,
        closes_of_ne (show Java.isWhitespace 44 = false by decide) (show 44 ≠ 125 by decide),
        skipWhitespace_of_head (show Java.isWhitespace 44 = false by decide),
        expect_head (show Java.isWhitespace 44 = false by decide), Except.bind]
      have hnodup' : ((values ++ [(Java.text entry.1, entry.2.java)]).map Prod.fst ++
          (next :: members).map fun entry => Java.text entry.1).Nodup := by
        simpa using hnodup
      rw [ih (by simp) (fun e he => hkeys e (List.mem_cons_of_mem entry he))
        (fun e he => hsmall e (List.mem_cons_of_mem entry he)) hnodup']
      by_cases hreadable : entry.2.Readable
      · by_cases hothers : ∀ e ∈ next :: members, e.2.Readable
        · have hall : ∀ e ∈ entry :: next :: members, e.2.Readable :=
            List.forall_mem_cons.mpr ⟨hreadable, hothers⟩
          rw [if_pos hreadable, if_pos hothers, if_pos hall]
          simp [javaEntry]
        · have hnot : ¬ ∀ e ∈ entry :: next :: members, e.2.Readable := fun hall =>
            hothers (List.forall_mem_cons.mp hall).2
          rw [if_pos hreadable, if_neg hothers, if_neg hnot]
      · have hnot : ¬ ∀ e ∈ entry :: next :: members, e.2.Readable := fun hall =>
          hreadable (List.forall_mem_cons.mp hall).1
        rw [if_neg hreadable, if_neg hnot]

/-- The fields in the order of the printed object. -/
def sortedFields (fields : List (String × FieldValue)) : List (String × FieldValue) :=
  fields.insertionSort fun a b => a.1 ≤ b.1

theorem canonicalString_fields (fields : List (String × FieldValue)) :
    (Json.obj (fields.map fun entry => (entry.1, entry.2.json))).canonicalString =
      "\x7b" ++ ",".intercalate ((sortedFields fields).map memberText) ++ "\x7d" := by
  have hmembers : Json.canonicalMembers (fields.map fun entry => (entry.1, entry.2.json)) =
      fields.map fun entry => (entry.1, entry.2.json.canonicalString) := by
    induction fields with
    | nil => rfl
    | cons entry fields ih => rw [List.map_cons, Json.canonicalMembers, ih, List.map_cons]
  have hsorted : (fields.map fun entry => (entry.1, entry.2.json.canonicalString)).insertionSort
      (fun a b => a.1 ≤ b.1) =
        (sortedFields fields).map fun entry => (entry.1, entry.2.json.canonicalString) := by
    rw [sortedFields]
    exact (List.map_insertionSort (fun a b : String × FieldValue => a.1 ≤ b.1)
      (fun a b : String × String => a.1 ≤ b.1) _ _ fun a _ b _ => Iff.rfl).symm
  simp only [Json.canonicalString, hmembers, hsorted, List.map_map]
  rfl

/-- What the sidecar makes of its input. -/
def parseRequest (input : List ℕ) : Except String (List (List ℕ × JavaValue)) :=
  (parsed (parseObject input)).map Prod.fst

/-- **A printed object is read back, or one of its texts is refused.** -/
theorem parseRequest_canonicalString {fields : List (String × FieldValue)} (hne : fields ≠ [])
    (hkeys : ∀ entry ∈ fields, ReadableText entry.1) (hsmall : ∀ entry ∈ fields, entry.2.Small)
    (hnodup : (fields.map fun entry => Java.text entry.1).Nodup) :
    parseRequest (Java.text
        (Json.obj (fields.map fun entry => (entry.1, entry.2.json))).canonicalString) =
      if ∀ entry ∈ fields, entry.2.Readable then .ok ((sortedFields fields).map javaEntry)
      else .error "unsupported escape" := by
  have hperm : (sortedFields fields).Perm fields := List.perm_insertionSort _ _
  have hopen : Java.text "\x7b" = [123] := by decide
  have hclose : Java.text "\x7d" = [125] := by decide
  have hsortedNe : sortedFields fields ≠ [] := by
    intro hnil
    rw [hnil] at hperm
    exact hne hperm.nil_eq.symm
  have hmembers := @parsed_parseMembers_members (sortedFields fields) hsortedNe
    (fun entry hentry => hkeys entry (hperm.mem_iff.mp hentry))
    (fun entry hentry => hsmall entry (hperm.mem_iff.mp hentry)) [] []
    (by simpa using (hperm.map _).nodup_iff.mpr hnodup)
  obtain ⟨first, others, hfirst⟩ := List.exists_cons_of_ne_nil hsortedNe
  obtain ⟨tail, htail⟩ : ∃ tail, Java.text (",".intercalate ((sortedFields fields).map
      memberText)) ++ [125] = 34 :: tail := by
    rw [hfirst]
    cases others with
    | nil =>
      rw [List.map_singleton, String.intercalate_singleton, memberText, Java.text_append,
        Java.text_append, text_quote]
      exact ⟨_, rfl⟩
    | cons second others =>
      rw [List.map_cons, List.map_cons, String.intercalate_cons_cons, Java.text_append,
        Java.text_append, memberText, Java.text_append, Java.text_append, text_quote]
      exact ⟨_, rfl⟩
  have hiff : (∀ entry ∈ sortedFields fields, entry.2.Readable) ↔
      ∀ entry ∈ fields, entry.2.Readable :=
    ⟨fun h entry hentry => h entry (hperm.mem_iff.mpr hentry),
      fun h entry hentry => h entry (hperm.mem_iff.mp hentry)⟩
  rw [parseRequest, canonicalString_fields, Java.text_append, Java.text_append, hopen, hclose,
    List.append_assoc, List.singleton_append, parsed_parseObject, expect_head (by decide)]
  simp only [Except.bind]
  rw [htail, closes_of_ne (by decide) (by decide), ← htail]
  simp only [hmembers, hiff, List.nil_append]
  split_ifs <;> rfl

/-- The value of a field in the printed order. -/
theorem lookup_sortedFields {fields : List (String × FieldValue)}
    (hnodup : (fields.map fun entry => Java.text entry.1).Nodup) {key : String}
    {value : FieldValue} (h : (key, value) ∈ fields) :
    ((sortedFields fields).map javaEntry).lookup (Java.text key) = some value.java := by
  have hperm : (sortedFields fields).Perm fields := List.perm_insertionSort _ _
  have hsortedNodup : ((sortedFields fields).map fun entry => Java.text entry.1).Nodup :=
    (hperm.map _).nodup_iff.mpr hnodup
  exact Checks.lookup_map hsortedNodup (fun entry => entry.2.java) (hperm.mem_iff.mpr h)

/-! ## The request -/

theorem small_optional (value : Option String) : (FieldValue.optional value).Small := by
  cases value with
  | none => trivial
  | some s => trivial

/-- The limits of a request are integers of the sidecar. -/
theorem small_sidecarRequestFields {request : JdbcReadOnlyAdapterRequest}
    (h : request.WithinBounds) : ∀ entry ∈ sidecarRequestFields request, entry.2.Small := by
  have hoptional : ∀ (key : String) (value : Option String),
      ∀ entry ∈ insertOptional key value, entry.2.Small := by
    intro key value entry hentry
    cases value with
    | none => cases hentry
    | some s =>
      rw [List.mem_singleton.mp hentry]
      trivial
  have hreal : ∀ entry ∈ realJdbcFields request.connector.runtimeConfig, entry.2.Small := by
    cases request.connector.runtimeConfig with
    | sidecar config =>
      by_cases hkind : config.runtimeKind = "real_jdbc"
      · simp only [realJdbcFields, if_pos hkind, List.forall_mem_append]
        exact ⟨⟨⟨⟨⟨by simp [FieldValue.Small], hoptional _ _⟩, hoptional _ _⟩, hoptional _ _⟩,
          hoptional _ _⟩, hoptional _ _⟩
      · simp [realJdbcFields, hkind]
    | mockOnly => simp [realJdbcFields]
    | notConfigured => simp [realJdbcFields]
    | unsupportedDriver driverKind => simp [realJdbcFields]
  obtain ⟨⟨-, hrow⟩, ⟨-, htimeout⟩, ⟨-, hcolumns⟩, ⟨-, hcell⟩, ⟨-, hbytes⟩⟩ := h
  simp only [maxRowLimit, maxTimeoutMs, maxColumnsBound, maxCellCharsBound,
    maxResultBytesBound] at *
  have hstatement := small_optional request.validation.statementKind
  refine List.forall_mem_append.mpr ⟨?_, hreal⟩
  simp only [List.forall_mem_cons, FieldValue.Small, sidecarProtocolVersion]
  refine ⟨by omega, trivial, trivial, trivial, trivial, trivial, hstatement, trivial, trivial,
    by omega, by omega, by omega, by omega, by omega, by simp⟩

/-- What the sidecar makes of a request. -/
theorem parseRequest_buildSidecarRequestJson {request : JdbcReadOnlyAdapterRequest}
    (h : request.WithinBounds) :
    ((sidecarRequestFields request).map fun entry => Java.text entry.1).Nodup ∧
    parseRequest (Java.text (buildSidecarRequestJson request)) =
      if ∀ entry ∈ sidecarRequestFields request, entry.2.Readable then
        .ok ((sortedFields (sidecarRequestFields request)).map javaEntry)
      else .error "unsupported escape" := by
  have hkeysNodup : ((requestKeys ++ realJdbcKeys).map Java.text).Nodup := by decide +kernel
  have hkeysReadable : ∀ key ∈ requestKeys ++ realJdbcKeys, ReadableText key := by decide +kernel
  have hsub := keys_sidecarRequestFields request
  have hnodup : ((sidecarRequestFields request).map fun entry => Java.text entry.1).Nodup := by
    have hmap := hsub.map Java.text
    rw [List.map_map] at hmap
    exact hkeysNodup.sublist hmap
  have hkeys : ∀ entry ∈ sidecarRequestFields request, ReadableText entry.1 := by
    intro entry hentry
    exact hkeysReadable _ (hsub.subset (List.mem_map_of_mem hentry))
  have hne : sidecarRequestFields request ≠ [] := by simp [sidecarRequestFields]
  exact ⟨hnodup,
    parseRequest_canonicalString hne hkeys (small_sidecarRequestFields h) hnodup⟩

/-- **The sidecar reads a request exactly when no text of it contains a control character other
than a tab, a line feed or a carriage return**; then it reads every field as it was written. -/
theorem sidecar_reads_request_iff (request : JdbcReadOnlyAdapterRequest)
    (h : request.WithinBounds) :
    (∃ values, parseRequest (Java.text (buildSidecarRequestJson request)) = .ok values ∧
      ∀ key value, (key, value) ∈ sidecarRequestFields request →
        values.lookup (Java.text key) = some value.java) ↔
    ∀ key s, (key, FieldValue.text s) ∈ sidecarRequestFields request → ReadableText s := by
  obtain ⟨hnodup, hparse⟩ := parseRequest_buildSidecarRequestJson h
  rw [hparse]
  constructor
  · rintro ⟨values, hvalues, -⟩ key s hmem
    by_cases hall : ∀ entry ∈ sidecarRequestFields request, entry.2.Readable
    · exact hall _ hmem
    · rw [if_neg hall] at hvalues
      cases hvalues
  · intro htexts
    have hall : ∀ entry ∈ sidecarRequestFields request, entry.2.Readable := by
      rintro ⟨key, value⟩ hentry
      cases value with
      | text s => exact htexts key s hentry
      | integer n => trivial
      | boolean b => trivial
      | null => trivial
    rw [if_pos hall]
    refine ⟨(sortedFields (sidecarRequestFields request)).map javaEntry, rfl, ?_⟩
    intro key value hentry
    exact lookup_sortedFields hnodup hentry

/-- A request of the scaffold, with a query. -/
def sampleRequest (sql : String) : JdbcReadOnlyAdapterRequest :=
  { connector :=
      { connectorId := "c1", displayName := "Sample", databaseKind := "postgres"
        driverKind := "jdbc"
        runtimeConfig := .sidecar
          { driverKind := "jdbc", runtimeKind := "mock_read_only", driverJarPath := none
            driverClassName := none, jdbcUrl := none, username := none
            credentialEnvVarName := none } }
    sql, rowLimit := 100, timeoutMs := 10000, maxColumns := 50, maxCellChars := 2000
    maxResultBytes := 1024
    validation :=
      { isValid := true, statementKind := some "SELECT", normalizedPreview := sql
        rejectionReason := none, safetyNotes := [] } }

theorem sampleRequest_withinBounds (sql : String) : (sampleRequest sql).WithinBounds :=
  ⟨by simp [sampleRequest, maxRowLimit], by simp [sampleRequest, maxTimeoutMs],
    by simp [sampleRequest, maxColumnsBound], by simp [sampleRequest, maxCellCharsBound],
    by simp [sampleRequest, maxResultBytesBound]⟩

/-- A query with a line end in it is read as it was written. -/
theorem sidecar_reads_request_iff_sample :
    ∃ values, parseRequest (Java.text (buildSidecarRequestJson (sampleRequest "select 1\n"))) =
        .ok values ∧
      ∀ key value, (key, value) ∈ sidecarRequestFields (sampleRequest "select 1\n") →
        values.lookup (Java.text key) = some value.java := by
  refine (sidecar_reads_request_iff _ (sampleRequest_withinBounds _)).mpr ?_
  intro key s hmem
  have hscaffold : ¬ "mock_read_only" = "real_jdbc" := by decide
  simp only [sidecarRequestFields, sampleRequest, sidecarRuntimeKind, realJdbcFields,
    if_neg hscaffold, FieldValue.optional, List.append_nil, List.mem_cons, Prod.mk.injEq,
    FieldValue.text.injEq, reduceCtorEq, and_false, false_or, or_false, List.not_mem_nil] at hmem
  rcases hmem with ⟨-, rfl⟩ | ⟨-, rfl⟩ | ⟨-, rfl⟩ | ⟨-, rfl⟩ | ⟨-, rfl⟩ | ⟨-, rfl⟩ | ⟨-, rfl⟩ <;>
    decide

/-- The query of a request with a form feed between its words. -/
def formFeedQuery : String := String.ofList ("select".toList ++ [Char.ofNat 12, '1'])

/-- A query with a form feed in it is not read at all. -/
theorem sidecar_refuses_form_feed :
    (sampleRequest formFeedQuery).WithinBounds ∧
    parseRequest (Java.text (buildSidecarRequestJson (sampleRequest formFeedQuery))) =
      .error "unsupported escape" := by
  refine ⟨sampleRequest_withinBounds _, ?_⟩
  rw [(parseRequest_buildSidecarRequestJson (sampleRequest_withinBounds formFeedQuery)).2]
  refine if_neg fun hall => ?_
  have hsql : ("sql", FieldValue.text formFeedQuery) ∈
      sidecarRequestFields (sampleRequest formFeedQuery) := by
    simp [sidecarRequestFields, sampleRequest]
  have hread : ReadableText formFeedQuery := hall _ hsql
  exact absurd hread (by decide)

end HobitQueue.Jdbc
