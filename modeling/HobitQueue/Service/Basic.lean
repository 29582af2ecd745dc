import HobitQueue.Lib.Text
import HobitQueue.Store.Sqlite
import Mathlib.Data.Bool.AllAny

/-!
# Ground rules of the workspace service

The service is a set of programs over the store. Everything a command takes from
the outside besides its input — the clock and the process-wide id counter — comes
in through `Draws`, so that a command is a function of its input, its draws and
the store.
-/

namespace HobitQueue

open Concurrent

/-- The errors of the service, as far as the Queue commands produce them. -/
inductive WorkspaceServiceError where
  | storage (error : StorageError)
  | invalidInput (message : String)
  deriving DecidableEq, Repr

/-- `impl Display for WorkspaceServiceError`. -/
def WorkspaceServiceError.message : WorkspaceServiceError → String
  | storage (.invalidParameterName m) => "storage error: Invalid parameter name: " ++ m
  | storage .queryReturnedNoRows => "storage error: Query returned no rows"
  | storage (.constraintViolation m) => "storage error: " ++ m
  | invalidInput m => "invalid input: " ++ m

/-- A program of the service. -/
abbrev Service (α : Type) : Type := StoreProg SqliteStore WorkspaceServiceError α

/-- A message reported from inside a transaction. -/
def storageInvalidInput (message : String) : StorageError := .invalidParameterName message

/-- Messages from inside a transaction come out as invalid input. -/
def mapStorageAgentQueueTaskError : StorageError → WorkspaceServiceError
  | .invalidParameterName message => .invalidInput message
  | error => .storage error

/-- A service check inside a transaction: `map_err(|e| storage_invalid_input(e.to_string()))`. -/
def storageCheck {α : Type} (r : Except WorkspaceServiceError α) : Sqlite α :=
  StoreProg.check (r.mapError fun e => storageInvalidInput e.message)

/-- The trimmed value, which must not be empty. -/
def requiredInput (value label : String) : Except WorkspaceServiceError String :=
  if Text.trim value = "" then .error (.invalidInput (label ++ " must not be empty"))
  else .ok (Text.trim value)

theorem requiredInput_ok {value label v : String} :
    requiredInput value label = .ok v ↔ v = Text.trim value ∧ v ≠ "" := by
  unfold requiredInput
  by_cases h : Text.trim value = ""
  · simp only [h, ↓reduceIte, reduceCtorEq, false_iff, not_and, not_not]
    exact fun hv => hv
  · simp only [h, ↓reduceIte, Except.ok.injEq]
    constructor
    · rintro rfl
      exact ⟨rfl, h⟩
    · rintro ⟨rfl, -⟩
      rfl

/-- `str::contains`. -/
def containsText (text part : String) : Bool := text.toList.tails.any (part.toList.isPrefixOf ·)

/-- A check of a longer validation: it ends with an answer when the condition holds. -/
def refuseIf {ε : Type} (c : Bool) (answer : ε) : Except ε Unit :=
  if c then .error answer else .ok ()

theorem refuseIf_ok {ε : Type} {c : Bool} {answer : ε} {u : Unit} :
    refuseIf c answer = .ok u ↔ c = false := by
  cases c with
  | false => exact ⟨fun _ => rfl, fun _ => rfl⟩
  | true => exact ⟨fun h => (nomatch h), fun h => (nomatch h)⟩

/-- A validation that succeeds passed its first check. -/
theorem refuseIf_bind_ok {ε α : Type} {c : Bool} {answer : ε} {f : Unit → Except ε α} {a : α} :
    (refuseIf c answer >>= f) = .ok a ↔ c = false ∧ f () = .ok a := by
  cases c with
  | false => exact ⟨fun h => ⟨rfl, h⟩, fun h => h.2⟩
  | true =>
    constructor
    · intro h
      cases h
    · intro h
      cases h.1

/-- A validation that succeeds is two that do. -/
theorem except_bind_ok {ε α β : Type} {x : Except ε α} {f : α → Except ε β} {b : β} :
    (x >>= f) = .ok b ↔ ∃ a, x = .ok a ∧ f a = .ok b := by
  cases x with
  | error e =>
    constructor
    · intro h
      cases h
    · rintro ⟨a, ha, -⟩
      cases ha
  | ok a =>
    constructor
    · intro h
      exact ⟨a, rfl, h⟩
    · rintro ⟨a', ha, h⟩
      exact Except.ok.inj ha ▸ h

/-- A statement about the checked input is decided by checking it. -/
instance decidableForallOk {ε α : Type} {P : α → Prop} [DecidablePred P] (x : Except ε α) :
    Decidable (∀ a, x = .ok a → P a) :=
  match x with
  | .error _ => isTrue fun _ h => nomatch h
  | .ok a => decidable_of_iff (P a) ⟨fun h _ ha => Except.ok.inj ha ▸ h, fun h => h a rfl⟩

/-! ## Clock and ids -/

/-- Seconds, a point, and nine digits of nanoseconds. -/
def placeholderTimestamp (unixNanos : ℕ) : String :=
  Nat.repr (unixNanos / 1000000000) ++ "." ++ Text.padLeft 9 (unixNanos % 1000000000)

/-- A prefix, the clock, and the next value of the process-wide counter. -/
def placeholderId (idPrefix : String) (unixNanos suffix : ℕ) : String :=
  idPrefix ++ Nat.repr unixNanos ++ "_" ++ Nat.repr suffix

private theorem toDigits_inj {n n' : ℕ} (h : Nat.toDigits 10 n = Nat.toDigits 10 n') : n = n' := by
  rw [← Nat.ofDigitChars_ten_toDigits (n := n), h, Nat.ofDigitChars_ten_toDigits]

/-- **Different readings of the clock or the counter give different ids**: a numeral has
no underscore. -/
theorem placeholderId_inj {idPrefix : String} {n k n' k' : ℕ}
    (h : placeholderId idPrefix n k = placeholderId idPrefix n' k') : n = n' ∧ k = k' := by
  have hchars : Nat.toDigits 10 n ++ '_' :: Nat.toDigits 10 k =
      Nat.toDigits 10 n' ++ '_' :: Nat.toDigits 10 k' := by
    have hlist := congrArg String.toList h
    simpa [placeholderId, String.toList_append, String.append_assoc] using hlist
  have hsplit := (List.append_cons_inj_of_notMem Nat.underscore_not_in_toDigits
    Nat.underscore_not_in_toDigits).1 hchars
  exact ⟨toDigits_inj hsplit.1, toDigits_inj hsplit.2.2⟩

/-- An id has no white space when its prefix has none. -/
theorem trim_placeholderId {idPrefix : String}
    (hblank : ∀ c ∈ idPrefix.toList, Text.isWhiteSpace c = false) (n k : ℕ) :
    Text.trim (placeholderId idPrefix n k) = placeholderId idPrefix n k := by
  refine Text.trim_of_forall fun c hc => ?_
  have hdigit : ∀ m, c ∈ Nat.toDigits 10 m → Text.isWhiteSpace c = false := fun m hm =>
    Text.isWhiteSpace_of_isDigit (Nat.isDigit_of_mem_toDigits (by decide) (by decide) hm)
  have hunderscore : ∀ c ∈ "_".toList, Text.isWhiteSpace c = false :=
    List.all_iff_forall_prop.1 (by decide)
  simp only [placeholderId, String.toList_append, List.mem_append] at hc
  rcases hc with ((hc | hc) | hc) | hc
  · exact hblank c hc
  · exact hdigit n (by simpa using hc)
  · exact hunderscore c hc
  · exact hdigit k (by simpa using hc)

/-- **An id ends in the reading of the counter that it was drawn with**. -/
theorem suffix_of_placeholderId {p p' : String} {n n' k k' : ℕ}
    (h : placeholderId p n k = placeholderId p' n' k') : k = k' := by
  have hchars : (p.toList ++ Nat.toDigits 10 n) ++ '_' :: Nat.toDigits 10 k =
      (p'.toList ++ Nat.toDigits 10 n') ++ '_' :: Nat.toDigits 10 k' := by
    have hlist := congrArg String.toList h
    simpa [placeholderId, String.toList_append, List.append_assoc] using hlist
  have hrev := congrArg List.reverse hchars
  simp only [List.reverse_append, List.reverse_cons, List.append_assoc, List.cons_append,
    List.nil_append] at hrev
  have htake : ∀ (m : ℕ) (later : List Char),
      ((Nat.toDigits 10 m).reverse ++ '_' :: later).takeWhile (· != '_') =
        (Nat.toDigits 10 m).reverse := by
    intro m later
    rw [List.takeWhile_append_of_pos]
    · simp
    · intro c hc
      rw [bne_iff_ne]
      rintro rfl
      exact Nat.underscore_not_in_toDigits (List.mem_reverse.1 hc)
  have hdigits := congrArg (List.takeWhile (· != '_')) hrev
  rw [htake, htake, List.reverse_inj] at hdigits
  exact toDigits_inj hdigits

/-- What a command reads from outside the store: the clock and the process-wide id
counter (`NEXT_ID_SUFFIX`), at each place where its text reads them. -/
structure Draws where
  clock : ℕ → ℕ
  suffix : ℕ → ℕ

/-- The clock as a timestamp, at the `i`-th place. -/
def Draws.timestamp (d : Draws) (i : ℕ) : String := placeholderTimestamp (d.clock i)

/-- The clock in seconds, at the `i`-th place (`now_timestamp`). -/
def Draws.seconds (d : Draws) (i : ℕ) : String := Nat.repr (d.clock i / 1000000000)

/-- The id drawn at the `i`-th place. -/
def Draws.placeholderId (d : Draws) (idPrefix : String) (i : ℕ) : String :=
  HobitQueue.placeholderId idPrefix (d.clock i) (d.suffix i)

/-- The draws from the `k`-th place on. -/
def Draws.drop (d : Draws) (k : ℕ) : Draws where
  clock i := d.clock (i + k)
  suffix i := d.suffix (i + k)

/-! ## Transactions -/

/-- One transaction, whose errors the service reports through `mapErr`. -/
def withImmediateTransaction {α : Type} (mapErr : StorageError → WorkspaceServiceError)
    (p : Sqlite α) : Service α :=
  (StoreProg.atomically p).mapErr mapErr

/-- **A committed transaction is a run of its program; a failed one changes
nothing.** -/
theorem exec_withImmediateTransaction {α : Type}
    {mapErr : StorageError → WorkspaceServiceError} {p : Sqlite α} {s t : SqliteStore}
    {r : Except WorkspaceServiceError α}
    (h : StoreProg.exec (withImmediateTransaction mapErr p) s = (r, t)) :
    (∃ a, r = .ok a ∧ StoreProg.exec p s = (.ok a, t)) ∨ (∃ e, r = .error e) ∧ t = s := by
  rw [withImmediateTransaction, StoreProg.exec_mapErr] at h
  rcases hx : StoreProg.exec (StoreProg.atomically p) s with ⟨e | a, u⟩ <;> rw [hx] at h <;>
    obtain ⟨rfl, rfl⟩ := Prod.mk.inj h
  · exact Or.inr ⟨⟨_, rfl⟩, StoreProg.exec_atomically_error hx⟩
  · exact Or.inl ⟨a, rfl, StoreProg.exec_atomically_ok.1 hx⟩

/-- A transaction is one step, so it guarantees what its run does. -/
theorem guarantees_withImmediateTransaction {α : Type} {assume : SqliteStore → Prop}
    {commit : SqliteStore → SqliteStore → Prop} {post : α → Prop}
    {mapErr : StorageError → WorkspaceServiceError} {p : Sqlite α} (hread : ∀ s, commit s s)
    (h : ∀ s t a, assume s →
      StoreProg.exec (withImmediateTransaction mapErr p) s = (.ok a, t) → commit s t ∧ post a) :
    (withImmediateTransaction mapErr p).Guarantees assume commit post := by
  refine (StoreProg.guarantees_atomically hread fun s t a hs hrun => h s t a hs ?_).mapErr
  exact StoreProg.exec_mapErr_ok.2 (StoreProg.exec_atomically_ok.2 hrun)

/-- A transaction moves a record once, for its run or for its failure. -/
theorem maintains_withImmediateTransaction {α γ : Type} {assume : SqliteStore → Prop}
    {commit : γ → SqliteStore → SqliteStore → γ → Prop} {err : γ → Prop} {post : γ → α → Prop}
    {g : γ} {mapErr : StorageError → WorkspaceServiceError} {p : Sqlite α}
    (herr : ∀ s, assume s → ∃ g', commit g s s g' ∧ err g')
    (h : ∀ s t a, assume s →
      StoreProg.exec (withImmediateTransaction mapErr p) s = (.ok a, t) →
      ∃ g', commit g s t g' ∧ post g' a) :
    (withImmediateTransaction mapErr p).Maintains assume commit err post g := by
  refine (StoreProg.maintains_atomically herr fun s t a hs hrun => h s t a hs ?_).mapErr
  exact StoreProg.exec_mapErr_ok.2 (StoreProg.exec_atomically_ok.2 hrun)

/-- The common shape of a command: check the input, work in one transaction, and
shape the answer. It fails without a trace, or it is a run of its transaction. -/
theorem exec_command {ν α β : Type} {input : Except WorkspaceServiceError ν}
    {mapErr : StorageError → WorkspaceServiceError} {p : ν → Sqlite α} {f : ν → α → β}
    {s t : SqliteStore} {r : Except WorkspaceServiceError β}
    (h : StoreProg.exec (do
      let n ← StoreProg.check input
      let a ← withImmediateTransaction mapErr (p n)
      pure (f n a)) s = (r, t)) :
    ((∃ e, r = .error e) ∧ t = s) ∨
      ∃ n a, input = .ok n ∧ StoreProg.exec (p n) s = (.ok a, t) ∧ r = .ok (f n a) := by
  rw [StoreProg.exec_check_bind] at h
  cases input with
  | error e =>
    obtain ⟨rfl, rfl⟩ := Prod.mk.inj h
    exact Or.inl ⟨⟨e, rfl⟩, rfl⟩
  | ok n =>
    obtain ⟨e, htx, rfl⟩ | ⟨a, u, htx, hret⟩ := StoreProg.exec_bind_eq.1 h
    · rcases exec_withImmediateTransaction htx with ⟨_, he, -⟩ | ⟨-, rfl⟩
      · cases he
      · exact Or.inl ⟨⟨e, rfl⟩, rfl⟩
    · obtain ⟨rfl, rfl⟩ := Prod.mk.inj hret
      rcases exec_withImmediateTransaction htx with ⟨a', ha, hrun⟩ | ⟨⟨_, he⟩, -⟩
      · obtain rfl := Except.ok.inj ha
        exact Or.inr ⟨n, a, rfl, hrun, rfl⟩
      · cases he

/-- A command that answers what its transaction answers. -/
theorem exec_plain_command {ν α : Type} {input : Except WorkspaceServiceError ν}
    {mapErr : StorageError → WorkspaceServiceError} {p : ν → Sqlite α}
    {s t : SqliteStore} {r : Except WorkspaceServiceError α}
    (h : StoreProg.exec (do
      let n ← StoreProg.check input
      withImmediateTransaction mapErr (p n)) s = (r, t)) :
    ((∃ e, r = .error e) ∧ t = s) ∨
      ∃ n a, input = .ok n ∧ StoreProg.exec (p n) s = (.ok a, t) ∧ r = .ok a := by
  apply exec_command (p := p) (f := fun _ a => a)
  rw [StoreProg.exec_check_bind] at h ⊢
  cases input with
  | error e => exact h
  | ok n => exact (StoreProg.exec_bind_pure _ s).trans h

end HobitQueue
