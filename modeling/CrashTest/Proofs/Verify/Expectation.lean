import Mathlib
import CrashTest.Verify.Expectation
/-!
The expectation a baseline gives, and what checking an observed state against an expectation
accepts.

A state is read as a counter when, trimmed of White_Space, it is a decimal numeral of at most 64
bits: one optional `+`, then ASCII digits, at least one, whose value is at most `2^64 - 1`
(`CounterText`). A baseline that reads so becomes a floor if the operation is monotonic, and must
otherwise be matched byte for byte. A floor accepts exactly the states that read as a counter at
or above it, an exact state exactly itself, and `any` every state; so a baseline always passes the
expectation it gives.
-/
namespace CrashTest

open Text

/-- ASCII digits, at least one, whose decimal value `n` fits in 64 bits. -/
def CounterDigits (ds : List Char) (n : Nat) : Prop :=
  ds ≠ [] ∧ (∀ c ∈ ds, c.isDigit) ∧ Nat.ofDigitChars 10 ds 0 = n ∧ n < 2 ^ 64

/-- A counter written as text: its digits, with or without one `+` before them. -/
def CounterText (t : String) (n : Nat) : Prop :=
  CounterDigits t.toList n ∨ ∃ ds, t.toList = '+' :: ds ∧ CounterDigits ds n

/-- A text of digits only is read as the number they denote; `_` separators cannot occur. -/
theorem toNat!_ofList_of_isDigit {ds : List Char} (hne : ds ≠ []) (hd : ∀ c ∈ ds, c.isDigit) :
    (String.ofList ds).toNat! = Nat.ofDigitChars 10 ds 0 := by
  have hnat : (String.ofList ds).isNat = true :=
    String.isNat_of_isDigit (by simpa [← String.toList_inj] using hne) (by simpa using hd)
  have hsome := String.toNat?_eq_some_ofDigitChars hnat
  have hnone : ∀ c ∈ ds, (c != '_') = true := fun c hc => by
    have hsep : c ≠ '_' := by
      rintro rfl
      exact absurd (hd _ hc) (by decide)
    simpa using hsep
  unfold String.toNat? String.Slice.toNat? at hsome
  unfold String.toNat! String.Slice.toNat!
  rw [String.isNat_toSlice, if_pos hnat] at *
  simpa [List.filter_eq_self.2 hnone] using hsome

namespace StateSnapshot

/-- What is left after the sign is read as a counter exactly when it is 64-bit decimal digits. -/
private theorem readDigits_eq_some_iff {ds : List Char} {n : Nat} :
    (if (ds.isEmpty || !ds.all Char.isDigit) = true then none
      else if (String.ofList ds).toNat! < 2 ^ 64 then some (String.ofList ds).toNat! else none) =
      some n ↔ CounterDigits ds n := by
  by_cases hd : ds ≠ [] ∧ ∀ c ∈ ds, c.isDigit
  · obtain ⟨hne, hdig⟩ := hd
    have hguard : (ds.isEmpty || !ds.all Char.isDigit) = false := by
      simpa [List.isEmpty_iff] using ⟨hne, hdig⟩
    rw [if_neg (by simp [hguard]), toNat!_ofList_of_isDigit hne hdig]
    unfold CounterDigits
    split <;> grind
  · have hguard : (ds.isEmpty || !ds.all Char.isDigit) = true := by
      simpa [List.isEmpty_iff, imp_iff_not_or] using hd
    rw [if_pos hguard]
    unfold CounterDigits
    grind

/-- The counter parser reads exactly the counter texts, and reads each as its value. -/
theorem parseCounter_eq_some_iff {t : String} {n : Nat} :
    parseCounter t = some n ↔ CounterText t n := by
  unfold parseCounter CounterText
  split
  case h_1 rest hsign =>
    -- a leading `+` is never a digit, so only the signed reading can apply
    have hplus : ¬ CounterDigits ('+' :: rest) n :=
      fun h => absurd (h.2.1 '+' List.mem_cons_self) (by decide)
    dsimp only
    rw [readDigits_eq_some_iff]
    simp [hsign, hplus]
  case h_2 hsign =>
    have hunsigned : ¬ ∃ ds, t.toList = '+' :: ds ∧ CounterDigits ds n :=
      fun ⟨ds, hds, _⟩ => hsign ds hds
    dsimp only
    rw [readDigits_eq_some_iff]
    simp [hunsigned]

/-- A snapshot is read as a counter exactly when its trimmed text is a counter text. -/
theorem asCounter_eq_some_iff {s : StateSnapshot} {n : Nat} :
    s.asCounter = some n ↔ CounterText (trimBlank s.text) n :=
  parseCounter_eq_some_iff

end StateSnapshot

namespace Expectation

variable {s o : StateSnapshot} {m : Bool}

/-- A baseline becomes a floor exactly when the operation is monotonic and it reads as a counter,
and the floor is that counter. -/
@[simp]
theorem fromBaseline_eq_atLeast_iff {n : Nat} :
    fromBaseline s m = .atLeast n ↔ m = true ∧ s.asCounter = some n := by
  unfold fromBaseline
  split <;> cases m <;> simp_all

/-- Otherwise the baseline itself is expected. -/
theorem fromBaseline_eq_equals_iff :
    fromBaseline s m = .equals s ↔ ¬ (m = true ∧ ∃ n, s.asCounter = some n) := by
  unfold fromBaseline
  split <;> cases m <;> simp_all

/-- A floor accepts exactly the states that read as a counter at or above it. -/
@[simp]
theorem check_atLeast_eq_ok_iff {floor : Nat} :
    (atLeast floor).check o = .ok () ↔ ∃ v, o.asCounter = some v ∧ floor ≤ v := by
  unfold check
  split <;> grind

/-- An exact expectation accepts only the state itself. -/
@[simp]
theorem check_equals_eq_ok_iff {e : StateSnapshot} :
    (equals e).check o = .ok () ↔ e = o := by
  unfold check
  split <;> simp_all

@[simp]
theorem check_any : any.check o = .ok () := rfl

/-- A baseline passes the expectation it gives: a floor is its own counter, an exact state is
itself. -/
@[simp]
theorem check_fromBaseline_self : (fromBaseline s m).check s = .ok () := by
  cases h : s.asCounter with
  | none =>
    have hbase : fromBaseline s m = .equals s := fromBaseline_eq_equals_iff.2 (by simp [h])
    rw [hbase, check_equals_eq_ok_iff]
  | some n =>
    cases m with
    | false =>
      have hbase : fromBaseline s false = .equals s := fromBaseline_eq_equals_iff.2 (by simp)
      rw [hbase, check_equals_eq_ok_iff]
    | true =>
      have hbase : fromBaseline s true = .atLeast n := fromBaseline_eq_atLeast_iff.2 ⟨rfl, h⟩
      rw [hbase, check_atLeast_eq_ok_iff]
      exact ⟨n, h, le_rfl⟩

/-- The expectation of a baseline and the check of an observed state, in terms of the texts: a
baseline passes its own expectation; it becomes the floor `n` exactly when the operation is
monotonic and its trimmed text is a 64-bit counter text of value `n`, and is otherwise expected
verbatim; a floor accepts the states whose trimmed text is a counter text at or above it, an exact
state the state with the same bytes, and `any` every state. -/
theorem baseline_expectations_check_by_counter_text :
    (∀ (s : StateSnapshot) (m : Bool), (fromBaseline s m).check s = .ok ()) ∧
    (∀ (s : StateSnapshot) (m : Bool) (n : Nat),
      fromBaseline s m = .atLeast n ↔ m = true ∧ CounterText (trimBlank s.text) n) ∧
    (∀ (s : StateSnapshot) (m : Bool),
      fromBaseline s m = .equals s ↔ ¬ (m = true ∧ ∃ n, CounterText (trimBlank s.text) n)) ∧
    (∀ (floor : Nat) (o : StateSnapshot),
      (atLeast floor).check o = .ok () ↔ ∃ v, CounterText (trimBlank o.text) v ∧ floor ≤ v) ∧
    (∀ e o : StateSnapshot,
      (equals e).check o = .ok () ↔ e.text.toByteArray = o.text.toByteArray) ∧
    (∀ o : StateSnapshot, any.check o = .ok ()) := by
  refine ⟨fun _ _ => check_fromBaseline_self, fun _ _ _ => ?_, fun _ _ => ?_, fun _ _ => ?_,
    fun e o => ?_, fun _ => check_any⟩
  · rw [fromBaseline_eq_atLeast_iff, StateSnapshot.asCounter_eq_some_iff]
  · simp only [fromBaseline_eq_equals_iff, StateSnapshot.asCounter_eq_some_iff]
  · simp only [check_atLeast_eq_ok_iff, StateSnapshot.asCounter_eq_some_iff]
  · rw [check_equals_eq_ok_iff, String.toByteArray_inj]
    cases e
    cases o
    simp

end Expectation

end CrashTest
