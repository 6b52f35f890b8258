import Mathlib
import CrashTest.Json.Reader
import CrashTest.Json.Value
/-!
Reading back what the pretty printer writes.

The pretty text of a value is read back into a node that stands for it: the same kind and
contents, whatever places the node records, with every list and object closed by its bracket.
This holds for every value the reader keeps in the kind it was written in (whole numbers below
`2^64`, no negative or fractional numbers) that nests no deeper than the reader allows, and for
any blanks before the text and anything after it that cannot continue it.

The scanners come first: blanks, literal words, string literals and whole numbers, each read
from exactly the characters the printer wrote. The reading of lists and objects is then one
induction on the reader's fuel, which covers a value, the first member of a list or an object,
and the members after it all at once, as the reader's own recursion does.
-/
namespace CrashTest.Json

namespace Cursor

@[simp] theorem bump_cons (x : Char) (r : List Char) (p : Pos) :
    Cursor.bump ⟨x :: r, p⟩ = ⟨r, p.advance x⟩ := rfl

@[simp] theorem skipFrom_nil (p : Pos) : skipFrom [] p = ⟨[], p⟩ := rfl

/-- Skipping stops at once before a character that is not a blank. -/
theorem skipFrom_of_not_blank {x : Char} (hx : isBlank x = false) (r : List Char) (p : Pos) :
    skipFrom (x :: r) p = ⟨x :: r, p⟩ := by
  simp [skipFrom, hx]

/-- Blanks before a character that is not one, or before the end, are skipped. -/
theorem skipFrom_blanks {pre : List Char} (hPre : ∀ x ∈ pre, isBlank x = true)
    {rest : List Char} (hRest : ∀ x ∈ rest.head?, isBlank x = false) (p : Pos) :
    skipFrom (pre ++ rest) p = ⟨rest, pre.foldl Pos.advance p⟩ := by
  induction pre generalizing p with
  | nil =>
    cases rest with
    | nil => rfl
    | cons x r => exact skipFrom_of_not_blank (hRest x rfl) r p
  | cons x pre ih =>
    have hx : isBlank x = true := hPre x (List.mem_cons_self ..)
    simp only [List.cons_append, skipFrom, hx, if_true]
    exact ih (fun y hy => hPre y (List.mem_cons_of_mem x hy)) _

end Cursor

/-- A literal word is read from exactly its characters. -/
theorem readWord_self (ws rest : List Char) (p : Pos) :
    readWord ws ⟨ws ++ rest, p⟩ = .ok ⟨rest, ws.foldl Pos.advance p⟩ := by
  induction ws generalizing p with
  | nil => rfl
  | cons w ws ih => simp [readWord, ih]

/-! ### String literals -/

theorem toList_quote (s : String) :
    (quote s).toList = '"' :: s.toList.flatMap (fun c => (escapeChar c).toList) ++ ['"'] := by
  simp [quote, String.toList_join, List.flatMap_map]

/-- The hexadecimal digits the printer writes read back as their values, one byte each. -/
theorem hexDigit_spec : ∀ k < 16,
    hexValue? ("0123456789abcdef".toList.getD k '0') = some k ∧
      ("0123456789abcdef".toList.getD k '0').utf8Size = 1 := by
  decide

theorem takeBytes_zero (acc rest : List Char) (p : Pos) :
    takeBytes 0 acc rest p = some (acc.reverse, ⟨rest, p⟩) := by
  unfold takeBytes
  rfl

/-- Four hexadecimal digits of one byte each, two leading zeros among them, are read as the
number the last two make. -/
theorem readHex4_of_digits {a b : Char} {ka kb : Nat} (ha : hexValue? a = some ka)
    (haSize : a.utf8Size = 1) (hb : hexValue? b = some kb) (hbSize : b.utf8Size = 1)
    (rest : List Char) (p : Pos) :
    readHex4 ⟨'0' :: '0' :: a :: b :: rest, p⟩ =
      .ok (ka * 16 + kb, ⟨rest, ['0', '0', a, b].foldl Pos.advance p⟩) := by
  have hZero : hexValue? '0' = some 0 := by decide
  have hZeroSize : '0'.utf8Size = 1 := by decide
  have hTaken : takeBytes 4 [] ('0' :: '0' :: a :: b :: rest) p =
      some (['0', '0', a, b], ⟨rest, ['0', '0', a, b].foldl Pos.advance p⟩) := by
    simp [takeBytes, hZeroSize, haSize, hbSize, takeBytes_zero]
  simp [readHex4, hTaken, hZero, ha, hb]

/-- One character, as the printer escapes it, is read back. -/
theorem readStringBody_escapeChar (fuel : Nat) (acc : List Char) (c : Char) (rest : List Char)
    (p : Pos) :
    readStringBody (fuel + 1) acc ⟨(escapeChar c).toList ++ rest, p⟩ =
      readStringBody fuel (c :: acc) ⟨rest, (escapeChar c).toList.foldl Pos.advance p⟩ := by
  unfold escapeChar
  split_ifs with hQuote hBackslash hBack hFeed hLine hReturn hTab hControl
  · subst hQuote; simp [readStringBody, readEscape, bind, Except.bind]
  · subst hBackslash; simp [readStringBody, readEscape, bind, Except.bind]
  · subst hBack; simp [readStringBody, readEscape, bind, Except.bind]
  · subst hFeed; simp [readStringBody, readEscape, bind, Except.bind]
  · subst hLine; simp [readStringBody, readEscape, bind, Except.bind]
  · subst hReturn; simp [readStringBody, readEscape, bind, Except.bind]
  · subst hTab; simp [readStringBody, readEscape, bind, Except.bind]
  · -- the other controls go as `\u00` and two hexadecimal digits
    have hLow : c.toNat < 0x20 := hControl
    obtain ⟨hHigh, hHighSize⟩ := hexDigit_spec (c.toNat / 16) (by omega)
    obtain ⟨hLowDigit, hLowSize⟩ := hexDigit_spec (c.toNat % 16) (by omega)
    have hValue : c.toNat / 16 * 16 + c.toNat % 16 = c.toNat := by omega
    simp only [String.toList_append, String.toList_singleton, List.cons_append,
      List.append_assoc]
    generalize "0123456789abcdef".toList.getD (c.toNat / 16) '0' = a at *
    generalize "0123456789abcdef".toList.getD (c.toNat % 16) '0' = b at *
    have hHex := readHex4_of_digits hHigh hHighSize hLowDigit hLowSize rest
      ((p.advance '\\').advance 'u')
    rw [hValue] at hHex
    have hNotLow : ¬ (0xDC00 ≤ c.toNat ∧ c.toNat ≤ 0xDFFF) := by omega
    have hBelow : c.toNat < 0xD800 ∨ 0xDBFF < c.toNat := by omega
    rw [readStringBody.eq_2]
    simp [readEscape, readUnicodeEscape, hHex, bind, Except.bind, pure, Except.pure, hNotLow,
      hBelow, Char.ofNat_toNat]
  · -- everything else goes as it is
    have hLow : ¬ c.toNat < 0x20 := hControl
    simp only [String.toList_singleton, List.singleton_append]
    rw [readStringBody.eq_2]
    split
    · next heq => nomatch heq
    · next heq => exact absurd (List.cons.inj heq).1 hQuote
    · next heq => exact absurd (List.cons.inj heq).1 hBackslash
    · next x tail _ _ heq =>
      obtain ⟨rfl, rfl⟩ := List.cons.inj heq
      rw [if_neg hLow]
      rfl

/-- A string's escaped characters, then its closing quote, are read back as the string. -/
theorem readStringBody_escaped (cs : List Char) {fuel : Nat} (hFuel : cs.length < fuel)
    (acc rest : List Char) (p : Pos) :
    readStringBody fuel acc ⟨cs.flatMap (fun c => (escapeChar c).toList) ++ '"' :: rest, p⟩ =
      .ok (String.ofList (acc.reverse ++ cs),
        ⟨rest, (cs.flatMap (fun c => (escapeChar c).toList) ++ ['"']).foldl Pos.advance p⟩) := by
  induction cs generalizing fuel acc p with
  | nil =>
    obtain ⟨fuel, rfl⟩ := Nat.exists_eq_add_of_lt hFuel
    simp [readStringBody]
  | cons c cs ih =>
    obtain ⟨fuel, rfl⟩ : ∃ f, fuel = f + 1 := Nat.exists_eq_succ_of_ne_zero (by omega)
    rw [List.flatMap_cons, List.append_assoc, readStringBody_escapeChar,
      ih (by simp at hFuel; omega)]
    simp

theorem length_le_flatMap_escapeChar (cs : List Char) :
    cs.length ≤ (cs.flatMap fun c => (escapeChar c).toList).length := by
  induction cs with
  | nil => simp
  | cons c cs ih =>
    have hOne : 0 < (escapeChar c).toList.length := by
      unfold escapeChar
      split_ifs <;> simp
    simp only [List.flatMap_cons, List.length_append, List.length_cons]
    omega

/-- A string literal as the printer writes it is read back as its string. -/
theorem readString_quote (s : String) (rest : List Char) (p : Pos) :
    readString ⟨(quote s).toList ++ rest, p⟩ =
      .ok (s, ⟨rest, (quote s).toList.foldl Pos.advance p⟩) := by
  have hLength := length_le_flatMap_escapeChar s.toList
  rw [readString, toList_quote]
  simp only [List.cons_append, List.append_assoc, Cursor.bump_cons, List.length_cons,
    List.length_append]
  rw [readStringBody_escaped _ (by omega)]
  simp

/-! ### Whole numbers -/

/-- The number a run of decimal digits stands for, read onto `acc`. -/
def digitsValue (acc : Nat) (ds : List Char) : Nat := ds.foldl (fun n d => n * 10 + (d.toNat - 48)) acc

theorem le_digitsValue (acc : Nat) (ds : List Char) : acc ≤ digitsValue acc ds := by
  induction ds generalizing acc with
  | nil => exact le_rfl
  | cons d ds ih => exact le_trans (by omega) (ih (acc * 10 + (d.toNat - 48)))

theorem digitChar_toNat : ∀ d < 10, (Nat.digitChar d).toNat = d + 48 := by decide

theorem digitChar_ne_zero : ∀ d < 10, d ≠ 0 → Nat.digitChar d ≠ '0' := by decide

/-- The digits of a number read back as the number. -/
theorem digitsValue_toDigits (n : Nat) : digitsValue 0 (Nat.toDigits 10 n) = n := by
  induction n using Nat.strong_induction_on with
  | _ n ih =>
    rw [Nat.toDigits_eq_if (by decide)]
    split
    · next hSmall => simp [digitsValue, digitChar_toNat n hSmall]
    · next hLarge =>
      have hHigh := ih (n / 10) (by omega)
      simp only [digitsValue, List.foldl_append] at hHigh ⊢
      rw [hHigh]
      simp [digitChar_toNat (n % 10) (Nat.mod_lt _ (by decide))]
      omega

/-- A positive number's digits do not start with a zero. -/
theorem head_toDigits_ne_zero {n : Nat} (hn : 0 < n) : (Nat.toDigits 10 n).head? ≠ some '0' := by
  induction n using Nat.strong_induction_on with
  | _ n ih =>
    rw [Nat.toDigits_eq_if (by decide)]
    split
    · next hSmall => simpa using digitChar_ne_zero n hSmall (by omega)
    · next hLarge =>
      have hHigh := ih (n / 10) (by omega) (by omega)
      obtain ⟨d, ds, hds⟩ := List.exists_cons_of_ne_nil (@Nat.toDigits_ne_nil (n / 10) 10)
      rw [hds] at hHigh ⊢
      simpa using hHigh

/-- What may follow a number without being read as part of it. -/
def EndsNumber (rest : List Char) : Prop :=
  ∀ x ∈ rest.head?, x.isDigit = false ∧ x ≠ '.' ∧ x ≠ 'e' ∧ x ≠ 'E'

theorem digit?_of_isDigit {x : Char} (h : x.isDigit = true) : digit? x = some (x.toNat - 48) := by
  simp [digit?, h]

theorem digit?_of_not_isDigit {x : Char} (h : x.isDigit = false) : digit? x = none := by
  simp [digit?, h]

theorem digitValue_le_nine {x : Char} (h : x.isDigit = true) : x.toNat - 48 ≤ 9 := by
  have hRange := Char.isDigit_iff_toNat.1 h
  simp only [show '0'.toNat = 48 from rfl, show '9'.toNat = 57 from rfl] at hRange
  omega

/-- A whole number ends where something that cannot continue it follows. -/
theorem finishWhole_nat (sig : Nat) {rest : List Char} (hEnd : EndsNumber rest) (p : Pos) :
    finishWhole true sig ⟨rest, p⟩ = .ok (.nat sig, ⟨rest, p⟩) := by
  unfold finishWhole
  split
  · next heq => exact absurd rfl (hEnd '.' (by simp only at heq; simp [heq])).2.1
  · next heq => exact absurd rfl (hEnd 'e' (by simp only at heq; simp [heq])).2.2.1
  · next heq => exact absurd rfl (hEnd 'E' (by simp only at heq; simp [heq])).2.2.2
  · rfl

/-- Digits after the first are read onto the significand while it stays below `2^64`. -/
theorem readWhole_digits (ds : List Char) (hDigits : ∀ d ∈ ds, d.isDigit = true) {sig fuel : Nat}
    (hFuel : ds.length ≤ fuel) (hBound : digitsValue sig ds < 2 ^ 64) {rest : List Char}
    (hEnd : EndsNumber rest) (p : Pos) :
    readWhole true fuel sig ⟨ds ++ rest, p⟩ =
      .ok (.nat (digitsValue sig ds), ⟨rest, ds.foldl Pos.advance p⟩) := by
  induction ds generalizing sig fuel p with
  | nil =>
    have hStop : (rest.head? >>= digit?) = none := by
      cases rest with
      | nil => rfl
      | cons x r => simpa using digit?_of_not_isDigit (hEnd x rfl).1
    cases fuel with
    | zero => exact finishWhole_nat sig hEnd p
    | succ fuel =>
      simp only [List.nil_append, readWhole, hStop]
      exact finishWhole_nat sig hEnd p
  | cons d ds ih =>
    obtain ⟨fuel, rfl⟩ : ∃ f, fuel = f + 1 :=
      Nat.exists_eq_succ_of_ne_zero (by simp at hFuel; omega)
    have hd := hDigits d (List.mem_cons_self ..)
    -- the significand so far is below the whole number, so no digit overflows it
    have hNext : sig * 10 + (d.toNat - 48) < 2 ^ 64 :=
      lt_of_le_of_lt (le_digitsValue _ ds) hBound
    have hFits : significandOverflows sig (d.toNat - 48) = false := by
      have hDigit := digitValue_le_nine hd
      simp only [significandOverflows, Bool.or_eq_false_iff, decide_eq_false_iff_not,
        Bool.and_eq_false_iff]
      omega
    simp only [List.cons_append, readWhole, List.head?_cons]
    rw [show (some d >>= digit?) = some (d.toNat - 48) from digit?_of_isDigit hd]
    simp only [hFits, Bool.false_eq_true, if_false, Cursor.bump_cons]
    exact ih (fun x hx => hDigits x (List.mem_cons_of_mem d hx)) (by simpa using hFuel) hBound _

/-- A whole number below `2^64`, as the printer writes it, is read back. -/
theorem readUnsigned_toDigits {n : Nat} (hn : n < 2 ^ 64) {rest : List Char}
    (hEnd : EndsNumber rest) (p : Pos) :
    readUnsigned true ⟨Nat.toDigits 10 n ++ rest, p⟩ =
      .ok (.nat n, ⟨rest, (Nat.toDigits 10 n).foldl Pos.advance p⟩) := by
  have hDigits : ∀ d ∈ Nat.toDigits 10 n, d.isDigit = true := fun d hd =>
    Nat.isDigit_of_mem_toDigits (by decide) (by decide) hd
  rcases Nat.eq_zero_or_pos n with rfl | hPos
  · have hStop : (rest.head? >>= digit?) = none := by
      cases rest with
      | nil => rfl
      | cons x r => simpa using digit?_of_not_isDigit (hEnd x rfl).1
    simp [readUnsigned, Nat.toDigits_zero, hStop, finishWhole_nat 0 hEnd]
  · obtain ⟨d, ds, hds⟩ := List.exists_cons_of_ne_nil (@Nat.toDigits_ne_nil n 10)
    have hFirst : d ≠ '0' := by simpa [hds] using head_toDigits_ne_zero hPos
    have hd : d.isDigit = true := hDigits d (by simp [hds])
    have hValue : digitsValue (d.toNat - 48) ds = n := by
      simpa [digitsValue, hds] using digitsValue_toDigits n
    rw [hds]
    simp only [readUnsigned, List.cons_append, Cursor.bump_cons, hFirst, if_false,
      digit?_of_isDigit hd]
    rw [readWhole_digits ds (fun x hx => hDigits x (by simp [hds, hx]))
      (by simp only [List.length_append]; omega) (hValue ▸ hn) hEnd, hValue]
    rfl

/-! ### The values that read back -/

mutual

/-- Whether a value is read back in the kind it was written in, with `room` more levels of lists
and objects allowed around it: whole numbers below `2^64` only (others are read as doubles or
negative integers), and no list or object beyond the room. -/
def FitsIn : Nat → Json → Prop
  | _, .null => True
  | _, .bool _ => True
  | _, .nat n => n < 2 ^ 64
  | _, .int _ => False
  | _, .float _ => False
  | _, .str _ => True
  | 0, .arr _ => False
  | room + 1, .arr items => ItemsFitIn room items
  | 0, .obj _ => False
  | room + 1, .obj members => MembersFitIn room members

/-- Whether every item fits in `room`. -/
def ItemsFitIn (room : Nat) : List Json → Prop
  | [] => True
  | v :: rest => FitsIn room v ∧ ItemsFitIn room rest

/-- Whether every member's value fits in `room`. -/
def MembersFitIn (room : Nat) : List (String × Json) → Prop
  | [] => True
  | (_, v) :: rest => FitsIn room v ∧ MembersFitIn room rest

end

mutual

/-- A node read from text stands for a value: the same kind and contents, whatever places it
records, with every list and object closed by its bracket. -/
def ReadAs : Json → Node → Prop
  | .null, .null _ => True
  | .bool b, .bool b' _ => b' = b
  | .nat n, .num k _ => k = .nat n
  | .str s, .str s' _ => s' = s
  | .arr items, .arr nodes close _ => (∃ stop, close = .closed stop) ∧ ItemsReadAs items nodes
  | .obj members, .obj nodes close _ =>
    (∃ stop, close = .closed stop) ∧ MembersReadAs members nodes
  | _, _ => False

/-- Nodes that stand for list items, one for one. -/
def ItemsReadAs : List Json → List Node → Prop
  | [], [] => True
  | v :: vs, n :: ns => ReadAs v n ∧ ItemsReadAs vs ns
  | _, _ => False

/-- Nodes that stand for object members, one for one and under the same keys. -/
def MembersReadAs : List (String × Json) → List (String × Gap × Node) → Prop
  | [], [] => True
  | (k, v) :: ms, (k', _, n) :: ns => k' = k ∧ ReadAs v n ∧ MembersReadAs ms ns
  | _, _ => False

end

/-- A node that stands for a value was read without a fault. -/
theorem ReadAs.ne_broken {v : Json} {n : Node} (h : ReadAs v n) (e : SyntaxError)
    (lead : Option Char) (start : Option Pos) : n ≠ .broken e lead start := by
  rintro rfl
  cases v <;> simp [ReadAs] at h

/-! ### The pretty text of lists and objects -/

/-- The line of a list item at `level`. -/
def itemLine (level : Nat) (v : Json) : List Char := (indent level ++ pretty level v).toList

/-- The line of an object member at `level`. -/
def memberLine (level : Nat) (m : String × Json) : List Char :=
  (indent level ++ quote m.1 ++ ": " ++ pretty level m.2).toList

/-- What follows the first item of a list at `level`: each further item after a comma and a line
break, then a line break, the list's indent and the closing bracket. -/
def itemsTail (level : Nat) (vs : List Json) : List Char :=
  vs.flatMap (fun v => ',' :: '\n' :: itemLine (level + 1) v) ++
    '\n' :: (indent level).toList ++ [']']

/-- What follows the first member of an object at `level`, in the same way. -/
def membersTail (level : Nat) (ms : List (String × Json)) : List Char :=
  ms.flatMap (fun m => ',' :: '\n' :: memberLine (level + 1) m) ++
    '\n' :: (indent level).toList ++ ['\x7d']

theorem intercalate_cons_eq {α : Type} (sep x : List α) (xs : List (List α)) :
    sep.intercalate (x :: xs) = x ++ xs.flatMap (sep ++ ·) := by
  induction xs generalizing x with
  | nil => simp
  | cons y ys ih => rw [List.intercalate_cons_cons, ih]; simp

theorem toList_pretty_arr_cons (level : Nat) (v : Json) (vs : List Json) :
    (pretty level (.arr (v :: vs))).toList =
      '[' :: '\n' :: itemLine (level + 1) v ++ itemsTail level vs := by
  have hLines : ∀ ws : List Json, (prettyItems (level + 1) ws).map String.toList =
      ws.map (itemLine (level + 1)) := by
    intro ws
    induction ws with
    | nil => rfl
    | cons w ws ih => simp [prettyItems, ih, itemLine]
  simp [pretty, String.toList_intercalate, hLines, intercalate_cons_eq, itemsTail,
    List.flatMap_map]

theorem toList_pretty_obj_cons (level : Nat) (m : String × Json) (ms : List (String × Json)) :
    (pretty level (.obj (m :: ms))).toList =
      '\x7b' :: '\n' :: memberLine (level + 1) m ++ membersTail level ms := by
  have hLines : ∀ ns : List (String × Json), (prettyMembers (level + 1) ns).map String.toList =
      ns.map (memberLine (level + 1)) := by
    intro ns
    induction ns with
    | nil => rfl
    | cons n ns ih => simp [prettyMembers, ih, memberLine]
  simp [pretty, String.toList_intercalate, hLines, intercalate_cons_eq, membersTail,
    List.flatMap_map]

/-! ### One value -/

theorem skipBlanks_of_not_blank {x : Char} (hx : Cursor.isBlank x = false) (r : List Char)
    (p : Pos) : Cursor.skipBlanks ⟨x :: r, p⟩ = ⟨x :: r, p⟩ :=
  Cursor.skipFrom_of_not_blank hx r p

theorem isBlank_indent (level : Nat) : ∀ x ∈ (indent level).toList, Cursor.isBlank x = true := by
  simp [indent, Cursor.isBlank]

theorem ne_of_isDigit {x c : Char} (hx : x.isDigit = true) (hc : c.isDigit = false) : x ≠ c := by
  rintro rfl
  simp_all

theorem isBlank_of_isDigit {x : Char} (hx : x.isDigit = true) : Cursor.isBlank x = false := by
  simp [Cursor.isBlank, ne_of_isDigit hx (by decide : ' '.isDigit = false),
    ne_of_isDigit hx (by decide : '\n'.isDigit = false),
    ne_of_isDigit hx (by decide : '\t'.isDigit = false),
    ne_of_isDigit hx (by decide : '\r'.isDigit = false)]

section Value

variable {pre : List Char} (hPre : ∀ x ∈ pre, Cursor.isBlank x = true)
include hPre

theorem skipBlanks_pre {x : Char} (hx : Cursor.isBlank x = false) (r : List Char) (p : Pos) :
    Cursor.skipBlanks ⟨pre ++ x :: r, p⟩ = ⟨x :: r, pre.foldl Pos.advance p⟩ :=
  Cursor.skipFrom_blanks hPre (by simpa using hx) p

theorem readValue_null (fuel depth level : Nat) (rest : List Char) (p : Pos) :
    ∃ span, readValue (fuel + 1) depth ⟨pre ++ (pretty level .null).toList ++ rest, p⟩ =
      (.null span, ⟨rest, (pre ++ (pretty level .null).toList).foldl Pos.advance p⟩) := by
  have hText : (pretty level .null).toList = ['n', 'u', 'l', 'l'] := by simp [pretty, compact]
  simp only [hText, List.append_assoc, List.cons_append, List.nil_append]
  rw [readValue, skipBlanks_pre hPre (by decide)]
  simp [readWord, Except.map]

theorem readValue_bool (fuel depth level : Nat) (b : Bool) (rest : List Char) (p : Pos) :
    ∃ span, readValue (fuel + 1) depth ⟨pre ++ (pretty level (.bool b)).toList ++ rest, p⟩ =
      (.bool b span, ⟨rest, (pre ++ (pretty level (.bool b)).toList).foldl Pos.advance p⟩) := by
  cases b with
  | true =>
    have hText : (pretty level (.bool true)).toList = ['t', 'r', 'u', 'e'] := by
      simp [pretty, compact]
    simp only [hText, List.append_assoc, List.cons_append, List.nil_append]
    rw [readValue, skipBlanks_pre hPre (by decide)]
    simp [readWord, Except.map]
  | false =>
    have hText : (pretty level (.bool false)).toList = ['f', 'a', 'l', 's', 'e'] := by
      simp [pretty, compact]
    simp only [hText, List.append_assoc, List.cons_append, List.nil_append]
    rw [readValue, skipBlanks_pre hPre (by decide)]
    simp [readWord, Except.map]

theorem readValue_nat (fuel depth level : Nat) {n : Nat} (hn : n < 2 ^ 64) {rest : List Char}
    (hEnd : EndsNumber rest) (p : Pos) :
    ∃ span, readValue (fuel + 1) depth ⟨pre ++ (pretty level (.nat n)).toList ++ rest, p⟩ =
      (.num (.nat n) span, ⟨rest, (pre ++ (pretty level (.nat n)).toList).foldl Pos.advance p⟩) := by
  have hText : (pretty level (.nat n)).toList = Nat.toDigits 10 n := by
    simp [pretty, compact, Nat.toString_eq_repr, Nat.toList_repr]
  obtain ⟨d, ds, hds⟩ := List.exists_cons_of_ne_nil (@Nat.toDigits_ne_nil n 10)
  have hd : d.isDigit = true :=
    @Nat.isDigit_of_mem_toDigits 10 n d (by decide) (by decide) (by simp [hds])
  simp only [hText, List.append_assoc]
  rw [readValue, hds, List.cons_append, skipBlanks_pre hPre (isBlank_of_isDigit hd)]
  simp only [if_neg (ne_of_isDigit hd (by decide : 'n'.isDigit = false)),
    if_neg (ne_of_isDigit hd (by decide : 't'.isDigit = false)),
    if_neg (ne_of_isDigit hd (by decide : 'f'.isDigit = false)),
    if_neg (ne_of_isDigit hd (by decide : '-'.isDigit = false)), hd, if_true]
  rw [← List.cons_append, ← hds, readUnsigned_toDigits hn hEnd]
  simp [Except.map]

theorem readValue_str (fuel depth level : Nat) (str : String) (rest : List Char) (p : Pos) :
    ∃ span, readValue (fuel + 1) depth ⟨pre ++ (pretty level (.str str)).toList ++ rest, p⟩ =
      (.str str span, ⟨rest, (pre ++ (pretty level (.str str)).toList).foldl Pos.advance p⟩) := by
  have hText : (pretty level (.str str)).toList = (quote str).toList := by simp [pretty, compact]
  obtain ⟨tail, hTail⟩ : ∃ tail, (quote str).toList = '"' :: tail := ⟨_, toList_quote str⟩
  simp only [hText, hTail, List.append_assoc, List.cons_append]
  rw [readValue, skipBlanks_pre hPre (by decide)]
  simp only [if_neg (by decide : ¬ '"' = 'n'), if_neg (by decide : ¬ '"' = 't'),
    if_neg (by decide : ¬ '"' = 'f'), if_neg (by decide : ¬ '"' = '-'),
    (by decide : '"'.isDigit = false), Bool.false_eq_true, if_false, if_true]
  rw [← List.cons_append, ← hTail, readString_quote]
  simp [Except.map]

/-- A list or an object opens with its bracket, one level deeper. -/
theorem readValue_open_obj (fuel : Nat) {depth : Nat} (hDepth : depth < maxDepth)
    (text : List Char) (p : Pos) :
    readValue (fuel + 1) depth ⟨pre ++ '\x7b' :: text, p⟩ =
      readMembers fuel (depth + 1) (pre.foldl Pos.advance p)
        ⟨text, (pre.foldl Pos.advance p).advance '\x7b'⟩ [] true := by
  rw [readValue, skipBlanks_pre hPre (by decide)]
  simp [Nat.not_le.2 hDepth]

theorem readValue_open_arr (fuel : Nat) {depth : Nat} (hDepth : depth < maxDepth)
    (text : List Char) (p : Pos) :
    readValue (fuel + 1) depth ⟨pre ++ '[' :: text, p⟩ =
      readItems fuel (depth + 1) (pre.foldl Pos.advance p)
        ⟨text, (pre.foldl Pos.advance p).advance '['⟩ [] true := by
  rw [readValue, skipBlanks_pre hPre (by decide)]
  simp [Nat.not_le.2 hDepth]

/-- An object ends at its closing brace, with the members read so far. -/
theorem readMembers_close (fuel depth : Nat) (start : Pos) (acc : List (String × Gap × Node))
    (first : Bool) (rest : List Char) (p : Pos) :
    readMembers (fuel + 1) depth start ⟨pre ++ '\x7d' :: rest, p⟩ acc first =
      (.obj acc.reverse (.closed (some ((pre ++ ['\x7d']).foldl Pos.advance p))) (some start),
        ⟨rest, (pre ++ ['\x7d']).foldl Pos.advance p⟩) := by
  rw [readMembers, skipBlanks_pre hPre (by decide)]
  simp

/-- A list ends at its closing bracket, with the items read so far. -/
theorem readItems_close (fuel depth : Nat) (start : Pos) (acc : List Node) (first : Bool)
    (rest : List Char) (p : Pos) :
    readItems (fuel + 1) depth start ⟨pre ++ ']' :: rest, p⟩ acc first =
      (.arr acc.reverse (.closed (some ((pre ++ [']']).foldl Pos.advance p))) (some start),
        ⟨rest, (pre ++ [']']).foldl Pos.advance p⟩) := by
  rw [readItems, skipBlanks_pre hPre (by decide)]
  simp

end Value

/-! ### Members and items after the first -/

/-- A line break and an indent are skipped. -/
theorem skipBlanks_line (level : Nat) {x : Char} (hx : Cursor.isBlank x = false) (r : List Char)
    (p : Pos) :
    Cursor.skipBlanks ⟨'\n' :: ((indent level).toList ++ x :: r), p⟩ =
      ⟨x :: r, ('\n' :: (indent level).toList).foldl Pos.advance p⟩ := by
  have hBlanks : ∀ y ∈ '\n' :: (indent level).toList, Cursor.isBlank y = true := by
    simpa [Cursor.isBlank] using isBlank_indent level
  exact skipBlanks_pre hBlanks hx r p

theorem readString_of_quote {s : String} {tail : List Char} (hTail : (quote s).toList = '"' :: tail)
    (rest : List Char) (p : Pos) :
    readString ⟨'"' :: (tail ++ rest), p⟩ = .ok (s, ⟨rest, ('"' :: tail).foldl Pos.advance p⟩) := by
  have h := readString_quote s rest p
  rwa [hTail, List.cons_append] at h

/-- A member, after a comma unless it is the first: its key, its colon and its value are read,
and the reader goes on after the value. -/
theorem readMembers_member {fuel depth level : Nat} {start : Pos}
    {acc : List (String × Gap × Node)} (first : Bool) {key : String} {v : Json}
    {text : List Char} (read : Pos → Node × Pos)
    (hRead : ∀ q, readValue fuel depth ⟨' ' :: ((pretty level v).toList ++ text), q⟩ =
      ((read q).1, ⟨text, (read q).2⟩))
    (hAs : ∀ q, ReadAs v (read q).1) (p : Pos) :
    ∃ gap q, readMembers (fuel + 1) depth start
        ⟨(if first then [] else [',']) ++ '\n' :: memberLine level (key, v) ++ text, p⟩ acc first =
      readMembers fuel depth start ⟨text, (read q).2⟩ ((key, gap, (read q).1) :: acc) false := by
  obtain ⟨tail, hTail⟩ : ∃ tail, (quote key).toList = '"' :: tail := ⟨_, toList_quote key⟩
  have hColon : ": ".toList = [':', ' '] := by decide
  simp only [memberLine, String.toList_append, hTail, hColon, List.append_assoc, List.cons_append,
    List.nil_append]
  -- the two ways to the key: past the line break, or past the comma and the line break
  cases first
  on_goal 1 =>
    simp +decide only [if_false, List.cons_append, List.nil_append]
    rw [readMembers, skipBlanks_of_not_blank (by decide)]
    simp +decide only [if_false, Cursor.bump_cons]
    rw [skipBlanks_line level (by decide)]
  on_goal 2 =>
    simp +decide only [if_true, List.nil_append]
    rw [readMembers, skipBlanks_line level (by decide)]
  all_goals
    simp +decide only [if_true]
    rw [readString_of_quote hTail]
    simp only []
    rw [skipBlanks_of_not_blank (by decide)]
    simp +decide only [Cursor.bump_cons]
    rw [hRead]
    split
    · next heq => exact absurd (congrArg Prod.fst heq) ((hAs _).ne_broken _ _ _)
    · next heq =>
      obtain ⟨rfl, rfl⟩ := Prod.mk.inj heq
      exact ⟨_, _, rfl⟩

/-- An item, after a comma unless it is the first: its value is read, and the reader goes on
after it. The value's text must not start with a blank or the closing bracket, which no printed
value does. -/
theorem readItems_item {fuel depth level : Nat} {start : Pos} {acc : List Node} (first : Bool)
    {v : Json} {text : List Char} {x : Char} {r : List Char}
    (hText : (pretty level v).toList = x :: r) (hx : Cursor.isBlank x = false) (hClose : x ≠ ']')
    (read : Pos → Node × Pos)
    (hRead : ∀ q, readValue fuel depth ⟨(pretty level v).toList ++ text, q⟩ =
      ((read q).1, ⟨text, (read q).2⟩))
    (hAs : ∀ q, ReadAs v (read q).1) (p : Pos) :
    ∃ q, readItems (fuel + 1) depth start
        ⟨(if first then [] else [',']) ++ '\n' :: itemLine level v ++ text, p⟩ acc first =
      readItems fuel depth start ⟨text, (read q).2⟩ ((read q).1 :: acc) false := by
  simp only [itemLine, String.toList_append, hText, List.append_assoc, List.cons_append]
  -- the two ways to the value: past the line break, or past the comma and the line break
  cases first
  on_goal 1 =>
    simp +decide only [if_false, List.cons_append, List.nil_append]
    rw [readItems, skipBlanks_of_not_blank (by decide)]
    simp +decide only [if_false, Cursor.bump_cons]
    rw [skipBlanks_line level hx]
    simp only [if_true]
    split
    · next heq => exact absurd (List.cons.inj heq).1 hClose
    · next heq => nomatch heq
  on_goal 2 =>
    simp +decide only [if_true, List.nil_append]
    rw [readItems, skipBlanks_line level hx]
    split
    · next heq => nomatch heq
    · next heq => exact absurd (List.cons.inj heq).1 hClose
    simp +decide only [if_true]
  all_goals
    rw [← List.cons_append, ← hText, hRead]
    split
    · next heq => exact absurd (congrArg Prod.fst heq) ((hAs _).ne_broken _ _ _)
    · next heq =>
      obtain ⟨rfl, rfl⟩ := Prod.mk.inj heq
      exact ⟨_, rfl⟩

/-- The text of every value that fits starts with a character that is not a blank, nor the
bracket that closes a list. -/
theorem pretty_head {room : Nat} {v : Json} (hv : FitsIn room v) (level : Nat) :
    ∃ x r, (pretty level v).toList = x :: r ∧ Cursor.isBlank x = false ∧ x ≠ ']' := by
  cases v with
  | null => exact ⟨'n', ['u', 'l', 'l'], by simp [pretty, compact], by decide, by decide⟩
  | bool b =>
    cases b
    · exact ⟨'f', ['a', 'l', 's', 'e'], by simp [pretty, compact], by decide, by decide⟩
    · exact ⟨'t', ['r', 'u', 'e'], by simp [pretty, compact], by decide, by decide⟩
  | nat n =>
    obtain ⟨d, ds, hds⟩ := List.exists_cons_of_ne_nil (@Nat.toDigits_ne_nil n 10)
    have hd : d.isDigit = true :=
      @Nat.isDigit_of_mem_toDigits 10 n d (by decide) (by decide) (by simp [hds])
    refine ⟨d, ds, ?_, isBlank_of_isDigit hd, ne_of_isDigit hd (by decide)⟩
    simp [pretty, compact, Nat.toString_eq_repr, Nat.toList_repr, hds]
  | int i => simp [FitsIn] at hv
  | float x => simp [FitsIn] at hv
  | str s => exact ⟨'"', _, by simpa [pretty, compact] using toList_quote s, by decide, by decide⟩
  | arr items =>
    cases items with
    | nil => exact ⟨'[', _, by simp [pretty]; rfl, by decide, by decide⟩
    | cons w ws => exact ⟨'[', _, toList_pretty_arr_cons level w ws, by decide, by decide⟩
  | obj members =>
    cases members with
    | nil => exact ⟨'\x7b', _, by simp [pretty]; rfl, by decide, by decide⟩
    | cons m ms => exact ⟨'\x7b', _, toList_pretty_obj_cons level m ms, by decide, by decide⟩

/-! ### Reading with enough fuel -/

/-- Reading with `fuel` gives back every value that fits the room left at `depth`, whatever
blanks come before its text and whatever follows it that cannot continue it. -/
def ReadsValues (fuel : Nat) : Prop :=
  ∀ (depth level : Nat) (v : Json), FitsIn (maxDepth - depth) v →
    ∀ pre : List Char, (∀ x ∈ pre, Cursor.isBlank x = true) →
    ∀ rest : List Char, EndsNumber rest →
    (pre ++ (pretty level v).toList ++ rest).length < fuel →
    ∀ p : Pos, ∃ node q, readValue fuel depth ⟨pre ++ (pretty level v).toList ++ rest, p⟩ =
      (node, ⟨rest, q⟩) ∧ ReadAs v node

/-- Reading with `fuel` gives back the members after the first of an object whose members fit,
through its closing brace. -/
def ReadsMembers (fuel : Nat) : Prop :=
  ∀ (depth level : Nat) (ms : List (String × Json)), MembersFitIn (maxDepth - depth) ms →
    ∀ (acc : List (String × Gap × Node)) (rest : List Char),
    (membersTail level ms ++ rest).length < fuel →
    ∀ start p : Pos, ∃ nodes stop q,
      readMembers fuel depth start ⟨membersTail level ms ++ rest, p⟩ acc false =
        (.obj (acc.reverse ++ nodes) (.closed stop) (some start), ⟨rest, q⟩) ∧
      MembersReadAs ms nodes

/-- Reading with `fuel` gives back the items after the first of a list whose items fit, through
its closing bracket. -/
def ReadsItems (fuel : Nat) : Prop :=
  ∀ (depth level : Nat) (vs : List Json), ItemsFitIn (maxDepth - depth) vs →
    ∀ (acc : List Node) (rest : List Char),
    (itemsTail level vs ++ rest).length < fuel →
    ∀ start p : Pos, ∃ nodes stop q,
      readItems fuel depth start ⟨itemsTail level vs ++ rest, p⟩ acc false =
        (.arr (acc.reverse ++ nodes) (.closed stop) (some start), ⟨rest, q⟩) ∧
      ItemsReadAs vs nodes

theorem endsNumber_cons {x : Char} (hx : x = ',' ∨ x = '\n') (r : List Char) :
    EndsNumber (x :: r) := by
  intro y hy
  simp only [List.head?_cons, Option.mem_def, Option.some.injEq] at hy
  subst hy
  rcases hx with rfl | rfl <;> decide

theorem endsNumber_membersTail (level : Nat) (ms : List (String × Json)) (rest : List Char) :
    EndsNumber (membersTail level ms ++ rest) := by
  cases ms <;> simp only [membersTail, List.flatMap_nil, List.flatMap_cons, List.nil_append,
    List.cons_append] <;> exact endsNumber_cons (by simp) _

theorem endsNumber_itemsTail (level : Nat) (vs : List Json) (rest : List Char) :
    EndsNumber (itemsTail level vs ++ rest) := by
  cases vs <;> simp only [itemsTail, List.flatMap_nil, List.flatMap_cons, List.nil_append,
    List.cons_append] <;> exact endsNumber_cons (by simp) _

theorem isBlank_line (level : Nat) : ∀ x ∈ '\n' :: (indent level).toList, Cursor.isBlank x = true := by
  simpa [Cursor.isBlank] using isBlank_indent level

theorem readsMembers_succ {n : Nat} (hV : ReadsValues n) (hM : ReadsMembers n) :
    ReadsMembers (n + 1) := by
  intro depth level ms hFits acc rest hLength start p
  cases ms with
  | nil =>
    -- no member left: the line break, the indent and the closing brace
    have hText : membersTail level [] ++ rest = ('\n' :: (indent level).toList) ++ '\x7d' :: rest := by
      simp [membersTail]
    rw [hText, readMembers_close (isBlank_line level)]
    exact ⟨[], _, _, by rw [List.append_nil], trivial⟩
  | cons m ms =>
    obtain ⟨key, v⟩ := m
    obtain ⟨hFitsV, hFitsRest⟩ := hFits
    have hText : membersTail level ((key, v) :: ms) ++ rest =
        ([','] ++ '\n' :: memberLine (level + 1) (key, v) ++ (membersTail level ms ++ rest)) := by
      simp [membersTail]
    have hLine : (memberLine (level + 1) (key, v)).length =
        (indent (level + 1)).toList.length + (quote key).toList.length + 2 +
          (pretty (level + 1) v).toList.length := by
      simp [memberLine]; omega
    have hQuote : 2 ≤ (quote key).toList.length := by simp [toList_quote]
    rw [hText] at hLength ⊢
    simp only [List.length_append, List.length_cons, List.length_nil, hLine] at hLength
    have hValue := hV depth (level + 1) v hFitsV [' '] (by simp [Cursor.isBlank])
      (membersTail level ms ++ rest) (endsNumber_membersTail level ms rest)
      (by simp only [List.length_append, List.length_singleton]; omega)
    choose node pos hRead hAs using hValue
    obtain ⟨gap, q, hStep⟩ := @readMembers_member n depth (level + 1) start acc false key v _
      (fun q => (node q, pos q)) (by simpa using hRead) hAs p
    -- the member just read joins the others, and the rest is read with the fuel left
    obtain ⟨nodes, stop, q', hRest, hAsRest⟩ := hM depth level ms hFitsRest
      ((key, gap, node q) :: acc) rest (by simp only [List.length_append]; omega) start (pos q)
    refine ⟨(key, gap, node q) :: nodes, stop, q', ?_, rfl, hAs q, hAsRest⟩
    rw [if_neg Bool.false_ne_true] at hStep
    rw [hStep, hRest]
    simp

theorem readsItems_succ {n : Nat} (hV : ReadsValues n) (hI : ReadsItems n) :
    ReadsItems (n + 1) := by
  intro depth level vs hFits acc rest hLength start p
  cases vs with
  | nil =>
    -- no item left: the line break, the indent and the closing bracket
    have hText : itemsTail level [] ++ rest = ('\n' :: (indent level).toList) ++ ']' :: rest := by
      simp [itemsTail]
    rw [hText, readItems_close (isBlank_line level)]
    exact ⟨[], _, _, by rw [List.append_nil], trivial⟩
  | cons v vs =>
    obtain ⟨hFitsV, hFitsRest⟩ := hFits
    obtain ⟨x, r, hHead, hx, hClose⟩ := pretty_head hFitsV (level + 1)
    have hText : itemsTail level (v :: vs) ++ rest =
        ([','] ++ '\n' :: itemLine (level + 1) v ++ (itemsTail level vs ++ rest)) := by
      simp [itemsTail]
    have hLine : (itemLine (level + 1) v).length =
        (indent (level + 1)).toList.length + (pretty (level + 1) v).toList.length := by
      simp [itemLine]
    rw [hText] at hLength ⊢
    simp only [List.length_append, List.length_cons, List.length_nil, hLine] at hLength
    have hValue := hV depth (level + 1) v hFitsV [] (by simp) (itemsTail level vs ++ rest)
      (endsNumber_itemsTail level vs rest) (by simp only [List.length_append, List.nil_append]; omega)
    choose node pos hRead hAs using hValue
    obtain ⟨q, hStep⟩ := @readItems_item n depth (level + 1) start acc false v _ x r hHead hx hClose
      (fun q => (node q, pos q)) (by simpa using hRead) hAs p
    -- the item just read joins the others, and the rest is read with the fuel left
    obtain ⟨nodes, stop, q', hRest, hAsRest⟩ := hI depth level vs hFitsRest (node q :: acc) rest
      (by simp only [List.length_append]; omega) start (pos q)
    refine ⟨node q :: nodes, stop, q', ?_, hAs q, hAsRest⟩
    rw [if_neg Bool.false_ne_true] at hStep
    rw [hStep, hRest]
    simp

/-- A list or an object that fits leaves room for its members one level deeper. -/
theorem room_of_fits {room : Nat} {v : Json} (hv : FitsIn room v)
    (hContainer : (∃ items, v = .arr items) ∨ ∃ members, v = .obj members) :
    ∃ r, room = r + 1 := by
  rcases hContainer with ⟨items, rfl⟩ | ⟨members, rfl⟩ <;> cases room <;> simp_all [FitsIn]

theorem readValue_obj {k : Nat} (hV : ReadsValues k) (hM : ReadsMembers k) {depth level : Nat}
    {ms : List (String × Json)} (hFits : FitsIn (maxDepth - depth) (.obj ms)) {pre : List Char}
    (hPre : ∀ x ∈ pre, Cursor.isBlank x = true) (rest : List Char)
    (hLength : (pre ++ (pretty level (.obj ms)).toList ++ rest).length < k + 2) (p : Pos) :
    ∃ node q, readValue (k + 2) depth ⟨pre ++ (pretty level (.obj ms)).toList ++ rest, p⟩ =
      (node, ⟨rest, q⟩) ∧ ReadAs (.obj ms) node := by
  obtain ⟨room, hRoom⟩ := room_of_fits hFits (.inr ⟨ms, rfl⟩)
  have hDepth : depth < maxDepth := by omega
  have hInner : room = maxDepth - (depth + 1) := by omega
  replace hFits : MembersFitIn (maxDepth - (depth + 1)) ms := by
    rw [hRoom] at hFits
    exact hInner ▸ hFits
  cases ms with
  | nil =>
    have hText : (pretty level (.obj [])).toList = ['\x7b', '\x7d'] := by simp [pretty]
    have hClose := readMembers_close (by simp : ∀ x ∈ ([] : List Char), Cursor.isBlank x = true)
      k (depth + 1) (pre.foldl Pos.advance p) [] true rest ((pre.foldl Pos.advance p).advance '\x7b')
    simp only [hText, List.append_assoc, List.cons_append, List.nil_append] at hClose ⊢
    rw [readValue_open_obj hPre (k + 1) hDepth, hClose]
    exact ⟨_, _, rfl, ⟨_, rfl⟩, trivial⟩
  | cons m ms =>
    obtain ⟨key, v⟩ := m
    obtain ⟨hFitsV, hFitsRest⟩ := hFits
    have hLine : (memberLine (level + 1) (key, v)).length =
        (indent (level + 1)).toList.length + (quote key).toList.length + 2 +
          (pretty (level + 1) v).toList.length := by
      simp [memberLine]; omega
    have hQuote : 2 ≤ (quote key).toList.length := by simp [toList_quote]
    rw [toList_pretty_obj_cons] at hLength ⊢
    simp only [List.length_append, List.length_cons, hLine] at hLength
    simp only [List.append_assoc, List.cons_append]
    rw [readValue_open_obj hPre (k + 1) hDepth]
    -- the first member, then the others with the fuel left
    have hValue := hV (depth + 1) (level + 1) v hFitsV [' '] (by simp [Cursor.isBlank])
      (membersTail level ms ++ rest) (endsNumber_membersTail level ms rest)
      (by simp only [List.length_append, List.length_singleton]; omega)
    choose node pos hRead hAs using hValue
    obtain ⟨gap, q, hStep⟩ := @readMembers_member k (depth + 1) (level + 1)
      (pre.foldl Pos.advance p) [] true key v _ (fun q => (node q, pos q)) (by simpa using hRead)
      hAs ((pre.foldl Pos.advance p).advance '\x7b')
    obtain ⟨nodes, stop, q', hRest, hAsRest⟩ := hM (depth + 1) level ms hFitsRest
      [(key, gap, node q)] rest (by simp only [List.length_append]; omega)
      (pre.foldl Pos.advance p) (pos q)
    simp only [if_pos, List.nil_append, List.cons_append] at hStep
    rw [hStep, hRest]
    exact ⟨_, _, rfl, ⟨_, rfl⟩, rfl, hAs q, hAsRest⟩

theorem readValue_arr {k : Nat} (hV : ReadsValues k) (hI : ReadsItems k) {depth level : Nat}
    {vs : List Json} (hFits : FitsIn (maxDepth - depth) (.arr vs)) {pre : List Char}
    (hPre : ∀ x ∈ pre, Cursor.isBlank x = true) (rest : List Char)
    (hLength : (pre ++ (pretty level (.arr vs)).toList ++ rest).length < k + 2) (p : Pos) :
    ∃ node q, readValue (k + 2) depth ⟨pre ++ (pretty level (.arr vs)).toList ++ rest, p⟩ =
      (node, ⟨rest, q⟩) ∧ ReadAs (.arr vs) node := by
  obtain ⟨room, hRoom⟩ := room_of_fits hFits (.inl ⟨vs, rfl⟩)
  have hDepth : depth < maxDepth := by omega
  have hInner : room = maxDepth - (depth + 1) := by omega
  replace hFits : ItemsFitIn (maxDepth - (depth + 1)) vs := by
    rw [hRoom] at hFits
    exact hInner ▸ hFits
  cases vs with
  | nil =>
    have hText : (pretty level (.arr [])).toList = ['[', ']'] := by simp [pretty]
    have hClose := readItems_close (by simp : ∀ x ∈ ([] : List Char), Cursor.isBlank x = true)
      k (depth + 1) (pre.foldl Pos.advance p) [] true rest ((pre.foldl Pos.advance p).advance '[')
    simp only [hText, List.append_assoc, List.cons_append, List.nil_append] at hClose ⊢
    rw [readValue_open_arr hPre (k + 1) hDepth, hClose]
    exact ⟨_, _, rfl, ⟨_, rfl⟩, trivial⟩
  | cons v vs =>
    obtain ⟨hFitsV, hFitsRest⟩ := hFits
    obtain ⟨x, r, hHead, hx, hClose⟩ := pretty_head hFitsV (level + 1)
    have hLine : (itemLine (level + 1) v).length =
        (indent (level + 1)).toList.length + (pretty (level + 1) v).toList.length := by
      simp [itemLine]
    rw [toList_pretty_arr_cons] at hLength ⊢
    simp only [List.length_append, List.length_cons, hLine] at hLength
    simp only [List.append_assoc, List.cons_append]
    rw [readValue_open_arr hPre (k + 1) hDepth]
    -- the first item, then the others with the fuel left
    have hValue := hV (depth + 1) (level + 1) v hFitsV [] (by simp)
      (itemsTail level vs ++ rest) (endsNumber_itemsTail level vs rest)
      (by simp only [List.length_append, List.nil_append]; omega)
    choose node pos hRead hAs using hValue
    obtain ⟨q, hStep⟩ := @readItems_item k (depth + 1) (level + 1) (pre.foldl Pos.advance p) []
      true v _ x r hHead hx hClose (fun q => (node q, pos q)) (by simpa using hRead) hAs
      ((pre.foldl Pos.advance p).advance '[')
    obtain ⟨nodes, stop, q', hRest, hAsRest⟩ := hI (depth + 1) level vs hFitsRest [node q] rest
      (by simp only [List.length_append]; omega) (pre.foldl Pos.advance p) (pos q)
    simp only [if_pos, List.nil_append, List.cons_append] at hStep
    rw [hStep, hRest]
    exact ⟨_, _, rfl, ⟨_, rfl⟩, hAs q, hAsRest⟩

theorem readsValues_succ {n : Nat}
    (hPrev : ∀ k, n = k + 1 → ReadsValues k ∧ ReadsMembers k ∧ ReadsItems k) :
    ReadsValues (n + 1) := by
  intro depth level v hFits pre hPre rest hEnd hLength p
  cases n with
  | zero =>
    -- no value is written as the empty text
    obtain ⟨x, r, hHead, -, -⟩ := pretty_head hFits level
    simp [hHead] at hLength
  | succ k =>
    cases v with
    | null => obtain ⟨_, h⟩ := readValue_null hPre (k + 1) depth level rest p; exact ⟨_, _, h, trivial⟩
    | bool b => obtain ⟨_, h⟩ := readValue_bool hPre (k + 1) depth level b rest p; exact ⟨_, _, h, rfl⟩
    | nat m => obtain ⟨_, h⟩ := readValue_nat hPre (k + 1) depth level hFits hEnd p; exact ⟨_, _, h, rfl⟩
    | int i => exact (hFits : False).elim
    | float x => exact (hFits : False).elim
    | str s => obtain ⟨_, h⟩ := readValue_str hPre (k + 1) depth level s rest p; exact ⟨_, _, h, rfl⟩
    | arr vs =>
      obtain ⟨hV, -, hI⟩ := hPrev k rfl
      exact readValue_arr hV hI hFits hPre rest hLength p
    | obj ms =>
      obtain ⟨hV, hM, -⟩ := hPrev k rfl
      exact readValue_obj hV hM hFits hPre rest hLength p

/-- Fuel at least one more than the length of the text is enough to read back every value that
fits, and the members and items of every list and object that fit. -/
theorem reads_of_fuel (n : Nat) : ReadsValues n ∧ ReadsMembers n ∧ ReadsItems n := by
  induction n using Nat.strong_induction_on with
  | _ n ih =>
    cases n with
    | zero =>
      -- no text is shorter than nothing
      exact ⟨fun _ _ _ _ _ _ _ _ h => absurd h (Nat.not_lt_zero _),
        fun _ _ _ _ _ _ h => absurd h (Nat.not_lt_zero _),
        fun _ _ _ _ _ _ h => absurd h (Nat.not_lt_zero _)⟩
    | succ n =>
      obtain ⟨hV, hM, hI⟩ := ih n (Nat.lt_succ_self n)
      exact ⟨readsValues_succ (fun k hk => ih k (by omega)), readsMembers_succ hV hM,
        readsItems_succ hV hI⟩

/-- The pretty text of a value that fits the reader's depth reads back as that value, with
nothing after it. -/
theorem readDocument_pretty {v : Json} (hFits : FitsIn maxDepth v) :
    ∃ node, readDocument (pretty 0 v) = (node, none) ∧ ReadAs v node := by
  have hRead := (reads_of_fuel ((pretty 0 v).toList.length + 2)).1 0 0 v hFits [] (by simp) []
    (by simp [EndsNumber]) (by simp) Pos.origin
  simp only [List.nil_append, List.append_nil] at hRead
  obtain ⟨node, q, hNode, hAs⟩ := hRead
  refine ⟨node, ?_, hAs⟩
  simp [readDocument, Cursor.ofString, hNode, Cursor.skipBlanks]

end CrashTest.Json
