/-
# `Proofs.Text.Quoted` — a text can be read back from its quotation

Escapes are undone one character at a time (`unescape`).  What stands for a character is read as
that character, whatever follows it (`unescape_quotedChar`), so that no two texts have the same
quotation (`quoted_injective`).
-/
import Mathlib.Data.Nat.Digits.Defs
import Mathlib.Tactic.SplitIfs
import PlainMath.Text.Quoted

namespace PlainMath.Text

/-! ## Digits in base sixteen -/

/-- The value of a digit in base sixteen. -/
def hexDigitValue (c : Char) : Nat :=
  if c.toNat < 'a'.toNat then c.toNat - '0'.toNat else c.toNat - 'a'.toNat + 10

/-- The value of digits in base sixteen. -/
def hexValue (cs : List Char) : Nat := cs.foldl (fun n c => 16 * n + hexDigitValue c) 0

theorem hexDigitValue_digitChar {n : Nat} (h : n < 16) : hexDigitValue n.digitChar = n := by
  have htable : ∀ n < 16, hexDigitValue n.digitChar = n := by decide
  exact htable n h

theorem hexValue_toDigits (n : Nat) : hexValue (Nat.toDigits 16 n) = n := by
  induction n using Nat.strong_induction_on with
  | _ n ih =>
      by_cases h : n < 16
      · rw [Nat.toDigits_of_lt_base h]
        simp [hexValue, hexDigitValue_digitChar h]
      · have hvalue := ih (n / 16) (by omega)
        rw [Nat.toDigits_of_base_le (by decide) (by omega), hexValue, List.foldl_append]
        rw [hexValue] at hvalue
        rw [hvalue, List.foldl_cons, List.foldl_nil,
          hexDigitValue_digitChar (Nat.mod_lt n (by decide))]
        omega

theorem hexValue_hexDigits (width n : Nat) : hexValue (hexDigits width n) = n := by
  have hzeros : ∀ k, (List.replicate k '0').foldl (fun n c => 16 * n + hexDigitValue c) 0 = 0 := by
    intro k
    induction k with
    | zero => rfl
    | succ k ih => exact ih
  rw [hexDigits, hexValue, List.foldl_append, hzeros]
  exact hexValue_toDigits n

theorem length_hexDigits {width n : Nat} (hwidth : 0 < width) (h : n < 16 ^ width) :
    (hexDigits width n).length = width := by
  have hlength := Nat.toDigits_length 16 n width hwidth h
  simp only [hexDigits, List.length_append, List.length_replicate]
  omega

/-! ## Escapes -/

/-- Reads so many digits as the number of a character. -/
def unescapeNumber (width : Nat) (cs : List Char) : Char × List Char :=
  (Char.ofNat (hexValue (cs.take width)), cs.drop width)

/-- Reads one character between quotes, and gives what follows it. -/
def unescape : List Char → Option (Char × List Char)
  | [] => none
  | '\\' :: 'n' :: rest => some ('\n', rest)
  | '\\' :: 't' :: rest => some ('\t', rest)
  | '\\' :: 'r' :: rest => some ('\r', rest)
  | '\\' :: 'x' :: rest => some (unescapeNumber 2 rest)
  | '\\' :: 'u' :: rest => some (unescapeNumber 4 rest)
  | '\\' :: 'U' :: rest => some (unescapeNumber 8 rest)
  | '\\' :: c :: rest => some (c, rest)
  | c :: rest => some (c, rest)

theorem unescapeNumber_hexDigits {width : Nat} (hwidth : 0 < width) {c : Char}
    (h : c.toNat < 16 ^ width) (rest : List Char) :
    unescapeNumber width (hexDigits width c.toNat ++ rest) = (c, rest) := by
  have hlength := length_hexDigits hwidth h
  rw [unescapeNumber, List.take_left' hlength, List.drop_left' hlength, hexValue_hexDigits,
    Char.ofNat_toNat]

/-- A character that is not a backslash stands for itself. -/
theorem unescape_cons {c : Char} (h : c ≠ '\\') (rest : List Char) :
    unescape (c :: rest) = some (c, rest) := by
  unfold unescape
  split <;> simp_all

/-- What stands for a character is read as that character. -/
theorem unescape_quotedChar {q : Char} (hq : q = '\'' ∨ q = '"') (c : Char) (rest : List Char) :
    unescape (quotedChar q c ++ rest) = some (c, rest) := by
  unfold quotedChar
  split_ifs with hself hline htab hreturn hplain hshort hmiddle
  · obtain rfl | rfl : c = q ∨ c = '\\' := by simpa using hself
    · rcases hq with rfl | rfl <;> rfl
    · rfl
  · obtain rfl : c = '\n' := by simpa using hline
    rfl
  · obtain rfl : c = '\t' := by simpa using htab
    rfl
  · obtain rfl : c = '\r' := by simpa using hreturn
    rfl
  · have hbackslash : c ≠ '\\' := by simp_all
    exact unescape_cons hbackslash rest
  · exact congrArg some (unescapeNumber_hexDigits (by decide) hshort rest)
  · exact congrArg some (unescapeNumber_hexDigits (by decide) hmiddle rest)
  · exact congrArg some (unescapeNumber_hexDigits (by decide) c.val.toNat_lt rest)

/-! ## Texts -/

theorem flatMap_quotedChar_injective {q : Char} (hq : q = '\'' ∨ q = '"') :
    ∀ {s t : List Char}, s.flatMap (quotedChar q) = t.flatMap (quotedChar q) → s = t := by
  intro s
  induction s with
  | nil =>
      intro t h
      cases t with
      | nil => rfl
      | cons c t =>
          have hread := unescape_quotedChar hq c (t.flatMap (quotedChar q))
          rw [← List.flatMap_cons, ← h] at hread
          cases hread
  | cons c s ih =>
      intro t h
      have hread := unescape_quotedChar hq c (s.flatMap (quotedChar q))
      rw [← List.flatMap_cons, h] at hread
      cases t with
      | nil => cases hread
      | cons d t =>
          rw [List.flatMap_cons, unescape_quotedChar hq] at hread
          obtain ⟨rfl, hrest⟩ := Prod.mk.inj (Option.some.inj hread)
          rw [ih hrest.symm]

theorem quoteFor_cases (cs : List Char) : quoteFor cs = '\'' ∨ quoteFor cs = '"' := by
  unfold quoteFor
  split
  · exact .inr rfl
  · exact .inl rfl

/-- No two texts have the same quotation. -/
theorem quoted_injective {s t : String} (h : quoted s = quoted t) : s = t := by
  simp only [quoted, String.ofList_inj, List.cons_append, List.cons.injEq] at h
  obtain ⟨hquote, hbody⟩ := h
  rw [hquote, List.append_left_inj] at hbody
  exact String.toList_inj.mp (flatMap_quotedChar_injective (quoteFor_cases _) hbody)

end PlainMath.Text
