/-
# `Proofs.Number.Spelling` — numerals

A numeral is digits, perhaps a point and more digits, perhaps a mark, a sign and an exponent.
`Spells cs d` says that the characters `cs` are a numeral and that `d` is the decimal it stands
for, with the digits as they are written: `10`, `10.0` and `1e1` spell three decimals of one
value.

    a numeral is read as the decimal that it spells      (`Spells.read?_eq`)
    the lexeme of a number is a numeral                  (`spells_number`)

What is written for a number is a numeral too; that is the subject of `Proofs.Number.ReadBack`.
-/
import Mathlib.Data.List.TakeWhile
import PlainMath.Number.Shortest
import PlainMath.Proofs.Lexeme

namespace PlainMath.Decimal

/-! ## Numerals -/

/-- At least one digit and nothing else. -/
def IsDigits (cs : List Char) : Prop := cs ≠ [] ∧ ∀ c ∈ cs, c.isDigit = true

/-- The fractional part of a numeral, and its digits. -/
inductive SpellsFraction : List Char → List Char → Prop where
  | absent : SpellsFraction [] []
  | point {ds : List Char} : IsDigits ds → SpellsFraction ('.' :: ds) ds

/-- The exponent of a numeral, and its value. -/
inductive SpellsExponent : List Char → Int → Prop where
  | absent : SpellsExponent [] 0
  | unsigned {mark : Char} {ds : List Char} :
      mark = 'e' ∨ mark = 'E' → IsDigits ds → SpellsExponent (mark :: ds) (digitsValue ds)
  | plus {mark : Char} {ds : List Char} :
      mark = 'e' ∨ mark = 'E' → IsDigits ds → SpellsExponent (mark :: '+' :: ds) (digitsValue ds)
  | minus {mark : Char} {ds : List Char} :
      mark = 'e' ∨ mark = 'E' → IsDigits ds → SpellsExponent (mark :: '-' :: ds) (-digitsValue ds)

/-- The characters are a numeral, and this is its decimal. -/
inductive Spells : List Char → Decimal → Prop where
  | numeral {whole f fs x : List Char} {e : Int} :
      IsDigits whole → SpellsFraction f fs → SpellsExponent x e →
      Spells (whole ++ (f ++ x)) (ofParts whole fs e)

theorem IsDigits.append {ds rest : List Char} (hds : IsDigits ds)
    (hrest : ∀ c ∈ rest, c.isDigit = true) : IsDigits (ds ++ rest) :=
  ⟨List.append_ne_nil_of_left_ne_nil hds.1 rest, List.forall_mem_append.mpr ⟨hds.2, hrest⟩⟩

/-! ## Reading -/

/-- The characters do not go on with a digit. -/
def NoDigitFirst (cs : List Char) : Prop := ∀ c ∈ cs.head?, c.isDigit = false

theorem IsDigits.first {ds : List Char} (h : IsDigits ds) :
    ∃ d rest, ds = d :: rest ∧ d.isDigit = true := by
  cases ds with
  | nil => exact absurd rfl h.1
  | cons d rest => exact ⟨d, rest, rfl, h.2 d List.mem_cons_self⟩

theorem splitSign_of_isDigit {d : Char} (hd : d.isDigit = true) (rest : List Char) :
    splitSign (d :: rest) = (false, d :: rest) := by
  have hminus : d ≠ '-' := by
    rintro rfl
    cases hd
  have hplus : d ≠ '+' := by
    rintro rfl
    cases hd
  simp [splitSign, hminus, hplus]

theorem IsDigits.all {ds : List Char} (h : IsDigits ds) :
    (!ds.isEmpty && ds.all Char.isDigit) = true := by
  simpa [IsDigits] using h

theorem IsDigits.readExponent?_eq {ds : List Char} (h : IsDigits ds) :
    readExponent? ds = some (digitsValue ds : Int) := by
  obtain ⟨d, rest, rfl, hd⟩ := h.first
  simp only [readExponent?, splitSign_of_isDigit hd, h.all, if_true]
  rfl

/-- An exponent that is written starts with its mark, and the rest of it is read back. -/
theorem SpellsExponent.cases {x : List Char} {e : Int} (h : SpellsExponent x e) :
    (x = [] ∧ e = 0) ∨
      ∃ mark r, x = mark :: r ∧ (mark = 'e' ∨ mark = 'E') ∧ readExponent? r = some e := by
  cases h with
  | absent => exact .inl ⟨rfl, rfl⟩
  | unsigned hmark hds => exact .inr ⟨_, _, rfl, hmark, hds.readExponent?_eq⟩
  | plus hmark hds => exact .inr ⟨_, _, rfl, hmark, by simp [readExponent?, splitSign, hds.all]⟩
  | minus hmark hds => exact .inr ⟨_, _, rfl, hmark, by simp [readExponent?, splitSign, hds.all]⟩

theorem isDigit_mark {mark : Char} (h : mark = 'e' ∨ mark = 'E') : mark.isDigit = false := by
  rcases h with rfl | rfl <;> rfl

theorem SpellsExponent.noDigitFirst {x : List Char} {e : Int} (h : SpellsExponent x e) :
    NoDigitFirst x := by
  rcases h.cases with ⟨rfl, -⟩ | ⟨mark, r, rfl, hmark, -⟩
  · simp [NoDigitFirst]
  · simpa [NoDigitFirst] using isDigit_mark hmark

theorem SpellsFraction.noDigitFirst {f fs x : List Char} {e : Int} (hf : SpellsFraction f fs)
    (hx : SpellsExponent x e) : NoDigitFirst (f ++ x) := by
  cases hf with
  | absent => exact hx.noDigitFirst
  | point _ => simp [NoDigitFirst]

theorem Spells.read?_eq {cs : List Char} {d : Decimal} (h : Spells cs d) : read? cs = some d := by
  obtain @⟨whole, f, fs, x, e, hwhole, hf, hx⟩ := h
  have hstop := hf.noDigitFirst hx
  have hsome : whole.isEmpty = false := by simpa using hwhole.1
  simp only [read?, Text.takeWhile_append_of_stop hwhole.2 hstop,
    Text.dropWhile_append_of_stop hwhole.2 hstop, hsome, Bool.false_and]
  cases hf with
  | point hds =>
      simp only [List.cons_append, Text.takeWhile_append_of_stop hds.2 hx.noDigitFirst,
        Text.dropWhile_append_of_stop hds.2 hx.noDigitFirst]
      rcases hx.cases with ⟨rfl, rfl⟩ | ⟨mark, r, rfl, hmark, hread⟩
      · rfl
      · simp [hmark, hread]
  | absent =>
      rcases hx.cases with ⟨rfl, rfl⟩ | ⟨mark, r, rfl, rfl | rfl, hread⟩
      · rfl
      · simp [hread]
      · simp [hread]

/-! ## The characters of a numeral -/

/-- The characters that numerals are made of. -/
def isNumeralChar (c : Char) : Bool :=
  c.isDigit || c == '.' || c == 'e' || c == 'E' || c == '+' || c == '-'

theorem isNumeralChar_of_isDigit {c : Char} (h : c.isDigit = true) : isNumeralChar c = true := by
  simp [isNumeralChar, h]

theorem SpellsFraction.chars {f fs : List Char} (h : SpellsFraction f fs) :
    ∀ c ∈ f, isNumeralChar c = true := by
  cases h with
  | absent => simp
  | point hds =>
      exact List.forall_mem_cons.mpr ⟨rfl, fun c hc => isNumeralChar_of_isDigit (hds.2 c hc)⟩

theorem SpellsExponent.chars {x : List Char} {e : Int} (h : SpellsExponent x e) :
    ∀ c ∈ x, isNumeralChar c = true := by
  have hmark : ∀ {mark : Char}, mark = 'e' ∨ mark = 'E' → isNumeralChar mark = true := by
    rintro mark (rfl | rfl) <;> rfl
  have hdigits : ∀ {ds : List Char}, IsDigits ds → ∀ c ∈ ds, isNumeralChar c = true :=
    fun hds c hc => isNumeralChar_of_isDigit (hds.2 c hc)
  cases h with
  | absent => simp
  | unsigned hm hds => exact List.forall_mem_cons.mpr ⟨hmark hm, hdigits hds⟩
  | plus hm hds | minus hm hds =>
      exact List.forall_mem_cons.mpr ⟨hmark hm, List.forall_mem_cons.mpr ⟨rfl, hdigits hds⟩⟩

theorem Spells.chars {cs : List Char} {d : Decimal} (h : Spells cs d) :
    ∀ c ∈ cs, isNumeralChar c = true := by
  obtain ⟨hwhole, hf, hx⟩ := h
  refine List.forall_mem_append.mpr
    ⟨fun c hc => isNumeralChar_of_isDigit (hwhole.2 c hc), ?_⟩
  exact List.forall_mem_append.mpr ⟨hf.chars, hx.chars⟩

theorem Spells.first {cs : List Char} {d : Decimal} (h : Spells cs d) :
    ∃ c rest, cs = c :: rest ∧ c.isDigit = true := by
  obtain ⟨hwhole, hf, hx⟩ := h
  obtain ⟨c, rest, rfl, hc⟩ := hwhole.first
  exact ⟨c, _, rfl, hc⟩

/-! ## The lexeme of a number -/

section Lexeme
open Lexeme
open Text (run take_run)

theorem isDigits_take_run {cs : List Char} (h : run Char.isDigit cs ≠ 0) :
    IsDigits (cs.take (run Char.isDigit cs)) := by
  rw [take_run]
  refine ⟨fun hnil => h (by simp [run, hnil]), fun c hc => List.mem_takeWhile_imp hc⟩

theorem spellsFraction_take (cs : List Char) :
    ∃ fs, SpellsFraction (cs.take (fractionReach cs)) fs := by
  cases cs with
  | nil => exact ⟨_, .absent⟩
  | cons c r =>
      by_cases hc : c = '.'
      · subst hc
        by_cases hrun : run Char.isDigit r = 0
        · simpa [fractionReach, hrun] using ⟨_, SpellsFraction.absent⟩
        · simpa [fractionReach, hrun] using ⟨_, SpellsFraction.point (isDigits_take_run hrun)⟩
      · simpa [fractionReach, hc] using ⟨_, SpellsFraction.absent⟩

theorem spellsExponent_take (cs : List Char) :
    ∃ e, SpellsExponent (cs.take (exponentReach cs)) e := by
  cases cs with
  | nil => exact ⟨_, .absent⟩
  | cons m r =>
      by_cases hm : m = 'e' ∨ m = 'E'
      · have hbeq : (m == 'e' || m == 'E') = true := by simpa using hm
        simp only [exponentReach, hbeq, if_true]
        by_cases hreach : exponentDigitsReach r = 0
        · simpa [hreach] using ⟨_, SpellsExponent.absent⟩
        · rw [if_neg hreach, List.take_succ_cons]
          -- at least one digit is there, behind a sign or not
          cases r with
          | nil => exact absurd rfl hreach
          | cons s r =>
              simp only [exponentDigitsReach] at hreach ⊢
              by_cases hs : (s == '+' || s == '-') = true
              · rw [if_pos hs] at hreach ⊢
                by_cases hrun : run Char.isDigit r = 0
                · simp [hrun] at hreach
                · rw [if_neg hrun, List.take_succ_cons]
                  have hdigits := isDigits_take_run hrun
                  simp only [Bool.or_eq_true, beq_iff_eq] at hs
                  rcases hs with rfl | rfl
                  · exact ⟨_, .plus hm hdigits⟩
                  · exact ⟨_, .minus hm hdigits⟩
              · rw [if_neg hs] at hreach ⊢
                exact ⟨_, .unsigned hm (isDigits_take_run hreach)⟩
      · have hbeq : (m == 'e' || m == 'E') = false := by simpa using hm
        simpa [exponentReach, hbeq] using ⟨_, SpellsExponent.absent⟩

/-- The lexeme of a number is a numeral. -/
theorem spells_number {c : Char} (hc : c.isDigit = true) (cs : List Char) :
    ∃ d, Spells (c :: cs.take (numberReach cs)) d := by
  obtain ⟨fs, hf⟩ := spellsFraction_take (cs.drop (run Char.isDigit cs))
  obtain ⟨e, hx⟩ := spellsExponent_take
    (cs.drop (run Char.isDigit cs + fractionReach (cs.drop (run Char.isDigit cs))))
  have hwhole : IsDigits (c :: cs.take (run Char.isDigit cs)) := by
    refine ⟨List.cons_ne_nil _ _, List.forall_mem_cons.mpr ⟨hc, ?_⟩⟩
    rw [take_run]
    exact fun d hd => List.mem_takeWhile_imp hd
  have h := Spells.numeral hwhole hf hx
  rw [numberReach, List.take_add, List.take_add, List.append_assoc]
  exact ⟨_, h⟩

end Lexeme

end PlainMath.Decimal
