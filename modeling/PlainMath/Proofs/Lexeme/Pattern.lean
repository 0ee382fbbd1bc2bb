/-
# `Proofs.Lexeme.Pattern` — the forms of lexemes as patterns

The ten forms of lexemes are written down as patterns, and a source is cut at the first match of
the first pattern that has one.

    the first match of each of the ten patterns        (`prefers_pattern`)
    and of all ten, tried in order                     (`alternation_cons`)

None of the searches has to go back: where a pattern goes on at all, it goes on with what it found
first.
-/
import PlainMath.Proofs.Lexeme
import PlainMath.Proofs.Text.Pattern

namespace PlainMath.Lexeme

open Text (Pattern run run? run_cons)
open Text.Pattern

/-! ## The ten patterns -/

def digits : Pattern := .atLeastOne Char.isDigit

/-- A point and digits. -/
def fractionPart : Pattern := .seq (.char '.') digits

/-- Digits, and a fraction if there is one. -/
def mantissa : Pattern := .seq digits (.maybe fractionPart)

/-- Digits, and a sign before them if there is one. -/
def signedDigits : Pattern := .seq (.maybe (.one ['+', '-'].contains)) digits

/-- The mark of an exponent, a sign if there is one, and digits. -/
def exponentPart : Pattern := .seq (.one ['e', 'E'].contains) signedDigits

/-- Characters up to the end of the line. -/
def restOfLine : Pattern := .many (· != '\n')

/-- The lexemes of each form. -/
def Form.pattern : Form → Pattern
  | .comment =>
    .either (.seq (.char '/') (.seq (.char '/') restOfLine)) (.seq (.char '#') restOfLine)
  | .newline => .char '\n'
  | .blanks => .atLeastOne [' ', '\t', '\r'].contains
  | .fraction => .seq (.char '\\') (.char '\\')
  | .doubleDollar => .seq (.char '$') (.char '$')
  | .dollar => .char '$'
  | .number => .seq mantissa (.maybe exponentPart)
  | .word => .seq (.one fun c => c.isAlpha || c == '_') (.many fun c => c.isAlphanum || c == '_')
  | .symbol =>
    .one ['(', ')', '[', ']', '\x7b', '\x7d', ',', '+', '-', '*', '/', '%', '^', '='].contains
  | .other => .one fun _ => true

/-- The forms in the order in which they are tried. -/
def Form.inOrder : List Form :=
  [.comment, .newline, .blanks, .fraction, .doubleDollar, .dollar, .number, .word, .symbol, .other]

/-- The preferred match of the first pattern that has any: its form, and what is left behind it. -/
def alternation (cs : List Char) : Option (Form × List Char) :=
  Form.inOrder.findSome? fun form =>
    (form.pattern.ends cs 0).head?.map fun n => (form, cs.drop n)

/-! ## Numerals -/

/-- A length that is not zero. -/
def nonzero? (n : Nat) : Option Nat := if n = 0 then none else some n

theorem prefers_digits : digits.Prefers fun ds => nonzero? (run Char.isDigit ds) :=
  prefers_atLeastOne Char.isDigit

/-- A mark and something behind it, if it is there. -/
theorem prefers_maybe_marked {b : Pattern} {f : List Char → Nat} (p : Char → Bool)
    (hb : b.Prefers fun ds => nonzero? (f ds)) :
    (Pattern.maybe (.seq (.one p) b)).Prefers fun ds => some (marked p f ds) := by
  refine (((prefers_one p).seq hb ((sole_one p).commits b)).maybe).congr fun ds => ?_
  cases ds with
  | nil => rfl
  | cons c ds => cases hc : p c <;> by_cases hf : f ds = 0 <;>
      simp [andThen, nonzero?, marked, hc, hf, Nat.add_comm]

theorem prefers_fractionPart :
    (Pattern.maybe fractionPart).Prefers fun ds => some (fractionReach ds) := by
  rw [fractionReach_eq]
  exact prefers_maybe_marked (· == '.') prefers_digits

theorem contains_pair (d e c : Char) : [d, e].contains c = (c == d || c == e) := by
  simp only [List.contains_cons, List.contains_nil, Bool.or_false]

theorem not_digit_of_sign (c : Char) (h : ['+', '-'].contains c = true) : c.isDigit = false := by
  rw [contains_pair, Bool.or_eq_true, beq_iff_eq, beq_iff_eq] at h
  rcases h with rfl | rfl <;> rfl

theorem prefers_signedDigits :
    signedDigits.Prefers fun ds => nonzero? (exponentDigitsReach ds) := by
  have hcommits : Commits (.maybe (.one ['+', '-'].contains)) digits :=
    (refuses_atLeastOne not_digit_of_sign).commits_maybe_one
  refine ((prefers_one _).maybe.seq prefers_digits hcommits).congr fun ds => ?_
  cases ds with
  | nil => rfl
  | cons s ds =>
      simp only [andThen, List.head?_cons, Option.any_some, contains_pair, exponentDigitsReach]
      cases s == '+' || s == '-' with
      | false => simp
      | true => by_cases hzero : run Char.isDigit ds = 0 <;> simp [nonzero?, hzero, Nat.add_comm]

theorem prefers_exponentPart :
    (Pattern.maybe exponentPart).Prefers fun ds => some (exponentReach ds) := by
  have hmark : (fun c => c == 'e' || c == 'E') = ['e', 'E'].contains :=
    funext fun c => (contains_pair 'e' 'E' c).symm
  rw [exponentReach_eq, hmark]
  exact prefers_maybe_marked _ prefers_signedDigits

theorem prefers_mantissa :
    mantissa.Prefers (andThen (fun ds => nonzero? (run Char.isDigit ds))
      fun ds => some (fractionReach ds)) :=
  prefers_digits.seq prefers_fractionPart (prefers_fractionPart.commits _)

theorem length?_mantissa {c : Char} (hc : c.isDigit = true) (cs : List Char) :
    andThen (fun ds => nonzero? (run Char.isDigit ds)) (fun ds => some (fractionReach ds))
        (c :: cs) =
      some (run Char.isDigit cs + fractionReach (cs.drop (run Char.isDigit cs)) + 1) := by
  simp only [andThen, nonzero?, run_cons, hc, if_true, Nat.succ_ne_zero, if_false,
    Option.bind_some, Option.map_some, List.drop_succ_cons, Nat.add_right_comm _ 1]

/-! ## The first match of each pattern -/

/-- Whether a lexeme of the form can begin with these characters. -/
def Form.opens (c : Char) (cs : List Char) : Form → Bool
  | .comment => c == '#' || (c == '/' && cs.head? == some '/')
  | .newline => c == '\n'
  | .blanks => isGap c
  | .fraction => c == '\\' && cs.head? == some '\\'
  | .doubleDollar => c == '$' && cs.head? == some '$'
  | .dollar => c == '$'
  | .number => c.isDigit
  | .word => isWordStart c
  | .symbol => (symbolKind? c).isSome
  | .other => true

/-- How far a lexeme of the form goes on behind its first character. -/
def Form.extent (cs : List Char) : Form → Nat
  | .comment => run (· != '\n') cs
  | .blanks => run isGap cs
  | .fraction | .doubleDollar => 1
  | .number => numberReach cs
  | .word => run isWordPart cs
  | .newline | .dollar | .symbol | .other => 0

/-- The length of a lexeme of the form at the front. -/
def Form.length? (form : Form) : List Char → Option Nat
  | [] => none
  | c :: cs => if form.opens c cs then some (form.extent cs + 1) else none

theorem pattern_blanks : Form.blanks.pattern = .atLeastOne isGap := by
  have hclass : ∀ c, [' ', '\t', '\r'].contains c = isGap c := fun c => by
    simp only [List.contains_cons, List.contains_nil, Bool.or_false, isGap, Bool.or_assoc]
  exact congrArg Pattern.atLeastOne (funext hclass)

theorem isSome_lookup (c : Char) (table : List (Char × Kind)) :
    (table.lookup c).isSome = (table.map (·.1)).contains c := by
  induction table with
  | nil => rfl
  | cons entry table ih =>
      rw [List.lookup_cons, List.map_cons, List.contains_cons, ← ih]
      cases c == entry.1 <;> rfl

theorem pattern_symbol : Form.symbol.pattern = .one fun c => (symbolKind? c).isSome :=
  congrArg Pattern.one (funext fun c => (isSome_lookup c symbols).symm)

theorem prefers_single {form : Form} {p : Char → Bool} (hopens : ∀ c cs, form.opens c cs = p c)
    (hextent : ∀ cs, form.extent cs = 0) : (Pattern.one p).Prefers form.length? := by
  refine (prefers_one p).congr fun ds => ?_
  cases ds with
  | nil => rfl
  | cons c ds => rw [Form.length?, hopens, hextent]; rfl

theorem prefers_run {form : Form} {p q : Char → Bool} (hopens : ∀ c cs, form.opens c cs = p c)
    (hextent : ∀ cs, form.extent cs = run q cs) :
    (Pattern.seq (.one p) (.many q)).Prefers form.length? := by
  refine ((prefers_one p).seq (prefers_many q) ((sole_one p).commits _)).congr fun ds => ?_
  cases ds with
  | nil => rfl
  | cons c ds =>
      rw [Form.length?, hopens, hextent]
      cases hc : p c <;> simp [andThen, hc, Nat.add_comm]

theorem prefers_pair {form : Form} {d : Char}
    (hopens : ∀ c cs, form.opens c cs = (c == d && cs.head? == some d))
    (hextent : ∀ cs, form.extent cs = 1) :
    (Pattern.seq (.char d) (.char d)).Prefers form.length? := by
  refine ((prefers_char d).seq (prefers_char d) ((sole_char d).commits _)).congr fun ds => ?_
  rcases ds with _ | ⟨c, _ | ⟨e, ds⟩⟩
  · rfl
  · simp [Form.length?, hopens, andThen]
  · by_cases hc : c = d <;> by_cases he : e = d <;>
      simp [Form.length?, hopens, hextent, andThen, hc, he]

theorem prefers_comment : Form.comment.pattern.Prefers Form.comment.length? := by
  have hline := prefers_many (· != '\n')
  have hslash := (prefers_char '/').seq hline ((sole_char '/').commits _)
  have hslashes := (prefers_char '/').seq hslash ((sole_char '/').commits _)
  have hhash := (prefers_char '#').seq hline ((sole_char '#').commits _)
  refine (hslashes.either hhash).congr fun ds => ?_
  rcases ds with _ | ⟨c, _ | ⟨d, ds⟩⟩
  · rfl
  · by_cases hhash : c = '#' <;> simp [andThen, Form.length?, Form.opens, Form.extent, hhash, run]
  · by_cases hslash : c = '/'
    · by_cases hd : d = '/' <;>
        simp [andThen, Form.length?, Form.opens, Form.extent, hslash, hd, run_cons, Nat.add_comm]
    · by_cases hhash : c = '#' <;>
        simp [andThen, Form.length?, Form.opens, Form.extent, hslash, hhash, Nat.add_comm]

theorem prefers_number : Form.number.pattern.Prefers Form.number.length? := by
  refine (prefers_mantissa.seq prefers_exponentPart (prefers_exponentPart.commits _)).congr
    fun ds => ?_
  cases ds with
  | nil => rfl
  | cons c ds =>
      cases hc : c.isDigit with
      | false => simp [andThen, nonzero?, Form.length?, Form.opens, run_cons, hc]
      | true =>
          rw [andThen, length?_mantissa hc ds]
          simp only [Form.length?, Form.opens, Form.extent, numberReach, hc, if_true,
            Option.bind_some, Option.map_some, List.drop_succ_cons, Nat.add_right_comm _ 1]

/-- The first match of each pattern. -/
theorem prefers_pattern (form : Form) : form.pattern.Prefers form.length? := by
  cases form with
  | comment => exact prefers_comment
  | newline | dollar | other => exact prefers_single (fun _ _ => rfl) fun _ => rfl
  | blanks => exact pattern_blanks ▸ prefers_run (fun _ _ => rfl) fun _ => rfl
  | fraction | doubleDollar => exact prefers_pair (fun _ _ => rfl) fun _ => rfl
  | number => exact prefers_number
  | word => exact prefers_run (fun _ _ => rfl) fun _ => rfl
  | symbol => exact pattern_symbol ▸ prefers_single (fun _ _ => rfl) fun _ => rfl

theorem head?_ends (c : Char) (cs : List Char) (form : Form) :
    (form.pattern.ends (c :: cs) 0).head? =
      if form.opens c cs then some (form.extent cs + 1) else none := by
  rw [prefers_pattern form, List.drop_zero, Form.length?]
  split <;> simp

/-! ## Alternatives -/

theorem find?_cons_ite {α : Type} (p : α → Bool) (a : α) (l : List α) :
    (a :: l).find? p = if p a then some a else l.find? p := by
  rw [List.find?_cons]
  cases p a <;> rfl

/-- The form of the first lexeme is the first one that can begin there. -/
theorem find?_opens (c : Char) (cs : List Char) :
    Form.inOrder.find? (Form.opens c cs) = some (reach c cs).1 := by
  simp only [Form.inOrder, find?_cons_ite, Form.opens, reach]
  split
  · rfl
  split
  · rfl
  split
  · rfl
  split
  · rfl
  grind

theorem opens_reach (c : Char) (cs : List Char) : (reach c cs).1.opens c cs = true :=
  List.find?_some (find?_opens c cs)

theorem reach_snd (c : Char) (cs : List Char) : (reach c cs).2 = (reach c cs).1.extent cs := by
  unfold reach
  repeat' split
  all_goals rfl

/-- The source is cut at the preferred match of the first pattern that has any. -/
theorem alternation_cons (c : Char) (cs : List Char) :
    alternation (c :: cs) = some ((first c cs).form, behind c cs) := by
  obtain ⟨hopens, before, after, horder, hbefore⟩ :=
    List.find?_eq_some_iff_append.mp (find?_opens c cs)
  refine List.findSome?_eq_some_iff.mpr ⟨before, (reach c cs).1, after, horder, ?_, ?_⟩
  · rw [head?_ends, if_pos hopens, ← reach_snd]
    rfl
  · intro form hform
    rw [head?_ends, if_neg (by simpa using hbefore form hform)]
    rfl

end PlainMath.Lexeme
