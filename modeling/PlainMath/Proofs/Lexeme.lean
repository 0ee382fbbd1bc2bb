/-
# `Proofs.Lexeme` — how far a lexeme goes

Everything that later modules need of the way a source is cut:

    the lexemes can be taken one by one         (`ofSource_cons`, `cut_induction`)
    none looks behind the end of its line       (`reach_le`, `reach_append_newline`)
    a source is cut at each of its line ends    (`ofSource_append_newline`)
    what the lexemes of each form are           (`Fits`, `first_fits`)

The second line carries the rest.  A reach that is bounded by the characters it is given, and
that does not change when a line end and more are added behind them, cannot contain a line
end; so neither fact has to be proved for the characters themselves.  For numerals both come
from one law, which also covers a blank behind the numeral (`Settles`).
-/
import PlainMath.Lexeme
import PlainMath.Proofs.Text.Run

namespace PlainMath.Lexeme

open Text (run run_le_length run_append run_take_append take_run drop_run)

/-! ## One lexeme after another -/

theorem cut_eq_drop : ∀ (skip : Nat) (cs : List Char), cut skip cs = cut 0 (cs.drop skip)
  | 0, _ => rfl
  | _ + 1, [] => rfl
  | skip + 1, _ :: cs => cut_eq_drop skip cs

/-- The lexeme at the front of a source that is not empty. -/
def first (c : Char) (cs : List Char) : Lexeme :=
  ⟨(reach c cs).1, c :: cs.take (reach c cs).2⟩

/-- What is left of the source behind its first lexeme. -/
def behind (c : Char) (cs : List Char) : List Char := cs.drop (reach c cs).2

theorem ofSource_cons (c : Char) (cs : List Char) :
    ofSource (c :: cs) = first c cs :: ofSource (behind c cs) := by
  simp only [ofSource, cut, first, behind]
  rw [cut_eq_drop]

/-- The first lexeme and what is left make up the source. -/
theorem first_append_behind (c : Char) (cs : List Char) :
    (first c cs).chars ++ behind c cs = c :: cs := by
  simp [first, behind]

/-- Induction over the lexemes of a source. -/
theorem cut_induction {motive : List Char → Prop} (nil : motive [])
    (cons : ∀ c cs, motive (behind c cs) → motive (c :: cs)) : ∀ cs, motive cs
  | [] => nil
  | c :: cs => cons c cs (cut_induction nil cons (behind c cs))
termination_by cs => cs.length
decreasing_by simp only [behind, List.length_drop, List.length_cons]; omega

/-! ## Where a lexeme ends -/

/-- Nothing, or a blank or a line end and more. -/
def Stops (x : List Char) : Prop := ∀ c ∈ x.head?, c = ' ' ∨ c = '\n'

theorem stops_newline (b : List Char) : Stops ('\n' :: b) := by
  rintro c ⟨⟩
  exact .inr rfl

/-- The reach stays within the characters that it is given.  It does not change if they are cut
off somewhere behind it and a blank or a line end and more follow there. -/
def Settles (f : List Char → Nat) : Prop :=
  ∀ cs, f cs ≤ cs.length ∧ ∀ k x, f cs ≤ k → Stops x → f (cs.take k ++ x) = f cs

theorem Settles.append {f : List Char → Nat} (hf : Settles f) {x : List Char} (hx : Stops x)
    (cs : List Char) : f (cs ++ x) = f cs := by
  obtain ⟨hle, hsettled⟩ := hf cs
  have h := hsettled cs.length x hle hx
  rwa [List.take_length] at h

theorem run_settles {p : Char → Bool} (hblank : p ' ' = false) (hnewline : p '\n' = false) :
    Settles (run p) := by
  intro cs
  refine ⟨run_le_length p cs, fun k x hk hx => run_take_append ?_ cs k hk⟩
  intro c hc
  rcases hx c hc with rfl | rfl
  · exact hblank
  · exact hnewline

theorem digits_settle : Settles (run Char.isDigit) := run_settles (by decide) (by decide)

/-- A mark at the front with a reach behind it that is not empty. -/
def marked (p : Char → Bool) (f : List Char → Nat) : List Char → Nat
  | [] => 0
  | c :: cs => if p c then if f cs = 0 then 0 else f cs + 1 else 0

theorem Settles.marked {p : Char → Bool} {f : List Char → Nat} (hblank : p ' ' = false)
    (hnewline : p '\n' = false) (hf : Settles f) : Settles (marked p f) := by
  have hstop : ∀ x, Stops x → Lexeme.marked p f x = 0 := by
    intro x hx
    cases x with
    | nil => rfl
    | cons c x => rcases hx c rfl with rfl | rfl <;> simp [Lexeme.marked, hblank, hnewline]
  intro cs
  cases cs with
  | nil => exact ⟨Nat.le_refl 0, fun k x _ hx => by rw [List.take_nil]; exact hstop x hx⟩
  | cons c cs =>
      obtain ⟨hle, hsettled⟩ := hf cs
      refine ⟨?_, fun k x hk hx => ?_⟩
      · simp only [Lexeme.marked, List.length_cons]
        split
        · split <;> omega
        · omega
      · cases k with
        | zero => rw [Nat.le_zero.mp hk, List.take_zero, List.nil_append, hstop x hx]
        | succ k =>
            simp only [Lexeme.marked, List.take_succ_cons, List.cons_append] at hk ⊢
            cases hc : p c with
            | false => rfl
            | true =>
                have hcs : f cs ≤ k := by
                  simp only [hc, if_true] at hk
                  split at hk <;> omega
                rw [hsettled k x hcs hx]

theorem fractionReach_eq : fractionReach = marked (· == '.') (run Char.isDigit) := by
  funext cs
  cases cs with
  | nil => rfl
  | cons c cs =>
      by_cases hc : c = '.'
      · subst hc
        rfl
      · simp [fractionReach, marked, hc]

theorem exponentReach_eq :
    exponentReach = marked (fun c => c == 'e' || c == 'E') exponentDigitsReach := by
  funext cs
  cases cs <;> rfl

theorem exponentDigitsReach_settles : Settles exponentDigitsReach := by
  have hstop : ∀ x, Stops x → exponentDigitsReach x = 0 := by
    intro x hx
    cases x with
    | nil => rfl
    | cons c x => rcases hx c rfl with rfl | rfl <;> rfl
  intro cs
  cases cs with
  | nil => exact ⟨Nat.le_refl 0, fun k x _ hx => by rw [List.take_nil]; exact hstop x hx⟩
  | cons c cs =>
      -- the first character says what the reach is, whatever follows
      obtain ⟨f, hf, heq⟩ : ∃ f, Settles f ∧ ∀ cs, exponentDigitsReach (c :: cs) = f (c :: cs) := by
        cases hc : c == '+' || c == '-' with
        | true =>
            refine ⟨marked (fun c => c == '+' || c == '-') (run Char.isDigit),
              digits_settle.marked (by decide) (by decide), fun cs => ?_⟩
            simp only [exponentDigitsReach, marked, hc, if_true]
        | false =>
            refine ⟨run Char.isDigit, digits_settle, fun cs => ?_⟩
            simp only [exponentDigitsReach, hc, Bool.false_eq_true, if_false]
      refine ⟨heq cs ▸ (hf (c :: cs)).1, fun k x hk hx => ?_⟩
      cases k with
      | zero => rw [Nat.le_zero.mp hk, List.take_zero, List.nil_append, hstop x hx]
      | succ k =>
          have hsettled := (hf (c :: cs)).2 (k + 1) x (heq cs ▸ hk) hx
          rw [List.take_succ_cons, List.cons_append] at hsettled ⊢
          rw [heq, heq, hsettled]

/-- A reach that goes on where another one ends. -/
theorem Settles.add {f g : List Char → Nat} (hf : Settles f) (hg : Settles g) :
    Settles fun cs => f cs + g (cs.drop (f cs)) := by
  intro cs
  obtain ⟨hle, hsettled⟩ := hf cs
  obtain ⟨hle', hsettled'⟩ := hg (cs.drop (f cs))
  rw [List.length_drop] at hle'
  refine ⟨?_, fun k x hk hx => ?_⟩
  · show f cs + g (cs.drop (f cs)) ≤ cs.length
    omega
  · have hk : f cs + g (cs.drop (f cs)) ≤ k := hk
    have hdrop : (cs.take k ++ x).drop (f cs) = (cs.drop (f cs)).take (k - f cs) ++ x := by
      rw [List.drop_append_of_le_length (by rw [List.length_take]; omega), List.drop_take]
    simp only [hsettled k x (by omega) hx, hdrop, hsettled' (k - f cs) x (by omega) hx]

theorem numberReach_settles : Settles numberReach := by
  have hfraction : Settles fractionReach :=
    fractionReach_eq ▸ digits_settle.marked (by decide) (by decide)
  have hexponent : Settles exponentReach :=
    exponentReach_eq ▸ exponentDigitsReach_settles.marked (by decide) (by decide)
  have h := (digits_settle.add hfraction).add hexponent
  exact h

/-! ## Lexemes and lines -/

/-- The character behind the first one is looked at only within the line. -/
theorem head?_append_newline {d : Char} (hd : d ≠ '\n') (cs b : List Char) :
    ((cs ++ '\n' :: b).head? == some d) = (cs.head? == some d) := by
  cases cs with
  | nil => simpa using hd.symm
  | cons c cs => rfl

theorem reach_le (c : Char) (cs : List Char) : (reach c cs).2 ≤ cs.length := by
  have hrun : ∀ p, run p cs ≤ cs.length := fun p => run_le_length p cs
  have hnumber := (numberReach_settles cs).1
  unfold reach
  split
  · exact hrun _
  split
  · exact Nat.zero_le _
  split
  · exact hrun _
  split
  · next h =>
      cases cs with
      | nil => simp at h
      | cons d cs => simp
  split
  · split
    · next h =>
        cases cs with
        | nil => simp at h
        | cons d cs => simp
    · exact Nat.zero_le _
  split
  · exact hnumber
  split
  · exact hrun _
  split <;> exact Nat.zero_le _

/-- What stands behind the end of the line has no influence on a lexeme before it. -/
theorem reach_append_newline (c : Char) (cs b : List Char) :
    reach c (cs ++ '\n' :: b) = reach c cs := by
  have hrun : ∀ p : Char → Bool, p '\n' = false → run p (cs ++ '\n' :: b) = run p cs := by
    intro p hp
    exact run_append (fun c hc => by cases hc; exact hp) cs
  have hcomment := hrun (· != '\n') (by decide)
  have hgap := hrun isGap (by decide)
  have hword := hrun isWordPart (by decide)
  have hnumber := numberReach_settles.append (stops_newline b) cs
  simp only [reach, head?_append_newline (d := '/') (by decide),
    head?_append_newline (d := '\\') (by decide), head?_append_newline (d := '$') (by decide),
    hcomment, hgap, hword, hnumber]

theorem first_append_newline (c : Char) (cs b : List Char) :
    first c (cs ++ '\n' :: b) = first c cs := by
  simp only [first, reach_append_newline, List.take_append_of_le_length (reach_le c cs)]

theorem behind_append_newline (c : Char) (cs b : List Char) :
    behind c (cs ++ '\n' :: b) = behind c cs ++ '\n' :: b := by
  simp only [behind, reach_append_newline, List.drop_append_of_le_length (reach_le c cs)]

/-- A line end is a lexeme of its own. -/
theorem ofSource_newline (cs : List Char) :
    ofSource ('\n' :: cs) = ⟨.newline, ['\n']⟩ :: ofSource cs := by
  have hreach : reach '\n' cs = (.newline, 0) := rfl
  simp only [ofSource_cons, first, behind, hreach, List.take_zero, List.drop_zero]

/-- A source is cut at each of its line ends. -/
theorem ofSource_append_newline (a b : List Char) :
    ofSource (a ++ '\n' :: b) = ofSource a ++ ⟨.newline, ['\n']⟩ :: ofSource b := by
  induction a using cut_induction with
  | nil => exact ofSource_newline b
  | cons c cs ih =>
      rw [List.cons_append, ofSource_cons, first_append_newline, behind_append_newline, ih,
        ofSource_cons, List.cons_append]

/-! ## The characters of a lexeme -/

/-- A character without a rule of its own. -/
def hasNoRule (c : Char) : Bool :=
  c != '\n' && !isGap c && c != '$' && !c.isDigit && !isWordStart c && (symbolKind? c).isNone

/-- What a form says of the first characters of its lexeme, and of how many of those behind the
first one belong to it. -/
def Form.Says (c : Char) (cs : List Char) : Form → Nat → Prop
  | .comment, n => (c = '#' ∨ c = '/' ∧ cs.head? = some '/') ∧ n = run (· != '\n') cs
  | .newline, n => c = '\n' ∧ n = 0
  | .blanks, n => isGap c = true ∧ n = run isGap cs
  | .fraction, n => (c = '\\' ∧ cs.head? = some '\\') ∧ n = 1
  | .doubleDollar, n => (c = '$' ∧ cs.head? = some '$') ∧ n = 1
  | .dollar, n => c = '$' ∧ n = 0
  | .number, n => c.isDigit = true ∧ n = numberReach cs
  | .word, n => isWordStart c = true ∧ n = run isWordPart cs
  | .symbol, n => (symbolKind? c).isSome = true ∧ n = 0
  | .other, n => hasNoRule c = true ∧ n = 0

theorem reach_says (c : Char) (cs : List Char) : (reach c cs).1.Says c cs (reach c cs).2 := by
  unfold reach
  split
  · next hc => exact ⟨by simpa using hc, rfl⟩
  split
  · next hc => exact ⟨by simpa using hc, rfl⟩
  split
  · next hc => exact ⟨hc, rfl⟩
  split
  · next hc => exact ⟨by simpa using hc, rfl⟩
  split
  · next hc =>
      split
      · next hcs => exact ⟨⟨by simpa using hc, by simpa using hcs⟩, rfl⟩
      · exact ⟨by simpa using hc, rfl⟩
  split
  · next hc => exact ⟨hc, rfl⟩
  split
  · next hc => exact ⟨hc, rfl⟩
  split
  · next hc => exact ⟨hc, rfl⟩
  · exact ⟨by simp_all [hasNoRule], rfl⟩

theorem says_of_form {c : Char} {cs : List Char} {form : Form} (h : (first c cs).form = form) :
    form.Says c cs (reach c cs).2 := by
  rw [← h]
  exact reach_says c cs

/-- A lexeme that is no line end holds none. -/
theorem newline_not_mem_take (c : Char) (cs : List Char) :
    '\n' ∉ cs.take (reach c cs).2 := by
  by_cases hcs : '\n' ∈ cs
  · obtain ⟨a, b, rfl, ha⟩ := List.eq_append_cons_of_mem hcs
    rw [reach_append_newline, List.take_append_of_le_length (reach_le c a)]
    exact fun h => ha (List.mem_of_mem_take h)
  · exact fun h => hcs (List.mem_of_mem_take h)

/-- What is known of a lexeme and of the characters behind it. -/
structure Fits (l : Lexeme) (rest : List Char) : Prop where
  newline : l.form = .newline → l.chars = ['\n']
  inLine : l.form ≠ .newline → '\n' ∉ l.chars
  blanks : l.form = .blanks → ∀ c ∈ l.chars, isGap c = true
  /-- A comment goes up to the end of the line. -/
  comment : l.form = .comment →
    ((∃ body, l.chars = '#' :: body) ∨ ∃ body, l.chars = '/' :: '/' :: body) ∧
      (rest = [] ∨ rest.head? = some '\n')
  symbol : l.form = .symbol → ∃ c k, l.chars = [c] ∧ symbolKind? c = some k
  nonempty : l.chars ≠ []

theorem first_fits (c : Char) (cs : List Char) : Fits (first c cs) (behind c cs) where
  newline h := by
    obtain ⟨rfl, hlength⟩ := says_of_form h
    rfl
  inLine h := by
    have hc : c ≠ '\n' := by
      rintro rfl
      exact h rfl
    simpa [first, hc.symm] using newline_not_mem_take c cs
  blanks h := by
    obtain ⟨hc, hlength⟩ := says_of_form h
    simp only [first, hlength, take_run, List.mem_cons, forall_eq_or_imp]
    exact ⟨hc, fun d hd => List.mem_takeWhile_imp hd⟩
  comment h := by
    obtain ⟨hc, hlength⟩ := says_of_form h
    simp only [first, behind, hlength, take_run, drop_run]
    constructor
    · rcases hc with rfl | ⟨rfl, hcs⟩
      · exact .inl ⟨_, rfl⟩
      · cases cs with
        | nil => cases hcs
        | cons d cs =>
            cases hcs
            exact .inr ⟨cs.takeWhile (· != '\n'), by simp⟩
    · have hall := List.head?_dropWhile_not (· != '\n') cs
      cases hrest : cs.dropWhile (· != '\n') with
      | nil => exact .inl rfl
      | cons d rest => exact .inr (by simpa [hrest] using hall)
  symbol h := by
    obtain ⟨hc, hlength⟩ := says_of_form h
    obtain ⟨k, hk⟩ := Option.isSome_iff_exists.mp hc
    exact ⟨c, k, by simp [first, hlength], hk⟩
  nonempty := List.cons_ne_nil _ _

/-! ## The kind of a lexeme -/

theorem lookup_mem {α β : Type} [BEq α] [LawfulBEq α] {a : α} {b : β} {l : List (α × β)}
    (h : l.lookup a = some b) : (a, b) ∈ l := by
  obtain ⟨l₁, l₂, rfl, -⟩ := List.lookup_eq_some_iff.mp h
  simp

theorem kindOf_ne {k : Kind} (hidentifier : k ≠ .identifier)
    (htable : ∀ p ∈ Keyword.table, p.2 ≠ k) (word : String) : Keyword.kindOf word ≠ k := by
  unfold Keyword.kindOf
  cases h : Keyword.table.lookup word with
  | none => exact hidentifier.symm
  | some k' => exact htable _ (lookup_mem h)

theorem symbolKind?_ne {k : Kind} (hsymbols : ∀ p ∈ symbols, p.2 ≠ k) (c : Char) :
    symbolKind? c ≠ some k := fun h => hsymbols _ (lookup_mem h) rfl

/-- Only a line end makes a token of its kind, and no lexeme makes the end of the input. -/
theorem kind?_eq_some_iff {l : Lexeme} {rest : List Char} (h : Fits l rest) {k : Kind}
    (hk : k = .newline ∨ k = .eof) :
    l.kind? = some k ↔ k = .newline ∧ l.form = .newline := by
  unfold kind?
  cases hform : l.form with
  | word => rcases hk with rfl | rfl <;> simpa using kindOf_ne (by decide) (by decide) _
  | symbol =>
      obtain ⟨c, k', hc, -⟩ := h.symbol hform
      rcases hk with rfl | rfl <;> simpa [hc] using symbolKind?_ne (by decide) c
  | _ => rcases hk with rfl | rfl <;> simp

/-- Comments and blanks are what is skipped. -/
theorem kind?_eq_none_iff {l : Lexeme} {rest : List Char} (h : Fits l rest) :
    l.kind? = none ↔ l.form = .comment ∨ l.form = .blanks := by
  unfold kind?
  cases hform : l.form with
  | symbol =>
      obtain ⟨c, k, hc, hk⟩ := h.symbol hform
      simp [hc, hk]
  | _ => simp

end PlainMath.Lexeme
