/-
# `Proofs.Parser.Lookahead` — a reading depends on one token beyond what it consumes

A run of the parser is a walk: its tokens lead from state to state until one of them leads
nowhere, and that token alone decides the verdict.

    the end of the input leads nowhere              (`next?_eof`)
    every run is a walk up to a token that stops it (`exists_leads_of_run`)
    every walk up to such a token is a run          (`run_of_leads`)

So the tokens that a run consumes, and the one it stops at, determine the whole of it, whatever
stands before and behind them (`rule_congr`).
-/
import PlainMath.Proofs.Parser.Complete

namespace PlainMath.Parser

/-! ## The end of the input stops every reading -/

section Eof
variable {goal : Goal} {t : Token}

theorem startOperand_eof (fs : List Frame) (ht : t.kind = .eof) :
    startOperand goal fs t = none := by
  simp only [startOperand, ht]

theorem betweenExpressions_eof (ns : List Node) (ht : t.kind = .eof) :
    betweenExpressions ns t = none := by
  simp only [betweenExpressions, ht, startOperand_eof]

theorem afterExpression_eof (n : Node) (fs : List Frame) (ht : t.kind = .eof) :
    afterExpression goal (n, fs) t = none := by
  cases fs with
  | nil =>
      cases goal with
      | rule level => rfl
      | document ns => exact betweenExpressions_eof _ ht
  | cons frame fs => cases frame <;> simp only [afterExpression, ht]

/-- No state goes on over the end of the input. -/
theorem next?_eof (s : State) (ht : t.kind = .eof) : s.next? t = none := by
  obtain ⟨goal, fs, phase⟩ := s
  cases phase with
  | operand =>
      simp only [State.next?, beforeOperand]
      split
      · exact betweenExpressions_eof _ ht
      · exact startOperand_eof _ ht
  | firstArgument function name => simp only [State.next?, ht, startOperand_eof]
  | argumentList function name => simp only [State.next?, ht]
  | operator n =>
      simp only [State.next?, afterOperand, ht]
      exact afterExpression_eof _ _ ht
  | faulty fault => rfl

end Eof

/-! ## Runs are walks -/

/-- Every run leads over the tokens that it consumes to a state that the next token stops. -/
theorem exists_leads_of_run {last : Token} (hlast : last.kind = .eof) (s : State)
    (ts : List Token) :
    ∃ u rest s', ts = u ++ rest ∧ Leads s u s' ∧ s'.next? (rest.headD last) = none ∧
      State.run last s ts = (s'.verdict (rest.headD last), rest) := by
  fun_induction State.run last s ts with
  | case1 s => exact ⟨[], [], s, rfl, .refl, next?_eof s hlast, rfl⟩
  | case2 s t ts s' hnext ih =>
      obtain ⟨u, rest, s'', rfl, hleads, hstop, hrun⟩ := ih
      exact ⟨t :: u, rest, s'', rfl, .step hnext hleads, hstop, hrun⟩
  | case3 s t ts hnext => exact ⟨[], t :: ts, s, rfl, .refl, hnext, rfl⟩

/-- A walk to a state that the next token stops is a run. -/
theorem run_of_leads {last : Token} {s s' : State} {u rest : List Token} (h : Leads s u s')
    (hstop : s'.next? (rest.headD last) = none) :
    State.run last s (u ++ rest) = (s'.verdict (rest.headD last), rest) := by
  rw [h.run]
  cases rest with
  | nil => rfl
  | cons t rest =>
      have ht : s'.next? t = none := hstop
      simp only [State.run, ht, List.headD_cons]

/-! ## Readings at a cursor -/

namespace Cursor

/-- The tokens from the cursor on, with the end of the input. -/
def ahead (c : Cursor) : List Token := c.rest ++ [c.last]

theorem getElem?_tokens (c : Cursor) (i : Nat) : c.tokens[c.index + i]? = c.ahead[i]? := by
  have hlength : c.passed.reverse.length = c.index := List.length_reverse
  rw [tokens, List.append_assoc, List.getElem?_append_right (by omega), hlength,
    Nat.add_sub_cancel_left, ahead]

/-- Behind the tokens that are consumed stands the one that stops the reading. -/
theorem ahead_eq_of_rest {c : Cursor} {u rest : List Token} (h : c.rest = u ++ rest) :
    ∃ more, c.ahead = u ++ rest.headD c.last :: more := by
  cases rest with
  | nil => exact ⟨[], by simp [ahead, h]⟩
  | cons t rest => exact ⟨rest ++ [c.last], by simp [ahead, h]⟩

/-- Tokens ahead that are followed by another one stand before the end of the input. -/
theorem rest_eq_of_ahead {c : Cursor} {u more : List Token} {t : Token}
    (h : c.ahead = u ++ t :: more) : ∃ rest, c.rest = u ++ rest ∧ rest.headD c.last = t := by
  rcases List.append_eq_append_iff.mp h with ⟨v, hu, hlast⟩ | ⟨v, hrest, hmore⟩
  · obtain ⟨rfl, hmore⟩ : v = [] ∧ c.last = t := by
      cases v with
      | nil => exact ⟨rfl, (List.cons.inj hlast).1⟩
      | cons x v => simp at hlast
    exact ⟨[], by simpa using hu.symm, hmore⟩
  · refine ⟨v, hrest, ?_⟩
    cases v with
    | nil => exact (List.cons.inj hmore).1.symm
    | cons x v => exact (List.cons.inj hmore).1.symm

/-- What a reading gives and how far it goes, from the walk that it takes. -/
theorem read_eq {c : Cursor} {goal : Goal} {u rest : List Token} {s : State}
    (hrest : c.rest = u ++ rest) (hleads : Leads (.start goal) u s)
    (hstop : s.next? (rest.headD c.last) = none) :
    (c.read goal).1 = s.verdict (rest.headD c.last) ∧
      (c.read goal).2.index = c.index + u.length := by
  have hrun : State.run c.last (.start goal) c.rest = (s.verdict (rest.headD c.last), rest) := by
    rw [hrest]
    exact run_of_leads hleads hstop
  refine ⟨by simp only [read, hrun], ?_⟩
  have hlength : c.rest.length = u.length + rest.length := by
    rw [hrest, List.length_append]
  simp only [read, hrun, index, skip, List.length_append, List.length_reverse, List.length_take]
  omega

/-- Tokens that agree with others up to some index are split where those are. -/
theorem exists_eq_append_of_agree {t : Token} {more : List Token} : ∀ {u l : List Token},
    (∀ i ≤ u.length, l[i]? = (u ++ t :: more)[i]?) → ∃ more', l = u ++ t :: more'
  | [], [], h => by simpa using h 0 (Nat.le_refl 0)
  | [], x :: l, h => by
      obtain rfl : x = t := by simpa using h 0 (Nat.le_refl 0)
      exact ⟨l, rfl⟩
  | y :: u, [], h => by simpa using h 0 (Nat.zero_le _)
  | y :: u, x :: l, h => by
      obtain rfl : x = y := by simpa using h 0 (Nat.zero_le _)
      obtain ⟨more', rfl⟩ := exists_eq_append_of_agree (u := u) (l := l) fun i hi =>
        by simpa using h (i + 1) (Nat.succ_le_succ hi)
      exact ⟨more', rfl⟩

/-- Two readings that see the same tokens, up to the one at which the first of them stops, are
one reading.  The tokens before the cursor and those further on do not matter. -/
theorem rule_congr (level : Level) (c c' : Cursor) (hindex : c'.index = c.index)
    (hagree : ∀ i, c.index ≤ i → i ≤ (c.rule level).2.index → c'.tokens[i]? = c.tokens[i]?) :
    c.index ≤ (c.rule level).2.index ∧ (c'.rule level).1 = (c.rule level).1 ∧
      (c'.rule level).2.index = (c.rule level).2.index := by
  obtain ⟨u, rest, s, hrest, hleads, hstop, -⟩ :=
    exists_leads_of_run c.last_kind (.start (.rule level)) c.rest
  obtain ⟨hverdict, hend⟩ := read_eq hrest hleads hstop
  have hend : (c.rule level).2.index = c.index + u.length := hend
  obtain ⟨more, hahead⟩ := ahead_eq_of_rest hrest
  -- the other cursor has the consumed tokens and the one behind them ahead of it
  obtain ⟨more', hahead'⟩ : ∃ more', c'.ahead = u ++ rest.headD c.last :: more' := by
    apply exists_eq_append_of_agree
    intro i hi
    rw [← hahead, ← getElem?_tokens, ← getElem?_tokens, hindex]
    exact hagree _ (by omega) (by omega)
  obtain ⟨rest', hrest', ht⟩ := rest_eq_of_ahead hahead'
  obtain ⟨hverdict', hend'⟩ := read_eq hrest' hleads (by rw [ht]; exact hstop)
  rw [ht] at hverdict'
  refine ⟨by omega, hverdict'.trans hverdict.symm, ?_⟩
  have hend' : (c'.rule level).2.index = c'.index + u.length := hend'
  omega

/-- Before the call in the second line of `twoLines`. -/
def atRoot : Cursor := (ofStream twoLines).skip 7

/-- The same call and the letter behind it, after line ends and with more tokens to come. -/
def atRootElsewhere : Cursor where
  passed := List.replicate 7 ⟨.newline, "\n", ⟨1, 1⟩, none⟩
  rest := atRoot.rest ++ twoLines.body
  last := ⟨.eof, "", ⟨3, 1⟩, none⟩
  last_kind := rfl

/-- The call is read over six tokens, and the seventh one ends it. -/
theorem rule_congr_atRoot :
    (atRoot.rule .call).2.index = 13 ∧ atRootElsewhere.tokens ≠ atRoot.tokens ∧
      (atRootElsewhere.rule .call).1 = (atRoot.rule .call).1 ∧
      (atRootElsewhere.rule .call).2.index = 13 := by
  have hend : (atRoot.rule .call).2.index = 13 := rfl
  have hagree : ∀ i, atRoot.index ≤ i → i ≤ (atRoot.rule .call).2.index →
      atRootElsewhere.tokens[i]? = atRoot.tokens[i]? := by
    intro i hfrom hto
    obtain ⟨j, rfl⟩ := Nat.exists_eq_add_of_le hfrom
    have hj : j < atRoot.rest.length := by
      have hindex : atRoot.index = 7 := rfl
      have hlength : atRoot.rest.length = 7 := rfl
      omega
    rw [getElem?_tokens atRoot]
    refine (getElem?_tokens atRootElsewhere j).trans ?_
    simp only [ahead, atRootElsewhere, List.append_assoc, List.getElem?_append_left hj]
  obtain ⟨-, hverdict, hindex⟩ := rule_congr .call atRoot atRootElsewhere rfl hagree
  refine ⟨hend, fun h => ?_, hverdict, hindex.trans hend⟩
  exact absurd (congrArg List.length h) (by decide)

end Cursor

end PlainMath.Parser
