/-
# `Proofs.Parser.Steps` — a cursor moves forward, and not over the end of the input

A cursor can be looked at, moved over single tokens, and asked for the constructions of the grammar
and for a whole document, in any order and again after a failure.  Whatever is done, the cursor is
moved over tokens of the stream that are no end of the input, or stays where it is:

    one step              (`moves_perform`)
    any steps             (`moves_performAll`)

So it stays in the stream and does not pass the first end of the input, of which a stream may have
several.  Together with `Proofs.Parser.Agreement`, where each reading is a descent that terminates,
this is `steps_forward`.
-/
import PlainMath.Proofs.Parser.Agreement

namespace PlainMath.Parser

/-- What can be asked of a cursor. -/
inductive Step where
  | peek
  | previous
  | isAtEnd
  | check (kind : Kind)
  | advance
  | accept (kinds : List Kind)
  | expect (kind : Kind) (message : String)
  | rule (level : Level)
  | document

/-- The index of the first end of the input. -/
def firstEnd (ts : List Token) : Nat := ts.findIdx (·.kind = .eof)

namespace Cursor

/-- The cursor after a step, be it a success or a failure. -/
def perform (c : Cursor) : Step → Cursor
  | .peek | .previous | .isAtEnd | .check _ => c
  | .advance => c.advance.2
  | .accept kinds => (c.accept kinds).2
  | .expect kind message => (c.expect kind message).2
  | .rule level => (c.rule level).2
  | .document => c.document.2

/-- The cursor after some steps. -/
def performAll (c : Cursor) (steps : List Step) : Cursor := steps.foldl perform c

/-! ## Moving -/

/-- The cursor was moved over these tokens, none of which is an end of the input. -/
structure MovedOver (u : List Token) (c c' : Cursor) : Prop where
  rest : c.rest = u ++ c'.rest
  passed : c'.passed = u.reverse ++ c.passed
  last : c'.last = c.last
  ne_eof : ∀ t ∈ u, t.kind ≠ .eof

/-- The cursor was moved, or stays where it is. -/
def Moves (c c' : Cursor) : Prop := ∃ u, MovedOver u c c'

theorem Moves.refl (c : Cursor) : Moves c c := ⟨[], rfl, rfl, rfl, by simp⟩

theorem Moves.trans {c c' c'' : Cursor} (h : Moves c c') (h' : Moves c' c'') : Moves c c'' := by
  obtain ⟨u, hu⟩ := h
  obtain ⟨v, hv⟩ := h'
  refine ⟨u ++ v, ?_, ?_, hv.last.trans hu.last, ?_⟩
  · rw [hu.rest, hv.rest, List.append_assoc]
  · rw [hv.passed, hu.passed, List.reverse_append, List.append_assoc]
  · intro t ht
    exact (List.mem_append.mp ht).elim (hu.ne_eof t) (hv.ne_eof t)

theorem movedOver_skip {c : Cursor} {u rest : List Token} (hrest : c.rest = u ++ rest)
    (hu : ∀ t ∈ u, t.kind ≠ .eof) : MovedOver u c (c.skip u.length) where
  rest := by simp [skip, hrest]
  passed := by simp [skip, hrest]
  last := rfl
  ne_eof := hu

theorem moves_advance (c : Cursor) : Moves c c.advance.2 := by
  unfold advance
  split
  · exact .refl c
  · next hend =>
      cases hrest : c.rest with
      | nil => simp [isAtEnd, peek, hrest, c.last_kind] at hend
      | cons t rest =>
          have ht : t.kind ≠ .eof := by simpa [isAtEnd, peek, hrest] using hend
          exact ⟨[t], movedOver_skip (u := [t]) hrest (by simpa using ht)⟩

end Cursor

theorem Leads.ne_eof {s s' : State} {u : List Token} (h : Leads s u s') :
    ∀ t ∈ u, t.kind ≠ .eof := by
  induction h with
  | refl => simp
  | step hnext _ ih =>
      refine List.forall_mem_cons.mpr ⟨fun ht => ?_, ih⟩
      simp [next?_eof _ ht] at hnext

namespace Cursor

/-- A reading moves the cursor over the tokens that it consumes. -/
theorem exists_movedOver_read (c : Cursor) (goal : Goal) :
    ∃ u, MovedOver u c (c.read goal).2 ∧
      State.run c.last (.start goal) c.rest = ((c.read goal).1, (c.read goal).2.rest) := by
  obtain ⟨u, rest, s, hrest, hleads, -, hrun⟩ :=
    exists_leads_of_run c.last_kind (.start goal) c.rest
  have hread : c.read goal = (s.verdict (rest.headD c.last), c.skip u.length) := by
    have hlength : c.rest.length - rest.length = u.length := by
      rw [hrest, List.length_append, Nat.add_sub_cancel]
    simp only [read, hrun, hlength]
  have hmoved := movedOver_skip hrest hleads.ne_eof
  rw [hread]
  refine ⟨u, hmoved, ?_⟩
  rw [hrun, List.append_cancel_left (hrest.symm.trans hmoved.rest)]

theorem moves_read (c : Cursor) (goal : Goal) : Moves c (c.read goal).2 := by
  obtain ⟨u, hmoved, -⟩ := exists_movedOver_read c goal
  exact ⟨u, hmoved⟩

theorem run_eq_read (c : Cursor) (goal : Goal) :
    State.run c.last (.start goal) c.rest = ((c.read goal).1, (c.read goal).2.rest) := by
  obtain ⟨-, -, hrun⟩ := exists_movedOver_read c goal
  exact hrun

/-- A step moves the cursor forward, or leaves it where it is. -/
theorem moves_perform (c : Cursor) (step : Step) : Moves c (c.perform step) := by
  cases step with
  | peek | previous | isAtEnd | check => exact .refl c
  | advance => exact moves_advance c
  | accept kinds =>
      simp only [perform, accept]
      split
      · exact moves_advance c
      · exact .refl c
  | expect kind message =>
      simp only [perform, expect]
      split
      · exact moves_advance c
      · exact .refl c
  | rule level => exact moves_read c (.rule level)
  | document =>
      simp only [perform, document]
      split
      · exact .refl c
      · exact moves_read c (.document [])

theorem moves_performAll (steps : List Step) (c : Cursor) : Moves c (c.performAll steps) := by
  induction steps generalizing c with
  | nil => exact .refl c
  | cons step steps ih => exact (moves_perform c step).trans (ih (c.perform step))

theorem performAll_append (c : Cursor) (steps more : List Step) :
    c.performAll (steps ++ more) = (c.performAll steps).performAll more := List.foldl_append

/-! ## Where a cursor can be -/

section Moves
variable {c c' : Cursor}

theorem Moves.tokens_eq (h : Moves c c') : c'.tokens = c.tokens := by
  obtain ⟨u, hu⟩ := h
  simp [tokens, hu.passed, hu.rest, hu.last]

theorem Moves.index_le (h : Moves c c') : c.index ≤ c'.index := by
  obtain ⟨u, hu⟩ := h
  simp [index, hu.passed]

theorem Moves.passed_ne_eof (h : Moves c c') (hc : ∀ t ∈ c.passed, t.kind ≠ .eof) :
    ∀ t ∈ c'.passed, t.kind ≠ .eof := by
  obtain ⟨u, hu⟩ := h
  intro t ht
  rw [hu.passed, List.mem_append, List.mem_reverse] at ht
  exact ht.elim (hu.ne_eof t) (hc t)

end Moves

/-- The cursor stands before the token that is peeked at. -/
theorem getElem?_index (c : Cursor) : c.tokens[c.index]? = some c.peek := by
  rw [← Nat.add_zero c.index, getElem?_tokens]
  cases h : c.rest <;> simp [ahead, peek, h]

/-- Before it is the previous token; the last token counts as the one before the first. -/
theorem getElem?_previous (c : Cursor) :
    c.tokens[(c.index + c.tokens.length - 1) % c.tokens.length]? = some c.previous := by
  cases h : c.passed with
  | nil =>
      have htokens : c.tokens = c.rest ++ [c.last] := by simp [tokens, h]
      have hindex : (c.index + c.tokens.length - 1) % c.tokens.length = c.rest.length := by
        rw [index, h, htokens, List.length_nil, Nat.zero_add, List.length_append,
          List.length_singleton, Nat.add_sub_cancel, Nat.mod_eq_of_lt (Nat.lt_succ_self _)]
      rw [hindex, htokens, previous, h]
      simp
  | cons t passed =>
      have htokens : c.tokens = passed.reverse ++ t :: (c.rest ++ [c.last]) := by
        simp [tokens, h]
      have hindex : (c.index + c.tokens.length - 1) % c.tokens.length = passed.length := by
        have hlt : passed.length < c.tokens.length := by simp [htokens]
        rw [index, h, List.length_cons, Nat.add_right_comm, Nat.add_sub_cancel,
          Nat.add_mod_right, Nat.mod_eq_of_lt hlt]
      rw [hindex, htokens, previous, h]
      simp

/-- The first end of the input is not among the tokens that were passed. -/
theorem index_le_firstEnd {c : Cursor} (h : ∀ t ∈ c.passed, t.kind ≠ .eof) :
    c.index ≤ firstEnd c.tokens := by
  have hnone : c.passed.reverse.findIdx (·.kind = .eof) = c.passed.reverse.length :=
    List.findIdx_eq_length_of_false fun t ht => decide_eq_false (h t (List.mem_reverse.mp ht))
  rw [firstEnd, tokens, List.append_assoc, List.findIdx_append, hnone,
    if_neg (Nat.lt_irrefl _), List.length_reverse]
  exact Nat.le_add_left _ _

/-- A rule is read as by its procedure. -/
theorem yields_iff_rule (c : Cursor) (level : Level) (out : Except Fault Node)
    (rest : List Token) :
    Yields c.last (.rule level) c.rest (out, rest) ↔
      (c.rule level).1 = out ∧ (c.rule level).2.rest = rest := by
  rw [yields_iff c.last_kind, run_eq_read, Prod.mk.injEq, rule]

/-- A document is read as by its procedure, if the brackets are balanced. -/
theorem lists_iff_document (c : Cursor) (hbalance : Token.imbalance? c.tokens = none)
    (out : Except Fault Node) (rest : List Token) :
    Lists c.last [] c.rest (out, rest) ↔
      c.document.1 = out ∧ c.document.2.rest = rest := by
  have hdocument : c.document = c.read (.document []) := by simp only [document, hbalance]
  rw [lists_iff c.last_kind, run_eq_read, Prod.mk.injEq, hdocument]

/-- A rule that returns a node has moved the cursor. -/
theorem index_lt_of_rule {c : Cursor} {level : Level} {n : Node} (h : (c.rule level).1 = .ok n) :
    c.index < (c.rule level).2.index := by
  obtain ⟨u, hmoved⟩ := moves_read c (.rule level)
  have hlt := ((yields_iff_rule c level _ _).mpr ⟨h, rfl⟩).length_lt
  have hrest : c.rest.length = u.length + (c.rule level).2.rest.length := by
    rw [hmoved.rest, List.length_append, rule]
  have hindex : (c.rule level).2.index = u.length + c.index := by
    rw [rule, index, hmoved.passed, List.length_append, List.length_reverse, index]
  omega

end Cursor

/-- Some steps are taken on a stream, and then some more.  The cursor does not go back, stays in
the stream and does not pass the first end of the input.  Wherever it is then, every rule has a
descent that terminates, ends as the parser does, and has moved the cursor if it returns a node;
and a document is read by a descent as well, unless its brackets are out of balance. -/
theorem steps_forward (s : Stream) (steps more : List Step) :
    let c := (Cursor.ofStream s).performAll steps
    let c' := (Cursor.ofStream s).performAll (steps ++ more)
    c.index ≤ c'.index ∧ c'.index ≤ firstEnd s.tokens ∧
    c'.tokens = s.tokens ∧ s.tokens[c'.index]? = some c'.peek ∧
    s.tokens[(c'.index + s.tokens.length - 1) % s.tokens.length]? = some c'.previous ∧
    (∀ level out rest, Yields c'.last (.rule level) c'.rest (out, rest) ↔
      (c'.rule level).1 = out ∧ (c'.rule level).2.rest = rest) ∧
    (∀ level n, (c'.rule level).1 = .ok n → c'.index < (c'.rule level).2.index) ∧
    (∀ fault, Token.imbalance? s.tokens = some fault → c'.document = (.error fault, c')) ∧
    (Token.imbalance? s.tokens = none → ∀ out rest, Lists c'.last [] c'.rest (out, rest) ↔
      c'.document.1 = out ∧ c'.document.2.rest = rest) := by
  intro c c'
  have hmore : Cursor.Moves c c' := by
    simp only [c, c', Cursor.performAll_append]
    exact Cursor.moves_performAll more _
  have hmoves : Cursor.Moves (.ofStream s) c' := Cursor.moves_performAll _ _
  have htokens : c'.tokens = s.tokens := hmoves.tokens_eq
  have hpassed : ∀ t ∈ c'.passed, t.kind ≠ .eof :=
    hmoves.passed_ne_eof (by simp [Cursor.ofStream])
  refine ⟨hmore.index_le, ?_, htokens, ?_, ?_, Cursor.yields_iff_rule c',
    fun _ _ => Cursor.index_lt_of_rule, fun fault hfault => ?_, fun hbalance => ?_⟩
  · exact htokens ▸ Cursor.index_le_firstEnd hpassed
  · exact htokens ▸ Cursor.getElem?_index c'
  · exact htokens ▸ Cursor.getElem?_previous c'
  · simp only [Cursor.document, htokens, hfault]
  · exact Cursor.lists_iff_document c' (htokens ▸ hbalance)

end PlainMath.Parser
