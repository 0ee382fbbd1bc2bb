/-
# `Proofs.Parser.Sound` — what is read was spelt

A state of the parser stands for the tokens that led to it.  `Held` gives the tokens of the
open frames, `Progress` those of the frames and the phase, and `Read` adds the expressions of
the document that are finished.  Each is a relation to derivations of the grammar, so the one
fact that is carried through a run is `Read`:

    Read s w,  s.next? t = some s'      ⟹  Read s' (w ++ [t])                   (`Read.next`)
    Read s w,  s.verdict t = .ok n      ⟹  n is the document that w spells      (`Read.verdict`)

The frames of a state are not arbitrary: a frame never stands on one that binds its operand
more tightly.  `tightness` measures this, and the side conditions of `Held` are what makes
closing a frame give a derivation of the right level.
-/
import PlainMath.Proofs.Grammar

namespace PlainMath.Parser

open Grammar

/-! ## The tokens of open frames -/

/-- How tightly a frame binds the operand that follows it. -/
def Frame.tightness : Frame → Nat
  | .sign _ | .power _ => 3
  | .multiplicative _ _ => 2
  | .additive _ _ => 1
  | _ => 0

/-- How tightly the innermost frame binds; zero if there is none. -/
def tightness : List Frame → Nat
  | [] => 0
  | frame :: _ => frame.tightness

/-- The frames were opened by these tokens, none of which belongs to a finished operand. -/
inductive Held : List Frame → List Token → Prop where
  | nil : Held [] []
  | additive {fs : List Frame} {w u : List Token} {t : Token} {op : Operator} {l : Node} :
      Held fs w → tightness fs < 1 → Derives Func.Accepts .additive u l →
      t.kind = .operator op → op.isAdditive = true →
      Held (.additive op l :: fs) (w ++ (u ++ [t]))
  | multiplicative {fs : List Frame} {w u : List Token} {t : Token} {op : Operator} {l : Node} :
      Held fs w → tightness fs < 2 → Derives Func.Accepts .multiplicative u l →
      t.kind = .operator op → op.isMultiplicative = true →
      Held (.multiplicative op l :: fs) (w ++ (u ++ [t]))
  | sign {fs : List Frame} {w : List Token} {t : Token} {op : Operator} :
      Held fs w → t.kind = .operator op → op.isAdditive = true →
      Held (.sign op :: fs) (w ++ [t])
  | power {fs : List Frame} {w u : List Token} {t : Token} {b : Node} :
      Held fs w → Derives Func.Accepts .call u b → t.kind = .operator .power →
      Held (.power b :: fs) (w ++ (u ++ [t]))
  | group {fs : List Frame} {w : List Token} {o : Token} :
      Held fs w → o.kind = .opener .paren → Held (.group :: fs) (w ++ [o])
  | firstArgument {fs : List Frame} {w : List Token} {t o : Token} {f : Func} :
      Held fs w → t.kind = .func f → o.kind = .opener .paren →
      Held (.arguments t f [] :: fs) (w ++ [t, o])
  | nextArgument {fs : List Frame} {w u : List Token} {t o c : Token} {f : Func}
      {args : List Node} :
      Held fs w → t.kind = .func f → o.kind = .opener .paren →
      Arguments Func.Accepts u args → c.kind = .comma →
      Held (.arguments t f args :: fs) (w ++ (t :: o :: (u ++ [c])))
  | inlineMath {fs : List Frame} {w : List Token} {o : Token} :
      Held fs w → o.kind = .dollar → Held (.inlineMath :: fs) (w ++ [o])
  | displayMath {fs : List Frame} {w : List Token} {o : Token} :
      Held fs w → o.kind = .doubleDollar → Held (.displayMath :: fs) (w ++ [o])

/-- The tokens `w` are those of the frames and, behind them, of the operand `n`, which is
derived at this level. -/
def Spelt (level : Level) (w : List Token) (n : Node) (fs : List Frame) : Prop :=
  ∃ v u, w = v ++ u ∧ Held fs v ∧ Derives Func.Accepts level u n

theorem Spelt.unary {w : List Token} {n : Node} {fs : List Frame} (h : Spelt .call w n fs) :
    Spelt .unary w n fs := by
  obtain ⟨v, u, rfl, hv, hu⟩ := h
  exact ⟨v, u, rfl, hv, .ofPower (.ofCall hu)⟩

/-! ## Closing frames

Each of the three steps takes the operand one level up: what it closes is the derivation that
the frame was waiting to complete.  A frame that does not bind tightly enough is left alone. -/

theorem closeUnary_of_loose {n : Node} : ∀ {fs : List Frame},
    tightness fs < 3 → closeUnary n fs = (n, fs)
  | [], _ | .additive _ _ :: _, _ | .multiplicative _ _ :: _, _ | .group :: _, _
  | .arguments _ _ _ :: _, _ | .inlineMath :: _, _ | .displayMath :: _, _ => rfl
  | .sign _ :: _, h | .power _ :: _, h => absurd h (Nat.lt_irrefl 3)

theorem closeProduct_of_loose {n : Node} : ∀ {fs : List Frame},
    tightness fs < 2 → closeProduct (n, fs) = (n, fs)
  | [], _ | .additive _ _ :: _, _ | .group :: _, _ | .arguments _ _ _ :: _, _
  | .inlineMath :: _, _ | .displayMath :: _, _ | .sign _ :: _, _ | .power _ :: _, _ => rfl
  | .multiplicative _ _ :: _, h => absurd h (Nat.lt_irrefl 2)

theorem closeSum_of_loose {n : Node} : ∀ {fs : List Frame},
    tightness fs < 1 → closeSum (n, fs) = (n, fs)
  | [], _ | .multiplicative _ _ :: _, _ | .group :: _, _ | .arguments _ _ _ :: _, _
  | .inlineMath :: _, _ | .displayMath :: _, _ | .sign _ :: _, _ | .power _ :: _, _ => rfl
  | .additive _ _ :: _, h => absurd h (Nat.lt_irrefl 1)

theorem closeUnary_spelt {fs : List Frame} {w : List Token} {n : Node}
    (h : Spelt .unary w n fs) :
    Spelt .unary w (closeUnary n fs).1 (closeUnary n fs).2 ∧
      tightness (closeUnary n fs).2 < 3 := by
  fun_induction closeUnary n fs with
  | case1 n op fs ih =>
      obtain ⟨_, u, rfl, hv, hu⟩ := h
      cases hv with
      | sign hv ht hop => exact ih ⟨_, _, by simp, hv, .sign ht hop hu⟩
  | case2 n b fs ih =>
      obtain ⟨_, u, rfl, hv, hu⟩ := h
      cases hv with
      | power hv hb ht => exact ih ⟨_, _, by simp, hv, .ofPower (.power hb ht hu)⟩
  | case3 n fs hsign hpower =>
      refine ⟨h, ?_⟩
      match fs, hsign, hpower with
      | [], _, _ => exact Nat.zero_lt_succ 2
      | .sign op :: fs, hsign, _ => exact absurd rfl (hsign op fs)
      | .power b :: fs, _, hpower => exact absurd rfl (hpower b fs)
      | .additive _ _ :: _, _, _ | .multiplicative _ _ :: _, _, _ | .group :: _, _, _
      | .arguments _ _ _ :: _, _, _ | .inlineMath :: _, _, _ | .displayMath :: _, _, _ =>
          simp [tightness, Frame.tightness]

theorem closeProduct_spelt {fs : List Frame} {w : List Token} {n : Node}
    (h : Spelt .unary w n fs) (hunary : tightness fs < 3) :
    Spelt .multiplicative w (closeProduct (n, fs)).1 (closeProduct (n, fs)).2 ∧
      tightness (closeProduct (n, fs)).2 < 2 := by
  obtain ⟨v, u, rfl, hv, hu⟩ := h
  by_cases hloose : tightness fs < 2
  · rw [closeProduct_of_loose hloose]
    exact ⟨⟨v, u, rfl, hv, .ofUnary hu⟩, hloose⟩
  · cases hv with
    | multiplicative hv hfs hl ht hop =>
        exact ⟨⟨_, _, by simp, hv, .product hl ht hop hu⟩, hfs⟩
    | _ => simp [tightness, Frame.tightness] at hloose hunary

theorem closeSum_spelt {fs : List Frame} {w : List Token} {n : Node}
    (h : Spelt .multiplicative w n fs) (hproduct : tightness fs < 2) :
    Spelt .additive w (closeSum (n, fs)).1 (closeSum (n, fs)).2 ∧
      tightness (closeSum (n, fs)).2 < 1 := by
  obtain ⟨v, u, rfl, hv, hu⟩ := h
  by_cases hloose : tightness fs < 1
  · rw [closeSum_of_loose hloose]
    exact ⟨⟨v, u, rfl, hv, .ofProduct hu⟩, hloose⟩
  · cases hv with
    | additive hv hfs hl ht hop =>
        exact ⟨⟨_, _, by simp, hv, .sum hl ht hop hu⟩, hfs⟩
    | _ => simp [tightness, Frame.tightness] at hloose hproduct

/-- Closing everything that an operand ends leaves an expression, and frames that wait for a
token of their own. -/
theorem closeAll_spelt {fs : List Frame} {w : List Token} {n : Node}
    (h : Spelt .unary w n fs) :
    Spelt .additive w (closeAll n fs).1 (closeAll n fs).2 ∧
      tightness (closeAll n fs).2 < 1 := by
  obtain ⟨hunary, hfs⟩ := closeUnary_spelt h
  obtain ⟨hproduct, hfs⟩ := closeProduct_spelt hunary hfs
  exact closeSum_spelt hproduct hfs

/-! ## The tokens of a state -/

/-- The frames and the phase of a state stand for these tokens of one expression. -/
inductive Progress : List Frame → Phase → List Token → Prop where
  | operand {fs : List Frame} {w : List Token} : Held fs w → Progress fs .operand w
  | firstArgument {fs : List Frame} {w : List Token} {t o : Token} {f : Func} :
      Held fs w → t.kind = .func f → o.kind = .opener .paren →
      Progress fs (.firstArgument t f) (w ++ [t, o])
  | argumentList {fs : List Frame} {w : List Token} {t : Token} {f : Func} :
      Held fs w → t.kind = .func f → Progress fs (.argumentList t f) (w ++ [t])
  | operator {fs : List Frame} {w : List Token} {n : Node} :
      Spelt .call w n fs → Progress fs (.operator n) w
  | faulty {fs : List Frame} {w : List Token} {f : Token} {accepted : Arity} {count : Int} :
      Progress fs (.faulty (.arity f accepted count)) w

/-- The state was reached over these tokens, at the beginning of a document.  An expression
that touches the one before it was begun, and not by a sign. -/
inductive Read : State → List Token → Prop where
  | mk {ns : List Node} {fs : List Frame} {phase : Phase} {done w : List Token} {tight : Bool} :
      Finished Func.Accepts done ns tight → Progress fs phase w →
      (tight = true → w ≠ [] ∧ ¬ StartsWithSign w) → Read ⟨.document ns, fs, phase⟩ (done ++ w)

/-- Further tokens of the same expression. -/
theorem Read.extend {ns : List Node} {fs : List Frame} {phase : Phase} {done w v : List Token}
    {tight : Bool} (hdone : Finished Func.Accepts done ns tight)
    (hw : tight = true → w ≠ [] ∧ ¬ StartsWithSign w) (h : Progress fs phase (w ++ v)) :
    Read ⟨.document ns, fs, phase⟩ (done ++ w ++ v) := by
  rw [List.append_assoc]
  refine .mk hdone h fun htight => ?_
  obtain ⟨hne, hsign⟩ := hw htight
  obtain ⟨t, w, rfl⟩ := List.exists_cons_of_ne_nil hne
  exact ⟨by simp, hsign⟩

theorem Read.start : Read (.start (.document [])) [] :=
  Read.mk Finished.start (.operand .nil) (by simp)

/-! ## One step

The functions that give the next state are taken apart in the order in which they call each
other, for a document as the goal. -/

section Step
variable {ns : List Node} {fs : List Frame} {w : List Token} {n : Node} {t : Token} {s : State}

theorem spelt_singleton {level : Level} (hw : Held fs w) (h : Derives Func.Accepts level [t] n) :
    Spelt level (w ++ [t]) n fs :=
  ⟨w, [t], rfl, hw, h⟩

theorem startOperand_progress (hw : Held fs w)
    (h : startOperand (.document ns) fs t = some s) :
    s.goal = .document ns ∧ Progress s.frames s.phase (w ++ [t]) := by
  unfold startOperand at h
  cases ht : t.kind with
  | operator op =>
      simp only [ht, Goal.level, Level.takesSigns, Bool.or_true, Bool.and_true] at h
      split at h
      · next hop =>
          cases h
          exact ⟨rfl, .operand (.sign hw ht hop)⟩
      · cases h
  | constant c =>
      simp only [ht, Goal.level, Level.takesKeywords, Bool.or_true, if_true] at h
      cases h
      exact ⟨rfl, .operator (spelt_singleton hw (.constant ht))⟩
  | func f =>
      simp only [ht, Goal.level, Level.takesKeywords, Bool.or_true, if_true] at h
      cases h
      exact ⟨rfl, .argumentList hw ht⟩
  | number =>
      simp only [ht] at h
      cases h
      exact ⟨rfl, .operator (spelt_singleton hw (.ofPrimary (.number ht)))⟩
  | greek g =>
      simp only [ht] at h
      cases h
      exact ⟨rfl, .operator (spelt_singleton hw (.ofPrimary (.greek ht)))⟩
  | identifier =>
      simp only [ht] at h
      cases h
      exact ⟨rfl, .operator (spelt_singleton hw (.ofPrimary (.identifier ht)))⟩
  | text =>
      simp only [ht] at h
      cases h
      exact ⟨rfl, .operator (spelt_singleton hw (.ofPrimary (.text ht)))⟩
  | opener b =>
      simp only [ht] at h
      cases b with
      | paren =>
          cases h
          exact ⟨rfl, .operand (.group hw ht)⟩
      | square | brace => cases h
  | dollar =>
      simp only [ht] at h
      cases h
      exact ⟨rfl, .operand (.inlineMath hw ht)⟩
  | doubleDollar =>
      simp only [ht] at h
      cases h
      exact ⟨rfl, .operand (.displayMath hw ht)⟩
  | newline | eof | closer | comma | fromWord | toWord =>
      simp only [ht] at h
      cases h

theorem startOperand_read {done : List Token} {tight : Bool}
    (hdone : Finished Func.Accepts done ns tight)
    (hw : tight = true → w ≠ [] ∧ ¬ StartsWithSign w) (hheld : Held fs w)
    (h : startOperand (.document ns) fs t = some s) : Read s (done ++ w ++ [t]) := by
  obtain ⟨hgoal, hprogress⟩ := startOperand_progress hheld h
  obtain ⟨goal, frames, phase⟩ := s
  cases hgoal
  exact .extend hdone hw hprogress

/-- Between two expressions: a line end, or the first token of the next expression, which is no
sign if it follows directly on the one before. -/
theorem betweenExpressions_read {tight : Bool} (hw : Finished Func.Accepts w ns tight)
    (ht : tight = true → t.isSign = false) (h : betweenExpressions ns t = some s) :
    Read s (w ++ [t]) := by
  unfold betweenExpressions at h
  split at h
  · next hnewline =>
      cases h
      simpa [State.start] using Read.mk (.newline hw hnewline) (.operand .nil) (by simp)
  · obtain ⟨hgoal, hprogress⟩ := startOperand_progress .nil h
    obtain ⟨goal, frames, phase⟩ := s
    cases hgoal
    refine .mk hw hprogress fun htight => ⟨by simp, ?_⟩
    rintro ⟨t', ht', hsign⟩
    cases ht'
    simp [ht htight] at hsign

/-- What an operator or any other token does after an operand. -/
theorem afterOperand_cases (h : afterOperand (.document ns) n fs t = some s) :
    (t.kind = .operator .power ∧ s = ⟨.document ns, .power n :: fs, .operand⟩) ∨
    (∃ op, t.kind = .operator op ∧ op.isMultiplicative = true ∧
      s = ⟨.document ns, .multiplicative op (closeProduct (closeUnary n fs)).1 ::
        (closeProduct (closeUnary n fs)).2, .operand⟩) ∨
    (∃ op, t.kind = .operator op ∧ op.isAdditive = true ∧
      s = ⟨.document ns, .additive op (closeAll n fs).1 :: (closeAll n fs).2, .operand⟩) ∨
    (t.isSign = false ∧ afterExpression (.document ns) (closeAll n fs) t = some s) := by
  unfold afterOperand at h
  simp only [Goal.level, Level.takesPowers, Level.takesProducts, Level.takesSums, Bool.or_true,
    Bool.and_true, if_true] at h
  split at h
  · next ht => exact .inl ⟨ht, by simpa using h.symm⟩
  · next op hne ht =>
      split at h
      · next hop => exact .inr (.inl ⟨op, ht, hop, by simpa using h.symm⟩)
      · split at h
        · next hop => exact .inr (.inr (.inl ⟨op, ht, hop, by simpa [closeAll] using h.symm⟩))
        · next hop => exact .inr (.inr (.inr ⟨by simpa [Token.isSign, ht] using hop, h⟩))
  · next hne hop =>
      refine .inr (.inr (.inr ⟨?_, h⟩))
      unfold Token.isSign
      split
      · next op ht => exact absurd ht (hop op)
      · rfl

theorem afterCall_progress {name : Func} {args : List Node} {f : Token} (hf : f.kind = .func name)
    (h : name.Accepts args.length → Spelt .call w (.call (.func name) f.text args) fs) :
    Progress fs (afterCall f name args) w := by
  unfold afterCall
  simp only [Token.arityFault?, hf]
  by_cases haccepts : name.arity.accepts args.length = true
  · rw [if_pos haccepts]
    exact .operator (h haccepts)
  · rw [if_neg haccepts]
    exact .faulty

/-- A token after a whole expression: the next expression of the document, or the delimiter
that the innermost frame waits for. -/
theorem afterExpression_read {done : List Token} {tight : Bool}
    (hdone : Finished Func.Accepts done ns tight)
    (hw : tight = true → w ≠ [] ∧ ¬ StartsWithSign w) (hspelt : Spelt .additive w n fs)
    (hfs : tightness fs < 1) (ht : t.isSign = false)
    (h : afterExpression (.document ns) (n, fs) t = some s) : Read s (done ++ w ++ [t]) := by
  obtain ⟨v, u, rfl, hv, hu⟩ := hspelt
  cases hv with
  | nil =>
      have hdone' : Finished Func.Accepts (done ++ u) (ns ++ [n]) true :=
        .expression hdone hu fun htight => (hw htight).2
      exact betweenExpressions_read hdone' (fun _ => ht) h
  | @group fs v o hv ho =>
      simp only [afterExpression] at h
      split at h
      · next hc =>
          cases h
          refine .extend hdone hw (.operator ⟨v, o :: (u ++ [t]), by simp, hv, ?_⟩)
          exact .ofPrimary (.group ho hu hc)
      · cases h
  | @firstArgument fs v f o name hv hf ho =>
      simp only [afterExpression] at h
      split at h
      · next hc =>
          cases h
          refine .extend hdone hw (.operand ?_)
          simpa using Held.nextArgument hv hf ho (.one hu) hc
      · next hc =>
          cases h
          refine .extend hdone hw (afterCall_progress hf fun haccepts => ?_)
          exact ⟨v, f :: o :: (u ++ [t]), by simp, hv, .call hf ho (.one hu) hc haccepts⟩
      · cases h
  | @nextArgument fs v us f o c name args hv hf ho hs hcomma =>
      simp only [afterExpression] at h
      split at h
      · next hc =>
          cases h
          refine .extend hdone hw (.operand ?_)
          simpa using Held.nextArgument hv hf ho (.more hs hcomma hu) hc
      · next hc =>
          cases h
          refine .extend hdone hw (afterCall_progress hf fun haccepts => ?_)
          exact ⟨v, f :: o :: ((us ++ c :: u) ++ [t]), by simp, hv,
            .call hf ho (.more hs hcomma hu) hc haccepts⟩
      · cases h
  | @inlineMath fs v o hv ho =>
      simp only [afterExpression] at h
      split at h
      · next hc =>
          cases h
          refine .extend hdone hw (.operator ⟨v, o :: (u ++ [t]), by simp, hv, ?_⟩)
          exact .ofPrimary (.inlineMath ho hu hc)
      · cases h
  | @displayMath fs v o hv ho =>
      simp only [afterExpression] at h
      split at h
      · next hc =>
          cases h
          refine .extend hdone hw (.operator ⟨v, o :: (u ++ [t]), by simp, hv, ?_⟩)
          exact .ofPrimary (.displayMath ho hu hc)
      · cases h
  | additive | multiplicative | sign | power => simp [tightness, Frame.tightness] at hfs

/-- The token after an operand. -/
theorem afterOperand_read {done : List Token} {tight : Bool}
    (hdone : Finished Func.Accepts done ns tight)
    (hw : tight = true → w ≠ [] ∧ ¬ StartsWithSign w) (hspelt : Spelt .call w n fs)
    (h : afterOperand (.document ns) n fs t = some s) : Read s (done ++ w ++ [t]) := by
  have hunary := hspelt.unary
  rcases afterOperand_cases h with ⟨ht, rfl⟩ | ⟨op, ht, hop, rfl⟩ | ⟨op, ht, hop, rfl⟩ | ⟨ht, h⟩
  · obtain ⟨v, u, rfl, hv, hu⟩ := hspelt
    refine .extend hdone hw (.operand ?_)
    simpa using Held.power hv hu ht
  · obtain ⟨hclosed, hfs⟩ := closeUnary_spelt hunary
    obtain ⟨⟨v, u, rfl, hv, hu⟩, hfs⟩ := closeProduct_spelt hclosed hfs
    refine .extend hdone hw (.operand ?_)
    simpa using Held.multiplicative hv hfs hu ht hop
  · obtain ⟨⟨v, u, rfl, hv, hu⟩, hfs⟩ := closeAll_spelt hunary
    refine .extend hdone hw (.operand ?_)
    simpa using Held.additive hv hfs hu ht hop
  · obtain ⟨hclosed, hfs⟩ := closeAll_spelt hunary
    exact afterExpression_read hdone hw hclosed hfs ht h

end Step

/-- One token more. -/
theorem Read.next {s s' : State} {w : List Token} {t : Token} (hread : Read s w)
    (h : s.next? t = some s') : Read s' (w ++ [t]) := by
  obtain @⟨ns, fs, phase, done, w, tight, hdone, hprogress, hw⟩ := hread
  cases hprogress with
  | operand hheld =>
      cases fs with
      | nil =>
          cases hheld
          -- nothing of the next expression was read, so the last one does not touch it
          have htight : tight ≠ true := fun htight => (hw htight).1 rfl
          simpa using betweenExpressions_read hdone (fun ht => absurd ht htight) h
      | cons frame fs => exact startOperand_read hdone hw hheld h
  | @firstArgument v f o name hv hf ho =>
      simp only [State.next?] at h
      split at h
      · next hc =>
          cases h
          refine .extend hdone hw (afterCall_progress hf fun haccepts => ?_)
          exact ⟨v, [f, o, t], by simp, hv, .emptyCall hf ho hc haccepts⟩
      · exact startOperand_read hdone hw (.firstArgument hv hf ho) h
  | @argumentList v f name hv hf =>
      simp only [State.next?] at h
      split at h
      · next ho =>
          cases h
          refine .extend hdone hw ?_
          simpa using Progress.firstArgument hv hf ho
      · cases h
  | operator hspelt => exact afterOperand_read hdone hw hspelt h
  | faulty => cases h

/-! ## The verdict, and a whole run -/

/-- The expressions of the document, if it may end here. -/
def State.finished? (s : State) : Option (List Node) :=
  match s.goal, s.phase with
  | .document ns, .operand => if s.frames.isEmpty then some ns else none
  | .document ns, .operator n =>
    match closeAll n s.frames with
    | (n, []) => some (ns ++ [n])
    | _ => none
  | _, _ => none

theorem verdict_of_finished {s : State} {ns : List Node} (h : s.finished? = some ns) (t : Token) :
    s.verdict t = endOfExpressions ns t := by
  obtain ⟨goal, fs, phase⟩ := s
  unfold State.finished? at h
  split at h
  · next ms hgoal hphase =>
      cases hgoal
      cases hphase
      cases fs with
      | nil =>
          cases h
          rfl
      | cons frame fs => cases h
  · next ms n hgoal hphase =>
      cases hgoal
      cases hphase
      split at h
      · next m hclose =>
          cases h
          simp only [State.verdict, hclose, endOfExpression]
      · cases h
  · cases h

/-- Where a document may end, its expressions were spelt. -/
theorem Read.finished {s : State} {w : List Token} {ns : List Node} (hread : Read s w)
    (h : s.finished? = some ns) : ∃ tight, Finished Func.Accepts w ns tight := by
  obtain @⟨ms, fs, phase, done, w, tight, hdone, hprogress, hw⟩ := hread
  cases hprogress with
  | operand hheld =>
      cases hheld with
      | nil =>
          cases h
          exact ⟨tight, by simpa using hdone⟩
      | _ => cases h
  | firstArgument | argumentList | faulty => cases h
  | operator hspelt =>
      obtain ⟨hclosed, -⟩ := closeAll_spelt hspelt.unary
      simp only [State.finished?] at h
      split at h
      · next n hclose =>
          cases h
          rw [hclose] at hclosed
          obtain ⟨v, u, rfl, hv, hu⟩ := hclosed
          cases hv
          exact ⟨true, .expression hdone hu fun htight => (hw htight).2⟩
      · cases h

/-- Where a document may not end, no token makes it end well. -/
theorem Read.unfinished {s : State} {w : List Token} (hread : Read s w)
    (h : s.finished? = none) : ∃ fault : Token → Fault, ∀ t, s.verdict t = .error (fault t) := by
  obtain @⟨ns, fs, phase, done, w, tight, hdone, hprogress, hw⟩ := hread
  cases hprogress with
  | operand hheld =>
      cases fs with
      | nil => cases h
      | cons frame fs => exact ⟨_, fun t => rfl⟩
  | firstArgument | argumentList | faulty => exact ⟨_, fun t => rfl⟩
  | @operator w n hspelt =>
      obtain ⟨hclosed, hfs⟩ := closeAll_spelt hspelt.unary
      simp only [State.finished?, State.verdict] at h ⊢
      generalize closeAll n fs = p at h hclosed hfs
      obtain ⟨m, fs⟩ := p
      obtain ⟨v, u, -, hv, -⟩ := hclosed
      cases hv with
      | nil => cases h
      | group | firstArgument | nextArgument | inlineMath | displayMath =>
          exact ⟨_, fun t => rfl⟩
      | additive | multiplicative | sign | power => simp [tightness, Frame.tightness] at hfs

/-- A reading succeeds at the end of the input only, and then with the document that was
spelt. -/
theorem Read.verdict {s : State} {w : List Token} {t : Token} {n : Node} (hread : Read s w)
    (h : s.verdict t = .ok n) : t.kind = .eof ∧ ∃ ns, n = .document ns ∧ Document w ns := by
  cases hfinished : s.finished? with
  | some ns =>
      obtain ⟨tight, hw⟩ := hread.finished hfinished
      rw [verdict_of_finished hfinished, endOfExpressions] at h
      split at h
      · next ht =>
          cases h
          exact ⟨ht, ns, rfl, hw.document⟩
      · cases h
  | none =>
      obtain ⟨fault, hfault⟩ := hread.unfinished hfinished
      rw [hfault t] at h
      cases h

/-- What a run gives is the document that the tokens up to the first end of the input spell. -/
theorem run_sound {last : Token} {s : State} {ts : List Token} {n : Node} {rest : List Token} :
    ∀ {w : List Token}, Read s w → State.run last s ts = (.ok n, rest) →
      ∃ v ns, ts = v ++ rest ∧ (rest.headD last).kind = .eof ∧ n = .document ns ∧
        Document (w ++ v) ns := by
  fun_induction State.run last s ts with
  | case1 s =>
      intro w hread h
      simp only [Prod.mk.injEq] at h
      obtain ⟨hverdict, rfl⟩ := h
      obtain ⟨hlast, ns, rfl, hdoc⟩ := hread.verdict hverdict
      exact ⟨[], ns, rfl, hlast, rfl, by simpa using hdoc⟩
  | case2 s t ts s' hnext ih =>
      intro w hread h
      obtain ⟨v, ns, rfl, hrest, rfl, hdoc⟩ := ih (hread.next hnext) h
      exact ⟨t :: v, ns, rfl, hrest, rfl, by simpa using hdoc⟩
  | case3 s t ts hnext =>
      intro w hread h
      simp only [Prod.mk.injEq] at h
      obtain ⟨hverdict, rfl⟩ := h
      obtain ⟨ht, ns, rfl, hdoc⟩ := hread.verdict hverdict
      exact ⟨[], ns, rfl, ht, rfl, by simpa using hdoc⟩

end PlainMath.Parser
