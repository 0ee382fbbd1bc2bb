/-
# `Proofs.Parser.Complete` — what is spelt is read

The converse of `Proofs.Parser.Sound`.  A derivation drives the parser: from a state in which
an operand may start, over the tokens that the derivation spells, to a state in which the
operand was read, unless there is a call among them that the parser finds faulty
(`derives_lead`).  The frames at the end need not be those at the beginning,
because the signs, powers and products that the derivation ends with are only closed by the
next token.  They are the same once closed up to the level of the derivation:

    level           same up to                      frames before
    additive        closeAll                        not additive, multiplicative, unary
    multiplicative  closeProduct ∘ closeUnary       not multiplicative, unary
    unary, power    closeUnary                      any
    call, primary   equality                        any

At the end both directions are put together: the parser reads exactly the documents of the
grammar, each with its one list of expressions.
-/
import PlainMath.Parser.Cursor
import PlainMath.Proofs.Parser.Sound

namespace PlainMath.Parser

open Grammar

/-! ## Several steps -/

/-- The tokens lead from one state to another. -/
inductive Leads : State → List Token → State → Prop where
  | refl {s : State} : Leads s [] s
  | step {s s' s'' : State} {t : Token} {u : List Token} :
      s.next? t = some s' → Leads s' u s'' → Leads s (t :: u) s''

theorem Leads.single {s s' : State} {t : Token} (h : s.next? t = some s') : Leads s [t] s' :=
  .step h .refl

theorem Leads.append {s s' s'' : State} {u v : List Token} (hu : Leads s u s')
    (hv : Leads s' v s'') : Leads s (u ++ v) s'' := by
  induction hu with
  | refl => exact hv
  | step h _ ih => exact .step h (ih hv)

/-- States that agree on the first token lead to the same states. -/
theorem Leads.of_next_eq {s₁ s₂ s' : State} {t : Token} {u : List Token}
    (hnext : s₁.next? t = s₂.next? t) (h : Leads s₂ (t :: u) s') : Leads s₁ (t :: u) s' := by
  cases h with
  | step h hu => exact .step (hnext.trans h) hu

theorem Leads.run {last : Token} {s s' : State} {u rest : List Token} (h : Leads s u s') :
    State.run last s (u ++ rest) = State.run last s' rest := by
  induction h with
  | refl => rfl
  | step h _ ih => simp only [List.cons_append, State.run, h, ih]

/-! ## What each token does -/

section Next
variable {ns : List Node} {fs gs : List Frame} {t : Token} {n m : Node} {op : Operator}

/-- Within an expression a line end is a token like any other, and at its beginning it cannot
be the first token. -/
theorem next_operand (h : t.kind ≠ .newline) :
    State.next? ⟨.document ns, fs, .operand⟩ t = startOperand (.document ns) fs t := by
  cases fs with
  | nil =>
      simp only [State.next?, beforeOperand, betweenExpressions]
  | cons frame fs => rfl

theorem next_sign (ht : t.kind = .operator op) (hop : op.isAdditive = true) :
    State.next? ⟨.document ns, fs, .operand⟩ t =
      some ⟨.document ns, .sign op :: fs, .operand⟩ := by
  rw [next_operand (by simp [ht])]
  simp [startOperand, ht, hop, Goal.level, Level.takesSigns]

theorem next_power (ht : t.kind = .operator .power) :
    State.next? ⟨.document ns, fs, .operator n⟩ t =
      some ⟨.document ns, .power n :: fs, .operand⟩ := by
  simp [State.next?, afterOperand, ht, Goal.level, Level.takesPowers]

theorem next_multiplicative (ht : t.kind = .operator op) (hop : op.isMultiplicative = true)
    (hclose : closeProduct (closeUnary m gs) = (n, fs)) :
    State.next? ⟨.document ns, gs, .operator m⟩ t =
      some ⟨.document ns, .multiplicative op n :: fs, .operand⟩ := by
  cases op with
  | power => exact absurd hop (by decide)
  | _ =>
      simp [State.next?, afterOperand, ht, hop, hclose, Goal.level, Level.takesProducts]

theorem next_additive (ht : t.kind = .operator op) (hop : op.isAdditive = true)
    (hclose : closeAll m gs = (n, fs)) :
    State.next? ⟨.document ns, gs, .operator m⟩ t =
      some ⟨.document ns, .additive op n :: fs, .operand⟩ := by
  unfold closeAll at hclose
  cases op with
  | plus | minus =>
      simp [State.next?, afterOperand, ht, hop, hclose, Goal.level, Level.takesSums,
        Operator.isMultiplicative]
  | _ => exact absurd hop (by decide)

/-- A token that does not go on with the expression. -/
theorem next_other (hpower : t.kind ≠ .operator .power)
    (hop : ∀ op, t.kind = .operator op → op.isMultiplicative = false ∧ op.isAdditive = false)
    (hclose : closeAll m gs = (n, fs)) :
    State.next? ⟨.document ns, gs, .operator m⟩ t =
      afterExpression (.document ns) (n, fs) t := by
  unfold closeAll at hclose
  simp only [State.next?, afterOperand, hclose]
  split
  · next ht => exact absurd ht hpower
  · next op _ ht => simp [hop op ht]
  · rfl

end Next

/-! ## A derivation leads over the tokens that it spells -/

/-- Closes the frames that end with the operand at this level. -/
def closeTo : Level → Node → List Frame → Node × List Frame
  | .additive, n, fs => closeAll n fs
  | .multiplicative, n, fs => closeProduct (closeUnary n fs)
  | .unary, n, fs | .power, n, fs => closeUnary n fs
  | .call, n, fs | .primary, n, fs => (n, fs)

/-- How tightly the frames may bind in which an operand of this level is read. -/
def bound : Level → Nat
  | .additive => 1
  | .multiplicative => 2
  | _ => 4

theorem tightness_lt_four : ∀ fs : List Frame, tightness fs < 4
  | [] => Nat.zero_lt_succ 3
  | frame :: _ => by cases frame <;> simp [tightness, Frame.tightness]

theorem closeTo_multiplicative {n : Node} {fs : List Frame} (h : tightness fs < 2) :
    closeTo .multiplicative n fs = (n, fs) := by
  rw [closeTo, closeUnary_of_loose (by omega), closeProduct_of_loose h]

theorem closeTo_additive {n : Node} {fs : List Frame} (h : tightness fs < 1) :
    closeTo .additive n fs = (n, fs) := by
  rw [closeTo, closeAll, closeUnary_of_loose (by omega), closeProduct_of_loose (by omega),
    closeSum_of_loose h]

/-- From these frames, the tokens lead to an operand that is `n` once it is closed up to the
level. -/
def LeadsTo (level : Level) (ns : List Node) (fs : List Frame) (w : List Token) (n : Node) :
    Prop :=
  ∃ m gs, Leads ⟨.document ns, fs, .operand⟩ w ⟨.document ns, gs, .operator m⟩ ∧
    closeTo level m gs = closeTo level n fs

section Rules
variable {ns : List Node} {fs : List Frame} {t : Token} {n : Node}

/-- An operand of one token. -/
theorem leadsTo_single {level : Level} (ht : t.kind ≠ .newline)
    (h : startOperand (.document ns) fs t = some ⟨.document ns, fs, .operator n⟩) :
    LeadsTo level ns fs [t] n :=
  ⟨n, fs, .single ((next_operand ht).trans h), rfl⟩

/-- Frames that wait for a token of their own are reached again at the end of the expression
in them. -/
theorem LeadsTo.closeAll_eq {w : List Token} (h : LeadsTo .additive ns fs w n)
    (hfs : tightness fs < 1) :
    ∃ m gs, Leads ⟨.document ns, fs, .operand⟩ w ⟨.document ns, gs, .operator m⟩ ∧
      closeAll m gs = (n, fs) := by
  obtain ⟨m, gs, hleads, hclose⟩ := h
  rw [closeTo_additive hfs] at hclose
  exact ⟨m, gs, hleads, hclose⟩

/-- From a function over its opening parenthesis. -/
theorem leads_firstArgument {o : Token} {f : Func} (ht : t.kind = .func f)
    (ho : o.kind = .opener .paren) :
    Leads ⟨.document ns, fs, .operand⟩ [t, o] ⟨.document ns, fs, .firstArgument t f⟩ := by
  refine .step ?_ (.single (s := ⟨.document ns, fs, .argumentList t f⟩) ?_)
  · rw [next_operand (by simp [ht])]
    simp [startOperand, ht, Goal.level, Level.takesKeywords]
  · simp [State.next?, ho]

/-- The first argument begins like any operand. -/
theorem next_firstArgument {f : Token} {name : Func} (ht : startsExpression t.kind = true) :
    State.next? ⟨.document ns, fs, .firstArgument f name⟩ t =
      State.next? ⟨.document ns, .arguments f name [] :: fs, .operand⟩ t := by
  simp only [State.next?]
  split
  · next hc => simp [startsExpression, hc] at ht
  · rfl

/-- A closed call is an operand if the function accepts its number of arguments, and faulty if
not. -/
theorem afterCall_cases {f : Func} (args : List Node) (ht : t.kind = .func f) :
    (f.Accepts args.length ∧ afterCall t f args = .operator (.call (.func f) t.text args)) ∨
      (¬ f.Accepts args.length ∧ ∃ fault, afterCall t f args = .faulty fault) := by
  by_cases haccepts : f.arity.accepts args.length = true
  · exact .inl ⟨haccepts, by simp [afterCall, Token.arityFault?, ht, haccepts]⟩
  · exact .inr ⟨haccepts, _, by simp [afterCall, Token.arityFault?, ht, haccepts]; rfl⟩

end Rules

/-! A grammar may allow calls that the parser does not accept.  The tokens of a derivation then
lead to the end of the first such call, and the parser stops there. -/

/-- Over the first of these tokens the parser comes to a call that it finds faulty.  This can
only be where a call is allowed that is not accepted. -/
def Trips (allows : Func → Nat → Prop) (s : State) (w : List Token) : Prop :=
  (∃ f count, allows f count ∧ ¬ Func.Accepts f count) ∧
    ∃ u v goal fs fault, w = u ++ v ∧ Leads s u ⟨goal, fs, .faulty fault⟩

theorem not_trips {s : State} {w : List Token} : ¬ Trips Func.Accepts s w := by
  rintro ⟨⟨f, count, haccepts, hnot⟩, -⟩
  exact hnot haccepts

section Trips
variable {allows : Func → Nat → Prop} {s s' : State} {u w : List Token}

theorem Trips.append (h : Trips allows s w) (x : List Token) : Trips allows s (w ++ x) := by
  obtain ⟨hcount, u, v, goal, fs, fault, rfl, hleads⟩ := h
  exact ⟨hcount, u, v ++ x, goal, fs, fault, List.append_assoc u v x, hleads⟩

theorem Trips.after (hu : Leads s u s') (h : Trips allows s' w) : Trips allows s (u ++ w) := by
  obtain ⟨hcount, v, x, goal, fs, fault, rfl, hleads⟩ := h
  exact ⟨hcount, u ++ v, x, goal, fs, fault, (List.append_assoc u v x).symm, hu.append hleads⟩

theorem trips_of_next {t : Token} {goal : Goal} {fs : List Frame} {fault : Fault}
    {f : Func} {count : Nat} (hallows : allows f count) (haccepts : ¬ f.Accepts count)
    (h : s.next? t = some ⟨goal, fs, .faulty fault⟩) : Trips allows s [t] :=
  ⟨⟨f, count, hallows, haccepts⟩, [t], [], goal, fs, fault, rfl, .single h⟩

/-- A state that begins like one before an operand trips over the same tokens. -/
theorem Trips.of_next_eq {goal : Goal} {fs : List Frame} {t : Token}
    (hnext : s.next? t = State.next? ⟨goal, fs, .operand⟩ t)
    (h : Trips allows ⟨goal, fs, .operand⟩ (t :: w)) : Trips allows s (t :: w) := by
  obtain ⟨hcount, u, v, goal', fs', fault, hw, hleads⟩ := h
  cases u with
  | nil => cases hleads
  | cons t' u =>
      obtain ⟨rfl, rfl⟩ := List.cons.inj hw
      exact ⟨hcount, t :: u, v, goal', fs', fault, rfl, hleads.of_next_eq hnext⟩

/-- An operand between two delimiters. -/
theorem lead_enclosed {ns : List Node} {fs : List Frame} (frame : Frame) {o c : Token}
    {inner n : Node}
    (ho : State.next? ⟨.document ns, fs, .operand⟩ o =
      some ⟨.document ns, frame :: fs, .operand⟩)
    (hframe : frame.tightness < 1)
    (h : LeadsTo .additive ns (frame :: fs) u inner ∨
      Trips allows ⟨.document ns, frame :: fs, .operand⟩ u)
    (hc : ∀ op, c.kind ≠ .operator op)
    (hend : afterExpression (.document ns) (inner, frame :: fs) c =
      some ⟨.document ns, fs, .operator n⟩) :
    LeadsTo .primary ns fs (o :: (u ++ [c])) n ∨
      Trips allows ⟨.document ns, fs, .operand⟩ (o :: (u ++ [c])) := by
  rcases h with h | htrips
  · obtain ⟨m, gs, hleads, hclose⟩ := h.closeAll_eq hframe
    have hlast : Leads ⟨.document ns, gs, .operator m⟩ [c] ⟨.document ns, fs, .operator n⟩ :=
      .single ((next_other (hc _) (fun op ht => absurd ht (hc op)) hclose).trans hend)
    exact .inl ⟨n, fs, .step ho (hleads.append hlast), rfl⟩
  · exact .inr (.after (.single ho) (htrips.append [c]))

end Trips

section Lead
variable {allows : Func → Nat → Prop}

mutual

theorem derives_lead : ∀ {level : Level} {w : List Token} {n : Node},
    Derives allows level w n → ∀ (ns : List Node) (fs : List Frame), tightness fs < bound level →
      LeadsTo level ns fs w n ∨ Trips allows ⟨.document ns, fs, .operand⟩ w
  | _, _, _, @Derives.sum _ _ _ t op l _ hl ht hop hr => by
      intro ns fs hfs
      rcases derives_lead hl ns fs hfs with hleft | htrips
      · obtain ⟨m, gs, hleads, hclose⟩ := hleft.closeAll_eq hfs
        -- the right operand is read on top of a frame that holds the sum so far
        have hframe : tightness (.additive op l :: fs) < 2 := Nat.lt_succ_self 1
        have hsign : Leads ⟨.document ns, gs, .operator m⟩ [t]
            ⟨.document ns, .additive op l :: fs, .operand⟩ :=
          .single (next_additive ht hop hclose)
        rcases derives_lead hr ns _ hframe with ⟨m', gs', hleads', hclose'⟩ | htrips
        · rw [closeTo_multiplicative hframe] at hclose'
          refine .inl ⟨m', gs', hleads.append (hsign.append hleads'), ?_⟩
          rw [closeTo_additive hfs]
          exact congrArg closeSum hclose'
        · exact .inr (.after hleads (.after hsign htrips))
      · exact .inr (htrips.append _)
  | _, _, _, .ofProduct h => by
      intro ns fs hfs
      refine (derives_lead h ns fs (Nat.lt_succ_of_lt hfs)).imp_left ?_
      rintro ⟨m, gs, hleads, hclose⟩
      exact ⟨m, gs, hleads, congrArg closeSum hclose⟩
  | _, _, _, @Derives.product _ _ _ t op l _ hl ht hop hr => by
      intro ns fs hfs
      rcases derives_lead hl ns fs hfs with ⟨m, gs, hleads, hclose⟩ | htrips
      · rw [closeTo_multiplicative hfs] at hclose
        have hsign : Leads ⟨.document ns, gs, .operator m⟩ [t]
            ⟨.document ns, .multiplicative op l :: fs, .operand⟩ :=
          .single (next_multiplicative ht hop hclose)
        rcases derives_lead hr ns (.multiplicative op l :: fs) (tightness_lt_four _) with
          ⟨m', gs', hleads', hclose'⟩ | htrips
        · refine .inl ⟨m', gs', hleads.append (hsign.append hleads'), ?_⟩
          rw [closeTo_multiplicative hfs]
          exact congrArg closeProduct hclose'
        · exact .inr (.after hleads (.after hsign htrips))
      · exact .inr (htrips.append _)
  | _, _, _, .ofUnary h => by
      intro ns fs _
      refine (derives_lead h ns fs (tightness_lt_four _)).imp_left ?_
      rintro ⟨m, gs, hleads, hclose⟩
      exact ⟨m, gs, hleads, congrArg closeProduct hclose⟩
  | _, _, _, @Derives.sign _ _ t op _ ht hop h => by
      intro ns fs _
      have hsign : Leads ⟨.document ns, fs, .operand⟩ [t]
          ⟨.document ns, .sign op :: fs, .operand⟩ :=
        .single (next_sign ht hop)
      refine (derives_lead h ns (.sign op :: fs) (tightness_lt_four _)).imp ?_ (.after hsign)
      rintro ⟨m, gs, hleads, hclose⟩
      exact ⟨m, gs, hsign.append hleads, hclose⟩
  | _, _, _, .ofPower h => fun ns fs hfs => derives_lead h ns fs hfs
  | _, _, _, @Derives.power _ _ _ t b _ hb ht he => by
      intro ns fs _
      rcases derives_lead hb ns fs (tightness_lt_four _) with ⟨m, gs, hleads, hclose⟩ | htrips
      · cases hclose
        have hsign : Leads ⟨.document ns, fs, .operator b⟩ [t]
            ⟨.document ns, .power b :: fs, .operand⟩ :=
          .single (next_power ht)
        refine (derives_lead he ns (.power b :: fs) (tightness_lt_four _)).imp ?_
          fun htrips => .after hleads (.after hsign htrips)
        rintro ⟨m', gs', hleads', hclose'⟩
        exact ⟨m', gs', hleads.append (hsign.append hleads'), hclose'⟩
      · exact .inr (htrips.append _)
  | _, _, _, .ofCall h => by
      intro ns fs hfs
      refine (derives_lead h ns fs hfs).imp_left ?_
      rintro ⟨m, gs, hleads, hclose⟩
      cases hclose
      exact ⟨_, _, hleads, rfl⟩
  | _, _, _, .constant ht => fun ns fs _ =>
      .inl (leadsTo_single (by simp [ht])
        (by simp [startOperand, ht, Goal.level, Level.takesKeywords]))
  | _, _, _, .emptyCall (t := t) (c := c) (f := f) ht ho hc hallows => fun ns fs _ => by
      have hnext : State.next? ⟨.document ns, fs, .firstArgument t f⟩ c =
          some ⟨.document ns, fs, afterCall t f []⟩ := by
        simp [State.next?, hc]
      rcases afterCall_cases [] ht with ⟨-, hcall⟩ | ⟨haccepts, fault, hcall⟩
      · rw [hcall] at hnext
        exact .inl ⟨_, fs, (leads_firstArgument ht ho).append (.single hnext), rfl⟩
      · rw [hcall] at hnext
        exact .inr (.after (leads_firstArgument ht ho) (trips_of_next hallows haccepts hnext))
  | _, _, _, .call (t := t) (c := c) (f := f) ht ho h hc hallows => fun ns fs _ => by
      rcases arguments_lead h ns fs t f with ⟨m, gs, front, n, rfl, hleads, hclose⟩ | htrips
      · have hnext : State.next? ⟨.document ns, gs, .operator m⟩ c =
            some ⟨.document ns, fs, afterCall t f (front ++ [n])⟩ := by
          rw [next_other (by simp [hc]) (by simp [hc]) hclose]
          simp [afterExpression, hc]
        rcases afterCall_cases (front ++ [n]) ht with ⟨-, hcall⟩ | ⟨haccepts, fault, hcall⟩
        · rw [hcall] at hnext
          exact .inl
            ⟨_, fs, (leads_firstArgument ht ho).append (hleads.append (.single hnext)), rfl⟩
        · rw [hcall] at hnext
          exact .inr (.after (leads_firstArgument ht ho)
            (.after hleads (trips_of_next hallows haccepts hnext)))
      · exact .inr (.after (leads_firstArgument ht ho) (htrips.append _))
  | _, _, _, .ofPrimary h => fun ns fs hfs => derives_lead h ns fs hfs
  | _, _, _, .number ht => fun ns fs _ =>
      .inl (leadsTo_single (by simp [ht]) (by simp [startOperand, ht]))
  | _, _, _, .greek ht => fun ns fs _ =>
      .inl (leadsTo_single (by simp [ht]) (by simp [startOperand, ht]))
  | _, _, _, .identifier ht => fun ns fs _ =>
      .inl (leadsTo_single (by simp [ht]) (by simp [startOperand, ht]))
  | _, _, _, .text ht => fun ns fs _ =>
      .inl (leadsTo_single (by simp [ht]) (by simp [startOperand, ht]))
  | _, _, _, .group ho h hc => fun ns fs _ =>
      lead_enclosed .group (by rw [next_operand (by simp [ho])]; simp [startOperand, ho])
        Nat.zero_lt_one (derives_lead h ns _ Nat.zero_lt_one) (by simp [hc])
        (by simp [afterExpression, hc])
  | _, _, _, .inlineMath ho h hc => fun ns fs _ =>
      lead_enclosed .inlineMath (by rw [next_operand (by simp [ho])]; simp [startOperand, ho])
        Nat.zero_lt_one (derives_lead h ns _ Nat.zero_lt_one) (by simp [hc])
        (by simp [afterExpression, hc])
  | _, _, _, .displayMath ho h hc => fun ns fs _ =>
      lead_enclosed .displayMath (by rw [next_operand (by simp [ho])]; simp [startOperand, ho])
        Nat.zero_lt_one (derives_lead h ns _ Nat.zero_lt_one) (by simp [hc])
        (by simp [afterExpression, hc])

/-- From the parenthesis of a call, over the arguments, to the last of them. -/
theorem arguments_lead : ∀ {w : List Token} {args : List Node},
    Arguments allows w args → ∀ (ns : List Node) (fs : List Frame) (f : Token) (name : Func),
      (∃ m gs front n, args = front ++ [n] ∧
        Leads ⟨.document ns, fs, .firstArgument f name⟩ w ⟨.document ns, gs, .operator m⟩ ∧
        closeAll m gs = (n, .arguments f name front :: fs)) ∨
      Trips allows ⟨.document ns, fs, .firstArgument f name⟩ w
  | _, _, .one h => by
      intro ns fs f name
      rcases derives_lead h ns (.arguments f name [] :: fs) Nat.zero_lt_one with hlead | htrips
      · obtain ⟨m, gs, hleads, hclose⟩ := hlead.closeAll_eq Nat.zero_lt_one
        obtain ⟨t, u, rfl, ht⟩ := h.first
        exact .inl ⟨m, gs, [], _, rfl, .of_next_eq (next_firstArgument ht) hleads, hclose⟩
      · obtain ⟨t, u, rfl, ht⟩ := h.first
        exact .inr (htrips.of_next_eq (next_firstArgument ht))
  | _, _, .more (c := c) hs hc h => by
      intro ns fs f name
      rcases arguments_lead hs ns fs f name with ⟨m, gs, front, n, rfl, hleads, hclose⟩ | htrips
      · have hcomma : State.next? ⟨.document ns, gs, .operator m⟩ c =
            some ⟨.document ns, .arguments f name (front ++ [n]) :: fs, .operand⟩ := by
          rw [next_other (by simp [hc]) (by simp [hc]) hclose]
          simp [afterExpression, hc]
        rcases derives_lead h ns (.arguments f name (front ++ [n]) :: fs) Nat.zero_lt_one with
          hlead | htrips
        · obtain ⟨m', gs', hleads', hclose'⟩ := hlead.closeAll_eq Nat.zero_lt_one
          exact .inl ⟨m', gs', front ++ [n], _, rfl, hleads.append (.step hcomma hleads'), hclose'⟩
        · exact .inr (.after hleads (.after (.single hcomma) htrips))
      · exact .inr (htrips.append _)

end

end Lead

/-! ## Documents -/

/-- The kinds of tokens that end an expression at the top of a document. -/
def endsExpression : Kind → Bool
  | .operator op => !op.isAdditive && !op.isMultiplicative && !(op == .power)
  | _ => true

/-- The first token of an expression does not go on with the one before, unless it is a sign. -/
theorem endsExpression_of_first {t : Token} (ht : startsExpression t.kind = true)
    (hsign : t.isSign = false) : endsExpression t.kind = true := by
  cases hk : t.kind with
  | operator op => simp_all [startsExpression, Token.isSign]
  | _ => rfl

section Documents
variable {ns : List Node} {gs : List Frame} {m n : Node} {last : Token}

/-- A finished expression is handed over to the document by whatever token ends it. -/
theorem next_handover {t : Token} (hclose : closeAll m gs = (n, []))
    (ht : endsExpression t.kind = true) :
    State.next? ⟨.document ns, gs, .operator m⟩ t =
      State.next? (.start (.document (ns ++ [n]))) t := by
  have hpower : t.kind ≠ .operator .power := by
    intro hpower
    simp [endsExpression, hpower] at ht
  have hop : ∀ op, t.kind = .operator op →
      op.isMultiplicative = false ∧ op.isAdditive = false := by
    intro op hop
    simp only [endsExpression, hop, Bool.and_eq_true, Bool.not_eq_true'] at ht
    exact ⟨ht.1.2, ht.1.1⟩
  rw [next_other hpower hop hclose]
  rfl

theorem verdict_handover {t : Token} (hclose : closeAll m gs = (n, [])) :
    State.verdict ⟨.document ns, gs, .operator m⟩ t =
      State.verdict (.start (.document (ns ++ [n]))) t := by
  simp [State.verdict, State.start, hclose, endOfExpression, noOperand]

theorem run_handover {rest : List Token} (hclose : closeAll m gs = (n, []))
    (hrest : endsExpression (rest.headD last).kind = true) :
    State.run last ⟨.document ns, gs, .operator m⟩ rest =
      State.run last (.start (.document (ns ++ [n]))) rest := by
  cases rest with
  | nil => simp only [State.run, verdict_handover hclose]
  | cons t rest =>
      have ht : endsExpression t.kind = true := hrest
      simp only [State.run, next_handover hclose ht, verdict_handover hclose]

/-- Line ends between expressions change nothing. -/
theorem run_lineEnds {rest : List Token} : ∀ {z : List Token}, LineEnds z →
    State.run last (.start (.document ns)) (z ++ rest) =
      State.run last (.start (.document ns)) rest
  | [], _ => rfl
  | t :: z, h => by
      have ht : t.kind = .newline := h t List.mem_cons_self
      have hz : LineEnds z := fun u hu => h u (List.mem_cons_of_mem _ hu)
      have hnext : State.next? (.start (.document ns)) t = some (.start (.document ns)) := by
        simp [State.start, State.next?, beforeOperand, betweenExpressions, ht]
      simp only [List.cons_append, State.run, hnext, run_lineEnds hz]

/-- An expression is read whole if the token behind it does not go on with it. -/
theorem run_expression {w rest : List Token} (h : Expression w n)
    (hrest : endsExpression (rest.headD last).kind = true) :
    State.run last (.start (.document ns)) (w ++ rest) =
      State.run last (.start (.document (ns ++ [n]))) rest := by
  obtain ⟨m, gs, hleads, hclose⟩ :=
    ((derives_lead h ns [] Nat.zero_lt_one).resolve_right not_trips).closeAll_eq Nat.zero_lt_one
  exact hleads.run.trans (run_handover hclose hrest)

end Documents

/-- The token behind a stretch: a line end, or the first token of the next stretch, or the end of
the input.  None of them goes on with the expression of the stretch. -/
theorem endsExpression_behind {e : Stretch} {es : List Stretch} {last : Token}
    (hlast : last.kind = .eof) (hends : LineEnds e.lineEnds)
    (hes : ∀ d ∈ es, Expression d.spelling d.node ∧ LineEnds d.lineEnds)
    (hchain : (e :: es).IsChain Stretch.MayPrecede) :
    endsExpression ((e.lineEnds ++ es.flatMap Stretch.tokens).headD last).kind = true := by
  cases hz : e.lineEnds with
  | cons t z =>
      have ht : t.kind = .newline := hends t (by simp [hz])
      simp [ht, endsExpression]
  | nil =>
      cases es with
      | nil => simp [hlast, endsExpression]
      | cons d es =>
          have hd := (hes d List.mem_cons_self).1
          obtain ⟨t, u, htu, ht⟩ := hd.first
          have hsign : ¬ StartsWithSign d.spelling := (List.isChain_cons_cons.mp hchain).1 hz
          have ht' : t.isSign = false := by
            by_contra h
            exact hsign ⟨t, by simp [htu], by simpa using h⟩
          simp only [List.nil_append, List.flatMap_cons, Stretch.tokens, htu, List.cons_append,
            List.headD_cons]
          exact endsExpression_of_first ht ht'

theorem run_stretches {last : Token} (hlast : last.kind = .eof) : ∀ {es : List Stretch},
    (∀ e ∈ es, Expression e.spelling e.node ∧ LineEnds e.lineEnds) →
    es.IsChain Stretch.MayPrecede → ∀ (ns : List Node),
      State.run last (.start (.document ns)) (es.flatMap Stretch.tokens) =
        (.ok (.document (ns ++ es.map Stretch.node)), [])
  | [], _, _, ns => by
      simp [State.run, State.verdict, State.start, noOperand, endOfExpressions, hlast]
  | e :: es, hes, hchain, ns => by
      obtain ⟨hexpr, hends⟩ := hes e List.mem_cons_self
      have htail : ∀ d ∈ es, Expression d.spelling d.node ∧ LineEnds d.lineEnds :=
        fun d hd => hes d (List.mem_cons_of_mem _ hd)
      have hbehind := endsExpression_behind hlast hends htail hchain
      rw [List.flatMap_cons, Stretch.tokens, List.append_assoc, run_expression hexpr hbehind,
        run_lineEnds hends, run_stretches hlast htail hchain.tail (ns ++ [e.node])]
      simp

/-- A document is read to its end, with its list of expressions. -/
theorem run_complete {last : Token} (hlast : last.kind = .eof) {w : List Token}
    {ns : List Node} (h : Document w ns) :
    State.run last (.start (.document [])) w = (.ok (.document ns), []) := by
  obtain ⟨z, es, rfl, rfl, hz, hes, hchain⟩ := h
  rw [run_lineEnds hz, run_stretches hlast hes hchain []]
  rfl

/-! ## Reading a stream -/

/-- A stream is read by one run, unless its brackets are out of balance. -/
theorem parse_eq (s : Stream) :
    parse s =
      match Token.imbalance? s.tokens with
      | some fault => .error fault
      | none => (State.run s.last (.start (.document [])) s.body).1 := by
  simp only [parse, Cursor.document, Cursor.tokens, Cursor.ofStream, Stream.tokens,
    List.reverse_nil, List.nil_append]
  cases Token.imbalance? (s.body ++ [s.last]) <;> rfl

theorem run_of_parse {s : Stream} {n : Node} (h : parse s = .ok n) :
    (State.run s.last (.start (.document [])) s.body).1 = .ok n := by
  rw [parse_eq] at h
  split at h
  · cases h
  · exact h

/-- If the run goes well, the tokens up to the first end of the input spell the document. -/
theorem document_of_run {s : Stream} {n : Node}
    (h : (State.run s.last (.start (.document [])) s.body).1 = .ok n) :
    ∃ w ns rest, s.body = w ++ rest ∧ (rest.headD s.last).kind = .eof ∧ n = .document ns ∧
      Document w ns := by
  obtain ⟨w, ns, hbody, hrest, hn, hdoc⟩ :=
    run_sound Read.start (Prod.ext h rfl : State.run s.last _ s.body = (.ok n, _))
  exact ⟨w, ns, _, hbody, hrest, hn, hdoc⟩

theorem parse_complete {s : Stream} {ns : List Node} (h : Document s.body ns) :
    parse s = .ok (.document ns) := by
  have hbalanced : Token.imbalance? s.tokens = none := h.balanced s.last_kind
  rw [parse_eq, hbalanced]
  exact congrArg Prod.fst (run_complete s.last_kind h)

section Whole
variable {s : Stream} (hbody : ∀ t ∈ s.body, t.kind ≠ .eof) {n : Node}
include hbody

/-- A stream without an end of the input inside is spelt whole. -/
theorem document_body_of_run
    (h : (State.run s.last (.start (.document [])) s.body).1 = .ok n) :
    ∃ ns, n = .document ns ∧ Document s.body ns := by
  obtain ⟨w, ns, rest, hsplit, hrest, rfl, hdoc⟩ := document_of_run h
  cases rest with
  | nil => exact ⟨ns, rfl, by simpa [hsplit] using hdoc⟩
  | cons t rest => exact absurd hrest (hbody t (by simp [hsplit]))

/-- Such a stream is read if the run goes well: its brackets are balanced then. -/
theorem parse_eq_ok_iff_run :
    parse s = .ok n ↔ (State.run s.last (.start (.document [])) s.body).1 = .ok n := by
  refine ⟨run_of_parse, fun h => ?_⟩
  obtain ⟨ns, rfl, hdoc⟩ := document_body_of_run hbody h
  exact parse_complete hdoc

end Whole

/-- The parser reads exactly the documents of the grammar.  The expressions of a document are
determined by its tokens, and no document is turned away by the test of brackets. -/
theorem parse_eq_ok_iff_document (s : Stream) (hbody : ∀ t ∈ s.body, t.kind ≠ .eof) :
    (∀ n, parse s = .ok n ↔ ∃ ns, n = .document ns ∧ Document s.body ns) ∧
    (∀ ns ns', Document s.body ns → Document s.body ns' → ns = ns') ∧
    (∀ ns, Document s.body ns → Token.imbalance? s.tokens = none) := by
  refine ⟨fun n => ⟨fun h => document_body_of_run hbody (run_of_parse h), ?_⟩, ?_, ?_⟩
  · rintro ⟨ns, rfl, hdoc⟩
    exact parse_complete hdoc
  · intro ns ns' hdoc hdoc'
    have h := (parse_complete hdoc).symm.trans (parse_complete hdoc')
    simpa using h
  · intro ns hdoc
    exact hdoc.balanced s.last_kind

/-- The tokens of `x - -y^z`, a line end, and `sqrt(a, b) c`. -/
def twoLines : Stream where
  body :=
    [⟨.identifier, "x", ⟨1, 1⟩, none⟩, ⟨.operator .minus, "-", ⟨1, 3⟩, none⟩,
      ⟨.operator .minus, "-", ⟨1, 5⟩, none⟩, ⟨.identifier, "y", ⟨1, 6⟩, none⟩,
      ⟨.operator .power, "^", ⟨1, 7⟩, none⟩, ⟨.identifier, "z", ⟨1, 8⟩, none⟩,
      ⟨.newline, "\n", ⟨1, 9⟩, none⟩,
      ⟨.func .sqrt, "sqrt", ⟨2, 1⟩, none⟩, ⟨.opener .paren, "(", ⟨2, 5⟩, none⟩,
      ⟨.identifier, "a", ⟨2, 6⟩, none⟩, ⟨.comma, ",", ⟨2, 7⟩, none⟩,
      ⟨.identifier, "b", ⟨2, 9⟩, none⟩, ⟨.closer .paren, ")", ⟨2, 10⟩, none⟩,
      ⟨.identifier, "c", ⟨2, 12⟩, none⟩]
  last := ⟨.eof, "", ⟨2, 13⟩, none⟩
  last_kind := rfl

/-- The second line holds two expressions, since nothing joins `c` to the root. -/
theorem document_twoLines :
    (∀ t ∈ twoLines.body, t.kind ≠ .eof) ∧
    Document twoLines.body
      [.binary (.operator .minus) (.identifier "x" none)
        (.unary (.operator .minus)
          (.binary (.operator .power) (.identifier "y" none) (.identifier "z" none))),
       .call (.func .sqrt) "sqrt" [.identifier "a" none, .identifier "b" none],
       .identifier "c" none] := by
  have hbody : ∀ t ∈ twoLines.body, t.kind ≠ .eof := by decide
  refine ⟨hbody, ?_⟩
  obtain ⟨ns, hns, hdoc⟩ := ((parse_eq_ok_iff_document twoLines hbody).1 _).mp rfl
  cases hns
  exact hdoc

end PlainMath.Parser
