/-
# `Proofs.Parser.Agreement` — the parser ends as the procedures of the grammar do

The parser is run along a descent.  Within a call it is in a state with the frames of the calls
around; when an operand is finished, its frame is still there, and is closed by the token behind
it.  For that token to close no more than it should, it must not go on with the operand: this is
how each procedure leaves the tokens behind it.

    what stands behind a node that is returned        (`Yields.endsAt`)
    the parser while a procedure is carried out       (`Yields.run_eq`)
    one construction of a rule                        (`yields_iff`)
    a document                                        (`lists_iff`)

A procedure does not end in two ways, since the parser does not.
-/
import PlainMath.Proofs.Parser.Descent

namespace PlainMath.Parser

/-! ## The token behind a construction -/

/-- How loose a rule has to be in order to have the operator; no rule has the sign of equality. -/
def neededLooseness : Operator → Nat
  | .power => 2
  | .times | .over | .modulo | .fraction => 4
  | .plus | .minus => 5
  | .equals => 6

/-- The token does not go on with a construction of the rule. -/
def EndsAt (level : Level) (t : Token) : Prop :=
  ∀ op, t.kind = .operator op → level.looseness < neededLooseness op

section EndsAt
variable {level inner : Level} {t : Token}

theorem endsAt_of_tight (hlevel : level.looseness < 2) : EndsAt level t := by
  intro op _
  cases op <;> simp only [neededLooseness] <;> omega

theorem EndsAt.unary_of_power (h : EndsAt .power t) : EndsAt .unary t := by
  intro op ht
  have hlt := h op ht
  cases op <;> simp_all [neededLooseness, Level.looseness]

theorem EndsAt.power_of_unary (h : EndsAt .unary t) : EndsAt .power t :=
  fun op ht => Nat.lt_of_succ_lt (h op ht)

/-- The token ends a chain if it ends the last operand and is no operator of the chain. -/
theorem EndsAt.chain {left : Node} (hinner : level.operand? = some inner) (h : EndsAt inner t)
    (hjoin : ∀ op, t.kind = .operator op → level.join? left op = none) : EndsAt level t := by
  intro op ht
  have hlt := h op ht
  have hnone := hjoin op ht
  cases level <;> cases hinner <;> cases op <;>
    simp_all [neededLooseness, Level.looseness, Level.join?, Operator.isAdditive,
      Operator.isMultiplicative]

theorem Level.level_of_join? {left : Node} {op : Operator} {frame : Frame}
    (h : level.join? left op = some frame) : frame.level = level := by
  unfold Level.join? at h
  split at h
  · split at h <;> cases h
    rfl
  · split at h <;> cases h
    rfl
  · cases h
    rfl
  · cases h

end EndsAt

namespace Task

/-- The rule that the procedure is part of. -/
def level : Task → Level
  | .rule level | .behind level _ => level
  | .inside frame | .after frame _ => frame.level

/-- What the procedure is called behind is not gone on with by the next token. -/
def Ready (t : Token) : Task → Prop
  | .rule _ | .inside _ => True
  | .after frame _ => EndsAt frame.operand t
  | .behind level _ => ∃ inner, level.operand? = some inner ∧ EndsAt inner t

end Task

/-- A node is only returned before a token that does not go on with it. -/
theorem Yields.endsAt {last : Token} {task : Task} {ts : List Token}
    {out : Except Fault Node × List Token} (h : Yields last task ts out)
    (hready : task.Ready (ts.headD last)) :
    ∀ n, out.1 = .ok n → EndsAt task.level (out.2.headD last) := by
  induction h with
  | chain hinner _ _ ih ih' => exact ih' ⟨_, hinner, ih trivial _ rfl⟩
  | operand _ _ ih ih' => exact ih' (ih trivial _ rfl)
  | chainFails | operandFails => simp
  | join _ hframe _ ih => exact Level.level_of_join? hframe ▸ ih trivial
  | noJoin hjoin =>
      obtain ⟨inner, hinner, hends⟩ := hready
      exact fun _ _ => hends.chain hinner hjoin
  | sign _ _ _ ih => exact ih trivial
  | noSign _ _ ih => exact fun n hn => (ih trivial n hn).unary_of_power
  | sum _ ih => exact ih ⟨_, rfl, hready⟩
  | product _ ih => exact ih ⟨_, rfl, hready⟩
  | signed => exact fun _ _ => hready
  | raised => exact fun _ _ => hready.power_of_unary
  | close hclosed | noClose hclosed =>
      cases hclosed <;> exact fun _ _ => endsAt_of_tight Nat.two_pos
  | constant | noArguments | emptyCall | call | noKeyword =>
      exact fun _ _ => endsAt_of_tight Nat.one_lt_two
  | atom | enclosed | unexpected | comma | closeCall | noCloseCall =>
      exact fun _ _ => endsAt_of_tight Nat.two_pos

/-! ## What the parser does meanwhile -/

namespace Level

theorem takesKeywords_eq (level : Level) : level.takesKeywords = decide (1 ≤ level.looseness) := by
  cases level <;> rfl

theorem takesPowers_eq (level : Level) : level.takesPowers = decide (2 ≤ level.looseness) := by
  cases level <;> rfl

theorem takesSigns_eq (level : Level) : level.takesSigns = decide (3 ≤ level.looseness) := by
  cases level <;> rfl

theorem takesProducts_eq (level : Level) : level.takesProducts = decide (4 ≤ level.looseness) := by
  cases level <;> rfl

theorem takesSums_eq (level : Level) : level.takesSums = decide (5 ≤ level.looseness) := by
  cases level <;> rfl

end Level

/-- Whether an operand that begins in these frames may be of a rule that is so loose. -/
def isOpen (goal : Goal) (fs : List Frame) (looseness : Nat) : Bool :=
  !fs.isEmpty || decide (looseness ≤ goal.level.looseness)

/-- The rule may be called in these frames. -/
structure Admits (goal : Goal) (fs : List Frame) (level : Level) : Prop where
  loose : tightness fs < bound level
  opens : ∀ {k : Nat}, k ≤ level.looseness → isOpen goal fs k = true

/-- The token may stand at the beginning of an operand of the rule in these frames: it is not one
that belongs to a looser rule, and none that stands between the expressions of a document. -/
structure Begins (goal : Goal) (fs : List Frame) (level : Level) (t : Token) : Prop where
  sign : level.looseness < 3 → isOpen goal fs 3 = true → t.isSign = false
  keyword : level.looseness < 1 → isOpen goal fs 1 = true → isKeyword t.kind = false
  expression : ∀ ns, goal = .document ns → fs = [] → t.kind ≠ .newline ∧ t.kind ≠ .eof

section Operand
variable {goal : Goal} {fs : List Frame} {level inner : Level} {t : Token}

theorem looseness_lt_of_operand? (h : level.operand? = some inner) :
    inner.looseness < level.looseness := by
  cases level <;> cases h <;> decide

theorem Admits.tighter (h : Admits goal fs level) (hinner : inner.looseness ≤ level.looseness) :
    Admits goal fs inner where
  loose := by
    have hloose := h.loose
    cases level <;> cases inner <;> simp only [bound, Level.looseness] at hloose hinner ⊢ <;> omega
  opens := fun hk => h.opens (hk.trans hinner)

/-- Inside of a frame, its operand may be of any rule. -/
theorem admits_inside (frame : Frame) : Admits goal (frame :: fs) frame.operand where
  loose := by cases frame <;> simp [tightness, Frame.tightness, Frame.operand, bound]
  opens := fun _ => rfl

theorem begins_inside (frame : Frame) : Begins goal (frame :: fs) frame.operand t where
  sign := by cases frame <;> simp [Frame.operand, Level.looseness]
  keyword := by cases frame <;> simp [Frame.operand, Level.looseness]
  expression := by simp

theorem Begins.operand (h : Begins goal fs level t) (hinner : level.operand? = some inner) :
    Begins goal fs inner t where
  sign := by
    have hsign := h.sign
    cases level <;> cases hinner <;> simp_all [Level.looseness]
  keyword := by cases level <;> cases hinner <;> simp [Level.looseness]
  expression := h.expression

/-- Before an operand of a rule, the state of a document is that of an expression. -/
theorem Begins.next (h : Begins goal fs level t) :
    State.next? ⟨goal, fs, .operand⟩ t = startOperand goal fs t := by
  cases fs with
  | cons frame fs => cases goal <;> rfl
  | nil =>
      cases goal with
      | rule level => rfl
      | document ns => exact next_operand (h.expression ns rfl rfl).1

theorem Begins.verdict (h : Begins goal fs level t) :
    State.verdict ⟨goal, fs, .operand⟩ t = .error (.unexpected t) := by
  cases fs with
  | cons frame fs => cases goal <;> rfl
  | nil =>
      cases goal with
      | rule level => rfl
      | document ns =>
          have heof := (h.expression ns rfl rfl).2
          simp only [State.verdict, noOperand, endOfExpressions]

theorem startOperand_sign {op : Operator} (h : isOpen goal fs 3 = true) (ht : t.kind = .operator op)
    (hop : op.isAdditive = true) :
    startOperand goal fs t = some ⟨goal, .sign op :: fs, .operand⟩ := by
  simp only [isOpen] at h
  simp only [startOperand, ht, hop, Level.takesSigns_eq, h, Bool.and_true, if_true]

theorem startOperand_constant {c : Constant} (h : isOpen goal fs 1 = true)
    (ht : t.kind = .constant c) :
    startOperand goal fs t = some ⟨goal, fs, .operator (.constant (.constant c))⟩ := by
  simp only [isOpen] at h
  simp only [startOperand, ht, Level.takesKeywords_eq, h, if_true]

theorem startOperand_func {f : Func} (h : isOpen goal fs 1 = true) (ht : t.kind = .func f) :
    startOperand goal fs t = some ⟨goal, fs, .argumentList t f⟩ := by
  simp only [isOpen] at h
  simp only [startOperand, ht, Level.takesKeywords_eq, h, if_true]

theorem startOperand_atom {n : Node} (h : atom? t = some n) :
    startOperand goal fs t = some ⟨goal, fs, .operator n⟩ := by
  cases ht : t.kind with
  | number | greek | identifier | text =>
      simp only [atom?, ht, Option.some.injEq] at h
      simp only [startOperand, ht, h]
  | _ => simp [atom?, ht] at h

theorem startOperand_opened {frame : Frame} (h : opened? t.kind = some frame) :
    startOperand goal fs t = some ⟨goal, frame :: fs, .operand⟩ := by
  cases ht : t.kind with
  | dollar | doubleDollar =>
      simp only [opened?, ht, Option.some.injEq] at h
      simp only [startOperand, ht, h]
  | opener b =>
      cases b with
      | paren =>
          simp only [opened?, ht, Option.some.injEq] at h
          simp only [startOperand, ht, h]
      | square | brace => simp [opened?, ht] at h
  | _ => simp [opened?, ht] at h

theorem level_of_opened? {frame : Frame} (h : opened? t.kind = some frame) :
    frame.level = .primary := by
  unfold opened? at h
  split at h <;> cases h <;> rfl

/-- What is neither an atom nor a delimiter begins an operand of a looser rule or none. -/
theorem startOperand_unexpected (h : Begins goal fs .primary t) (hatom : atom? t = none)
    (hopened : opened? t.kind = none) : startOperand goal fs t = none := by
  have hsign := h.sign (by decide)
  have hkeyword := h.keyword (by decide)
  simp only [isOpen] at hsign hkeyword
  simp only [startOperand, Level.takesSigns_eq, Level.takesKeywords_eq]
  cases ht : t.kind with
  | operator op =>
      simp only [Token.isSign, ht] at hsign
      cases hop : op.isAdditive with
      | false => simp only [hop, Bool.false_and, Bool.false_eq_true, if_false]
      | true =>
          simp only [hop, Bool.true_eq_false, imp_false, Bool.not_eq_true] at hsign
          simp only [hsign, Bool.and_false, Bool.false_eq_true, if_false]
  | constant | func =>
      simp only [isKeyword, ht, Bool.true_eq_false, imp_false, Bool.not_eq_true] at hkeyword
      simp only [hkeyword, Bool.false_eq_true, if_false]
  | opener b => cases b <;> simp_all [opened?]
  | _ => simp_all [atom?, opened?]

end Operand

section Operator
variable {goal : Goal} {fs gs : List Frame} {level : Level} {t : Token} {m n : Node}

theorem next?_sum {op : Operator} (h : Admits goal fs .additive) (ht : t.kind = .operator op)
    (hop : op.isAdditive = true) :
    State.next? ⟨goal, fs, .operator n⟩ t = some ⟨goal, .additive op n :: fs, .operand⟩ := by
  have hclose : closeSum (closeProduct (closeUnary n fs)) = (n, fs) := closeTo_additive h.loose
  have hopen : isOpen goal fs 5 = true := h.opens (Nat.le_refl 5)
  unfold isOpen at hopen
  cases op with
  | plus | minus =>
      simp [State.next?, afterOperand, ht, hop, hclose, Level.takesSums_eq, hopen,
        Operator.isMultiplicative]
  | _ => exact absurd hop (by decide)

theorem next?_product {op : Operator} (h : Admits goal fs .multiplicative)
    (ht : t.kind = .operator op) (hop : op.isMultiplicative = true) :
    State.next? ⟨goal, fs, .operator n⟩ t =
      some ⟨goal, .multiplicative op n :: fs, .operand⟩ := by
  have hclose : closeProduct (closeUnary n fs) = (n, fs) := closeTo_multiplicative h.loose
  have hopen : isOpen goal fs 4 = true := h.opens (Nat.le_refl 4)
  unfold isOpen at hopen
  cases op with
  | power => exact absurd hop (by decide)
  | _ => simp [State.next?, afterOperand, ht, hop, hclose, Level.takesProducts_eq, hopen]

/-- An operator of the rule opens the frame that waits for its right operand. -/
theorem next?_join {op : Operator} {frame : Frame} (h : Admits goal fs level)
    (ht : t.kind = .operator op) (hframe : level.join? n op = some frame) :
    State.next? ⟨goal, fs, .operator n⟩ t = some ⟨goal, frame :: fs, .operand⟩ := by
  unfold Level.join? at hframe
  split at hframe
  · split at hframe
    · next hop =>
        cases hframe
        exact next?_sum h ht hop
    · cases hframe
  · split at hframe
    · next hop =>
        cases hframe
        exact next?_product h ht hop
    · cases hframe
  · cases hframe
    have hopen : isOpen goal fs 2 = true := h.opens (Nat.le_refl 2)
    unfold isOpen at hopen
    simp only [State.next?, afterOperand, ht, Level.takesPowers_eq, hopen, if_true]
  · cases hframe

/-- A token that ends an expression is left to what is around it. -/
theorem next?_ended (h : EndsAt .additive t) :
    State.next? ⟨goal, fs, .operator n⟩ t = afterExpression goal (closeAll n fs) t := by
  simp only [State.next?, afterOperand]
  split
  · next ht => exact absurd (h _ ht) (by decide)
  · next op _ ht =>
      have hlt := h op ht
      cases op <;> first | rfl | exact absurd hlt (by decide)
  · rfl

/-- Operands are gone on with alike, if they are the same once closed as far as the token
closes them. -/
theorem next?_congr (hunary : EndsAt .unary t)
    (hproduct : closeProduct (closeUnary m gs) = closeProduct (closeUnary n fs) ∨
      EndsAt .multiplicative t)
    (hall : closeAll m gs = closeAll n fs) :
    State.next? ⟨goal, gs, .operator m⟩ t = State.next? ⟨goal, fs, .operator n⟩ t := by
  unfold closeAll at hall
  simp only [State.next?, afterOperand, hall]
  split
  · next ht => exact absurd (hunary _ ht) (by decide)
  · next op _ ht =>
      rcases hproduct with hproduct | hends
      · rw [hproduct]
      · have hlt := hends op ht
        cases op <;> first | rfl | exact absurd hlt (by decide)
  · rfl

end Operator

section Runs
variable {last : Token} {s s' : State} {ts : List Token}

theorem run_congr (hnext : s.next? (ts.headD last) = s'.next? (ts.headD last))
    (hverdict : s.verdict (ts.headD last) = s'.verdict (ts.headD last)) :
    State.run last s ts = State.run last s' ts := by
  cases ts with
  | nil => simp only [State.run, List.headD_nil] at hverdict ⊢; rw [hverdict]
  | cons t ts => simp only [State.run, List.headD_cons] at hnext hverdict ⊢; rw [hnext, hverdict]

theorem run_next {t : Token} (h : s.next? t = some s') :
    State.run last s (t :: ts) = State.run last s' ts := (Leads.single h).run

theorem run_stop (h : s.next? (ts.headD last) = none) :
    State.run last s ts = (s.verdict (ts.headD last), ts) := run_of_leads .refl h

end Runs

/-! ## The parser along a descent -/

/-- The state of the parser when the procedure is called within these frames. -/
def Task.state (goal : Goal) (fs : List Frame) : Task → State
  | .rule _ => ⟨goal, fs, .operand⟩
  | .inside frame => ⟨goal, frame :: fs, .operand⟩
  | .after frame n => ⟨goal, frame :: fs, .operator n⟩
  | .behind _ left => ⟨goal, fs, .operator left⟩

/-- How the parser goes on when the procedure has ended like this within these frames. -/
def resume (last : Token) (goal : Goal) (fs : List Frame) :
    Except Fault Node × List Token → Except Fault Node × List Token
  | (.ok n, rest) => State.run last ⟨goal, fs, .operator n⟩ rest
  | (.error fault, rest) => (.error fault, rest)

section Resume
variable {last : Token} {goal : Goal} {fs : List Frame} {ts : List Token} {n : Node}

theorem run_afterCall (function : Token) (name : Func) (args : List Node) :
    State.run last ⟨goal, fs, afterCall function name args⟩ ts =
      resume last goal fs (closedCall function name args, ts) := by
  unfold afterCall closedCall
  cases function.arityFault? args.length with
  | some fault => exact run_stop rfl
  | none => rfl

/-- From a function over its opening parenthesis. -/
theorem run_func {t o : Token} {f : Func} (hbegins : Begins goal fs .call t)
    (hopen : isOpen goal fs 1 = true) (ht : t.kind = .func f) (ho : o.kind = .opener .paren) :
    State.run last ⟨goal, fs, .operand⟩ (t :: o :: ts) =
      State.run last ⟨goal, fs, .firstArgument t f⟩ ts := by
  have hnext : State.next? ⟨goal, fs, .argumentList t f⟩ o =
      some ⟨goal, fs, .firstArgument t f⟩ := by
    simp only [State.next?, ho]
  exact (run_next (hbegins.next.trans (startOperand_func hopen ht))).trans (run_next hnext)

theorem run_emptyCall {function c : Token} {name : Func} (hc : c.kind = .closer .paren) :
    State.run last ⟨goal, fs, .firstArgument function name⟩ (c :: ts) =
      resume last goal fs (closedCall function name [], ts) := by
  have hnext : State.next? ⟨goal, fs, .firstArgument function name⟩ c =
      some ⟨goal, fs, afterCall function name []⟩ := by
    simp only [State.next?, hc]
  exact (run_next hnext).trans (run_afterCall function name [])

/-- The first argument is read like any operand, if there is one. -/
theorem run_firstArgument {function : Token} {name : Func}
    (h : (ts.headD last).kind ≠ .closer .paren) :
    State.run last ⟨goal, fs, .firstArgument function name⟩ ts =
      State.run last ⟨goal, .arguments function name [] :: fs, .operand⟩ ts := by
  have hbegins : Begins goal (.arguments function name [] :: fs) .additive (ts.headD last) :=
    begins_inside (.arguments function name [])
  refine run_congr ?_ hbegins.verdict.symm
  rw [hbegins.next]
  simp only [State.next?]

theorem run_sign {op : Operator} (h : EndsAt .unary (ts.headD last)) :
    State.run last ⟨goal, .sign op :: fs, .operator n⟩ ts =
      State.run last ⟨goal, fs, .operator (.unary (.operator op) n)⟩ ts :=
  run_congr (next?_congr h (.inl rfl) rfl) rfl

theorem run_power {base : Node} (h : EndsAt .unary (ts.headD last)) :
    State.run last ⟨goal, .power base :: fs, .operator n⟩ ts =
      State.run last ⟨goal, fs, .operator (.binary (.operator .power) base n)⟩ ts :=
  run_congr (next?_congr h (.inl rfl) rfl) rfl

theorem run_product {op : Operator} {left : Node} (hfs : tightness fs < 2)
    (h : EndsAt .unary (ts.headD last)) :
    State.run last ⟨goal, .multiplicative op left :: fs, .operator n⟩ ts =
      State.run last ⟨goal, fs, .operator (.binary (.operator op) left n)⟩ ts := by
  have hproduct : closeProduct (closeUnary n (.multiplicative op left :: fs)) =
      closeProduct (closeUnary (.binary (.operator op) left n) fs) :=
    (closeTo_multiplicative hfs).symm
  have hall := congrArg closeSum hproduct
  refine run_congr (next?_congr h (.inl hproduct) hall) ?_
  exact congrArg (endOfExpression goal · (ts.headD last)) hall

theorem run_sum {op : Operator} {left : Node} (hfs : tightness fs < 1)
    (h : EndsAt .multiplicative (ts.headD last)) :
    State.run last ⟨goal, .additive op left :: fs, .operator n⟩ ts =
      State.run last ⟨goal, fs, .operator (.binary (.operator op) left n)⟩ ts := by
  have hall : closeAll n (.additive op left :: fs) =
      closeAll (.binary (.operator op) left n) fs := (closeTo_additive hfs).symm
  have hunary : EndsAt .unary (ts.headD last) := fun op ht => Nat.lt_of_succ_lt (h op ht)
  refine run_congr (next?_congr hunary (.inr h) hall) ?_
  exact congrArg (endOfExpression goal · (ts.headD last)) hall

theorem run_close {frame : Frame} {kind : Kind} {wrap : Node → Node} {what : Expectation}
    {t : Token} (h : ClosedBy frame kind wrap what) (ht : t.kind = kind) :
    State.run last ⟨goal, frame :: fs, .operator n⟩ (t :: ts) =
      State.run last ⟨goal, fs, .operator (wrap n)⟩ ts := by
  apply run_next
  rw [next?_ended (by cases h <;> simp [EndsAt, ht])]
  cases h <;>
    simp only [closeAll, closeUnary, closeProduct, closeSum, afterExpression, ht]

theorem run_noClose {frame : Frame} {kind : Kind} {wrap : Node → Node} {what : Expectation}
    (h : ClosedBy frame kind wrap what) (hends : EndsAt .additive (ts.headD last))
    (ht : (ts.headD last).kind ≠ kind) :
    State.run last ⟨goal, frame :: fs, .operator n⟩ ts =
      (.error (.missing what (ts.headD last)), ts) := by
  have hnext : State.next? ⟨goal, frame :: fs, .operator n⟩ (ts.headD last) = none := by
    rw [next?_ended hends]
    cases h <;> simp only [closeAll, closeUnary, closeProduct, closeSum, afterExpression]
  rw [run_stop hnext]
  cases h <;> rfl

/-! Behind an argument. -/

section Argument
variable {function : Token} {name : Func} {args : List Node}

theorem next?_argument {t : Token} (h : EndsAt .additive t) :
    State.next? ⟨goal, .arguments function name args :: fs, .operator n⟩ t =
      afterExpression goal (n, .arguments function name args :: fs) t := next?_ended h

theorem run_comma {t : Token} (ht : t.kind = .comma) :
    State.run last ⟨goal, .arguments function name args :: fs, .operator n⟩ (t :: ts) =
      State.run last ⟨goal, .arguments function name (args ++ [n]) :: fs, .operand⟩ ts := by
  apply run_next
  rw [next?_argument (by simp [EndsAt, ht])]
  simp only [afterExpression, ht]

theorem run_closeCall {t : Token} (ht : t.kind = .closer .paren) :
    State.run last ⟨goal, .arguments function name args :: fs, .operator n⟩ (t :: ts) =
      resume last goal fs (closedCall function name (args ++ [n]), ts) := by
  have hnext : State.next? ⟨goal, .arguments function name args :: fs, .operator n⟩ t =
      some ⟨goal, fs, afterCall function name (args ++ [n])⟩ := by
    rw [next?_argument (by simp [EndsAt, ht])]
    simp only [afterExpression, ht]
  exact (run_next hnext).trans (run_afterCall function name (args ++ [n]))

theorem run_noCloseCall (hends : EndsAt .additive (ts.headD last))
    (hcomma : (ts.headD last).kind ≠ .comma) (hclose : (ts.headD last).kind ≠ .closer .paren) :
    State.run last ⟨goal, .arguments function name args :: fs, .operator n⟩ ts =
      (.error (.missing (.argumentsEnd function.text) (ts.headD last)), ts) := by
  apply run_stop
  rw [next?_argument hends]
  simp only [afterExpression]

end Argument

end Resume

/-- The procedure may be called within these frames, before this token. -/
structure Task.Fits (goal : Goal) (fs : List Frame) (t : Token) (task : Task) : Prop where
  admits : Admits goal fs task.level
  begins : ∀ {level : Level}, task = .rule level → Begins goal fs level t
  ready : task.Ready t

section Fits
variable {goal : Goal} {fs : List Frame} {t : Token} {level : Level} {frame : Frame} {n : Node}

theorem fits_rule (hadmits : Admits goal fs level) (hbegins : Begins goal fs level t) :
    (Task.rule level).Fits goal fs t where
  admits := hadmits
  begins := by
    rintro _ ⟨⟩
    exact hbegins
  ready := trivial

theorem fits_inside (hadmits : Admits goal fs frame.level) :
    (Task.inside frame).Fits goal fs t where
  admits := hadmits
  begins := by simp
  ready := trivial

theorem fits_after (hadmits : Admits goal fs frame.level) (hends : EndsAt frame.operand t) :
    (Task.after frame n).Fits goal fs t where
  admits := hadmits
  begins := by simp
  ready := hends

theorem fits_behind {inner : Level} (hadmits : Admits goal fs level)
    (hinner : level.operand? = some inner) (hends : EndsAt inner t) :
    (Task.behind level n).Fits goal fs t where
  admits := hadmits
  begins := by simp
  ready := ⟨inner, hinner, hends⟩

/-- A rule calls the one of its operands before the same token. -/
theorem Task.Fits.operand {inner : Level} (h : (Task.rule level).Fits goal fs t)
    (hinner : level.operand? = some inner) : (Task.rule inner).Fits goal fs t :=
  fits_rule (h.admits.tighter (Nat.le_of_lt (looseness_lt_of_operand? hinner)))
    ((h.begins rfl).operand hinner)

theorem fits_operand (frame : Frame) : (Task.rule frame.operand).Fits goal (frame :: fs) t :=
  fits_rule (admits_inside frame) (begins_inside frame)

end Fits

/-- While a procedure is carried out, the parser reads the same tokens, and then goes on within
the same frames with what the procedure returns, or has failed with the same fault. -/
theorem Yields.run_eq {last : Token} {task : Task} {ts : List Token}
    {out : Except Fault Node × List Token} (h : Yields last task ts out) {goal : Goal} :
    ∀ {fs : List Frame}, task.Fits goal fs (ts.headD last) →
      State.run last (task.state goal fs) ts = resume last goal fs out := by
  -- along the derivation, for all frames at once: an operand is read within one frame more
  induction h with
  | chain hinner hrule _ ih ih' =>
      intro fs hfits
      -- what is behind the first operand may go on with the chain, but not with the operand
      have hends := hrule.endsAt trivial _ rfl
      exact (ih (hfits.operand hinner)).trans (ih' (fits_behind hfits.admits hinner hends))
  | chainFails hinner _ ih => exact fun hfits => ih (hfits.operand hinner)
  | join ht hframe _ ih =>
      intro fs hfits
      have hadmits : Admits goal fs _ := Level.level_of_join? hframe ▸ hfits.admits
      exact (run_next (next?_join hfits.admits ht hframe)).trans (ih (fits_inside hadmits))
  | noJoin => exact fun _ => rfl
  | sign ht hop _ ih =>
      intro fs hfits
      have hopen := hfits.admits.opens (Nat.le_refl 3)
      have hnext := (hfits.begins rfl).next.trans (startOperand_sign hopen ht hop)
      exact (run_next hnext).trans (ih (fits_inside hfits.admits))
  | noSign hsign _ ih =>
      intro fs hfits
      refine ih (fits_rule (hfits.admits.tighter (by decide)) ?_)
      exact ⟨fun _ _ => hsign, fun hlt => absurd hlt (by decide), (hfits.begins rfl).expression⟩
  | constant ht =>
      intro fs hfits
      have hopen := hfits.admits.opens (Nat.le_refl 1)
      exact run_next ((hfits.begins rfl).next.trans (startOperand_constant hopen ht))
  | noArguments ht hparen =>
      intro fs hfits
      have hopen := hfits.admits.opens (Nat.le_refl 1)
      have hnext := (hfits.begins rfl).next.trans (startOperand_func hopen ht)
      refine (run_next hnext).trans (run_stop ?_)
      simp only [State.next?]
  | emptyCall ht ho hc =>
      intro fs hfits
      have hopen := hfits.admits.opens (Nat.le_refl 1)
      exact (run_func (hfits.begins rfl) hopen ht ho).trans (run_emptyCall hc)
  | call ht ho hclose _ ih =>
      intro fs hfits
      have hopen := hfits.admits.opens (Nat.le_refl 1)
      have hinside := ih (fits_inside (hfits.admits.tighter (Nat.zero_le 1)))
      exact (run_func (hfits.begins rfl) hopen ht ho).trans
        ((run_firstArgument hclose).trans hinside)
  | noKeyword hkeyword _ ih =>
      intro fs hfits
      have hbegins := hfits.begins rfl
      refine ih (fits_rule (hfits.admits.tighter (by decide)) ?_)
      exact ⟨fun _ => hbegins.sign (by decide), fun _ _ => hkeyword, hbegins.expression⟩
  | atom hatom =>
      exact fun hfits => run_next ((hfits.begins rfl).next.trans (startOperand_atom hatom))
  | enclosed hopened _ ih =>
      intro fs hfits
      have hnext := (hfits.begins rfl).next.trans (startOperand_opened hopened)
      have hadmits : Admits goal fs _ := (level_of_opened? hopened).symm ▸ hfits.admits
      exact (run_next hnext).trans (ih (fits_inside hadmits))
  | unexpected hatom hopened =>
      intro fs hfits
      have hbegins := hfits.begins rfl
      have hnext := hbegins.next.trans (startOperand_unexpected hbegins hatom hopened)
      exact (run_stop hnext).trans (congrArg (·, _) hbegins.verdict)
  | operand hrule _ ih ih' =>
      intro fs hfits
      exact (ih (fits_operand _)).trans (ih' (fits_after hfits.admits (hrule.endsAt trivial _ rfl)))
  | operandFails _ ih => exact fun _ => ih (fits_operand _)
  | sum _ ih =>
      intro fs hfits
      have hends := hfits.ready
      exact (run_sum hfits.admits.loose hends).trans (ih (fits_behind hfits.admits rfl hends))
  | product _ ih =>
      intro fs hfits
      have hends := hfits.ready
      exact (run_product hfits.admits.loose hends).trans (ih (fits_behind hfits.admits rfl hends))
  | signed => exact fun hfits => run_sign hfits.ready
  | raised => exact fun hfits => run_power hfits.ready
  | close hclosed ht => exact fun _ => run_close hclosed ht
  | noClose hclosed ht =>
      intro fs hfits
      have hends := hfits.ready
      exact run_noClose hclosed (by cases hclosed <;> exact hends) ht
  | comma ht _ ih => exact fun hfits => (run_comma ht).trans (ih (fits_inside hfits.admits))
  | closeCall ht => exact fun _ => run_closeCall ht
  | noCloseCall hcomma hclose => exact fun hfits => run_noCloseCall hfits.ready hcomma hclose

/-! ## A procedure and the parser end alike -/

section Alike
variable {last : Token}

/-- A construction of the rule that was asked for is not gone on with. -/
theorem next?_finished {level : Level} {n : Node} {t : Token} (h : EndsAt level t) :
    State.next? ⟨.rule level, [], .operator n⟩ t = none := by
  simp only [State.next?, afterOperand, Goal.level, Level.takesPowers_eq, Level.takesProducts_eq,
    Level.takesSums_eq, List.isEmpty_nil, closeUnary, closeProduct, closeSum, afterExpression]
  split
  · next ht =>
      have hlt : level.looseness < 2 := h _ ht
      simp [Nat.not_le.mpr hlt]
  · next op _ ht =>
      have hlt := h op ht
      cases op <;> simp only [neededLooseness] at hlt <;>
        simp [Operator.isMultiplicative, Operator.isAdditive] <;> omega
  · rfl

/-- A rule that is asked for by itself ends as its procedure does. -/
theorem Yields.run_start {level : Level} {ts : List Token} {out : Except Fault Node × List Token}
    (h : Yields last (.rule level) ts out) :
    State.run last (.start (.rule level)) ts = out := by
  have hadmits : Admits (.rule level) [] level :=
    ⟨by cases level <;> decide, fun hk => decide_eq_true hk⟩
  have hbegins : Begins (.rule level) [] level (ts.headD last) := by
    refine ⟨fun hlt hopen => ?_, fun hlt hopen => ?_, by simp⟩
    · exact absurd (of_decide_eq_true hopen) (Nat.not_le.mpr hlt)
    · exact absurd (of_decide_eq_true hopen) (Nat.not_le.mpr hlt)
  refine (h.run_eq (fits_rule hadmits hbegins)).trans ?_
  obtain ⟨fault | n, rest⟩ := out
  · rfl
  · exact run_stop (next?_finished (h.endsAt trivial n rfl))

/-- The procedure of a rule terminates, and ends with what the parser ends with. -/
theorem yields_iff (hlast : last.kind = .eof) (level : Level) (ts : List Token)
    (out : Except Fault Node × List Token) :
    Yields last (.rule level) ts out ↔ State.run last (.start (.rule level)) ts = out := by
  refine ⟨Yields.run_start, fun hrun => ?_⟩
  obtain ⟨out', h⟩ := rule_halts hlast level ts
  rwa [← hrun, h.run_start]

theorem endsExpression_of_endsAt {t : Token} (h : EndsAt .additive t) :
    endsExpression t.kind = true := by
  cases ht : t.kind with
  | operator op =>
      have hlt := h op ht
      cases op <;> first | rfl | exact absurd hlt (by decide)
  | _ => rfl

/-- Between the expressions of a document, an expression is read by its procedure. -/
theorem Yields.run_expression {ns : List Node} {ts : List Token}
    {out : Except Fault Node × List Token} (h : Yields last (.rule .additive) ts out)
    (heof : (ts.headD last).kind ≠ .eof) (hnewline : (ts.headD last).kind ≠ .newline) :
    State.run last (.start (.document ns)) ts = resume last (.document ns) [] out := by
  have hadmits : Admits (.document ns) [] .additive :=
    ⟨Nat.zero_lt_one, fun hk => decide_eq_true hk⟩
  have hbegins : Begins (.document ns) [] .additive (ts.headD last) :=
    ⟨fun hlt => absurd hlt (by decide), fun hlt => absurd hlt (by decide),
      fun _ _ _ => ⟨hnewline, heof⟩⟩
  exact h.run_eq (fits_rule hadmits hbegins)

/-- A document is read by its procedure. -/
theorem Lists.run_start {ns : List Node} {ts : List Token} {out : Except Fault Node × List Token}
    (h : Lists last ns ts out) : State.run last (.start (.document ns)) ts = out := by
  induction h with
  | finished heof =>
      refine (run_stop (next?_eof _ heof)).trans ?_
      simp only [State.start, State.verdict, noOperand, endOfExpressions, heof]
  | newline ht _ ih =>
      refine (run_next ?_).trans ih
      simp only [State.start, State.next?, beforeOperand, betweenExpressions, ht]
  | expression heof hnewline h _ ih =>
      have hends := endsExpression_of_endsAt (h.endsAt trivial _ rfl)
      exact (h.run_expression heof hnewline).trans ((run_handover rfl hends).trans ih)
  | expressionFails heof hnewline h => exact h.run_expression heof hnewline

/-- The procedure for documents terminates, and ends with what the parser ends with. -/
theorem lists_iff (hlast : last.kind = .eof) (ns : List Node) (ts : List Token)
    (out : Except Fault Node × List Token) :
    Lists last ns ts out ↔ State.run last (.start (.document ns)) ts = out := by
  refine ⟨Lists.run_start, fun hrun => ?_⟩
  obtain ⟨out', h⟩ := exists_lists hlast ns ts
  rwa [← hrun, h.run_start]

end Alike

end PlainMath.Parser
