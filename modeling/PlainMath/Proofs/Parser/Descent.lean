/-
# `Proofs.Parser.Descent` — the rules of the grammar as procedures

The parser keeps what is open in a list of frames.  The same reading can be told as a descent:
each rule of the grammar is a procedure that calls the procedures of tighter rules, and a frame
is a call that waits for its operand.  `Yields` is the meaning of these procedures.  A derivation
of it is the finite tree of the calls that are made, those of a reading that fails included, so
that a procedure terminates if there is a derivation.

    a rule that returns a node has passed a token           (`Yields.length_lt`)
    so the procedure of every rule terminates               (`rule_halts`)
    and so does the one for documents                       (`exists_lists`)
-/
import PlainMath.Proofs.Parser.Earliest

namespace PlainMath.Parser

/-! ## Procedures -/

namespace Level

/-- The rules in the order of their binding, the tightest first. -/
def looseness : Level → Nat
  | .primary => 0
  | .call => 1
  | .power => 2
  | .unary => 3
  | .multiplicative => 4
  | .additive => 5

/-- The rule of the operands, for a rule that joins operands with operators. -/
def operand? : Level → Option Level
  | .additive => some .multiplicative
  | .multiplicative => some .unary
  | .power => some .call
  | .unary | .call | .primary => none

/-- The frame that is opened by an operator behind the operand `n`, if the rule has the
operator. -/
def join? (n : Node) : Level → Operator → Option Frame
  | .additive, op => if op.isAdditive then some (.additive op n) else none
  | .multiplicative, op => if op.isMultiplicative then some (.multiplicative op n) else none
  | .power, .power => some (.power n)
  | _, _ => none

end Level

namespace Frame

/-- The rule that the construction follows. -/
def level : Frame → Level
  | .additive _ _ => .additive
  | .multiplicative _ _ => .multiplicative
  | .sign _ => .unary
  | .power _ => .power
  | .group | .arguments _ _ _ | .inlineMath | .displayMath => .primary

/-- The rule of the operand that the construction waits for. -/
def operand : Frame → Level
  | .additive _ _ => .multiplicative
  | .multiplicative _ _ | .sign _ | .power _ => .unary
  | .group | .arguments _ _ _ | .inlineMath | .displayMath => .additive

end Frame

/-- The operand that is a token by itself. -/
def atom? (t : Token) : Option Node :=
  match t.kind with
  | .number => some (.number t.literal)
  | .greek g => some (.identifier t.text (some (.greek g)))
  | .identifier => some (.identifier t.text none)
  | .text => some (.text t.text)
  | _ => none

/-- The frame that a delimiter opens. -/
def opened? : Kind → Option Frame
  | .opener .paren => some .group
  | .dollar => some .inlineMath
  | .doubleDollar => some .displayMath
  | _ => none

/-- Whether the kind is that of a constant or a function. -/
def isKeyword : Kind → Bool
  | .constant _ | .func _ => true
  | _ => false

/-- The frame is closed by a delimiter of this kind, which makes a node of what is inside, and
whose absence is reported as said. -/
inductive ClosedBy : Frame → Kind → (Node → Node) → Expectation → Prop where
  | group : ClosedBy .group (.closer .paren) .grouping .groupEnd
  | inlineMath : ClosedBy .inlineMath .dollar .inlineMath .inlineEnd
  | displayMath : ClosedBy .displayMath .doubleDollar .displayMath .displayEnd

/-- What the parenthesis that closes a call makes of it. -/
def closedCall (function : Token) (name : Func) (args : List Node) : Except Fault Node :=
  match function.arityFault? args.length with
  | some fault => .error fault
  | none => .ok (.call (.func name) function.text args)

/-- A procedure, with what it is called on. -/
inductive Task where
  /-- Reads one construction of the rule. -/
  | rule (level : Level)
  /-- Reads the operand that the frame waits for, and what comes after it. -/
  | inside (frame : Frame)
  /-- Goes on after the operand of the frame. -/
  | after (frame : Frame) (operand : Node)
  /-- Goes on with the operators of the rule. -/
  | behind (level : Level) (left : Node)

section Yields
variable (last : Token)

/-- On these tokens, with `last` behind them, the procedure returns a node or fails, and leaves
these tokens. -/
inductive Yields : Task → List Token → Except Fault Node × List Token → Prop where
  | chain {level inner : Level} {n : Node} {ts rest : List Token}
      {out : Except Fault Node × List Token} :
      level.operand? = some inner → Yields (.rule inner) ts (.ok n, rest) →
      Yields (.behind level n) rest out → Yields (.rule level) ts out
  | chainFails {level inner : Level} {fault : Fault} {ts rest : List Token} :
      level.operand? = some inner → Yields (.rule inner) ts (.error fault, rest) →
      Yields (.rule level) ts (.error fault, rest)
  | join {level : Level} {left : Node} {t : Token} {op : Operator} {frame : Frame}
      {ts : List Token} {out : Except Fault Node × List Token} :
      t.kind = .operator op → level.join? left op = some frame →
      Yields (.inside frame) ts out → Yields (.behind level left) (t :: ts) out
  | noJoin {level : Level} {left : Node} {ts : List Token} :
      (∀ op, (ts.headD last).kind = .operator op → level.join? left op = none) →
      Yields (.behind level left) ts (.ok left, ts)
  | sign {t : Token} {op : Operator} {ts : List Token} {out : Except Fault Node × List Token} :
      t.kind = .operator op → op.isAdditive = true → Yields (.inside (.sign op)) ts out →
      Yields (.rule .unary) (t :: ts) out
  | noSign {ts : List Token} {out : Except Fault Node × List Token} :
      (ts.headD last).isSign = false → Yields (.rule .power) ts out →
      Yields (.rule .unary) ts out
  | constant {t : Token} {c : Constant} {ts : List Token} :
      t.kind = .constant c → Yields (.rule .call) (t :: ts) (.ok (.constant (.constant c)), ts)
  | noArguments {t : Token} {f : Func} {ts : List Token} :
      t.kind = .func f → (ts.headD last).kind ≠ .opener .paren →
      Yields (.rule .call) (t :: ts) (.error (.noArguments t), ts)
  | emptyCall {t o c : Token} {f : Func} {ts : List Token} :
      t.kind = .func f → o.kind = .opener .paren → c.kind = .closer .paren →
      Yields (.rule .call) (t :: o :: c :: ts) (closedCall t f [], ts)
  | call {t o : Token} {f : Func} {ts : List Token} {out : Except Fault Node × List Token} :
      t.kind = .func f → o.kind = .opener .paren → (ts.headD last).kind ≠ .closer .paren →
      Yields (.inside (.arguments t f [])) ts out → Yields (.rule .call) (t :: o :: ts) out
  | noKeyword {ts : List Token} {out : Except Fault Node × List Token} :
      isKeyword (ts.headD last).kind = false → Yields (.rule .primary) ts out →
      Yields (.rule .call) ts out
  | atom {t : Token} {n : Node} {ts : List Token} :
      atom? t = some n → Yields (.rule .primary) (t :: ts) (.ok n, ts)
  | enclosed {t : Token} {frame : Frame} {ts : List Token}
      {out : Except Fault Node × List Token} :
      opened? t.kind = some frame → Yields (.inside frame) ts out →
      Yields (.rule .primary) (t :: ts) out
  | unexpected {ts : List Token} :
      atom? (ts.headD last) = none → opened? (ts.headD last).kind = none →
      Yields (.rule .primary) ts (.error (.unexpected (ts.headD last)), ts)
  | operand {frame : Frame} {n : Node} {ts rest : List Token}
      {out : Except Fault Node × List Token} :
      Yields (.rule frame.operand) ts (.ok n, rest) → Yields (.after frame n) rest out →
      Yields (.inside frame) ts out
  | operandFails {frame : Frame} {fault : Fault} {ts rest : List Token} :
      Yields (.rule frame.operand) ts (.error fault, rest) →
      Yields (.inside frame) ts (.error fault, rest)
  | sum {op : Operator} {left n : Node} {ts : List Token}
      {out : Except Fault Node × List Token} :
      Yields (.behind .additive (.binary (.operator op) left n)) ts out →
      Yields (.after (.additive op left) n) ts out
  | product {op : Operator} {left n : Node} {ts : List Token}
      {out : Except Fault Node × List Token} :
      Yields (.behind .multiplicative (.binary (.operator op) left n)) ts out →
      Yields (.after (.multiplicative op left) n) ts out
  | signed {op : Operator} {n : Node} {ts : List Token} :
      Yields (.after (.sign op) n) ts (.ok (.unary (.operator op) n), ts)
  | raised {base n : Node} {ts : List Token} :
      Yields (.after (.power base) n) ts (.ok (.binary (.operator .power) base n), ts)
  | close {frame : Frame} {kind : Kind} {wrap : Node → Node} {what : Expectation} {n : Node}
      {t : Token} {ts : List Token} :
      ClosedBy frame kind wrap what → t.kind = kind →
      Yields (.after frame n) (t :: ts) (.ok (wrap n), ts)
  | noClose {frame : Frame} {kind : Kind} {wrap : Node → Node} {what : Expectation} {n : Node}
      {ts : List Token} :
      ClosedBy frame kind wrap what → (ts.headD last).kind ≠ kind →
      Yields (.after frame n) ts (.error (.missing what (ts.headD last)), ts)
  | comma {function t : Token} {name : Func} {args : List Node} {n : Node} {ts : List Token}
      {out : Except Fault Node × List Token} :
      t.kind = .comma → Yields (.inside (.arguments function name (args ++ [n]))) ts out →
      Yields (.after (.arguments function name args) n) (t :: ts) out
  | closeCall {function t : Token} {name : Func} {args : List Node} {n : Node}
      {ts : List Token} :
      t.kind = .closer .paren →
      Yields (.after (.arguments function name args) n) (t :: ts)
        (closedCall function name (args ++ [n]), ts)
  | noCloseCall {function : Token} {name : Func} {args : List Node} {n : Node}
      {ts : List Token} :
      (ts.headD last).kind ≠ .comma → (ts.headD last).kind ≠ .closer .paren →
      Yields (.after (.arguments function name args) n) ts
        (.error (.missing (.argumentsEnd function.text) (ts.headD last)), ts)

/-- The procedure for a document, of which these expressions were read. -/
inductive Lists : List Node → List Token → Except Fault Node × List Token → Prop where
  | finished {ns : List Node} {ts : List Token} :
      (ts.headD last).kind = .eof → Lists ns ts (.ok (.document ns), ts)
  | newline {ns : List Node} {t : Token} {ts : List Token}
      {out : Except Fault Node × List Token} :
      t.kind = .newline → Lists ns ts out → Lists ns (t :: ts) out
  | expression {ns : List Node} {n : Node} {ts rest : List Token}
      {out : Except Fault Node × List Token} :
      (ts.headD last).kind ≠ .eof → (ts.headD last).kind ≠ .newline →
      Yields last (.rule .additive) ts (.ok n, rest) → Lists (ns ++ [n]) rest out →
      Lists ns ts out
  | expressionFails {ns : List Node} {fault : Fault} {ts rest : List Token} :
      (ts.headD last).kind ≠ .eof → (ts.headD last).kind ≠ .newline →
      Yields last (.rule .additive) ts (.error fault, rest) → Lists ns ts (.error fault, rest)

end Yields

/-! ## Termination -/

/-- Whether the procedure cannot return a node without having passed a token. -/
def Task.reads : Task → Bool
  | .rule _ | .inside _ => true
  | .after _ _ | .behind _ _ => false

section Termination
variable {last : Token}

/-- A procedure leaves no more tokens than it is given, and fewer where it has to read. -/
theorem Yields.length_bound {task : Task} {ts : List Token}
    {out : Except Fault Node × List Token} (h : Yields last task ts out) :
    out.2.length ≤ ts.length ∧
      (task.reads = true → ∀ n, out.1 = .ok n → out.2.length < ts.length) := by
  induction h with
  | chain _ _ _ ih ih' | operand _ _ ih ih' =>
      have hlt := Nat.lt_of_le_of_lt ih'.1 (ih.2 rfl _ rfl)
      exact ⟨Nat.le_of_lt hlt, fun _ n _ => hlt⟩
  | chainFails _ _ ih | operandFails _ ih => exact ⟨ih.1, by simp⟩
  | noSign _ _ ih | noKeyword _ _ ih => exact ⟨ih.1, fun _ => ih.2 rfl⟩
  | sum _ ih | product _ ih => exact ⟨ih.1, by simp [Task.reads]⟩
  | noJoin | unexpected | signed | raised | noClose | noCloseCall =>
      exact ⟨Nat.le_refl _, by simp [Task.reads]⟩
  | constant | noArguments | emptyCall | atom | close | closeCall =>
      simp only [List.length_cons]
      exact ⟨by omega, fun _ n _ => by omega⟩
  | join _ _ _ ih | sign _ _ _ ih | call _ _ _ _ ih | enclosed _ _ ih | comma _ _ ih =>
      have hle := ih.1
      simp only [List.length_cons]
      exact ⟨by omega, fun _ n _ => by omega⟩

theorem Yields.length_lt {level : Level} {ts rest : List Token} {n : Node}
    (h : Yields last (.rule level) ts (.ok n, rest)) : rest.length < ts.length :=
  h.length_bound.2 rfl n rfl

variable (last) in
/-- The procedure terminates on these tokens. -/
def Halts (task : Task) (ts : List Token) : Prop := ∃ out, Yields last task ts out

/-! The procedures of the rules call each other on the same tokens from the looser to the tighter
one.  A frame is opened by a token, so what is inside of it is always read from fewer tokens. -/

section Inside
variable (hlast : last.kind = .eof) {ts : List Token}
  (hinside : ∀ (frame : Frame) (rest : List Token), rest.length < ts.length →
    Halts last (.inside frame) rest)
include hlast

theorem halts_closed {frame : Frame} {kind : Kind} {wrap : Node → Node} {what : Expectation}
    (h : ClosedBy frame kind wrap what) (n : Node) : Halts last (.after frame n) ts := by
  by_cases hkind : (ts.headD last).kind = kind
  · cases ts with
    | nil =>
        have hend : kind = .eof := hkind.symm.trans hlast
        cases h <;> cases hend
    | cons t ts => exact ⟨_, .close h hkind⟩
  · exact ⟨_, .noClose h hkind⟩

include hinside

theorem halts_behind (level : Level) (left : Node) : Halts last (.behind level left) ts := by
  by_cases hjoin : ∃ op frame, (ts.headD last).kind = .operator op ∧
      level.join? left op = some frame
  · obtain ⟨op, frame, ht, hframe⟩ := hjoin
    cases ts with
    | nil => cases hlast.symm.trans ht
    | cons t ts =>
        obtain ⟨out, h⟩ := hinside frame ts (Nat.lt_succ_self _)
        exact ⟨out, .join ht hframe h⟩
  · refine ⟨_, .noJoin fun op ht => Option.eq_none_iff_forall_ne_some.mpr ?_⟩
    exact fun frame hframe => hjoin ⟨op, frame, ht, hframe⟩

theorem halts_afterArgument (function : Token) (name : Func) (args : List Node) (n : Node) :
    Halts last (.after (.arguments function name args) n) ts := by
  cases ts with
  | nil => exact ⟨_, .noCloseCall (by simp [hlast]) (by simp [hlast])⟩
  | cons t ts =>
      by_cases hcomma : t.kind = .comma
      · obtain ⟨out, h⟩ :=
          hinside (.arguments function name (args ++ [n])) ts (Nat.lt_succ_self _)
        exact ⟨out, .comma hcomma h⟩
      · by_cases hclose : t.kind = .closer .paren
        · exact ⟨_, .closeCall hclose⟩
        · exact ⟨_, .noCloseCall hcomma hclose⟩

theorem halts_after (frame : Frame) (n : Node) : Halts last (.after frame n) ts := by
  cases frame with
  | additive op left =>
      obtain ⟨out, h⟩ := halts_behind hlast hinside .additive (.binary (.operator op) left n)
      exact ⟨out, .sum h⟩
  | multiplicative op left =>
      obtain ⟨out, h⟩ :=
        halts_behind hlast hinside .multiplicative (.binary (.operator op) left n)
      exact ⟨out, .product h⟩
  | sign op => exact ⟨_, .signed⟩
  | power base => exact ⟨_, .raised⟩
  | group => exact halts_closed hlast .group n
  | arguments function name args => exact halts_afterArgument hlast hinside function name args n
  | inlineMath => exact halts_closed hlast .inlineMath n
  | displayMath => exact halts_closed hlast .displayMath n

theorem halts_primary : Halts last (.rule .primary) ts := by
  cases hatom : atom? (ts.headD last) with
  | some n =>
      cases ts with
      | nil => simp [atom?, hlast] at hatom
      | cons t ts => exact ⟨_, .atom hatom⟩
  | none =>
      cases hopened : opened? (ts.headD last).kind with
      | none => exact ⟨_, .unexpected hatom hopened⟩
      | some frame =>
          cases ts with
          | nil => simp [opened?, hlast] at hopened
          | cons t ts =>
              obtain ⟨out, h⟩ := hinside frame ts (Nat.lt_succ_self _)
              exact ⟨out, .enclosed hopened h⟩

theorem halts_call : Halts last (.rule .call) ts := by
  by_cases hkeyword : isKeyword (ts.headD last).kind = false
  · obtain ⟨out, h⟩ := halts_primary hlast hinside
    exact ⟨out, .noKeyword hkeyword h⟩
  · match ts with
    | [] => simp [isKeyword, hlast] at hkeyword
    | t :: ts =>
        cases ht : t.kind with
        | constant c => exact ⟨_, .constant ht⟩
        | func f =>
            by_cases hopen : (ts.headD last).kind = .opener .paren
            · match ts with
              | [] => cases hlast.symm.trans hopen
              | [o] =>
                  obtain ⟨out, h⟩ := hinside (.arguments t f []) [] (by simp)
                  exact ⟨out, .call ht hopen (by simp [hlast]) h⟩
              | o :: c :: ts =>
                  by_cases hclose : c.kind = .closer .paren
                  · exact ⟨_, .emptyCall ht hopen hclose⟩
                  · obtain ⟨out, h⟩ := hinside (.arguments t f []) (c :: ts) (by simp)
                    exact ⟨out, .call ht hopen hclose h⟩
            · exact ⟨_, .noArguments ht hopen⟩
        | _ => simp [isKeyword, ht] at hkeyword

/-- A rule that joins operands reads the first of them and goes on behind it. -/
theorem halts_chain {level inner : Level} (hinner : level.operand? = some inner)
    (h : Halts last (.rule inner) ts) : Halts last (.rule level) ts := by
  obtain ⟨⟨fault | n, rest⟩, hrule⟩ := h
  · exact ⟨_, .chainFails hinner hrule⟩
  · have hrest := hrule.length_lt
    obtain ⟨out, hbehind⟩ :=
      halts_behind hlast (fun frame ts' hlt => hinside frame ts' (hlt.trans hrest)) level n
    exact ⟨out, .chain hinner hrule hbehind⟩

theorem halts_rule (level : Level) : Halts last (.rule level) ts := by
  have hcall : Halts last (.rule .call) ts := halts_call hlast hinside
  have hpower : Halts last (.rule .power) ts := halts_chain hlast hinside rfl hcall
  have hunary : Halts last (.rule .unary) ts := by
    by_cases hsign : (ts.headD last).isSign = false
    · obtain ⟨out, h⟩ := hpower
      exact ⟨out, .noSign hsign h⟩
    · obtain ⟨op, ht, hop⟩ := Grammar.exists_of_isSign (eq_true_of_ne_false hsign)
      cases ts with
      | nil => cases hlast.symm.trans ht
      | cons t ts =>
          obtain ⟨out, h⟩ := hinside (.sign op) ts (Nat.lt_succ_self _)
          exact ⟨out, .sign ht hop h⟩
  have hproduct : Halts last (.rule .multiplicative) ts := halts_chain hlast hinside rfl hunary
  cases level with
  | additive => exact halts_chain hlast hinside rfl hproduct
  | multiplicative => exact hproduct
  | unary => exact hunary
  | power => exact hpower
  | call => exact hcall
  | primary => exact halts_primary hlast hinside

end Inside

theorem halts_inside (hlast : last.kind = .eof) (frame : Frame) (ts : List Token) :
    Halts last (.inside frame) ts := by
  have hinside : ∀ (frame : Frame) (rest : List Token), rest.length < ts.length →
      Halts last (.inside frame) rest := fun frame rest _ => halts_inside hlast frame rest
  obtain ⟨⟨fault | n, rest⟩, hrule⟩ := halts_rule hlast hinside frame.operand
  · exact ⟨_, .operandFails hrule⟩
  · have hrest := hrule.length_lt
    obtain ⟨out, hafter⟩ :=
      halts_after hlast (fun frame ts' hlt => hinside frame ts' (hlt.trans hrest)) frame n
    exact ⟨out, .operand hrule hafter⟩
termination_by ts.length

/-- Every rule can be called on all tokens, and terminates. -/
theorem rule_halts (hlast : last.kind = .eof) (level : Level) (ts : List Token) :
    Halts last (.rule level) ts :=
  halts_rule hlast (fun frame rest _ => halts_inside hlast frame rest) level

/-- A document ends after finitely many expressions, as each of them passes a token. -/
theorem exists_lists (hlast : last.kind = .eof) (ns : List Node) (ts : List Token) :
    ∃ out, Lists last ns ts out := by
  by_cases heof : (ts.headD last).kind = .eof
  · exact ⟨_, .finished heof⟩
  · by_cases hnewline : (ts.headD last).kind = .newline
    · cases ts with
      | nil => exact absurd hlast heof
      | cons t ts =>
          obtain ⟨out, h⟩ := exists_lists hlast ns ts
          exact ⟨out, .newline hnewline h⟩
    · obtain ⟨⟨fault | n, rest⟩, hrule⟩ := rule_halts hlast .additive ts
      · exact ⟨_, .expressionFails heof hnewline hrule⟩
      · have hrest := hrule.length_lt
        obtain ⟨out, h⟩ := exists_lists hlast (ns ++ [n]) rest
        exact ⟨out, .expression heof hnewline hrule h⟩
termination_by ts.length

end Termination

end PlainMath.Parser
