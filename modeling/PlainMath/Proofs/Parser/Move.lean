/-
# `Proofs.Parser.Move` — what the parser does not look at

The parser looks at the kind, the text and the value of a token and never at its position; and
it adds to the expressions that it has read without looking at them.  Said as one law: if all
tokens are moved by a function on positions, and expressions are put before those that a state
holds, then the parser takes the same steps, and ends with these expressions before its own or
with the same fault, its token moved.

    one step        (`next?_move`)
    the verdict     (`verdict_move`)
    a whole run     (`run_move`)
    the brackets    (`imbalanceFrom_move`)
    a stream        (`parse_move`)

A consequence is that the parser cannot invent a position: a function that leaves the positions
of a stream alone and sends all others to one of them moves no token of the stream, so the
token of a fault is not moved either (`position_mem_of_parse_error`).
-/
import PlainMath.Proofs.Parser.Complete

namespace PlainMath

/-- The token at another place. -/
def Token.move (g : Position → Position) (t : Token) : Token :=
  { t with position := g t.position }

section Token
variable (g : Position → Position) (t : Token)

@[simp] theorem Token.move_kind : (t.move g).kind = t.kind := rfl

@[simp] theorem Token.move_text : (t.move g).text = t.text := rfl

@[simp] theorem Token.move_literal : (t.move g).literal = t.literal := rfl

end Token

/-- The fault with its tokens at another place. -/
def Fault.move (g : Position → Position) : Fault → Fault
  | .unmatched b t => .unmatched b (t.move g)
  | .unclosed b t => .unclosed b (t.move g)
  | .unexpected t => .unexpected (t.move g)
  | .noArguments t => .noArguments (t.move g)
  | .missing what t => .missing what (t.move g)
  | .arity t accepted count => .arity (t.move g) accepted count

theorem Fault.token_move (g : Position → Position) (fault : Fault) :
    (fault.move g).token = fault.token.move g := by
  cases fault <;> rfl

namespace Parser

/-! ## States -/

/-- The goal with these expressions before its own. -/
def Goal.prepend (ns : List Node) : Goal → Goal
  | .rule level => .rule level
  | .document ms => .document (ns ++ ms)

/-- The frame with its token at another place. -/
def Frame.move (g : Position → Position) : Frame → Frame
  | .arguments function name args => .arguments (function.move g) name args
  | frame => frame

/-- The phase with its token at another place. -/
def Phase.move (g : Position → Position) : Phase → Phase
  | .firstArgument function name => .firstArgument (function.move g) name
  | .argumentList function name => .argumentList (function.move g) name
  | .faulty fault => .faulty (fault.move g)
  | phase => phase

/-- The state with its tokens at another place, and with these expressions before its own. -/
def State.move (ns : List Node) (g : Position → Position) (s : State) : State :=
  ⟨s.goal.prepend ns, s.frames.map (Frame.move g), s.phase.move g⟩

/-- The verdict with its token at another place, and with these expressions before its own. -/
def moveVerdict (ns : List Node) (g : Position → Position) : Except Fault Node → Except Fault Node
  | .ok (.document ms) => .ok (.document (ns ++ ms))
  | .ok n => .ok n
  | .error fault => .error (fault.move g)

section Move
variable (ns : List Node) (g : Position → Position)

@[simp] theorem Goal.level_prepend (goal : Goal) : (goal.prepend ns).level = goal.level := by
  cases goal <;> rfl

theorem closeUnary_move : ∀ (n : Node) (fs : List Frame),
    closeUnary n (fs.map (Frame.move g)) =
      ((closeUnary n fs).1, (closeUnary n fs).2.map (Frame.move g))
  | _, [] | _, .additive _ _ :: _ | _, .multiplicative _ _ :: _ | _, .group :: _
  | _, .arguments _ _ _ :: _ | _, .inlineMath :: _ | _, .displayMath :: _ => rfl
  | n, .sign op :: fs => closeUnary_move (.unary (.operator op) n) fs
  | n, .power b :: fs => closeUnary_move (.binary (.operator .power) b n) fs

theorem closeProduct_move (n : Node) : ∀ fs : List Frame,
    closeProduct (n, fs.map (Frame.move g)) =
      ((closeProduct (n, fs)).1, (closeProduct (n, fs)).2.map (Frame.move g))
  | [] | .additive _ _ :: _ | .multiplicative _ _ :: _ | .group :: _ | .arguments _ _ _ :: _
  | .inlineMath :: _ | .displayMath :: _ | .sign _ :: _ | .power _ :: _ => rfl

theorem closeSum_move (n : Node) : ∀ fs : List Frame,
    closeSum (n, fs.map (Frame.move g)) =
      ((closeSum (n, fs)).1, (closeSum (n, fs)).2.map (Frame.move g))
  | [] | .additive _ _ :: _ | .multiplicative _ _ :: _ | .group :: _ | .arguments _ _ _ :: _
  | .inlineMath :: _ | .displayMath :: _ | .sign _ :: _ | .power _ :: _ => rfl

theorem closeAll_move (n : Node) (fs : List Frame) :
    closeAll n (fs.map (Frame.move g)) =
      ((closeAll n fs).1, (closeAll n fs).2.map (Frame.move g)) := by
  simp only [closeAll, closeUnary_move, closeProduct_move, closeSum_move]

/-! ## One step -/

theorem arityFault?_move (t : Token) (count : Int) :
    (t.move g).arityFault? count = (t.arityFault? count).map (Fault.move g) := by
  unfold Token.arityFault?
  rw [Token.move_kind]
  split
  · split <;> rfl
  · rfl

theorem afterCall_move (function : Token) (name : Func) (args : List Node) :
    afterCall (function.move g) name args = (afterCall function name args).move g := by
  unfold afterCall
  rw [arityFault?_move]
  cases function.arityFault? args.length <;> rfl

theorem startOperand_move (goal : Goal) (fs : List Frame) (t : Token) :
    startOperand (goal.prepend ns) (fs.map (Frame.move g)) (t.move g) =
      (startOperand goal fs t).map (State.move ns g) := by
  simp only [startOperand, Token.move_kind, Token.move_text, Token.move_literal,
    List.isEmpty_map, Goal.level_prepend]
  split
  · split <;> rfl
  · split <;> rfl
  · split <;> rfl
  all_goals rfl

theorem betweenExpressions_move (ms : List Node) (t : Token) :
    betweenExpressions (ns ++ ms) (t.move g) =
      (betweenExpressions ms t).map (State.move ns g) := by
  simp only [betweenExpressions, Token.move_kind]
  split
  · rfl
  · exact startOperand_move ns g (.document ms) [] t

theorem beforeOperand_move (goal : Goal) (fs : List Frame) (t : Token) :
    beforeOperand (goal.prepend ns) (fs.map (Frame.move g)) (t.move g) =
      (beforeOperand goal fs t).map (State.move ns g) := by
  match goal, fs with
  | .document ms, [] => exact betweenExpressions_move ns g ms t
  | .document ms, frame :: fs => exact startOperand_move ns g (.document ms) (frame :: fs) t
  | .rule level, fs => exact startOperand_move ns g (.rule level) fs t

theorem afterExpression_move (goal : Goal) (n : Node) (t : Token) : ∀ fs : List Frame,
    afterExpression (goal.prepend ns) (n, fs.map (Frame.move g)) (t.move g) =
      (afterExpression goal (n, fs) t).map (State.move ns g)
  | [] => by
      cases goal with
      | document ms =>
          have h := betweenExpressions_move ns g (ms ++ [n]) t
          rwa [← List.append_assoc] at h
      | rule level => rfl
  | .arguments function name args :: fs => by
      simp only [List.map_cons, Frame.move, afterExpression, Token.move_kind]
      split
      · rfl
      · simp only [afterCall_move, Option.map_some, State.move]
      · rfl
  | .group :: fs | .inlineMath :: fs | .displayMath :: fs => by
      simp only [List.map_cons, Frame.move, afterExpression, Token.move_kind]
      split <;> rfl
  | .additive _ _ :: _ | .multiplicative _ _ :: _ | .sign _ :: _ | .power _ :: _ => rfl

theorem afterOperand_move (goal : Goal) (n : Node) (fs : List Frame) (t : Token) :
    afterOperand (goal.prepend ns) n (fs.map (Frame.move g)) (t.move g) =
      (afterOperand goal n fs t).map (State.move ns g) := by
  simp only [afterOperand, Token.move_kind, closeUnary_move, closeProduct_move, closeSum_move,
    List.isEmpty_map, afterExpression_move, Goal.level_prepend]
  split
  · split <;> rfl
  · split
    · rfl
    · split <;> rfl
  · rfl

/-- One token leads to the same state, moved. -/
theorem next?_move (s : State) (t : Token) :
    (s.move ns g).next? (t.move g) = (s.next? t).map (State.move ns g) := by
  obtain ⟨goal, fs, phase⟩ := s
  cases phase with
  | operand => exact beforeOperand_move ns g goal fs t
  | firstArgument function name =>
      simp only [State.next?, State.move, Phase.move, Token.move_kind]
      split
      · simp only [afterCall_move, Option.map_some, State.move]
      · exact startOperand_move ns g goal (.arguments function name [] :: fs) t
  | argumentList function name =>
      simp only [State.next?, State.move, Phase.move, Token.move_kind]
      split <;> rfl
  | operator n => exact afterOperand_move ns g goal n fs t
  | faulty fault => rfl

/-! ## The verdict -/

theorem endOfExpressions_move (ms : List Node) (t : Token) :
    endOfExpressions (ns ++ ms) (t.move g) = moveVerdict ns g (endOfExpressions ms t) := by
  simp only [endOfExpressions, Token.move_kind]
  split <;> rfl

theorem endOfExpression_move (ms : List Node) (n : Node) (t : Token) : ∀ {fs : List Frame},
    tightness fs < 1 →
    endOfExpression (.document (ns ++ ms)) (n, fs.map (Frame.move g)) (t.move g) =
      moveVerdict ns g (endOfExpression (.document ms) (n, fs) t)
  | [], _ => by
      have h := endOfExpressions_move ns g (ms ++ [n]) t
      rwa [← List.append_assoc] at h
  | .arguments _ _ _ :: _, _ | .group :: _, _ | .inlineMath :: _, _ | .displayMath :: _, _ => rfl
  | .additive _ _ :: _, h | .multiplicative _ _ :: _, h | .sign _ :: _, h | .power _ :: _, h => by
      simp [tightness, Frame.tightness] at h

/-- One token gives the same verdict, moved. -/
theorem verdict_move {s : State} {w : List Token} (hread : Read s w) (t : Token) :
    (s.move ns g).verdict (t.move g) = moveVerdict ns g (s.verdict t) := by
  obtain @⟨ms, fs, phase, done, w, tight, hdone, hprogress, hw⟩ := hread
  cases hprogress with
  | operand hheld =>
      cases fs with
      | nil => exact endOfExpressions_move ns g ms t
      | cons frame fs => rfl
  | firstArgument | argumentList | faulty => rfl
  | @operator w n hspelt =>
      obtain ⟨-, hfs⟩ := closeAll_spelt hspelt.unary
      simp only [State.verdict, State.move, Phase.move, closeAll_move]
      exact endOfExpression_move ns g ms _ t hfs

/-! ## A whole run -/

/-- Moved tokens are read as the tokens are. -/
theorem run_move {last : Token} {s : State} {ts : List Token} : ∀ {w : List Token}, Read s w →
    State.run (last.move g) (s.move ns g) (ts.map (Token.move g)) =
      (moveVerdict ns g (State.run last s ts).1, (State.run last s ts).2.map (Token.move g)) := by
  fun_induction State.run last s ts with
  | case1 s =>
      intro w hread
      simp only [List.map_nil, State.run, verdict_move ns g hread]
  | case2 s t ts s' hnext ih =>
      intro w hread
      simp only [List.map_cons, State.run, next?_move, hnext, Option.map_some,
        ih (hread.next hnext)]
  | case3 s t ts hnext =>
      intro w hread
      simp only [List.map_cons, State.run, next?_move, hnext, Option.map_none,
        verdict_move ns g hread]

theorem start_eq_move :
    State.start (.document ns) = (State.start (.document [])).move ns g := by
  simp [State.start, State.move, Goal.prepend, Phase.move]

end Move

end Parser

/-! ## Brackets -/

/-- The open brackets at another place. -/
def Openers.move (g : Position → Position) (o : Openers) : Openers :=
  ⟨o.paren.map (Token.move g), o.square.map (Token.move g), o.brace.map (Token.move g)⟩

section Brackets
variable (g : Position → Position)

theorem Openers.get_move (o : Openers) (b : Bracket) :
    (o.move g).get b = (o.get b).map (Token.move g) := by
  cases b <;> rfl

theorem Openers.set_move (o : Openers) (ts : List Token) (b : Bracket) :
    (o.move g).set (ts.map (Token.move g)) b = (o.set ts b).move g := by
  cases b <;> rfl

theorem Openers.unclosed?_move (o : Openers) :
    (o.move g).unclosed? = o.unclosed?.map (Fault.move g) := by
  have hfirst : ∀ b, ((o.move g).get b).getLast?.map (Fault.unclosed b) =
      ((o.get b).getLast?.map (Fault.unclosed b)).map (Fault.move g) := by
    intro b
    rw [Openers.get_move, List.getLast?_map]
    cases (o.get b).getLast? <;> rfl
  simp only [Openers.unclosed?, hfirst, List.map_findSome?]
  rfl

theorem imbalanceFrom_move : ∀ (o : Openers) (ts : List Token),
    Token.imbalanceFrom (o.move g) (ts.map (Token.move g)) =
      (Token.imbalanceFrom o ts).map (Fault.move g)
  | o, [] => o.unclosed?_move g
  | o, t :: ts => by
      simp only [List.map_cons, Token.imbalanceFrom, Token.move_kind, Openers.get_move]
      split
      · rw [← List.map_cons, Openers.set_move, imbalanceFrom_move]
      · next b hkind =>
          cases hget : o.get b with
          | nil => rfl
          | cons u below =>
              simp only [List.map_cons]
              rw [Openers.set_move, imbalanceFrom_move]
      · exact imbalanceFrom_move o ts

end Brackets

/-! ## Streams -/

/-- The stream with its tokens at another place. -/
def Stream.move (g : Position → Position) (s : Stream) : Stream :=
  ⟨s.body.map (Token.move g), s.last.move g, s.last_kind⟩

namespace Parser

/-- A moved stream is read as the stream is. -/
theorem parse_move (g : Position → Position) (s : Stream) :
    parse (s.move g) = moveVerdict [] g (parse s) := by
  have htokens : (s.move g).tokens = s.tokens.map (Token.move g) := by
    simp [Stream.tokens, Stream.move]
  have hbalance : Token.imbalance? (s.move g).tokens =
      (Token.imbalance? s.tokens).map (Fault.move g) := by
    rw [htokens]
    exact imbalanceFrom_move g {} s.tokens
  rw [parse_eq, parse_eq, hbalance]
  cases Token.imbalance? s.tokens with
  | some fault => rfl
  | none => exact congrArg Prod.fst (run_move [] g Read.start)

/-- A fault is placed on a position of the stream. -/
theorem position_mem_of_parse_error {s : Stream} {fault : Fault} (h : parse s = .error fault) :
    fault.token.position ∈ s.tokens.map Token.position := by
  -- `g` moves no token of the stream, so it does not move the token of the fault
  let g : Position → Position := fun p =>
    if p ∈ s.tokens.map Token.position then p else s.last.position
  have hmem : ∀ p, g p ∈ s.tokens.map Token.position := by
    intro p
    simp only [g]
    split
    · assumption
    · simp [Stream.tokens]
  have hfixed : ∀ t ∈ s.tokens, t.move g = t := by
    intro t ht
    simp only [Token.move, g, if_pos (List.mem_map_of_mem ht)]
  have hbody : s.body.map (Token.move g) = s.body := by
    rw [List.map_congr_left fun t ht => hfixed t (List.mem_append_left _ ht), List.map_id']
  have hlast : s.last.move g = s.last := hfixed _ (by simp [Stream.tokens])
  have hmove : s.move g = s := by
    simp only [Stream.move, hbody, hlast]
  have hfault : fault = fault.move g := by
    have hparse := parse_move g s
    rw [hmove, h] at hparse
    exact Except.error.inj hparse
  rw [hfault, Fault.token_move]
  exact hmem fault.token.position

end Parser

end PlainMath
