/-
# `Parser.State` — reading tokens one at a time

The grammar, from the loosest binding to the tightest:

    document       := (newline | expression)* end
    expression     := additive
    additive       := multiplicative (('+' | '-') multiplicative)*
    multiplicative := unary (('*' | '/' | '%' | '\\') unary)*
    unary          := ('-' | '+') unary | power
    power          := call ('^' unary)?
    call           := constant | function '(' (expression (',' expression)*)? ')' | primary
    primary        := number | letter | identifier | '(' expression ')' | text
                    | '$' expression '$' | '$$' expression '$$'

A state holds what was read and is not finished: the goal, the frames of the constructions
that are open, innermost first, and the phase, which says what may come next.  A token either
leads to the next state (`next?`) or ends the reading with a verdict (`verdict`).  No token is
looked at twice by a finished reading, and the reading never goes back.
-/
import PlainMath.Fault
import PlainMath.Node

namespace PlainMath.Parser

/-- The rules of the grammar that can be asked for by themselves. -/
inductive Level where
  | additive
  | multiplicative
  | unary
  | power
  | call
  | primary
  deriving DecidableEq

namespace Level

/-- Whether the rule takes sums. -/
def takesSums : Level → Bool
  | .additive => true
  | _ => false

/-- Whether the rule takes products. -/
def takesProducts : Level → Bool
  | .additive | .multiplicative => true
  | _ => false

/-- Whether the rule takes leading signs. -/
def takesSigns : Level → Bool
  | .additive | .multiplicative | .unary => true
  | _ => false

/-- Whether the rule takes powers. -/
def takesPowers : Level → Bool
  | .additive | .multiplicative | .unary | .power => true
  | _ => false

/-- Whether the rule takes constants and functions. -/
def takesKeywords : Level → Bool
  | .primary => false
  | _ => true

end Level

/-- What is being read. -/
inductive Goal where
  /-- One construction of this rule. -/
  | rule (level : Level)
  /-- A whole document, of which these expressions were read. -/
  | document (nodes : List Node)

namespace Goal

/-- The rule that the outermost expression has to follow. -/
def level : Goal → Level
  | .rule level => level
  | .document _ => .additive

end Goal

/-- A construction that was begun. -/
inductive Frame where
  /-- A sum up to its last operator. -/
  | additive (op : Operator) (left : Node)
  /-- A product up to its last operator. -/
  | multiplicative (op : Operator) (left : Node)
  | sign (op : Operator)
  /-- A power up to its exponent. -/
  | power (base : Node)
  | group
  /-- The arguments of a function, of which these were read. -/
  | arguments (function : Token) (name : Func) (args : List Node)
  | inlineMath
  | displayMath

/-- What may come next. -/
inductive Phase where
  /-- An operand has to start. -/
  | operand
  /-- An operand, or the end of an empty list of arguments. -/
  | firstArgument (function : Token) (name : Func)
  /-- The parenthesis after a function. -/
  | argumentList (function : Token) (name : Func)
  /-- An operator, or whatever may follow a finished expression. -/
  | operator (operand : Node)
  /-- Nothing: a call was found faulty once it was closed. -/
  | faulty (fault : Fault)

/-- What was read and is not finished. -/
structure State where
  goal : Goal
  frames : List Frame
  phase : Phase

/-- The state before the first token. -/
def State.start (goal : Goal) : State := ⟨goal, [], .operand⟩

/-! ## Finishing what an operand ends -/

/-- Finishes the powers and signs that end with the operand. -/
def closeUnary : Node → List Frame → Node × List Frame
  | n, .sign op :: frames => closeUnary (.unary (.operator op) n) frames
  | n, .power base :: frames => closeUnary (.binary (.operator .power) base n) frames
  | n, frames => (n, frames)

/-- Finishes the product that ends with the operand. -/
def closeProduct : Node × List Frame → Node × List Frame
  | (n, .multiplicative op left :: frames) => (.binary (.operator op) left n, frames)
  | (n, frames) => (n, frames)

/-- Finishes the sum that ends with the operand. -/
def closeSum : Node × List Frame → Node × List Frame
  | (n, .additive op left :: frames) => (.binary (.operator op) left n, frames)
  | (n, frames) => (n, frames)

/-- Finishes the whole expression that ends with the operand. -/
def closeAll (n : Node) (frames : List Frame) : Node × List Frame :=
  closeSum (closeProduct (closeUnary n frames))

/-! ## The next state -/

/-- The phase after the parenthesis that closes a call. -/
def afterCall (function : Token) (name : Func) (args : List Node) : Phase :=
  match function.arityFault? args.length with
  | some fault => .faulty fault
  | none => .operator (.call (.func name) function.text args)

/-- The next state when an operand may start. -/
def startOperand (goal : Goal) (frames : List Frame) (t : Token) : Option State :=
  let outermost := frames.isEmpty
  match t.kind with
  | .operator op =>
    if op.isAdditive && (!outermost || goal.level.takesSigns) then
      some ⟨goal, .sign op :: frames, .operand⟩
    else none
  | .constant c =>
    if !outermost || goal.level.takesKeywords then
      some ⟨goal, frames, .operator (.constant (.constant c))⟩
    else none
  | .func f =>
    if !outermost || goal.level.takesKeywords then some ⟨goal, frames, .argumentList t f⟩
    else none
  | .number => some ⟨goal, frames, .operator (.number t.literal)⟩
  | .greek g => some ⟨goal, frames, .operator (.identifier t.text (some (.greek g)))⟩
  | .identifier => some ⟨goal, frames, .operator (.identifier t.text none)⟩
  | .text => some ⟨goal, frames, .operator (.text t.text)⟩
  | .opener .paren => some ⟨goal, .group :: frames, .operand⟩
  | .dollar => some ⟨goal, .inlineMath :: frames, .operand⟩
  | .doubleDollar => some ⟨goal, .displayMath :: frames, .operand⟩
  | _ => none

/-- The next state between the expressions of a document. -/
def betweenExpressions (nodes : List Node) (t : Token) : Option State :=
  match t.kind with
  | .newline => some (.start (.document nodes))
  | _ => startOperand (.document nodes) [] t

/-- The next state when an operand has to start. -/
def beforeOperand (goal : Goal) (frames : List Frame) (t : Token) : Option State :=
  match goal, frames with
  | .document nodes, [] => betweenExpressions nodes t
  | _, _ => startOperand goal frames t

/-- The next state after a whole expression, when the token does not go on with it. -/
def afterExpression (goal : Goal) : Node × List Frame → Token → Option State
  | (n, []), t =>
    match goal with
    | .document nodes => betweenExpressions (nodes ++ [n]) t
    | .rule _ => none
  | (n, .group :: frames), t =>
    match t.kind with
    | .closer .paren => some ⟨goal, frames, .operator (.grouping n)⟩
    | _ => none
  | (n, .arguments function name args :: frames), t =>
    match t.kind with
    | .comma => some ⟨goal, .arguments function name (args ++ [n]) :: frames, .operand⟩
    | .closer .paren => some ⟨goal, frames, afterCall function name (args ++ [n])⟩
    | _ => none
  | (n, .inlineMath :: frames), t =>
    match t.kind with
    | .dollar => some ⟨goal, frames, .operator (.inlineMath n)⟩
    | _ => none
  | (n, .displayMath :: frames), t =>
    match t.kind with
    | .doubleDollar => some ⟨goal, frames, .operator (.displayMath n)⟩
    | _ => none
  | _, _ => none

/-- The next state after an operand. -/
def afterOperand (goal : Goal) (n : Node) (frames : List Frame) (t : Token) : Option State :=
  let level := goal.level
  let product := closeProduct (closeUnary n frames)
  let sum := closeSum product
  match t.kind with
  | .operator .power =>
    if !frames.isEmpty || level.takesPowers then some ⟨goal, .power n :: frames, .operand⟩
    else none
  | .operator op =>
    if op.isMultiplicative && (!product.2.isEmpty || level.takesProducts) then
      some ⟨goal, .multiplicative op product.1 :: product.2, .operand⟩
    else if op.isAdditive && (!sum.2.isEmpty || level.takesSums) then
      some ⟨goal, .additive op sum.1 :: sum.2, .operand⟩
    else afterExpression goal sum t
  | _ => afterExpression goal sum t

/-- The state after one more token; none if the token ends the reading. -/
def State.next? (s : State) (t : Token) : Option State :=
  match s.phase with
  | .operand => beforeOperand s.goal s.frames t
  | .firstArgument function name =>
    match t.kind with
    | .closer .paren => some ⟨s.goal, s.frames, afterCall function name []⟩
    | _ => startOperand s.goal (.arguments function name [] :: s.frames) t
  | .argumentList function name =>
    match t.kind with
    | .opener .paren => some ⟨s.goal, s.frames, .firstArgument function name⟩
    | _ => none
  | .operator n => afterOperand s.goal n s.frames t
  | .faulty _ => none

/-! ## The verdict -/

/-- The verdict between the expressions of a document. -/
def endOfExpressions (nodes : List Node) (t : Token) : Except Fault Node :=
  match t.kind with
  | .eof => .ok (.document nodes)
  | _ => .error (.unexpected t)

/-- The verdict when an operand should have started. -/
def noOperand (goal : Goal) (frames : List Frame) (t : Token) : Except Fault Node :=
  match goal, frames with
  | .document nodes, [] => endOfExpressions nodes t
  | _, _ => .error (.unexpected t)

/-- The verdict after a whole expression. -/
def endOfExpression (goal : Goal) : Node × List Frame → Token → Except Fault Node
  | (n, []), t =>
    match goal with
    | .document nodes => endOfExpressions (nodes ++ [n]) t
    | .rule _ => .ok n
  | (_, .group :: _), t => .error (.missing .groupEnd t)
  | (_, .arguments function _ _ :: _), t => .error (.missing (.argumentsEnd function.text) t)
  | (_, .inlineMath :: _), t => .error (.missing .inlineEnd t)
  | (_, .displayMath :: _), t => .error (.missing .displayEnd t)
  | (n, _), _ => .ok n

/-- What is read, or what is wrong, when this token ends the reading. -/
def State.verdict (s : State) (t : Token) : Except Fault Node :=
  match s.phase with
  | .operand => noOperand s.goal s.frames t
  | .firstArgument _ _ => .error (.unexpected t)
  | .argumentList function _ => .error (.noArguments function)
  | .operator n => endOfExpression s.goal (closeAll n s.frames) t
  | .faulty fault => .error fault

/-! ## Reading a list -/

/-- Reads as far as it goes.  The token `last` stands behind the list; the result is the
verdict and the tokens that were not read, `last` not counted. -/
def State.run (last : Token) : State → List Token → Except Fault Node × List Token
  | s, [] => (s.verdict last, [])
  | s, t :: rest =>
    match s.next? t with
    | some s' => State.run last s' rest
    | none => (s.verdict t, t :: rest)

end PlainMath.Parser
