/-
# `Node` — expression trees

The trees allow any kind of token wherever a node records one; which trees stand for an
expression is a matter of the grammar.  A tree prints as indented labels, one line a node.
-/
import PlainMath.Kind
import PlainMath.Number.Shortest
import PlainMath.Text.Quoted

namespace PlainMath

/-- An expression tree. -/
inductive Node where
  /-- A number; none if its token carried no value. -/
  | number (value : Option Binary64)
  | constant (kind : Kind)
  /-- A name; the kind is that of a Greek letter, and none for any other name. -/
  | identifier (name : String) (kind : Option Kind)
  | binary (op : Kind) (left right : Node)
  | unary (op : Kind) (operand : Node)
  | call (function : Kind) (name : String) (args : List Node)
  | grouping (inner : Node)
  | text (raw : String)
  | inlineMath (inner : Node)
  | displayMath (inner : Node)
  | document (nodes : List Node)
  /-- A node of no known sort, with the name of its sort. -/
  | unknown (sort : String)

namespace Node

/-- The text of a number that may be missing. -/
def numberText : Option Binary64 → String
  | some x => x.text
  | none => "None"

/-- The nodes directly below a node, from left to right. -/
def children : Node → List Node
  | .binary _ left right => [left, right]
  | .unary _ operand => [operand]
  | .call _ _ args => args
  | .grouping inner => [inner]
  | .inlineMath inner => [inner]
  | .displayMath inner => [inner]
  | .document nodes => nodes
  | _ => []

/-- The label of a node. -/
def label : Node → String
  | .number value => "Literal(" ++ numberText value ++ ")"
  | .constant kind => "Literal(" ++ kind.name ++ ")"
  | .identifier name _ => "Identifier(" ++ name ++ ")"
  | .binary op _ _ => "Binary(" ++ op.name ++ ")"
  | .unary op _ => "Unary(" ++ op.name ++ ")"
  | .call _ name args => "Call(" ++ name ++ ", " ++ toString args.length ++ " args)"
  | .grouping _ => "Grouping"
  | .text raw => "Text(" ++ Text.quoted raw ++ ")"
  | .inlineMath _ => "InlineMath"
  | .displayMath _ => "DisplayMath"
  | .document _ => "Document"
  | .unknown sort => sort

/-- A label at this depth, two blanks a level; a depth below zero counts as zero. -/
def indented (depth : Int) (label : String) : String :=
  String.ofList (List.replicate (2 * depth.toNat) ' ') ++ label

mutual

/-- The labels of a tree, each node before the nodes below it. -/
def dump (depth : Int) : Node → List String
  | .binary op left right =>
    indented depth (label (.binary op left right)) ::
      (left.dump (depth + 1) ++ right.dump (depth + 1))
  | .unary op operand => indented depth (label (.unary op operand)) :: operand.dump (depth + 1)
  | .call function name args =>
    indented depth (label (.call function name args)) :: dumpAll (depth + 1) args
  | .grouping inner => indented depth (label (.grouping inner)) :: inner.dump (depth + 1)
  | .inlineMath inner => indented depth (label (.inlineMath inner)) :: inner.dump (depth + 1)
  | .displayMath inner => indented depth (label (.displayMath inner)) :: inner.dump (depth + 1)
  | .document nodes => indented depth (label (.document nodes)) :: dumpAll (depth + 1) nodes
  | .number value => [indented depth (label (.number value))]
  | .constant kind => [indented depth (label (.constant kind))]
  | .identifier name kind => [indented depth (label (.identifier name kind))]
  | .text raw => [indented depth (label (.text raw))]
  | .unknown sort => [indented depth (label (.unknown sort))]

/-- The labels of trees side by side. -/
def dumpAll (depth : Int) : List Node → List String
  | [] => []
  | n :: rest => n.dump depth ++ dumpAll depth rest

end

end Node

end PlainMath
