/-
# `Proofs.Parser.Blame` — a fault is found on tokens of the stream

Faults name tokens: the one that is blamed, and sometimes the function whose arguments are not
closed.  All of them were read from the stream.  The parser keeps tokens only as the functions
of calls that are open, and in the fault of a call that was closed with a wrong number of
arguments; `Holds P s` says that all tokens in a state satisfy `P`.

    one step        (`Holds.next`)
    the verdict     (`Holds.verdict`)
    a whole run     (`run_blames`)
    the brackets    (`imbalanceFrom_blames`)
    a stream        (`parse_blames`)
-/
import PlainMath.Proofs.Parser.Complete

namespace PlainMath

/-- The token satisfies `P` and is the name of a function. -/
def Token.IsFunction (P : Token → Prop) (t : Token) : Prop := P t ∧ ∃ f, t.kind = .func f

/-- The tokens that the fault names satisfy `P`, and functions are functions. -/
def Fault.Blames (P : Token → Prop) : Fault → Prop
  | .unmatched _ t | .unclosed _ t | .unexpected t => P t
  | .noArguments t | .arity t _ _ => t.IsFunction P
  | .missing what t => P t ∧
    match what with
    | .argumentsEnd name => ∃ f, Token.IsFunction P f ∧ f.text = name
    | .stated _ => False
    | _ => True

theorem Fault.Blames.token {P : Token → Prop} {fault : Fault} (h : fault.Blames P) :
    P fault.token := by
  cases fault with
  | unmatched | unclosed | unexpected => exact h
  | noArguments | arity | missing => exact h.1

namespace Parser

section Blame
variable {P : Token → Prop}

/-! ## States -/

/-- The function whose arguments are open satisfies `P`. -/
def Frame.Holds (P : Token → Prop) : Frame → Prop
  | .arguments function _ _ => function.IsFunction P
  | _ => True

def Phase.Holds (P : Token → Prop) : Phase → Prop
  | .firstArgument function _ | .argumentList function _ => function.IsFunction P
  | .faulty fault => fault.Blames P
  | _ => True

/-- All tokens in the state satisfy `P`. -/
structure Holds (P : Token → Prop) (s : State) : Prop where
  frames : ∀ frame ∈ s.frames, frame.Holds P
  phase : s.phase.Holds P

theorem closeUnary_subset : ∀ (n : Node) (fs : List Frame), (closeUnary n fs).2 ⊆ fs
  | _, .sign _ :: fs | _, .power _ :: fs => List.subset_cons_of_subset _ (closeUnary_subset _ fs)
  | _, [] | _, .additive _ _ :: _ | _, .multiplicative _ _ :: _ | _, .group :: _
  | _, .arguments _ _ _ :: _ | _, .inlineMath :: _ | _, .displayMath :: _ =>
      List.Subset.refl _

theorem closeProduct_subset (p : Node × List Frame) : (closeProduct p).2 ⊆ p.2 := by
  unfold closeProduct
  split
  · exact List.subset_cons_self _ _
  · exact List.Subset.refl _

theorem closeSum_subset (p : Node × List Frame) : (closeSum p).2 ⊆ p.2 := by
  unfold closeSum
  split
  · exact List.subset_cons_self _ _
  · exact List.Subset.refl _

theorem closeAll_subset (n : Node) (fs : List Frame) : (closeAll n fs).2 ⊆ fs :=
  fun _ h => closeUnary_subset n fs (closeProduct_subset _ (closeSum_subset _ h))

/-! ## One step -/

variable {goal : Goal} {fs : List Frame} {t : Token} {s : State}

theorem startOperand_holds (hfs : ∀ frame ∈ fs, frame.Holds P) (ht : P t)
    (h : startOperand goal fs t = some s) : Holds P s := by
  have hcons : ∀ {frame : Frame}, frame.Holds P → ∀ f ∈ frame :: fs, f.Holds P :=
    fun hframe => List.forall_mem_cons.mpr ⟨hframe, hfs⟩
  unfold startOperand at h
  cases hkind : t.kind with
  | operator op =>
      simp only [hkind] at h
      split at h
      · cases h
        exact ⟨hcons trivial, trivial⟩
      · cases h
  | constant c =>
      simp only [hkind] at h
      split at h
      · cases h
        exact ⟨hfs, trivial⟩
      · cases h
  | func f =>
      simp only [hkind] at h
      split at h
      · cases h
        exact ⟨hfs, ht, f, hkind⟩
      · cases h
  | number | greek | identifier | text =>
      simp only [hkind] at h
      cases h
      exact ⟨hfs, trivial⟩
  | opener b =>
      simp only [hkind] at h
      cases b with
      | paren =>
          cases h
          exact ⟨hcons trivial, trivial⟩
      | square | brace => cases h
  | dollar | doubleDollar =>
      simp only [hkind] at h
      cases h
      exact ⟨hcons trivial, trivial⟩
  | newline | eof | closer | comma | fromWord | toWord =>
      simp only [hkind] at h
      cases h

theorem betweenExpressions_holds {ns : List Node} (ht : P t)
    (h : betweenExpressions ns t = some s) : Holds P s := by
  unfold betweenExpressions at h
  split at h
  · cases h
    exact ⟨by simp [State.start], trivial⟩
  · exact startOperand_holds (by simp) ht h

theorem afterCall_holds {function : Token} (h : function.IsFunction P) (name : Func)
    (args : List Node) : (afterCall function name args).Holds P := by
  unfold afterCall
  cases hfault : function.arityFault? args.length with
  | none => trivial
  | some fault =>
      unfold Token.arityFault? at hfault
      split at hfault
      · split at hfault <;> cases hfault
        exact h
      · cases hfault

theorem afterExpression_holds {n : Node} (hfs : ∀ frame ∈ fs, frame.Holds P) (ht : P t)
    (h : afterExpression goal (n, fs) t = some s) : Holds P s := by
  cases fs with
  | nil =>
      simp only [afterExpression] at h
      split at h
      · exact betweenExpressions_holds ht h
      · cases h
  | cons frame fs =>
      rw [List.forall_mem_cons] at hfs
      cases frame with
      | additive | multiplicative | sign | power => cases h
      | group | inlineMath | displayMath =>
          simp only [afterExpression] at h
          split at h
          · cases h
            exact ⟨hfs.2, trivial⟩
          · cases h
      | arguments function name args =>
          simp only [afterExpression] at h
          split at h
          · cases h
            exact ⟨List.forall_mem_cons.mpr hfs, trivial⟩
          · cases h
            exact ⟨hfs.2, afterCall_holds hfs.1 name _⟩
          · cases h

theorem afterOperand_holds {n : Node} (hfs : ∀ frame ∈ fs, frame.Holds P) (ht : P t)
    (h : afterOperand goal n fs t = some s) : Holds P s := by
  have hproduct : ∀ frame ∈ (closeProduct (closeUnary n fs)).2, frame.Holds P :=
    fun frame hframe => hfs frame (closeUnary_subset n fs (closeProduct_subset _ hframe))
  have hsum : ∀ frame ∈ (closeAll n fs).2, frame.Holds P :=
    fun frame hframe => hfs frame (closeAll_subset n fs hframe)
  unfold afterOperand at h
  simp only at h
  split at h
  · split at h
    · cases h
      exact ⟨List.forall_mem_cons.mpr ⟨trivial, hfs⟩, trivial⟩
    · cases h
  · split at h
    · cases h
      exact ⟨List.forall_mem_cons.mpr ⟨trivial, hproduct⟩, trivial⟩
    · split at h
      · cases h
        exact ⟨List.forall_mem_cons.mpr ⟨trivial, hsum⟩, trivial⟩
      · exact afterExpression_holds hsum ht h
  · exact afterExpression_holds hsum ht h

/-- One token more. -/
theorem Holds.next {s' : State} (hs : Holds P s) (ht : P t) (h : s.next? t = some s') :
    Holds P s' := by
  obtain ⟨goal, fs, phase⟩ := s
  obtain ⟨hfs, hphase⟩ := hs
  cases phase with
  | operand =>
      simp only [State.next?, beforeOperand] at h
      split at h
      · exact betweenExpressions_holds ht h
      · exact startOperand_holds hfs ht h
  | firstArgument function name =>
      simp only [State.next?] at h
      split at h
      · cases h
        exact ⟨hfs, afterCall_holds hphase name []⟩
      · have hframe : (Frame.arguments function name []).Holds P := hphase
        exact startOperand_holds (List.forall_mem_cons.mpr ⟨hframe, hfs⟩) ht h
  | argumentList function name =>
      simp only [State.next?] at h
      split at h
      · cases h
        exact ⟨hfs, hphase⟩
      · cases h
  | operator n => exact afterOperand_holds hfs ht h
  | faulty fault => cases h

/-! ## The verdict, and a whole run -/

variable {fault : Fault}

theorem endOfExpressions_blames {ns : List Node} (ht : P t)
    (h : endOfExpressions ns t = .error fault) : fault.Blames P := by
  unfold endOfExpressions at h
  split at h
  · cases h
  · cases h
    exact ht

theorem Holds.verdict (hs : Holds P s) (ht : P t) (h : s.verdict t = .error fault) :
    fault.Blames P := by
  obtain ⟨goal, fs, phase⟩ := s
  obtain ⟨hfs, hphase⟩ := hs
  cases phase with
  | operand =>
      simp only [State.verdict, noOperand] at h
      split at h
      · exact endOfExpressions_blames ht h
      · cases h
        exact ht
  | firstArgument =>
      cases h
      exact ht
  | argumentList | faulty =>
      cases h
      exact hphase
  | operator n =>
      have hsum : ∀ frame ∈ (closeAll n fs).2, frame.Holds P :=
        fun frame hframe => hfs frame (closeAll_subset n fs hframe)
      simp only [State.verdict] at h
      generalize closeAll n fs = p at h hsum
      obtain ⟨m, gs⟩ := p
      cases gs with
      | nil =>
          simp only [endOfExpression] at h
          split at h
          · exact endOfExpressions_blames ht h
          · cases h
      | cons frame gs =>
          cases frame with
          | additive | multiplicative | sign | power => cases h
          | group | inlineMath | displayMath =>
              cases h
              exact ⟨ht, trivial⟩
          | arguments function name args =>
              cases h
              exact ⟨ht, function, (List.forall_mem_cons.mp hsum).1, rfl⟩

theorem run_blames {last : Token} {ts rest : List Token} (hlast : P last) :
    Holds P s → (∀ t ∈ ts, P t) → State.run last s ts = (.error fault, rest) →
      fault.Blames P := by
  fun_induction State.run last s ts with
  | case1 s =>
      intro hs _ h
      exact hs.verdict hlast (Prod.mk.inj h).1
  | case2 s t ts s' hnext ih =>
      intro hs hts h
      rw [List.forall_mem_cons] at hts
      exact ih (hs.next hts.1 hnext) hts.2 h
  | case3 s t ts hnext =>
      intro hs hts h
      rw [List.forall_mem_cons] at hts
      exact hs.verdict hts.1 (Prod.mk.inj h).1

end Blame

end Parser

/-! ## Brackets -/

section Brackets
variable {P : Token → Prop} {fault : Fault}

theorem Openers.unclosed?_blames {o : Openers} (ho : ∀ b, ∀ t ∈ o.get b, P t)
    (h : o.unclosed? = some fault) : fault.Blames P := by
  obtain ⟨b, -, hb⟩ := List.exists_of_findSome?_eq_some h
  obtain ⟨t, ht, rfl⟩ := Option.map_eq_some_iff.mp hb
  exact ho b t (List.mem_of_getLast? ht)

theorem Openers.set_holds {o : Openers} (ho : ∀ b, ∀ t ∈ o.get b, P t) {ts : List Token}
    (hts : ∀ t ∈ ts, P t) (b : Bracket) : ∀ c, ∀ t ∈ (o.set ts b).get c, P t := by
  intro c
  rw [Openers.get_set]
  split
  · exact hts
  · exact ho c

theorem imbalanceFrom_blames {ts : List Token} : ∀ {o : Openers}, (∀ b, ∀ t ∈ o.get b, P t) →
    (∀ t ∈ ts, P t) → Token.imbalanceFrom o ts = some fault → fault.Blames P := by
  induction ts with
  | nil =>
      intro o ho _ h
      exact Openers.unclosed?_blames ho h
  | cons t ts ih =>
      intro o ho hts h
      rw [List.forall_mem_cons] at hts
      unfold Token.imbalanceFrom at h
      split at h
      · next b hkind =>
          exact ih (Openers.set_holds ho (List.forall_mem_cons.mpr ⟨hts.1, ho b⟩) b) hts.2 h
      · next b hkind =>
          have hb := ho b
          cases hopen : o.get b with
          | nil =>
              rw [hopen] at h
              cases h
              exact hts.1
          | cons u below =>
              rw [hopen] at h hb
              exact ih (Openers.set_holds ho (List.forall_mem_cons.mp hb).2 b) hts.2 h
      · exact ih ho hts.2 h

end Brackets

/-! ## Streams -/

namespace Parser

/-- All tokens that a fault names are tokens of the stream. -/
theorem parse_blames {s : Stream} {fault : Fault} (h : parse s = .error fault) :
    fault.Blames (· ∈ s.tokens) := by
  have hlast : s.last ∈ s.tokens := List.mem_append_right _ (List.mem_singleton_self _)
  have hbody : ∀ t ∈ s.body, t ∈ s.tokens := fun t ht => List.mem_append_left _ ht
  rw [parse_eq] at h
  cases hbalance : Token.imbalance? s.tokens with
  | some fault' =>
      rw [hbalance] at h
      cases h
      refine imbalanceFrom_blames (fun b t ht => ?_) (fun t ht => ht) hbalance
      cases b <;> cases ht
  | none =>
      rw [hbalance] at h
      have hstart : Holds (· ∈ s.tokens) (.start (.document [])) := ⟨by simp [State.start], trivial⟩
      exact run_blames hlast hstart hbody (Prod.ext h rfl)

end Parser

end PlainMath
