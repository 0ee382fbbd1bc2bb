/-
# `Proofs.Parser.Enclosure` — no error at the end of the input within parentheses

The brackets are tested before anything is read, by counters that know nothing of the grammar.  The
parser does not count; it keeps a frame for each group and each call that is open.  Both agree after
every token:

    one token                           (`next_parens`)
    all tokens that were read           (`Leads.parens_eq`)

A reading that fails at the end of the input has read all tokens before it
(`leads_of_error_at_end`).  With balanced brackets the counter is at zero there, so that no group
and no call is open, and no closing parenthesis can be missed (`no_error_at_end_within_parens`).
-/
import PlainMath.Proofs.Parser.Blame
import PlainMath.Proofs.Parser.Earliest
import PlainMath.Proofs.Token.Balance

namespace PlainMath

namespace Token

/-! ## Brackets that are never closed -/

/-- The token opens a bracket that is never closed: from it on, more brackets of its kind are
opened than closed, however far one counts. -/
structure NeverClosed (ts : List Token) (b : Bracket) (i : Nat) (t : Token) : Prop where
  token : ts[i]? = some t
  opener : t.kind = .opener b
  behind : ∀ j, i < j → 0 < depth b ((ts.take j).drop i)

/-- In front of a bracket that is never closed, the others cannot make up for it. -/
theorem NeverClosed.depth_pos {ts : List Token} {b : Bracket} {i : Nat} {t : Token}
    (h : NeverClosed ts b i t) (hnever : NeverBelow ts) : 0 < depth b ts := by
  obtain ⟨hlt, -⟩ := List.getElem?_eq_some_iff.mp h.token
  have hbehind := h.behind ts.length hlt
  have hbefore := hnever b i
  have hsplit := depth_append b (ts.take i) (ts.drop i)
  rw [List.take_length] at hbehind
  rw [List.take_append_drop] at hsplit
  omega

/-- A bracket that is never closed is noticed. -/
theorem NeverClosed.exists_imbalance {ts : List Token} {b : Bracket} {i : Nat} {t : Token}
    (h : NeverClosed ts b i t) :
    ∃ fault, imbalance? ts = some fault ∧ fault.diagnostic.category = .delimiter := by
  have hjudged := judged_imbalance? ts
  generalize imbalance? ts = verdict at hjudged
  cases hjudged with
  | balanced hnever hzero => exact absurd (h.depth_pos hnever) (by rw [hzero]; omega)
  | unmatched | unclosed => exact ⟨_, rfl, rfl⟩

/-- The token of an imbalance is a bracket. -/
theorem imbalance?_token_ne_eof {ts : List Token} {fault : Fault}
    (h : imbalance? ts = some fault) : fault.token.kind ≠ .eof := by
  have hjudged := judged_imbalance? ts
  rw [h] at hjudged
  cases hjudged with
  | unmatched hsinks => simp [Fault.token, hsinks.closer]
  | unclosed _ _ hopen => simp [Fault.token, hopen.opener]

theorem depth_of_imbalance?_eq_none {ts : List Token} (h : imbalance? ts = none) (b : Bracket) :
    depth b ts = 0 := by
  have hjudged := judged_imbalance? ts
  rw [h] at hjudged
  cases hjudged with
  | balanced _ hzero => exact hzero b

end Token

namespace Parser

open Token (depth)

/-! ## Open parentheses of a state -/

/-- How many parentheses the construction holds open. -/
def Frame.parens : Frame → Nat
  | .group | .arguments _ _ _ => 1
  | _ => 0

/-- How many parentheses the frames hold open. -/
def parens (fs : List Frame) : Nat := (fs.map Frame.parens).sum

@[simp] theorem parens_nil : parens [] = 0 := rfl

@[simp] theorem parens_cons (frame : Frame) (fs : List Frame) :
    parens (frame :: fs) = frame.parens + parens fs := List.sum_cons

/-- A call has its parenthesis open before its first argument begins. -/
def Phase.parens : Phase → Nat
  | .firstArgument _ _ => 1
  | _ => 0

/-- How many parentheses of groups and calls are open. -/
def State.parens (s : State) : Nat := Parser.parens s.frames + s.phase.parens

/-- What a token of this kind adds to the counter of parentheses. -/
def turn : Kind → Int
  | .opener .paren => 1
  | .closer .paren => -1
  | _ => 0

theorem depth_singleton (t : Token) : depth .paren [t] = turn t.kind := by
  unfold turn
  split
  · next h => exact Token.depth_concat_opener [] h
  · next h => exact Token.depth_concat_closer [] h
  · next ho hc => exact Token.depth_concat_of_ne [] ho hc

/-! ## One token -/

section Step
variable {goal : Goal} {fs : List Frame} {t : Token} {s s' : State}

theorem closeUnary_parens : ∀ (n : Node) (fs : List Frame),
    parens (closeUnary n fs).2 = parens fs
  | _, .sign _ :: fs | _, .power _ :: fs => by
      simpa [closeUnary, Frame.parens] using closeUnary_parens _ fs
  | _, [] | _, .additive _ _ :: _ | _, .multiplicative _ _ :: _ | _, .group :: _
  | _, .arguments _ _ _ :: _ | _, .inlineMath :: _ | _, .displayMath :: _ => rfl

theorem closeProduct_parens (p : Node × List Frame) : parens (closeProduct p).2 = parens p.2 := by
  unfold closeProduct
  split
  · simp [Frame.parens]
  · rfl

theorem closeSum_parens (p : Node × List Frame) : parens (closeSum p).2 = parens p.2 := by
  unfold closeSum
  split
  · simp [Frame.parens]
  · rfl

theorem closeAll_parens (n : Node) (fs : List Frame) : parens (closeAll n fs).2 = parens fs := by
  rw [closeAll, closeSum_parens, closeProduct_parens, closeUnary_parens]

/-- A call that was closed, be it faulty or not, holds nothing open. -/
theorem afterCall_parens (function : Token) (name : Func) (args : List Node) :
    (afterCall function name args).parens = 0 := by
  unfold afterCall
  split <;> rfl

theorem startOperand_parens (h : startOperand goal fs t = some s) :
    (s.parens : Int) = parens fs + turn t.kind := by
  unfold startOperand at h
  cases hkind : t.kind with
  | opener b =>
      simp only [hkind] at h
      cases b with
      | paren =>
          cases h
          simp [State.parens, Frame.parens, Phase.parens, turn, Int.add_comm]
      | square | brace => cases h
  | closer | newline | eof | comma | fromWord | toWord =>
      simp only [hkind] at h
      cases h
  | operator | constant | func =>
      simp only [hkind] at h
      split at h
      · cases h
        simp [State.parens, Frame.parens, Phase.parens, turn]
      · cases h
  | number | greek | identifier | text | dollar | doubleDollar =>
      simp only [hkind] at h
      cases h
      simp [State.parens, Frame.parens, Phase.parens, turn]

theorem betweenExpressions_parens {ns : List Node} (h : betweenExpressions ns t = some s) :
    (s.parens : Int) = turn t.kind := by
  unfold betweenExpressions at h
  split at h
  · next hkind =>
      cases h
      rw [hkind]
      rfl
  · simpa using startOperand_parens h

theorem afterExpression_parens {n : Node} (h : afterExpression goal (n, fs) t = some s) :
    (s.parens : Int) = parens fs + turn t.kind := by
  cases fs with
  | nil =>
      simp only [afterExpression] at h
      split at h
      · simpa using betweenExpressions_parens h
      · cases h
  | cons frame fs =>
      cases frame with
      | additive | multiplicative | sign | power => cases h
      | group | inlineMath | displayMath =>
          simp only [afterExpression] at h
          split at h
          · next hkind =>
              cases h
              simp [State.parens, Frame.parens, Phase.parens, hkind, turn]
          · cases h
      | arguments function name args =>
          simp only [afterExpression] at h
          split at h
          · next hkind =>
              cases h
              simp [State.parens, Frame.parens, Phase.parens, hkind, turn]
          · next hkind =>
              cases h
              simp [State.parens, Frame.parens, afterCall_parens, hkind, turn]
          · cases h

theorem afterOperand_parens {n : Node} (h : afterOperand goal n fs t = some s) :
    (s.parens : Int) = parens fs + turn t.kind := by
  have hproduct : parens (closeProduct (closeUnary n fs)).2 = parens fs := by
    rw [closeProduct_parens, closeUnary_parens]
  have hsum : parens (closeSum (closeProduct (closeUnary n fs))).2 = parens fs :=
    closeAll_parens n fs
  unfold afterOperand at h
  simp only at h
  split at h
  · next hkind =>
      split at h
      · cases h
        simp [State.parens, Frame.parens, Phase.parens, hkind, turn]
      · cases h
  · next hkind =>
      split at h
      · cases h
        simp [State.parens, Frame.parens, Phase.parens, hkind, turn, hproduct]
      · split at h
        · cases h
          simp [State.parens, Frame.parens, Phase.parens, hkind, turn, hsum]
        · exact hsum ▸ afterExpression_parens h
  · exact hsum ▸ afterExpression_parens h

/-- One token more changes the number of open parentheses as it changes the counter. -/
theorem next_parens (h : s.next? t = some s') : (s'.parens : Int) = s.parens + turn t.kind := by
  obtain ⟨goal, fs, phase⟩ := s
  cases phase with
  | operand =>
      simp only [State.next?, beforeOperand] at h
      split at h
      · simpa [State.parens, Phase.parens] using betweenExpressions_parens h
      · simpa [State.parens, Phase.parens] using startOperand_parens h
  | firstArgument function name =>
      have hopen : (Phase.firstArgument function name).parens = 1 := rfl
      simp only [State.next?] at h
      split at h
      · next hkind =>
          cases h
          simp [State.parens, hopen, afterCall_parens, hkind, turn]
      · rw [startOperand_parens h]
        simp [State.parens, hopen, Frame.parens, Int.add_comm]
  | argumentList function name =>
      simp only [State.next?] at h
      split at h
      · next hkind =>
          cases h
          simp [State.parens, Phase.parens, hkind, turn]
      · cases h
  | operator n => simpa [State.parens, Phase.parens] using afterOperand_parens h
  | faulty fault => cases h

end Step

/-- The parentheses that are open after some tokens are those that the counter finds open. -/
theorem Leads.parens_eq {s s' : State} {u : List Token} (h : Leads s u s') :
    (s'.parens : Int) = s.parens + depth .paren u := by
  induction h with
  | refl => simp
  | @step s s' s'' t u hnext _ ih =>
      have hdepth : depth .paren (t :: u) = depth .paren [t] + depth .paren u :=
        Token.depth_append .paren [t] u
      rw [ih, next_parens hnext, hdepth, depth_singleton, Int.add_assoc]

/-! ## The end of the input -/

/-- What is missed at a token, as long as no parenthesis is open. -/
theorem Read.missing_of_verdict {s : State} {w : List Token} {t found : Token} {what : Expectation}
    (hread : Read s w) (h : s.verdict t = .error (.missing what found)) (hparens : s.parens = 0) :
    what = .inlineEnd ∨ what = .displayEnd := by
  obtain ⟨goal, fs, phase⟩ := s
  cases phase with
  | operand =>
      simp only [State.verdict, noOperand] at h
      split at h
      · cases endOfExpressions_error h
      · cases h
  | firstArgument | argumentList => cases h
  | faulty fault =>
      obtain ⟨f, accepted, count, rfl⟩ := hread.faulty rfl
      cases h
  | operator n =>
      have hclosed : parens (closeAll n fs).2 = 0 := by
        rw [closeAll_parens]
        exact hparens
      simp only [State.verdict] at h
      generalize closeAll n fs = p at h hclosed
      obtain ⟨m, gs⟩ := p
      cases gs with
      | nil =>
          simp only [endOfExpression] at h
          split at h
          · cases endOfExpressions_error h
          · cases h
      | cons frame gs =>
          cases frame with
          | additive | multiplicative | sign | power => cases h
          | group | arguments => simp [Frame.parens] at hclosed
          | inlineMath =>
              cases h
              exact .inl rfl
          | displayMath =>
              cases h
              exact .inr rfl

section End
variable {s : Stream} (hbody : ∀ t ∈ s.body, t.kind ≠ .eof) {fault : Fault}
  (h : parse s = .error fault) (htoken : fault.token = s.last)
include htoken

/-- The test of brackets blames no end of the input. -/
theorem balanced_of_error_at_end (h : parse s = .error fault) :
    Token.imbalance? s.tokens = none := by
  rw [parse_eq] at h
  cases hbalance : Token.imbalance? s.tokens with
  | none => rfl
  | some fault' =>
      rw [hbalance] at h
      cases h
      exact absurd (htoken ▸ s.last_kind) (Token.imbalance?_token_ne_eof hbalance)

include hbody h

/-- A reading that fails at the end of the input has read all tokens before it. -/
theorem leads_of_error_at_end :
    ∃ st, Leads (.start (.document [])) s.body st ∧ st.verdict s.last = .error fault ∧
      (fault = .unexpected s.last ∨ ∃ what, fault = .missing what s.last) := by
  obtain ⟨u, rest, st, hrest, hleads, -, hrun⟩ :=
    exists_leads_of_run s.last_kind (.start (.document [])) s.body
  have hbalanced := balanced_of_error_at_end htoken h
  have hverdict : st.verdict (rest.headD s.last) = .error fault := by
    rw [parse_eq, hbalanced] at h
    simpa only [hrun] using h
  have hfunction : ¬ ∃ f, s.last.kind = .func f := by simp [s.last_kind]
  have hblames := parse_blames h
  rcases (hleads.read Read.start).verdict_error hverdict with
    hfault | ⟨-, f, rfl, -⟩ | ⟨f, accepted, count, rfl⟩
  · have hstop : rest.headD s.last = s.last := (token_of_stop hfault).symm.trans htoken
    cases rest with
    | nil =>
        obtain rfl : u = s.body := by simpa using hrest.symm
        exact ⟨st, hleads, hverdict, hfault⟩
    | cons t rest =>
        have ht : t.kind = .eof := by
          rw [show t = s.last from hstop]
          exact s.last_kind
        exact absurd ht (hbody t (by simp [hrest]))
  · obtain rfl : f = s.last := htoken
    exact absurd hblames.2 hfunction
  · obtain rfl : f = s.last := htoken
    exact absurd hblames.2 hfunction

/-- A reading that fails at the end of the input has closed all parentheses. -/
theorem parens_of_error_at_end :
    ∃ st, Leads (.start (.document [])) s.body st ∧ st.verdict s.last = .error fault ∧
      st.parens = 0 := by
  obtain ⟨st, hleads, hverdict, -⟩ := leads_of_error_at_end hbody h htoken
  have hzero := Token.depth_of_imbalance?_eq_none (balanced_of_error_at_end htoken h) .paren
  have hlast : depth .paren s.tokens = depth .paren s.body :=
    Token.depth_concat_of_ne s.body (by simp [s.last_kind]) (by simp [s.last_kind])
  have hparens := hleads.parens_eq
  have hstart : (State.start (.document [])).parens = 0 := rfl
  exact ⟨st, hleads, hverdict, by omega⟩

end End

/-- The parser has as many parentheses open as the tokens that it has read.  When it fails at the
end of the input, it has read all tokens and has no parenthesis open, and it does not miss a closing
one.  For a parenthesis that is never closed is found by the test of brackets. -/
theorem no_error_at_end_within_parens (s : Stream) (hbody : ∀ t ∈ s.body, t.kind ≠ .eof) :
    (∀ u st, Leads (.start (.document [])) u st → (st.parens : Int) = depth .paren u) ∧
    (∀ what, what = .groupEnd ∨ (∃ name, what = .argumentsEnd name) →
      parse s ≠ .error (.missing what s.last)) ∧
    (∀ fault, parse s = .error fault → fault.token = s.last →
      (fault = .unexpected s.last ∨ fault = .missing .inlineEnd s.last ∨
        fault = .missing .displayEnd s.last) ∧
      ∃ st, Leads (.start (.document [])) s.body st ∧ st.verdict s.last = .error fault ∧
        st.parens = 0) ∧
    (∀ i t, Token.NeverClosed s.tokens .paren i t →
      ∃ fault, parse s = .error fault ∧ fault.diagnostic.category = .delimiter) := by
  have hfaults : ∀ fault, parse s = .error fault → fault.token = s.last →
      fault = .unexpected s.last ∨ fault = .missing .inlineEnd s.last ∨
        fault = .missing .displayEnd s.last := by
    intro fault h htoken
    obtain ⟨st, hleads, hverdict, hparens⟩ := parens_of_error_at_end hbody h htoken
    obtain ⟨-, -, -, hfault⟩ := leads_of_error_at_end hbody h htoken
    refine hfault.imp_right ?_
    rintro ⟨what, rfl⟩
    rcases (hleads.read Read.start).missing_of_verdict hverdict hparens with rfl | rfl
    · exact .inl rfl
    · exact .inr rfl
  refine ⟨fun u st hleads => ?_, fun what hwhat h => ?_, fun fault h htoken => ?_, fun i t ht => ?_⟩
  · simpa [State.start, State.parens, Phase.parens] using hleads.parens_eq
  · rcases hwhat with rfl | ⟨name, rfl⟩ <;> simpa using hfaults _ h rfl
  · exact ⟨hfaults fault h htoken, parens_of_error_at_end hbody h htoken⟩
  · obtain ⟨fault, hfault, hcategory⟩ := ht.exists_imbalance
    exact ⟨fault, by rw [parse_eq, hfault], hcategory⟩

/-- `twoLines` up to the call, with an operator and nothing behind it. -/
def openProduct : Stream :=
  { twoLines with body := twoLines.body.take 13 ++ [⟨.operator .times, "*", ⟨2, 12⟩, none⟩] }

/-- `twoLines` up to the first argument of the call. -/
def openRoot : Stream := { twoLines with body := twoLines.body.take 10 }

/-- Behind `sqrt(a, b) *` the input ends with all parentheses closed; in `sqrt(a` it is the open
one that is reported. -/
theorem no_error_at_end_within_parens_twoLines :
    (parse openProduct = .error (.unexpected openProduct.last) ∧
      ∃ st, Leads (.start (.document [])) openProduct.body st ∧
        st.verdict openProduct.last = .error (.unexpected openProduct.last) ∧ st.parens = 0) ∧
    (Token.NeverClosed openRoot.tokens .paren 8 ⟨.opener .paren, "(", ⟨2, 5⟩, none⟩ ∧
      ∃ fault, parse openRoot = .error fault ∧ fault.diagnostic.category = .delimiter) := by
  have hproduct : parse openProduct = .error (.unexpected openProduct.last) := rfl
  have hroot : Token.NeverClosed openRoot.tokens .paren 8 ⟨.opener .paren, "(", ⟨2, 5⟩, none⟩ := by
    refine ⟨rfl, rfl, fun j hj => ?_⟩
    rcases Nat.lt_or_ge j 11 with hlt | hle
    · interval_cases j <;> decide
    · rw [List.take_of_length_le hle]
      decide
  have hend := (no_error_at_end_within_parens openProduct (by decide)).2.2.1 _ hproduct rfl
  exact ⟨⟨hproduct, hend.2⟩, hroot,
    (no_error_at_end_within_parens openRoot (by decide)).2.2.2 _ _ hroot⟩

-- An end of the input in the middle of a stream, which no source has, can be within parentheses.
example :
    let stop : Token := ⟨.eof, "", ⟨1, 2⟩, none⟩
    parse ⟨[⟨.opener .paren, "(", ⟨1, 1⟩, none⟩, stop, ⟨.closer .paren, ")", ⟨1, 3⟩, none⟩],
      ⟨.eof, "", ⟨1, 4⟩, none⟩, rfl⟩ = .error (.unexpected stop) := rfl

end Parser

end PlainMath
