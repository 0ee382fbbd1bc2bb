/-
# `Proofs.Parser.Earliest` — the first impossible token stops the parser

Leave the numbers of arguments aside, and read "(newline | expression)* end" as it stands: then
`Viable p` says that some document begins with the tokens `p`.  The parser stops at the first
token that makes its tokens unviable, and never before:

    the tokens over which a state was reached begin a document     (`viable_of_read`)
    a document leads the parser to its end, or to a faulty call    (`leads_of_finished`)

For the first, the frames that are open are closed from the inside outwards, by made-up tokens
(`Held.complete`).  For the second, the ambiguity of the rule has to be resolved the way the
parser does: where an expression is followed by one with a sign in front, both are one sum
(`Loose.finished`).
-/
import PlainMath.Proofs.Parser.Lookahead

namespace PlainMath.Grammar

open PlainMath.Parser (Level)

/-! ## Documents whose arguments are not counted -/

/-- Every call is allowed. -/
abbrev AnyCount (_ : Func) (_ : Nat) : Prop := True

/-- The tokens of a document without its end, when calls may have any number of arguments. -/
inductive Loose : List Token → Prop where
  | nil : Loose []
  | newline {w : List Token} {t : Token} : Loose w → t.kind = .newline → Loose (w ++ [t])
  | expression {w u : List Token} {n : Node} :
      Loose w → Derives AnyCount .additive u n → Loose (w ++ u)

/-- Some document begins with these tokens. -/
def Viable (p : List Token) : Prop :=
  ∃ w e, Loose w ∧ e.kind = .eof ∧ p <+: w ++ [e]

/-- A token that nobody wrote. -/
def madeUp (kind : Kind) : Token := ⟨kind, "", ⟨1, 1⟩, none⟩

theorem viable_of_loose {p v : List Token} (h : Loose (p ++ v)) : Viable p :=
  ⟨p ++ v, madeUp .eof, h, rfl, v ++ [madeUp .eof], (List.append_assoc p v _).symm⟩

section Allows
variable {allows allows' : Func → Nat → Prop}

mutual

theorem Derives.mono (hallows : ∀ f count, allows f count → allows' f count) :
    ∀ {level : Level} {w : List Token} {n : Node},
      Derives allows level w n → Derives allows' level w n
  | _, _, _, .sum hl ht hop hr => .sum (hl.mono hallows) ht hop (hr.mono hallows)
  | _, _, _, .ofProduct h => .ofProduct (h.mono hallows)
  | _, _, _, .product hl ht hop hr => .product (hl.mono hallows) ht hop (hr.mono hallows)
  | _, _, _, .ofUnary h => .ofUnary (h.mono hallows)
  | _, _, _, .sign ht hop h => .sign ht hop (h.mono hallows)
  | _, _, _, .ofPower h => .ofPower (h.mono hallows)
  | _, _, _, .power hb ht he => .power (hb.mono hallows) ht (he.mono hallows)
  | _, _, _, .ofCall h => .ofCall (h.mono hallows)
  | _, _, _, .constant ht => .constant ht
  | _, _, _, .emptyCall ht ho hc h => .emptyCall ht ho hc (hallows _ _ h)
  | _, _, _, .call ht ho hs hc h => .call ht ho (hs.mono hallows) hc (hallows _ _ h)
  | _, _, _, .ofPrimary h => .ofPrimary (h.mono hallows)
  | _, _, _, .number ht => .number ht
  | _, _, _, .greek ht => .greek ht
  | _, _, _, .identifier ht => .identifier ht
  | _, _, _, .group ho h hc => .group ho (h.mono hallows) hc
  | _, _, _, .text ht => .text ht
  | _, _, _, .inlineMath ho h hc => .inlineMath ho (h.mono hallows) hc
  | _, _, _, .displayMath ho h hc => .displayMath ho (h.mono hallows) hc

theorem Arguments.mono (hallows : ∀ f count, allows f count → allows' f count) :
    ∀ {w : List Token} {ns : List Node}, Arguments allows w ns → Arguments allows' w ns
  | _, _, .one h => .one (h.mono hallows)
  | _, _, .more hs hc h => .more (hs.mono hallows) hc (h.mono hallows)

end

end Allows

theorem Derives.anyCount {level : Level} {w : List Token} {n : Node}
    (h : Derives Func.Accepts level w n) : Derives AnyCount level w n :=
  h.mono fun _ _ _ => trivial

theorem Finished.loose {w : List Token} {ns : List Node} {tight : Bool}
    (h : Finished Func.Accepts w ns tight) : Loose w := by
  induction h with
  | start => exact .nil
  | newline _ ht ih => exact .newline ih ht
  | expression _ hn _ ih => exact .expression ih hn.anyCount

/-! ## An expression with a sign in front goes on with the one before it -/

theorem exists_of_isSign {t : Token} (h : t.isSign = true) :
    ∃ op, t.kind = .operator op ∧ op.isAdditive = true := by
  unfold Token.isSign at h
  split at h
  · next op ht => exact ⟨op, ht, h⟩
  · cases h

section Sign
variable {allows : Func → Nat → Prop}

theorem Derives.startsWithSign_append {level : Level} {u : List Token} {n : Node}
    (h : Derives allows level u n) (v : List Token) :
    StartsWithSign (u ++ v) ↔ StartsWithSign u := by
  obtain ⟨t, u, rfl, -⟩ := h.first
  exact Iff.rfl

theorem not_startsWithSign {t : Token} {u : List Token} (h : t.isSign = false) :
    ¬ StartsWithSign (t :: u) := by
  rintro ⟨t', ht', hsign⟩
  cases ht'
  exact absurd (h.symm.trans hsign) Bool.false_ne_true

theorem Derives.primary_not_startsWithSign {w : List Token} {n : Node}
    (h : Derives allows .primary w n) : ¬ StartsWithSign w := by
  cases h with
  | number ht | greek ht | identifier ht | text ht =>
      exact not_startsWithSign (by simp only [Token.isSign, ht])
  | group ht | inlineMath ht | displayMath ht =>
      exact not_startsWithSign (by simp only [Token.isSign, ht])

theorem Derives.call_not_startsWithSign {w : List Token} {n : Node}
    (h : Derives allows .call w n) : ¬ StartsWithSign w := by
  cases h with
  | constant ht | emptyCall ht | call ht =>
      exact not_startsWithSign (by simp only [Token.isSign, ht])
  | ofPrimary h => exact h.primary_not_startsWithSign

/-- Powers do not begin with a sign. -/
theorem Derives.not_startsWithSign {w : List Token} {n : Node} (h : Derives allows .power w n) :
    ¬ StartsWithSign w := by
  cases h with
  | power hb _ _ => exact (hb.startsWithSign_append _).not.mpr hb.call_not_startsWithSign
  | ofCall h => exact h.call_not_startsWithSign

/-- What stands behind the sign that a product begins with is a product. -/
theorem Derives.strip_sign : ∀ {w : List Token} {n : Node},
    Derives allows .multiplicative w n → StartsWithSign w →
      ∃ t v m, w = t :: v ∧ t.isSign = true ∧ Derives allows .multiplicative v m
  | _, _, .product hl ht hop hr, hsign => by
      obtain ⟨t', v', m, rfl, ht', hm⟩ := hl.strip_sign ((hl.startsWithSign_append _).mp hsign)
      exact ⟨t', _, _, rfl, ht', .product hm ht hop hr⟩
  | _, _, .ofUnary h, hsign => by
      cases h with
      | sign ht hop h => exact ⟨_, _, _, rfl, by simp only [Token.isSign, ht, hop], .ofUnary h⟩
      | ofPower h => exact absurd hsign h.not_startsWithSign

/-- An expression that begins with a sign makes a sum with the one before it. -/
theorem Derives.merge {u : List Token} {l : Node} (hu : Derives allows .additive u l) :
    ∀ {w : List Token} {n : Node}, Derives allows .additive w n →
      StartsWithSign w → ∃ m, Derives allows .additive (u ++ w) m
  | _, _, .sum hl ht hop hr, hsign => by
      obtain ⟨m, hm⟩ := hu.merge hl ((hl.startsWithSign_append _).mp hsign)
      rw [← List.append_assoc]
      exact ⟨_, .sum hm ht hop hr⟩
  | _, _, .ofProduct h, hsign => by
      obtain ⟨t, v, m, rfl, ht, hm⟩ := h.strip_sign hsign
      obtain ⟨op, hkind, hop⟩ := exists_of_isSign ht
      exact ⟨_, .sum hu hkind hop hm⟩

end Sign

/-- Every document can be read from left to right such that no expression begins with a sign
directly behind another one. -/
theorem Loose.finished {w : List Token} (h : Loose w) :
    ∃ ns tight, Finished AnyCount w ns tight := by
  induction h with
  | nil => exact ⟨[], false, .start⟩
  | newline _ ht ih =>
      obtain ⟨ns, tight, hw⟩ := ih
      exact ⟨ns, false, .newline hw ht⟩
  | @expression w u n _ hn ih =>
      obtain ⟨ns, tight, hw⟩ := ih
      by_cases hsign : StartsWithSign u
      · cases hw with
        | start => exact ⟨_, true, .expression .start hn (by simp)⟩
        | newline hw ht => exact ⟨_, true, .expression (.newline hw ht) hn (by simp)⟩
        | @expression w' u' ns' _ n' hw' hn' htight =>
            obtain ⟨m, hm⟩ := hn'.merge hn hsign
            rw [List.append_assoc]
            refine ⟨_, true, .expression hw' hm fun h => ?_⟩
            exact (hn'.startsWithSign_append u).not.mpr (htight h)
      · exact ⟨_, true, .expression hw hn fun _ => hsign⟩

end PlainMath.Grammar

namespace PlainMath.Parser

open Grammar

/-! ## Documents lead to their end -/

section Leads
variable {allows : Func → Nat → Prop}

/-- The tokens of a document lead to a state in which it may end, and which goes on like the
beginning of a document.  Or the parser comes to a faulty call before. -/
theorem leads_of_finished {w : List Token} {ns : List Node} {tight : Bool}
    (h : Finished allows w ns tight) :
    Trips allows (.start (.document [])) w ∨
    ∃ s, Leads (.start (.document [])) w s ∧ s.finished? = some ns ∧
      ∀ t, (tight = true → t.isSign = false) →
        startsExpression t.kind = true ∨ t.kind = .newline →
        s.next? t = (State.start (.document ns)).next? t := by
  induction h with
  | start => exact .inr ⟨_, .refl, rfl, fun _ _ _ => rfl⟩
  | @newline w ns tight t _ ht ih =>
      refine ih.imp (fun htrips => htrips.append [t]) ?_
      rintro ⟨s, hleads, -, hnext⟩
      have hnewline : s.next? t = some (.start (.document ns)) := by
        rw [hnext t (fun _ => by simp only [Token.isSign, ht]) (.inr ht)]
        simp [State.start, State.next?, beforeOperand, betweenExpressions, ht]
      exact ⟨_, hleads.append (.single hnewline), rfl, fun _ _ _ => rfl⟩
  | @expression w u ns tight n _ hn htight ih =>
      rcases ih with htrips | ⟨s, hleads, -, hnext⟩
      · exact .inl (htrips.append u)
      · obtain ⟨t, v, rfl, ht⟩ := hn.first
        have hsign : tight = true → t.isSign = false := by
          intro h
          by_contra hne
          exact htight h ⟨t, rfl, by simpa using hne⟩
        have hstart := hnext t hsign (.inl ht)
        rcases derives_lead hn ns [] Nat.zero_lt_one with hlead | htrips
        · obtain ⟨m, gs, hleads', hclose⟩ := hlead.closeAll_eq Nat.zero_lt_one
          refine .inr ⟨_, hleads.append (.of_next_eq hstart hleads'), ?_, ?_⟩
          · simp only [State.finished?, hclose]
          · intro t' hsign' ht'
            refine next_handover hclose (ht'.elim ?_ ?_)
            · exact fun ht' => endsExpression_of_first ht' (hsign' rfl)
            · exact fun ht' => by rw [ht']; rfl
        · exact .inl (.after hleads (htrips.of_next_eq hstart))

end Leads

/-! ## What was read begins a document

An operand of a level that the frames can take is completed by closing the frames, the innermost
first. -/

section Levels
variable {allows : Func → Nat → Prop} {level : Level} {u : List Token} {n : Node}

theorem derives_unary (h : Derives allows level u n) (hlevel : 2 < bound level) :
    Derives allows .unary u n := by
  cases level with
  | additive | multiplicative => exact absurd hlevel (by decide)
  | unary => exact h
  | power => exact .ofPower h
  | call => exact .ofPower (.ofCall h)
  | primary => exact .ofPower (.ofCall (.ofPrimary h))

theorem derives_multiplicative (h : Derives allows level u n) (hlevel : 1 < bound level) :
    Derives allows .multiplicative u n := by
  cases level with
  | additive => exact absurd hlevel (by decide)
  | multiplicative => exact h
  | _ => exact .ofUnary (derives_unary h (by decide))

theorem derives_additive (h : Derives allows level u n) : Derives allows .additive u n := by
  cases level with
  | additive => exact h
  | _ => exact .ofProduct (derives_multiplicative h (by decide))

end Levels

theorem Held.complete {fs : List Frame} {w : List Token} (hw : Held fs w) :
    ∀ {level : Level} {u : List Token} {n : Node}, Derives AnyCount level u n →
      tightness fs < bound level → ∃ v m, Derives AnyCount .additive (w ++ (u ++ v)) m := by
  induction hw with
  | nil =>
      intro level u n hu _
      exact ⟨[], n, by simpa using derives_additive hu⟩
  | additive _ hfs hl ht hop ih =>
      intro level u n hu hlevel
      obtain ⟨v, m, hm⟩ := ih (.sum hl.anyCount ht hop (derives_multiplicative hu hlevel)) hfs
      exact ⟨v, m, by simpa using hm⟩
  | multiplicative _ hfs hl ht hop ih =>
      intro level u n hu hlevel
      obtain ⟨v, m, hm⟩ := ih (.product hl.anyCount ht hop (derives_unary hu hlevel)) hfs
      exact ⟨v, m, by simpa using hm⟩
  | sign _ ht hop ih =>
      intro level u n hu hlevel
      obtain ⟨v, m, hm⟩ :=
        ih (.sign ht hop (derives_unary hu (Nat.lt_of_succ_lt hlevel))) (tightness_lt_four _)
      exact ⟨v, m, by simpa using hm⟩
  | power _ hb ht ih =>
      intro level u n hu hlevel
      obtain ⟨v, m, hm⟩ :=
        ih (.power hb.anyCount ht (derives_unary hu (Nat.lt_of_succ_lt hlevel)))
          (tightness_lt_four _)
      exact ⟨v, m, by simpa using hm⟩
  | group _ ho ih =>
      intro level u n hu _
      obtain ⟨v, m, hm⟩ :=
        ih (.group (c := madeUp (.closer .paren)) ho (derives_additive hu) rfl)
          (tightness_lt_four _)
      exact ⟨_ :: v, m, by simpa using hm⟩
  | firstArgument _ ht ho ih =>
      intro level u n hu _
      obtain ⟨v, m, hm⟩ :=
        ih (.call (c := madeUp (.closer .paren)) ht ho (.one (derives_additive hu)) rfl trivial)
          (tightness_lt_four _)
      exact ⟨_ :: v, m, by simpa using hm⟩
  | nextArgument _ ht ho hs hc ih =>
      intro level u n hu _
      have hargs := Arguments.more (hs.mono fun _ _ _ => trivial) hc (derives_additive hu)
      obtain ⟨v, m, hm⟩ :=
        ih (.call (c := madeUp (.closer .paren)) ht ho hargs rfl trivial) (tightness_lt_four _)
      exact ⟨_ :: v, m, by simpa using hm⟩
  | inlineMath _ ho ih =>
      intro level u n hu _
      obtain ⟨v, m, hm⟩ :=
        ih (.inlineMath (c := madeUp .dollar) ho (derives_additive hu) rfl) (tightness_lt_four _)
      exact ⟨_ :: v, m, by simpa using hm⟩
  | displayMath _ ho ih =>
      intro level u n hu _
      obtain ⟨v, m, hm⟩ :=
        ih (.displayMath (c := madeUp .doubleDollar) ho (derives_additive hu) rfl)
          (tightness_lt_four _)
      exact ⟨_ :: v, m, by simpa using hm⟩

theorem Progress.complete {fs : List Frame} {phase : Phase} {w : List Token}
    (h : Progress fs phase w) (hphase : ∀ fault, phase ≠ .faulty fault) :
    ∃ v m, Derives AnyCount .additive (w ++ v) m := by
  cases h with
  | operand hheld =>
      have hfiller : Derives AnyCount .primary [madeUp .identifier] _ := .identifier rfl
      obtain ⟨v, m, hm⟩ := hheld.complete hfiller (tightness_lt_four fs)
      exact ⟨_, m, hm⟩
  | firstArgument hheld ht ho =>
      obtain ⟨v, m, hm⟩ :=
        hheld.complete (.emptyCall (c := madeUp (.closer .paren)) ht ho rfl trivial)
          (tightness_lt_four fs)
      exact ⟨_ :: v, m, by simpa using hm⟩
  | argumentList hheld ht =>
      obtain ⟨v, m, hm⟩ :=
        hheld.complete (.emptyCall (o := madeUp (.opener .paren)) (c := madeUp (.closer .paren))
          ht rfl rfl trivial) (tightness_lt_four fs)
      exact ⟨_ :: _ :: v, m, by simpa using hm⟩
  | operator hspelt =>
      obtain ⟨v, u, rfl, hheld, hu⟩ := hspelt
      obtain ⟨v', m, hm⟩ := hheld.complete hu.anyCount (tightness_lt_four fs)
      exact ⟨v', m, by simpa using hm⟩
  | faulty => exact absurd rfl (hphase _)

theorem viable_of_read {s : State} {w : List Token} (h : Read s w)
    (hphase : ∀ fault, s.phase ≠ .faulty fault) : Viable w := by
  obtain @⟨ns, fs, phase, done, w, tight, hdone, hprogress, -⟩ := h
  obtain ⟨v, m, hm⟩ := hprogress.complete hphase
  refine viable_of_loose (v := v) ?_
  rw [List.append_assoc]
  exact .expression hdone.loose hm

/-! ## Where the parser stops -/

theorem Leads.read {s s' : State} {u : List Token} (h : Leads s u s') :
    ∀ {w : List Token}, Read s w → Read s' (w ++ u) := by
  induction h with
  | refl =>
      intro w hread
      simpa using hread
  | step hnext _ ih =>
      intro w hread
      simpa using ih (hread.next hnext)

/-- Longer walks go through the states of shorter ones. -/
theorem Leads.behind {s s₁ s₂ : State} {u v : List Token} (hu : Leads s u s₁)
    (h : Leads s (u ++ v) s₂) : Leads s₁ v s₂ := by
  induction hu with
  | refl => exact h
  | step hnext _ ih =>
      cases h with
      | step hnext' h =>
          obtain rfl := Option.some.inj (hnext.symm.trans hnext')
          exact ih h

theorem eq_of_leads_faulty {goal : Goal} {fs : List Frame} {fault : Fault} {u : List Token}
    {s : State} (h : Leads ⟨goal, fs, .faulty fault⟩ u s) : s = ⟨goal, fs, .faulty fault⟩ := by
  cases h with
  | refl => rfl
  | step hnext _ => cases hnext

/-- Of two walks along the same tokens, one that is stopped is the longer one. -/
theorem Leads.outlasts {s₀ s s' : State} {u x l : List Token} {t : Token} (hu : Leads s₀ u s)
    (hstop : s.next? t = none) (hx : Leads s₀ x s') (hul : u ++ [t] <+: l) (hxl : x <+: l) :
    ∃ y, u = x ++ y ∧ Leads s' y s := by
  have hshort : ¬ u ++ [t] <+: x := by
    rintro ⟨z, rfl⟩
    rw [List.append_assoc] at hx
    cases hu.behind hx with
    | step hnext _ => exact absurd (hstop.symm.trans hnext) (by simp)
  rcases List.prefix_or_prefix_of_prefix hul hxl with h | h
  · exact absurd h hshort
  · rcases List.prefix_concat_iff.mp h with rfl | ⟨y, rfl⟩
    · exact absurd (List.prefix_refl _) hshort
    · exact ⟨y, rfl, hx.behind hu⟩

/-- The token that stops the parser does not go on with any document. -/
theorem not_viable_of_stop {s : State} {u : List Token} {t : Token}
    (hleads : Leads (.start (.document [])) u s) (hphase : ∀ fault, s.phase ≠ .faulty fault)
    (hstop : s.next? t = none) (hend : t.kind = .eof → s.finished? = none) :
    ¬ Viable (u ++ [t]) := by
  rintro ⟨w, e, hw, he, hprefix⟩
  obtain ⟨ns, tight, hfinished⟩ := hw.finished
  rcases leads_of_finished hfinished with
    ⟨-, x, y, goal, fs, fault, rfl, hx⟩ | ⟨s', hw', hfinished', -⟩
  · obtain ⟨z, rfl, hz⟩ := hleads.outlasts hstop hx hprefix ⟨y ++ [e], by simp⟩
    rw [eq_of_leads_faulty hz] at hphase
    exact hphase fault rfl
  · obtain ⟨z, rfl, hz⟩ := hleads.outlasts hstop hw' hprefix ⟨[e], rfl⟩
    -- the whole document was read, so that the token is its end
    rw [List.append_assoc, List.prefix_append_right_inj] at hprefix
    have hlength := hprefix.length_le
    obtain rfl : z = [] := by
      cases z with
      | nil => rfl
      | cons t' z => simp at hlength
    obtain rfl : t = e := by simpa using hprefix
    cases hz
    rw [hend he] at hfinished'
    cases hfinished'

theorem endOfExpressions_error {ns : List Node} {t : Token} {fault : Fault}
    (h : endOfExpressions ns t = .error fault) : fault = .unexpected t := by
  unfold endOfExpressions at h
  split at h
  · cases h
  · exact (Except.error.inj h).symm

/-- The faults that a state can find at a token: with this token, with the function before it,
or with a call that was closed. -/
theorem Read.verdict_error {s : State} {w : List Token} {t : Token} {fault : Fault}
    (hread : Read s w) (h : s.verdict t = .error fault) :
    (fault = .unexpected t ∨ ∃ what, fault = .missing what t) ∨
    (∃ v f, fault = .noArguments f ∧ w = v ++ [f]) ∨
    ∃ f accepted count, fault = .arity f accepted count := by
  obtain @⟨ns, fs, phase, done, w, tight, hdone, hprogress, -⟩ := hread
  cases hprogress with
  | operand hheld =>
      cases fs with
      | nil => exact .inl (.inl (endOfExpressions_error h))
      | cons frame fs => exact .inl (.inl (Except.error.inj h).symm)
  | firstArgument => exact .inl (.inl (Except.error.inj h).symm)
  | @argumentList v f name hheld ht =>
      exact .inr (.inl ⟨done ++ v, f, (Except.error.inj h).symm, by simp⟩)
  | @operator w n hspelt =>
      simp only [State.verdict] at h
      generalize closeAll n fs = p at h
      obtain ⟨m, gs⟩ := p
      cases gs with
      | nil => exact .inl (.inl (endOfExpressions_error h))
      | cons frame gs =>
          cases frame with
          | group | arguments | inlineMath | displayMath =>
              exact .inl (.inr ⟨_, (Except.error.inj h).symm⟩)
          | additive | multiplicative | sign | power => cases h
  | faulty => exact .inr (.inr ⟨_, _, _, (Except.error.inj h).symm⟩)

theorem Read.faulty {s : State} {w : List Token} {fault : Fault} (hread : Read s w)
    (h : s.phase = .faulty fault) : ∃ f accepted count, fault = .arity f accepted count := by
  obtain ⟨-, hprogress, -⟩ := hread
  cases hprogress with
  | faulty => exact ⟨_, _, _, (Phase.faulty.inj h).symm⟩
  | operand | firstArgument | argumentList | operator => cases h

/-- A reading that fails without having found a call faulty consumes tokens that begin a
document, and stops at a token that does not go on with any. -/
theorem viable_of_run {last : Token} {s : State} {u rest : List Token} {fault : Fault}
    (hleads : Leads (.start (.document [])) u s) (hstop : s.next? (rest.headD last) = none)
    (hverdict : s.verdict (rest.headD last) = .error fault)
    (hfault : ¬ ∃ f accepted count, fault = .arity f accepted count) :
    Viable u ∧ ¬ Viable (u ++ [rest.headD last]) := by
  have hread : Read s u := hleads.read Read.start
  have hphase : ∀ fault', s.phase ≠ .faulty fault' := by
    intro fault' hphase
    simp only [State.verdict, hphase] at hverdict
    cases hverdict
    exact hfault (hread.faulty hphase)
  refine ⟨viable_of_read hread hphase, not_viable_of_stop hleads hphase hstop fun heof => ?_⟩
  cases hfinished : s.finished? with
  | none => rfl
  | some ns =>
      rw [verdict_of_finished hfinished, endOfExpressions, heof] at hverdict
      cases hverdict

theorem token_of_stop {fault : Fault} {t : Token}
    (h : fault = .unexpected t ∨ ∃ what, fault = .missing what t) : fault.token = t := by
  obtain rfl | ⟨what, rfl⟩ := h <;> rfl

/-- An error about a token that cannot stand where it is, or that stands in place of a closing
delimiter, is reported at the first token with which the input cannot begin a document.  An
error about missing arguments is reported at the function, and the token behind it is the first
impossible one. -/
theorem error_at_first_impossible_token (s : Stream)
    (hbalanced : Token.imbalance? s.tokens = none) (fault : Fault)
    (h : parse s = .error fault) :
    (∀ t, (fault = .unexpected t ∨ ∃ what, fault = .missing what t) →
      ∃ k, s.tokens[k]? = some t ∧ (Cursor.ofStream s).document.2.index = k ∧
        Viable (s.tokens.take k) ∧ ¬ Viable (s.tokens.take (k + 1))) ∧
    (∀ f, fault = .noArguments f →
      ∃ k, s.tokens[k]? = some f ∧ (Cursor.ofStream s).document.2.index = k + 1 ∧
        Viable (s.tokens.take (k + 1)) ∧ ¬ Viable (s.tokens.take (k + 2))) := by
  obtain ⟨u, rest, s', hbody, hleads, hstop, hrun⟩ :=
    exists_leads_of_run s.last_kind (.start (.document [])) s.body
  have hverdict : s'.verdict (rest.headD s.last) = .error fault := by
    rw [parse_eq, hbalanced] at h
    simpa only [hrun] using h
  have hindex : (Cursor.ofStream s).document.2.index = u.length := by
    have hread := (Cursor.read_eq (c := .ofStream s) hbody hleads hstop).2
    have htokens : (Cursor.ofStream s).tokens = s.tokens := rfl
    have hdocument : (Cursor.ofStream s).document = (Cursor.ofStream s).read (.document []) := by
      simp only [Cursor.document, htokens, hbalanced]
    rw [hdocument, hread]
    exact Nat.zero_add _
  obtain ⟨more, htokens⟩ : ∃ more, s.tokens = u ++ rest.headD s.last :: more :=
    Cursor.ahead_eq_of_rest (c := .ofStream s) hbody
  have htake : s.tokens.take u.length = u := by
    rw [htokens, List.take_left]
  have htake' : s.tokens.take (u.length + 1) = u ++ [rest.headD s.last] := by
    rw [htokens, List.take_length_add_append]
    rfl
  have hviable : (¬ ∃ f accepted count, fault = .arity f accepted count) →
      Viable (s.tokens.take u.length) ∧ ¬ Viable (s.tokens.take (u.length + 1)) := by
    rw [htake, htake']
    exact viable_of_run hleads hstop hverdict
  rcases (hleads.read Read.start).verdict_error hverdict with
    hfault | ⟨v, f, rfl, hu⟩ | ⟨f, accepted, count, rfl⟩
  · have htoken := token_of_stop hfault
    refine ⟨fun t ht => ?_, fun f hf => ?_⟩
    · obtain rfl : rest.headD s.last = t := htoken.symm.trans (token_of_stop ht)
      refine ⟨u.length, by simp [htokens], hindex, hviable ?_⟩
      rintro ⟨f, accepted, count, rfl⟩
      simp at ht
    · simp [hf] at hfault
  · refine ⟨by simp, fun f' hf' => ?_⟩
    cases hf'
    have hu : u = v ++ [f] := hu
    have hlength : u.length = v.length + 1 := by simp [hu]
    rw [hlength] at hindex hviable
    exact ⟨v.length, by simp [htokens, hu], hindex, hviable (by simp)⟩
  · exact ⟨by simp, by simp⟩

/-- `twoLines` with nothing behind the operator of its first line. -/
def openSum : Stream := { twoLines with body := twoLines.body.take 2 ++ twoLines.body.drop 6 }

/-- `twoLines` with a root that has no arguments. -/
def bareRoot : Stream := { twoLines with body := twoLines.body.take 8 ++ twoLines.body.drop 13 }

/-- The line end is impossible behind the operator, and the letter behind the root. -/
theorem error_at_first_impossible_token_twoLines :
    (∃ t, parse openSum = .error (.unexpected t) ∧ openSum.tokens[2]? = some t ∧
      Viable (openSum.tokens.take 2) ∧ ¬ Viable (openSum.tokens.take 3)) ∧
    (∃ f, parse bareRoot = .error (.noArguments f) ∧ bareRoot.tokens[7]? = some f ∧
      Viable (bareRoot.tokens.take 8) ∧ ¬ Viable (bareRoot.tokens.take 9)) := by
  refine ⟨⟨⟨.newline, "\n", ⟨1, 9⟩, none⟩, rfl, ?_⟩, ⟨⟨.func .sqrt, "sqrt", ⟨2, 1⟩, none⟩, rfl, ?_⟩⟩
  · obtain ⟨k, hk, hindex, hviable⟩ :=
      (error_at_first_impossible_token openSum rfl _ rfl).1 _ (.inl rfl)
    obtain rfl : 2 = k := hindex
    exact ⟨hk, hviable⟩
  · obtain ⟨k, hk, hindex, hviable⟩ :=
      (error_at_first_impossible_token bareRoot rfl _ rfl).2 _ rfl
    obtain rfl : 7 = k := Nat.succ.inj hindex
    exact ⟨hk, hviable⟩

end PlainMath.Parser
