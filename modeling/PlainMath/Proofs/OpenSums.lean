/-
# `Proofs.OpenSums` — when a tree can look like a sum

The LaTeX of a sum has a sign between two gaps that stands in no bracket.  Bars, and the sign of
an integral with its comma, are brackets too, but only where it is sure which of them belong
together: a bar can be a text, and a quantifier over one operand has no comma.  Both are counted
along the outline (`Counts.behind`).

    a tree that encloses its sums brings the counts back,
    and counts something where a sum stands in it        (`Node.Outlined.keeps`)
    any tree at all leaves no more open bars, and no
    fewer open quantifiers, than there were              (`Node.Outlined.loosens`)
    so a tree that encloses its sums is no sum           (`Node.Proper.latex_ne_sum`)
-/
import PlainMath.Proofs.Outline

namespace PlainMath

/-! ## Counting along an outline -/

/-- Whether a fence before these strokes opens something: what follows one that closes is a gap,
another one or nothing. -/
def opens : List Stroke → Bool
  | [] => false
  | .fence :: ms => opens ms
  | .gap :: _ => false
  | _ :: _ => true

/-- How many quantifiers and how many fences are open. -/
@[ext]
structure Counts where
  quantifiers : Nat
  fences : Nat

/-- Nothing is open. -/
def Counts.zero : Counts := ⟨0, 0⟩

section Counting
variable (bars commas : Bool)

/-- The counts behind a stroke, if the rest follows it. -/
def Counts.step (st : Counts) (rest : List Stroke) : Stroke → Counts
  | .binder => if commas then { st with quantifiers := st.quantifiers + 1 } else st
  | .comma => if commas then { st with quantifiers := st.quantifiers - 1 } else st
  | .fence =>
    if bars then
      if opens rest then { st with fences := st.fences + 1 }
      else { st with fences := st.fences - 1 }
    else st
  | _ => st

/-- The counts behind strokes that the rest follows. -/
def Counts.behind : Counts → List Stroke → List Stroke → Counts
  | st, [], _ => st
  | st, m :: ms, rest => behind (step bars commas st (ms ++ rest) m) ms rest

/-- Every sign between two gaps stands behind an open quantifier or an open fence. -/
def Covered : Counts → List Stroke → Prop
  | _, [] => True
  | st, m :: ms =>
    ([.gap, .sign, .gap] <+: m :: ms → st ≠ .zero) ∧ Covered (st.step bars commas ms m) ms

variable {bars commas}

theorem behind_append (u v rest : List Stroke) : ∀ st : Counts,
    st.behind bars commas (u ++ v) rest =
      Counts.behind bars commas (st.behind bars commas u (v ++ rest)) v rest := by
  induction u with
  | nil => exact fun _ => rfl
  | cons m u ih =>
      intro st
      rw [List.cons_append, Counts.behind, Counts.behind, ih, List.append_assoc]

theorem Covered.ne_zero {u v : List Stroke} : ∀ {st : Counts},
    Covered bars commas st (u ++ .gap :: .sign :: .gap :: v) →
    st.behind bars commas u (.gap :: .sign :: .gap :: v) ≠ .zero := by
  induction u with
  | nil => exact fun h => h.1 ⟨v, rfl⟩
  | cons m u ih => exact fun h => ih h.2

theorem covered_append_of_gapless {u : List Stroke} (hu : .gap ∉ u) (v : List Stroke) :
    ∀ {st : Counts},
      Covered bars commas st (u ++ v) ↔ Covered bars commas (st.behind bars commas u v) v := by
  induction u with
  | nil => exact Iff.rfl
  | cons m u ih =>
      intro st
      obtain ⟨hm, hu⟩ := not_or.mp (mt List.mem_cons.mpr hu)
      have hhead : ¬ [Stroke.gap, .sign, .gap] <+: m :: (u ++ v) := fun h =>
        hm (List.cons_prefix_cons.mp h).1
      exact ⟨fun h => (ih hu).mp h.2, fun h => ⟨fun h' => absurd h' hhead, (ih hu).mpr h⟩⟩

/-- The strokes leave the counts as they are, and the sums among them stand behind something
open. -/
structure Keeps (bars commas : Bool) (st : Counts) (ms rest : List Stroke) : Prop where
  behind_eq : st.behind bars commas ms rest = st
  covered : Covered bars commas st rest → Covered bars commas st (ms ++ rest)

variable {st : Counts} {rest : List Stroke}

theorem Keeps.append {u v : List Stroke} (hu : Keeps bars commas st u (v ++ rest))
    (hv : Keeps bars commas st v rest) : Keeps bars commas st (u ++ v) rest where
  behind_eq := by rw [behind_append, hu.behind_eq, hv.behind_eq]
  covered h := by
    rw [List.append_assoc]
    exact hu.covered (hv.covered h)

theorem Keeps.cons {m : Stroke} {ms : List Stroke} (h : Keeps bars commas st ms rest)
    (hm : st.step bars commas (ms ++ rest) m = st)
    (hsum : [.gap, .sign, .gap] <+: m :: (ms ++ rest) → st ≠ .zero) :
    Keeps bars commas st (m :: ms) rest where
  behind_eq := by rw [Counts.behind, hm, h.behind_eq]
  covered hrest := ⟨hsum, hm.symm ▸ h.covered hrest⟩

theorem Keeps.nil : Keeps bars commas st [] rest := ⟨rfl, id⟩

/-- The strokes do not go on with a sum behind a gap. -/
def NoSum (ms : List Stroke) : Prop := ¬ [.sign, .gap] <+: ms

theorem noSum_of_opens (h : opens rest = false) : NoSum rest := by
  rintro ⟨ms, rfl⟩
  cases h

theorem noSum_cons {m : Stroke} (hm : m ≠ .sign) (ms : List Stroke) : NoSum (m :: ms) :=
  fun h => hm (List.cons_prefix_cons.mp h).1.symm

theorem Keeps.cons_gap {ms : List Stroke} (h : Keeps bars commas st ms rest)
    (hsum : NoSum (ms ++ rest)) : Keeps bars commas st (.gap :: ms) rest :=
  h.cons rfl fun hprefix => absurd (List.cons_prefix_cons.mp hprefix).2 hsum

theorem Keeps.cons_gapless {m : Stroke} {ms : List Stroke} (h : Keeps bars commas st ms rest)
    (hgap : m ≠ .gap) (hm : st.step bars commas (ms ++ rest) m = st) :
    Keeps bars commas st (m :: ms) rest :=
  h.cons hm fun hprefix => absurd (List.cons_prefix_cons.mp hprefix).1.symm hgap

theorem Keeps.cons_idle {m : Stroke} {ms : List Stroke} (h : Keeps bars commas st ms rest)
    (hm : m = .other ∨ m = .sign) : Keeps bars commas st (m :: ms) rest := by
  rcases hm with rfl | rfl
  · exact h.cons_gapless (by decide) rfl
  · exact h.cons_gapless (by decide) rfl

/-- Strokes between one that opens something and one that closes it. -/
theorem Keeps.enclosed {st' : Counts} {m m' : Stroke} {ms : List Stroke} (hm : m ≠ .gap)
    (hm' : m' ≠ .gap) (hopen : st.step bars commas (ms ++ m' :: rest) m = st')
    (h : Keeps bars commas st' ms (m' :: rest))
    (hclose : st'.step bars commas rest m' = st) :
    Keeps bars commas st (m :: (ms ++ [m'])) rest where
  behind_eq := by
    rw [Counts.behind, behind_append, List.append_assoc]
    exact (congrArg (Counts.behind bars commas · _ _) (hopen ▸ h.behind_eq)).trans hclose
  covered hrest := by
    have hcovered : Covered bars commas st' (ms ++ m' :: rest) :=
      h.covered ⟨fun hprefix => absurd (List.cons_prefix_cons.mp hprefix).1.symm hm',
        hclose.symm ▸ hrest⟩
    rw [List.cons_append, List.append_assoc]
    exact ⟨fun hprefix => absurd (List.cons_prefix_cons.mp hprefix).1.symm hm,
      hopen.symm ▸ hcovered⟩

theorem Keeps.of_idle : ∀ {ms : List Stroke}, (∀ m ∈ ms, m = .other ∨ m = .sign) →
    Keeps bars commas st ms rest
  | [], _ => .nil
  | _ :: _, h => (Keeps.of_idle fun m hm => h m (List.mem_cons_of_mem _ hm)).cons_idle
      (h _ List.mem_cons_self)

theorem Keeps.of_quiet (hrest : NoSum rest) : ∀ {ms : List Stroke}, Quiet ms →
    Keeps bars commas st ms rest
  | [], _ => .nil
  | m :: ms, h => by
      obtain ⟨hm, hms⟩ := List.forall_mem_cons.mp h
      have hkeeps : Keeps bars commas st ms rest := Keeps.of_quiet hrest hms
      rcases hm with rfl | rfl
      · exact hkeeps.cons_idle (.inl rfl)
      · refine hkeeps.cons_gap ?_
        cases ms with
        | nil => exact hrest
        | cons m ms =>
            refine noSum_cons ?_ _
            rintro rfl
            rcases hms .sign List.mem_cons_self with h | h <;> cases h

/-! ## Fences -/

theorem opens_fences (k : Nat) (rest : List Stroke) :
    opens (List.replicate k .fence ++ rest) = opens rest := by
  induction k with
  | zero => rfl
  | succ k ih => exact ih

/-- The counts behind fences. -/
def Counts.behindFences (bars : Bool) (st : Counts) (k : Nat) (rest : List Stroke) : Counts :=
  if bars then
    if opens rest then { st with fences := st.fences + k } else { st with fences := st.fences - k }
  else st

theorem behind_fences (rest : List Stroke) : ∀ (k : Nat) (st : Counts),
    st.behind bars commas (List.replicate k .fence) rest = st.behindFences bars k rest
  | 0, st => by simp [Counts.behind, Counts.behindFences]
  | k + 1, st => by
      rw [List.replicate_succ, Counts.behind, behind_fences rest k, Counts.step, opens_fences]
      cases bars with
      | false => rfl
      | true =>
          cases hopens : opens rest with
          | false => simp [Counts.behindFences, hopens, Nat.sub_sub, Nat.add_comm]
          | true => simp [Counts.behindFences, hopens, Nat.add_comm k, Nat.add_assoc]

theorem covered_fences (k : Nat) : Covered bars commas st (List.replicate k .fence ++ rest) ↔
    Covered bars commas (st.behindFences bars k rest) rest := by
  rw [covered_append_of_gapless, behind_fences]
  intro h
  cases List.eq_of_mem_replicate h

end Counting

/-! ## How the outline of a tree begins -/

/-- The outline begins with an operand: not with a gap, nor with the sign of a sum. -/
structure BeginsTerm (o : List Stroke) : Prop where
  head : ∃ m ms, o = m :: ms ∧ m ≠ .gap
  noSum : ∀ rest, NoSum (o ++ rest)

theorem BeginsTerm.cons {m : Stroke} (hgap : m ≠ .gap) (hsign : m ≠ .sign) (ms : List Stroke) :
    BeginsTerm (m :: ms) :=
  ⟨⟨m, ms, rfl, hgap⟩, fun _ => noSum_cons hsign _⟩

theorem BeginsTerm.append {u : List Stroke} (hu : BeginsTerm u) (v : List Stroke) :
    BeginsTerm (u ++ v) := by
  obtain ⟨m, ms, rfl, hm⟩ := hu.head
  refine ⟨⟨m, ms ++ v, rfl, hm⟩, fun rest => ?_⟩
  rw [List.append_assoc]
  exact hu.noSum _

theorem BeginsTerm.signed {u : List Stroke} (hu : BeginsTerm u) : BeginsTerm (.sign :: u) := by
  refine ⟨⟨.sign, u, rfl, nofun⟩, fun rest h => ?_⟩
  obtain ⟨m, ms, rfl, hm⟩ := hu.head
  exact hm (List.cons_prefix_cons.mp (List.cons_prefix_cons.mp h).2).1.symm

namespace Node

theorem Outlined.beginsTerm {n : Node} {o : List Stroke} (h : Outlined n o) : BeginsTerm o := by
  induction h with
  | plain h =>
      obtain ⟨rest, rfl, -⟩ := h
      exact .cons (by decide) (by decide) _
  | bar => exact .cons (by decide) (by decide) _
  | sum _ _ _ ihl _ => exact ihl.append _
  | signed _ ih => exact ih.signed
  | leading _ _ _ ih => exact ih.append _
  | trailing => exact .cons (by decide) (by decide) _
  | between _ _ _ _ _ ihl _ => exact ihl.append _
  | fenced k => exact .cons (by decide) (by decide) _
  | bound => exact .cons (by decide) (by decide) _
  | binding => exact .cons (by decide) (by decide) _

/-! ## Trees that enclose their sums -/

theorem standsOpen_identifier {bars commas : Bool} {m : Node} {word : String} {kind : Option Kind}
    (h : StandsOpen bars commas (.identifier word kind) m) : m = .identifier word kind := by
  rcases Relation.ReflTransGen.cases_head h with rfl | ⟨_, hshows, -⟩
  · rfl
  · cases hshows

theorem standsOpen_call {bars commas : Bool} {f : Func} {name : String} {args : List Node}
    {m : Node} (h : StandsOpen bars commas (.call (.func f) name args) m) :
    m = .call (.func f) name args ∨
    ∃ i n, i ∈ f.shown args.length ∧ args[i]? = some n ∧ (bars = true → f ≠ .abs) ∧
      (commas = true → f.binds args.length i = false) ∧ StandsOpen bars commas n m := by
  rcases Relation.ReflTransGen.cases_head h with rfl | ⟨n, hshows, hrest⟩
  · exact .inl rfl
  · cases hshows with
    | argument hi hn habs hbinds => exact .inr ⟨_, n, hi, hn, habs, hbinds, hrest⟩

/-- It is sure in the tree which bars belong together, if bars are to count, and which commas
belong to which quantifiers, if these are. -/
structure Clear (bars commas : Bool) (n : Node) : Prop where
  bar : bars = true → ¬ n.StandsOpen false false (.text "|")
  quantifier : commas = true → ∀ (f : Func) (name : String) (m : Node), f.isQuantifier = true →
    ¬ n.StandsOpen false false (.call (.func f) name [m])

/-- No sum stands open in the tree. -/
def SumsEnclosed (bars commas : Bool) (n : Node) : Prop :=
  ∀ (op : Operator) (l r : Node), op.isAdditive = true →
    ¬ n.StandsOpen bars commas (.binary (.operator op) l r)

section Enclosed
variable {bars commas : Bool} {n m : Node} {o : List Stroke}

theorem Clear.of_shows (h : Clear bars commas n) (hm : Shows false false n m) :
    Clear bars commas m where
  bar hbars hopen := h.bar hbars (.head hm hopen)
  quantifier hcommas f name k hf hopen := h.quantifier hcommas f name k hf (.head hm hopen)

theorem SumsEnclosed.of_shows (h : SumsEnclosed bars commas n) (hm : Shows bars commas n m) :
    SumsEnclosed bars commas m :=
  fun op l r hop hopen => h op l r hop (.head hm hopen)

theorem shows_bound {f : Func} {name : String} (hf : f.isQuantifier = true) :
    Shows bars commas (.call (.func f) name [m]) m := by
  have hshown : 0 ∈ f.shown 1 := by
    cases f with
    | forAll | thereIs => decide
    | _ => cases hf
  have habs : f ≠ .abs := by
    rintro rfl
    cases hf
  refine .argument hshown rfl (fun _ => habs) fun _ => ?_
  cases f with
  | forAll | thereIs => rfl
  | _ => cases hf

/-- Behind a fence that opens there is an operand, if no text is a bar. -/
theorem Outlined.opens_append (h : Outlined n o) (hbar : ¬ n.StandsOpen false false (.text "|")) :
    ∀ rest, opens (o ++ rest) = true := by
  have hstep : ∀ {n m : Node}, ¬ n.StandsOpen false false (.text "|") → Shows false false n m →
      ¬ m.StandsOpen false false (.text "|") := fun hn hm hopen => hn (.head hm hopen)
  induction h with
  | plain h =>
      obtain ⟨rest, rfl, -⟩ := h
      exact fun _ => rfl
  | bar => exact absurd .refl hbar
  | sum hop _ _ ihl _ =>
      intro rest
      rw [List.append_assoc]
      exact ihl (hstep hbar (.left (ne_fraction hop))) _
  | signed => exact fun _ => rfl
  | leading hshows _ _ ih =>
      intro rest
      rw [List.append_assoc]
      exact ih (hstep hbar (hshows _ _)) _
  | trailing => exact fun _ => rfl
  | between hshows _ _ _ _ ihl _ =>
      intro rest
      rw [List.append_assoc]
      exact ihl (hstep hbar (hshows _ _)) _
  | fenced k hshows _ ih =>
      intro rest
      rw [List.append_assoc, opens_fences, List.append_assoc]
      exact ih (hstep hbar (hshows _)) _
  | bound => exact fun _ => rfl
  | binding => exact fun _ => rfl

/-- An operand between fences. -/
theorem keeps_fenced {u rest : List Stroke} {st : Counts} (k : Nat) (st' : Counts)
    (hopen : st.behindFences bars k (u ++ (List.replicate k .fence ++ rest)) = st')
    (hu : Keeps bars commas st' u (List.replicate k .fence ++ rest))
    (hclose : st'.behindFences bars k rest = st) :
    Keeps bars commas st (List.replicate k .fence ++ (u ++ List.replicate k .fence)) rest where
  behind_eq := by
    rw [behind_append, behind_append, behind_fences, behind_fences, List.append_assoc, hopen,
      hu.behind_eq, hclose]
  covered hrest := by
    rw [List.append_assoc, List.append_assoc, covered_fences, hopen]
    exact hu.covered ((covered_fences k).mpr (hclose.symm ▸ hrest))

/-- An operand between the sign of a quantifier and its comma. -/
theorem keeps_bound {u ms rest : List Stroke} {st st' : Counts} (hms : Quiet ms)
    (hu : BeginsTerm u) (hopen : st.step bars commas [] .binder = st')
    (hkeeps : Keeps bars commas st' u (.gap :: .other :: .comma :: rest))
    (hclose : st'.step bars commas [] .comma = st) :
    Keeps bars commas st (.binder :: ((ms ++ .gap :: (u ++ [.gap, .other])) ++ [.comma])) rest := by
  have hquiet : Quiet [.gap, .other] := by decide
  have hbehind : Keeps bars commas st' (u ++ [.gap, .other]) (.comma :: rest) :=
    hkeeps.append (.of_quiet (noSum_cons (by decide) _) hquiet)
  have hgap := hbehind.cons_gap (by rw [List.append_assoc]; exact hu.noSum _)
  have hinner := (Keeps.of_quiet (noSum_cons (by decide) _) hms).append hgap
  exact hinner.enclosed (by decide) (by decide) hopen hclose

/-- The tree can stand behind these counts: if nothing is open there, it has to enclose its sums. -/
structure Fits (bars commas : Bool) (st : Counts) (n : Node) : Prop where
  clear : Clear bars commas n
  enclosed : st = .zero → SumsEnclosed bars commas n

theorem Fits.of_shows {st : Counts} (h : Fits bars commas st n) (hm : Shows false false n m)
    (hm' : Shows bars commas n m) : Fits bars commas st m :=
  ⟨h.clear.of_shows hm, fun hst => (h.enclosed hst).of_shows hm'⟩

/-- An operand leaves the counts as they are, and its sums stand behind something open. -/
theorem Outlined.keeps (h : Outlined n o) : ∀ {st : Counts} {rest : List Stroke},
    opens rest = false → Fits bars commas st n → Keeps bars commas st o rest := by
  induction h with
  | plain h =>
      intro st rest hrest _
      obtain ⟨ms, rfl, hquiet | hidle⟩ := h
      · exact (Keeps.of_quiet (noSum_of_opens hrest) hquiet).cons_idle (.inl rfl)
      · exact (Keeps.of_idle hidle).cons_idle (.inl rfl)
  | bar =>
      intro st rest hrest hfits
      cases bars with
      | true => exact absurd .refl (hfits.clear.bar rfl)
      | false => exact Keeps.nil.cons_gapless (by decide) rfl
  | @sum op l r u v hop hl hr ihl ihr =>
      intro st rest hrest hfits
      -- The sum itself stands open, so something is open before it.
      have hst : st ≠ .zero := fun h => hfits.enclosed h _ _ _ hop .refl
      have hleft : ∀ bars commas, Shows bars commas (.binary (.operator op) l r) l :=
        fun _ _ => .left (ne_fraction hop)
      have hright : ∀ bars commas, Shows bars commas (.binary (.operator op) l r) r :=
        fun _ _ => .right (ne_fraction hop) (ne_power hop)
      have hkeeps := ihr hrest (hfits.of_shows (hright _ _) (hright _ _))
      have hgap := hkeeps.cons_gap (hr.beginsTerm.noSum rest)
      refine Keeps.append ?_ ((hgap.cons_idle (.inr rfl)).cons rfl fun _ => hst)
      exact ihl rfl (hfits.of_shows (hleft _ _) (hleft _ _))
  | signed _ ih =>
      intro st rest hrest hfits
      exact (ih hrest (hfits.of_shows .operand .operand)).cons_idle (.inr rfl)
  | leading hshows _ hms ih =>
      intro st rest hrest hfits
      have hquiet : Quiet (.gap :: _) := List.forall_mem_cons.mpr ⟨.inr rfl, hms⟩
      refine Keeps.append ?_ (.of_quiet (noSum_of_opens hrest) hquiet)
      exact ih rfl (hfits.of_shows (hshows _ _) (hshows _ _))
  | trailing hshows hms hm ih =>
      intro st rest hrest hfits
      have hkeeps := ih hrest (hfits.of_shows (hshows _ _) (hshows _ _))
      have hgap := hkeeps.cons_gap (hm.beginsTerm.noSum rest)
      refine ((Keeps.of_quiet ?_ hms).append hgap).cons_idle (.inl rfl)
      exact noSum_cons (by decide) _
  | between hshowsl hshowsr _ hms hr ihl ihr =>
      intro st rest hrest hfits
      have hkeeps := ihr hrest (hfits.of_shows (hshowsr _ _) (hshowsr _ _))
      have hgap := hkeeps.cons_gap (hr.beginsTerm.noSum rest)
      have hquiet : Quiet (.gap :: _) := List.forall_mem_cons.mpr ⟨.inr rfl, hms⟩
      refine Keeps.append ?_ ((Keeps.of_quiet (noSum_cons (by decide) _) hquiet).append hgap)
      exact ihl rfl (hfits.of_shows (hshowsl _ _) (hshowsl _ _))
  | fenced k hshows hm ih =>
      intro st rest hrest hfits
      have hclosing : opens (List.replicate (k + 1) .fence ++ rest) = false :=
        (opens_fences _ _).trans hrest
      cases bars with
      | false =>
          refine keeps_fenced (k + 1) st rfl ?_ rfl
          exact ih hclosing (hfits.of_shows (hshows _) (hshows _))
      | true =>
          have hclear := hfits.clear.of_shows (hshows _)
          have hopens := hm.opens_append (hclear.bar rfl)
          refine keeps_fenced (k + 1) { st with fences := st.fences + (k + 1) } ?_ ?_ ?_
          · simp [Counts.behindFences, hopens]
          · exact ih hclosing ⟨hclear, fun h => nomatch congrArg Counts.fences h⟩
          · simp [Counts.behindFences, hrest]
  | bound hf hms hm ih =>
      intro st rest hrest hfits
      cases commas with
      | true => exact absurd .refl (hfits.clear.quantifier rfl _ _ _ hf)
      | false =>
          have hkeeps := ih hrest (hfits.of_shows (shows_bound hf) (shows_bound hf))
          have hgap := hkeeps.cons_gap (hm.beginsTerm.noSum rest)
          refine ((Keeps.of_quiet ?_ hms).append hgap).cons_gapless (by decide) rfl
          exact noSum_cons (by decide) _
  | @binding n l r u v ms ms' hshowsl hshowsr hms hl hms' hr ihl ihr =>
      intro st rest hrest hfits
      have hright : Keeps bars commas st (.gap :: (ms' ++ v)) rest := by
        have hkeeps := ihr hrest (hfits.of_shows (hshowsr _ _) (hshowsr _ _))
        rcases hms' with rfl | rfl
        · exact hkeeps.cons_gap (hr.beginsTerm.noSum rest)
        · exact (hkeeps.cons_idle (.inl rfl)).cons_gap (noSum_cons (by decide) _)
      have hlist : Stroke.binder :: (ms ++ .gap :: (u ++ .gap :: .other :: .comma :: .gap ::
          (ms' ++ v))) = .binder :: ((ms ++ .gap :: (u ++ [.gap, .other])) ++ [.comma]) ++
            (.gap :: (ms' ++ v)) := by simp
      rw [hlist]
      refine Keeps.append ?_ hright
      cases commas with
      | false =>
          refine keeps_bound hms hl.beginsTerm rfl (ihl rfl ?_) rfl
          exact hfits.of_shows (hshowsl _) (hshowsl _)
      | true =>
          refine keeps_bound hms hl.beginsTerm rfl (ihl rfl ?_) rfl
          exact ⟨hfits.clear.of_shows (hshowsl _), fun h => nomatch congrArg Counts.quantifiers h⟩

/-- The second counts have no more open fences than the first ones, and no fewer open
quantifiers. -/
def Loosens (st st' : Counts) : Prop :=
  st.quantifiers ≤ st'.quantifiers ∧ st'.fences ≤ st.fences

theorem Loosens.refl (st : Counts) : Loosens st st := ⟨Nat.le_refl _, Nat.le_refl _⟩

theorem Loosens.trans {st st' st'' : Counts} (h : Loosens st st') (h' : Loosens st' st'') :
    Loosens st st'' :=
  ⟨Nat.le_trans h.1 h'.1, Nat.le_trans h'.2 h.2⟩

theorem loosens_fences {st st' : Counts} {k : Nat} {u rest : List Stroke}
    (h : Loosens (st.behindFences bars k u) st') (hrest : opens rest = false) :
    Loosens st (st'.behindFences bars k rest) := by
  cases bars with
  | false => exact h
  | true =>
      cases hu : opens u <;> simp [Counts.behindFences, Loosens, hu, hrest] at h ⊢ <;> omega

theorem loosens_comma {st st' : Counts} {u : List Stroke}
    (h : Loosens (st.step bars commas u .binder) st') (rest : List Stroke) :
    Loosens st (st'.step bars commas rest .comma) := by
  cases commas with
  | false => exact h
  | true => exact ⟨Nat.le_sub_of_add_le h.1, h.2⟩

theorem behind_of_quiet {ms : List Stroke} (h : Quiet ms) (st : Counts) (rest : List Stroke) :
    st.behind bars commas ms rest = st := by
  induction ms with
  | nil => rfl
  | cons m ms ih =>
      obtain ⟨hm, hms⟩ := List.forall_mem_cons.mp h
      rcases hm with rfl | rfl <;> exact ih hms

theorem behind_of_plain {ms : List Stroke} (h : Plain ms) (st : Counts) (rest : List Stroke) :
    st.behind bars commas ms rest = st := by
  obtain ⟨ms, rfl, hquiet | hidle⟩ := h
  · exact behind_of_quiet hquiet st rest
  · exact (Keeps.of_idle hidle).behind_eq

/-- Whatever the operand is, it closes the quantifiers that it opens at most, and the fences that
it opens at least. -/
theorem Outlined.loosens (h : Outlined n o) : ∀ (st : Counts) {rest : List Stroke},
    opens rest = false → Loosens st (st.behind bars commas o rest) := by
  induction h with
  | plain h =>
      intro st rest _
      rw [behind_of_plain h]
      exact .refl st
  | bar =>
      intro st rest hrest
      cases bars with
      | true => simp [Counts.behind, Counts.step, Loosens, hrest]
      | false => exact .refl st
  | sum _ _ _ ihl ihr =>
      intro st rest hrest
      rw [behind_append]
      exact (ihl st rfl).trans (ihr _ hrest)
  | signed _ ih => exact fun st rest hrest => ih st hrest
  | leading _ _ hms ih =>
      intro st rest hrest
      have hquiet : Quiet (.gap :: _) := List.forall_mem_cons.mpr ⟨.inr rfl, hms⟩
      rw [behind_append, behind_of_quiet hquiet]
      exact ih st rfl
  | trailing _ hms _ ih =>
      intro st rest hrest
      rw [Counts.behind, behind_append, behind_of_quiet hms]
      exact ih st hrest
  | between _ _ _ hms _ ihl ihr =>
      intro st rest hrest
      rw [behind_append, Counts.behind, behind_append, behind_of_quiet hms]
      exact (ihl st rfl).trans (ihr _ hrest)
  | fenced k _ _ ih =>
      intro st rest hrest
      rw [behind_append, behind_append, behind_fences, behind_fences]
      have hclosing : opens (List.replicate (k + 1) .fence ++ rest) = false :=
        (opens_fences _ _).trans hrest
      exact loosens_fences (ih _ hclosing) hrest
  | bound _ hms _ ih =>
      intro st rest hrest
      rw [Counts.behind, behind_append, behind_of_quiet hms]
      refine Loosens.trans ?_ (ih _ hrest)
      cases commas with
      | true => exact ⟨Nat.le_succ _, Nat.le_refl _⟩
      | false => exact .refl st
  | @binding _ l r u v ms ms' _ _ hms _ hms' _ ihl ihr =>
      intro st rest hrest
      rw [Counts.behind, behind_append, behind_of_quiet hms, Counts.behind, behind_append]
      have hleft : ∀ st', Loosens st' (st'.behind bars commas u
          (.gap :: .other :: .comma :: .gap :: (ms' ++ v) ++ rest)) := fun st' => ihl st' rfl
      refine (loosens_comma (hleft (st.step bars commas [] .binder)) []).trans ?_
      rcases hms' with rfl | rfl
      · exact ihr _ hrest
      · exact ihr _ hrest

/-- No outline of a tree that encloses its sums is that of a sum. -/
theorem Outlined.ne_sum {l r : Node} {u v : List Stroke} (h : Outlined n o)
    (hclear : Clear bars commas n) (hsums : SumsEnclosed bars commas n) (hl : Outlined l u)
    (hr : Outlined r v) : o ≠ u ++ .gap :: .sign :: .gap :: v := by
  rintro rfl
  have hkeeps : Keeps bars commas .zero (u ++ .gap :: .sign :: .gap :: v) [] :=
    h.keeps rfl ⟨hclear, fun _ => hsums⟩
  have hcovered : Covered bars commas .zero (u ++ .gap :: .sign :: .gap :: v) := by
    simpa using hkeeps.covered trivial
  -- Up to the sign no fence can be left open, and a quantifier that were left open there could
  -- not be taken back behind it.
  obtain ⟨st, hst⟩ : ∃ st, Counts.zero.behind bars commas u (.gap :: .sign :: .gap :: v) = st :=
    ⟨_, rfl⟩
  have hback : st.behind bars commas v [] = .zero := by
    have hbehind := hkeeps.behind_eq
    rw [behind_append, List.append_nil, hst] at hbehind
    exact hbehind
  have hleft : Loosens .zero st := hst ▸ hl.loosens _ rfl
  have hright : Loosens st .zero := hback ▸ hr.loosens st rfl
  exact hcovered.ne_zero (hst.trans (Counts.ext (Nat.le_zero.mp hright.1) (Nat.le_zero.mp hleft.2)))

end Enclosed

theorem Proper.of_binary {op : Operator} {l r : Node}
    (h : Proper (.binary (.operator op) l r)) : l.Proper ∧ r.Proper := by
  cases h with
  | leaf h => cases h
  | binary _ hl hr => exact ⟨hl, hr⟩

/-- A tree that encloses its sums is not typeset as a sum. -/
theorem Proper.latex_ne_sum {mode : Mode} {bars commas : Bool} {n l r : Node} {op : Operator}
    {s : String} (hn : n.Proper) (hclear : Clear bars commas n) (hsums : SumsEnclosed bars commas n)
    (hsum : Proper (.binary (.operator op) l r)) (hop : op.isAdditive = true)
    (hs : n.latex mode = .ok s) : (Node.binary (.operator op) l r).latex mode ≠ .ok s := by
  intro h
  obtain ⟨hl, hr⟩ := hsum.of_binary
  obtain ⟨join, sl, sr, hjoin, hsl, hsr, rfl⟩ := binary_latex_eq_ok_iff.mp h
  have hleft := hl.renders hsl
  have hright := hr.renders hsr
  refine (hn.renders hs).outlined.ne_sum hclear hsums hleft.outlined hright.outlined ?_
  rw [join_eq_fill hjoin]
  exact outer_sum hop (List.forall_mem_cons.mpr
    ⟨hleft.balanced, List.forall_mem_singleton.mpr hright.balanced⟩)

end Node

end PlainMath
