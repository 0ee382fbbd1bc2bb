/-
# `Proofs.Token.Balance` — brackets by stacks and by counters

The test of brackets keeps the open ones of each kind on a stack.  Its verdict can be told from
three counters: `depth b ts` is the number of opening brackets of the kind `b` among the tokens
`ts` less the number of closing ones.

    as long as nothing is wrong, the stacks are as high as the
    counters say, and their lowest tokens were never closed    (`Counted`)
    one token more                                             (`Counted.opener`,
                                                                `Counted.closer`,
                                                                `Counted.other`)
    the verdict on all tokens                                  (`judged_imbalanceFrom`)
    the same in terms of the counters alone                    (`imbalance?_by_depth`)
-/
import Mathlib.Data.List.Count
import Mathlib.Tactic.IntervalCases
import PlainMath.Token.Balance

namespace PlainMath.Token

/-! ## Counters -/

/-- Opening brackets of a kind less closing ones. -/
def depth (b : Bracket) (ts : List Token) : Int :=
  (ts.countP (·.kind = .opener b) : Int) - ts.countP (·.kind = .closer b)

@[simp] theorem depth_nil (b : Bracket) : depth b [] = 0 := rfl

theorem depth_append (b : Bracket) (u v : List Token) :
    depth b (u ++ v) = depth b u + depth b v := by
  simp only [depth, List.countP_append]
  push_cast
  omega

theorem depth_concat (b : Bracket) (ts : List Token) (t : Token) :
    depth b (ts ++ [t]) = depth b ts + (if t.kind = .opener b then 1 else 0) -
      (if t.kind = .closer b then 1 else 0) := by
  simp only [depth, List.countP_append, List.countP_singleton, decide_eq_true_eq]
  split <;> split <;> push_cast <;> omega

theorem depth_concat_of_ne {b : Bracket} (ts : List Token) {t : Token}
    (ho : t.kind ≠ .opener b) (hc : t.kind ≠ .closer b) : depth b (ts ++ [t]) = depth b ts := by
  rw [depth_concat, if_neg ho, if_neg hc]
  omega

theorem depth_concat_opener {b : Bracket} (ts : List Token) {t : Token} (h : t.kind = .opener b) :
    depth b (ts ++ [t]) = depth b ts + 1 := by
  simp [depth_concat, h]

theorem depth_concat_closer {b : Bracket} (ts : List Token) {t : Token} (h : t.kind = .closer b) :
    depth b (ts ++ [t]) = depth b ts - 1 := by
  simp [depth_concat, h]

/-- The first token of all that brings a counter below zero: it closes a bracket of this kind. -/
structure Sinks (ts : List Token) (b : Bracket) (i : Nat) (t : Token) : Prop where
  token : ts[i]? = some t
  closer : t.kind = .closer b
  before : ∀ c, ∀ j ≤ i, 0 ≤ depth c (ts.take j)
  below : depth b (ts.take (i + 1)) < 0

/-- An opening bracket that is never closed, with no other of its kind open before it. -/
structure StaysOpen (ts : List Token) (b : Bracket) (i : Nat) (t : Token) : Prop where
  token : ts[i]? = some t
  opener : t.kind = .opener b
  before : depth b (ts.take i) = 0
  behind : ∀ j, i < j → 1 ≤ depth b (ts.take j)

/-- There is only one place where the counter leaves zero for good. -/
theorem StaysOpen.unique {ts : List Token} {b : Bracket} {i j : Nat} {t u : Token}
    (hi : StaysOpen ts b i t) (hj : StaysOpen ts b j u) : i = j := by
  rcases Nat.lt_trichotomy i j with hlt | heq | hlt
  · have := hi.behind j hlt
    have := hj.before
    omega
  · exact heq
  · have := hj.behind i hlt
    have := hi.before
    omega

/-- The first kind, in the order in which kinds are reported, with more opening brackets than
closing ones. -/
def firstOpen? (ts : List Token) : Option Bracket := Bracket.all.find? fun b => 0 < depth b ts

/-- No counter is below zero after any of the tokens. -/
def NeverBelow (ts : List Token) : Prop := ∀ b i, 0 ≤ depth b (ts.take i)

/-- The verdict on tokens, told from the counters. -/
inductive Judged (ts : List Token) : Option Fault → Prop where
  | balanced : NeverBelow ts → (∀ b, depth b ts = 0) → Judged ts none
  | unmatched {b : Bracket} {i : Nat} {t : Token} :
      Sinks ts b i t → Judged ts (some (.unmatched b t))
  | unclosed {b : Bracket} {i : Nat} {t : Token} :
      NeverBelow ts → firstOpen? ts = some b → StaysOpen ts b i t →
        Judged ts (some (.unclosed b t))

/-! ## Stacks -/

/-- The stacks after some tokens, with which nothing was wrong: each is as high as its counter
says, and its lowest token was never closed. -/
structure Counted (o : Openers) (ts : List Token) : Prop where
  height : ∀ b, ((o.get b).length : Int) = depth b ts
  neverBelow : NeverBelow ts
  lowest : ∀ b t, (o.get b).getLast? = some t → ∃ i, StaysOpen ts b i t

theorem Counted.nil : Counted {} [] := by
  refine ⟨fun b => ?_, fun b i => ?_, fun b t h => ?_⟩
  · cases b <;> rfl
  · simp
  · cases b <;> cases h

theorem take_concat_of_lt {ts : List Token} (t : Token) {i : Nat} (h : ts.length < i) :
    (ts ++ [t]).take i = ts ++ [t] :=
  List.take_of_length_le (by rw [List.length_append, List.length_singleton]; omega)

theorem NeverBelow.concat {ts : List Token} {t : Token} (h : NeverBelow ts)
    (ht : ∀ b, 0 ≤ depth b (ts ++ [t])) : NeverBelow (ts ++ [t]) := by
  intro b i
  rcases Nat.lt_or_ge ts.length i with hlt | hle
  · rw [take_concat_of_lt t hlt]
    exact ht b
  · rw [List.take_append_of_le_length hle]
    exact h b i

/-- One token more does not close a bracket, if it leaves the counter above zero. -/
theorem StaysOpen.concat {ts : List Token} {b : Bracket} {i : Nat} {t u : Token}
    (h : StaysOpen ts b i u) (ht : 1 ≤ depth b (ts ++ [t])) : StaysOpen (ts ++ [t]) b i u := by
  obtain ⟨hlt, -⟩ := List.getElem?_eq_some_iff.mp h.token
  refine ⟨?_, h.opener, ?_, fun j hj => ?_⟩
  · rw [List.getElem?_append_left hlt, h.token]
  · rw [List.take_append_of_le_length (Nat.le_of_lt hlt), h.before]
  · rcases Nat.lt_or_ge ts.length j with hlt | hle
    · rw [take_concat_of_lt t hlt]
      exact ht
    · rw [List.take_append_of_le_length hle]
      exact h.behind j hj

/-- The first bracket of its kind that is opened stays open for now. -/
theorem staysOpen_concat {ts : List Token} {b : Bracket} {t : Token} (ht : t.kind = .opener b)
    (hdepth : depth b ts = 0) : StaysOpen (ts ++ [t]) b ts.length t := by
  refine ⟨by simp, ht, by simpa using hdepth, fun j hj => ?_⟩
  rw [take_concat_of_lt t hj, depth_concat_opener ts ht]
  omega

section Step
variable {o : Openers} {ts : List Token} {t : Token} (h : Counted o ts)
include h

theorem Counted.depth_nonneg (b : Bracket) : 0 ≤ depth b ts := by
  rw [← h.height]
  exact Int.natCast_nonneg _

theorem Counted.other (ho : ∀ b, t.kind ≠ .opener b) (hc : ∀ b, t.kind ≠ .closer b) :
    Counted o (ts ++ [t]) := by
  have hdepth : ∀ b, depth b (ts ++ [t]) = depth b ts :=
    fun b => depth_concat_of_ne ts (ho b) (hc b)
  refine ⟨fun b => ?_, h.neverBelow.concat fun b => ?_, fun b u hu => ?_⟩
  · rw [hdepth, h.height]
  · rw [hdepth]
    exact h.depth_nonneg b
  · obtain ⟨i, hi⟩ := h.lowest b u hu
    refine ⟨i, hi.concat ?_⟩
    have hne : o.get b ≠ [] := List.ne_nil_of_mem (List.mem_of_getLast? hu)
    have hpos := List.length_pos_iff.mpr hne
    have hheight := h.height b
    rw [hdepth]
    omega

theorem Counted.opener {b : Bracket} (ht : t.kind = .opener b) :
    Counted (o.set (t :: o.get b) b) (ts ++ [t]) := by
  have hself := depth_concat_opener ts ht
  have hothers : ∀ c, c ≠ b → depth c (ts ++ [t]) = depth c ts := by
    intro c hc
    exact depth_concat_of_ne ts (by simp [ht, hc.symm]) (by simp [ht])
  have hheight : ∀ c, (((o.set (t :: o.get b) b).get c).length : Int) = depth c (ts ++ [t]) := by
    intro c
    rw [Openers.get_set]
    split
    · next hc =>
        subst hc
        rw [hself, ← h.height]
        simp
    · next hc => rw [hothers c hc, h.height]
  refine ⟨hheight, h.neverBelow.concat fun c => ?_, fun c u hu => ?_⟩
  · rw [← hheight]
    exact Int.natCast_nonneg _
  · have hpos : 1 ≤ depth c (ts ++ [t]) := by
      have hne := List.ne_nil_of_mem (List.mem_of_getLast? hu)
      have := List.length_pos_iff.mpr hne
      rw [← hheight]
      omega
    -- below the new bracket the stack is what it was, unless there was nothing
    by_cases hc : c = b
    · subst hc
      rw [Openers.get_set, if_pos rfl] at hu
      cases hbelow : o.get c with
      | nil =>
          rw [hbelow] at hu
          cases hu
          refine ⟨ts.length, staysOpen_concat ht ?_⟩
          rw [← h.height, hbelow]
          rfl
      | cons v below =>
          rw [hbelow, List.getLast?_cons_cons, ← hbelow] at hu
          obtain ⟨i, hi⟩ := h.lowest c u hu
          exact ⟨i, hi.concat hpos⟩
    · rw [Openers.get_set, if_neg hc] at hu
      obtain ⟨i, hi⟩ := h.lowest c u hu
      exact ⟨i, hi.concat hpos⟩

theorem Counted.closer {b : Bracket} (ht : t.kind = .closer b) {v : Token} {below : List Token}
    (hopen : o.get b = v :: below) : Counted (o.set below b) (ts ++ [t]) := by
  have hself := depth_concat_closer ts ht
  have hothers : ∀ c, c ≠ b → depth c (ts ++ [t]) = depth c ts := by
    intro c hc
    exact depth_concat_of_ne ts (by simp [ht]) (by simp [ht, hc.symm])
  have hheight : ∀ c, (((o.set below b).get c).length : Int) = depth c (ts ++ [t]) := by
    intro c
    rw [Openers.get_set]
    split
    · next hc =>
        subst hc
        rw [hself, ← h.height, hopen]
        simp
    · next hc => rw [hothers c hc, h.height]
  refine ⟨hheight, h.neverBelow.concat fun c => ?_, fun c u hu => ?_⟩
  · rw [← hheight]
    exact Int.natCast_nonneg _
  · have hne := List.ne_nil_of_mem (List.mem_of_getLast? hu)
    have hpos : 1 ≤ depth c (ts ++ [t]) := by
      have := List.length_pos_iff.mpr hne
      rw [← hheight]
      omega
    have hlast : (o.get c).getLast? = some u := by
      rw [Openers.get_set] at hu hne
      split at hu
      · next hc =>
          subst hc
          rw [if_pos rfl] at hne
          obtain ⟨w, rest, rfl⟩ := List.exists_cons_of_ne_nil hne
          rw [hopen, List.getLast?_cons_cons, hu]
      · exact hu
    obtain ⟨i, hi⟩ := h.lowest c u hlast
    exact ⟨i, hi.concat hpos⟩

/-- A closing bracket of a kind of which none is open is the first that brings a counter below
zero, whatever comes behind it. -/
theorem Counted.sinks {b : Bracket} (ht : t.kind = .closer b) (hopen : o.get b = [])
    (rest : List Token) : Sinks (ts ++ t :: rest) b ts.length t := by
  have hdepth : depth b ts = 0 := by
    rw [← h.height, hopen]
    rfl
  refine ⟨by simp, ht, fun c j hj => ?_, ?_⟩
  · rw [List.take_append_of_le_length hj]
    exact h.neverBelow c j
  · have htake : (ts ++ t :: rest).take (ts.length + 1) = ts ++ [t] := by
      rw [List.append_cons, List.take_left' (by simp)]
    rw [htake, depth_concat_closer ts ht, hdepth]
    omega

/-- What is open after the last token is unclosed. -/
theorem Counted.judged : Judged ts o.unclosed? := by
  have hpos : ∀ b, 0 < depth b ts ↔ o.get b ≠ [] := by
    intro b
    rw [← h.height, ← List.length_pos_iff]
    omega
  cases hfault : o.unclosed? with
  | none =>
      refine .balanced h.neverBelow fun b => ?_
      have hmem : b ∈ Bracket.all := by cases b <;> decide
      have hlast := List.findSome?_eq_none_iff.mp hfault b hmem
      rw [Option.map_eq_none_iff, List.getLast?_eq_none_iff] at hlast
      rw [← h.height, hlast]
      rfl
  | some fault =>
      obtain ⟨front, b, back, hall, hb, hfront⟩ := List.findSome?_eq_some_iff.mp hfault
      obtain ⟨t, ht, rfl⟩ := Option.map_eq_some_iff.mp hb
      obtain ⟨i, hi⟩ := h.lowest b t ht
      refine .unclosed h.neverBelow
        (List.find?_eq_some_iff_append.mpr ⟨?_, front, back, hall, ?_⟩) hi
      · rw [decide_eq_true_eq, hpos]
        exact List.ne_nil_of_mem (List.mem_of_getLast? ht)
      · intro c hc
        have hlast := hfront c hc
        rw [Option.map_eq_none_iff, List.getLast?_eq_none_iff] at hlast
        simp [hpos, hlast]

end Step

/-- The stacks come to the verdict of the counters. -/
theorem judged_imbalanceFrom : ∀ (rest : List Token) {o : Openers} {ts : List Token},
    Counted o ts → Judged (ts ++ rest) (imbalanceFrom o rest)
  | [], o, ts, h => by
      rw [List.append_nil]
      exact h.judged
  | t :: rest, o, ts, h => by
      rw [List.append_cons]
      unfold imbalanceFrom
      split
      · next b ht => exact judged_imbalanceFrom rest (h.opener ht)
      · next b ht =>
          cases hopen : o.get b with
          | nil =>
              rw [← List.append_cons]
              exact .unmatched (h.sinks ht hopen rest)
          | cons v below => exact judged_imbalanceFrom rest (h.closer ht hopen)
      · next ho hc => exact judged_imbalanceFrom rest (h.other ho hc)

theorem judged_imbalance? (ts : List Token) : Judged ts (imbalance? ts) :=
  judged_imbalanceFrom ts .nil

/-! ## The verdict -/

/-- The test of brackets is told from three counters.  The tokens pass exactly if no counter is
ever below zero and all end at zero.  If one gets below zero, the first token that brings one
there is blamed, whatever its kind.  Otherwise, of the first kind that ends above zero, the one
opening bracket is blamed before which the counter is at zero and behind which it never is
again. -/
theorem imbalance?_by_depth (ts : List Token) :
    (imbalance? ts = none ↔ ∀ b, (∀ i, 0 ≤ depth b (ts.take i)) ∧ depth b ts = 0) ∧
      ((∃ b i, depth b (ts.take i) < 0) →
        ∃ b i t, Sinks ts b i t ∧ imbalance? ts = some (.unmatched b t)) ∧
      ((∀ b i, 0 ≤ depth b (ts.take i)) → ∀ b, firstOpen? ts = some b →
        ∃ i t, StaysOpen ts b i t ∧ (∀ j u, StaysOpen ts b j u → j = i) ∧
          imbalance? ts = some (.unclosed b t)) := by
  have hjudged := judged_imbalance? ts
  generalize imbalance? ts = verdict at hjudged
  cases hjudged with
  | balanced hnever hzero =>
      refine ⟨iff_of_true rfl fun b => ⟨hnever b, hzero b⟩, ?_, ?_⟩
      · rintro ⟨b, i, hbelow⟩
        exact absurd (hnever b i) (by omega)
      · intro _ b hb
        have hpos := List.find?_some hb
        simp [hzero] at hpos
  | @unmatched b i t hsinks =>
      refine ⟨iff_of_false nofun fun hall => ?_, fun _ => ⟨b, i, t, hsinks, rfl⟩, fun hnever => ?_⟩
      · have := (hall b).1 (i + 1)
        have := hsinks.below
        omega
      · have := hnever b (i + 1)
        have := hsinks.below
        omega
  | @unclosed b i t hnever hfirst hopen =>
      refine ⟨iff_of_false nofun fun hall => ?_, ?_, fun _ c hc => ?_⟩
      · have hpos := List.find?_some hfirst
        simp [(hall b).2] at hpos
      · rintro ⟨c, j, hbelow⟩
        exact absurd (hnever c j) (by omega)
      · obtain rfl : b = c := Option.some.inj (hfirst.symm.trans hc)
        exact ⟨i, t, hopen, fun j u hu => hu.unique hopen, rfl⟩

/-- In `[ ( ( )` a square bracket and a parenthesis are never closed, and the parenthesis is
blamed; in `( ] )` the square bracket is. -/
theorem imbalance?_by_depth_crossed :
    let open₁ : Token := ⟨.opener .square, "[", ⟨1, 1⟩, none⟩
    let open₂ : Token := ⟨.opener .paren, "(", ⟨1, 3⟩, none⟩
    let open₃ : Token := ⟨.opener .paren, "(", ⟨1, 5⟩, none⟩
    let close₁ : Token := ⟨.closer .paren, ")", ⟨1, 7⟩, none⟩
    let close₂ : Token := ⟨.closer .square, "]", ⟨1, 5⟩, none⟩
    ((∀ b i, 0 ≤ depth b ([open₁, open₂, open₃, close₁].take i)) ∧
      firstOpen? [open₁, open₂, open₃, close₁] = some .paren ∧
      ∃ i t, StaysOpen [open₁, open₂, open₃, close₁] .paren i t ∧
        (∀ j u, StaysOpen [open₁, open₂, open₃, close₁] .paren j u → j = i) ∧
        imbalance? [open₁, open₂, open₃, close₁] = some (.unclosed .paren t)) ∧
    depth .square ([open₂, close₂, close₁].take 2) < 0 ∧
    ∃ b i t, Sinks [open₂, close₂, close₁] b i t ∧
      imbalance? [open₂, close₂, close₁] = some (.unmatched b t) := by
  intro open₁ open₂ open₃ close₁ close₂
  have hnever : ∀ b i, 0 ≤ depth b ([open₁, open₂, open₃, close₁].take i) := by
    intro b i
    rcases Nat.lt_or_ge i 4 with hlt | hle
    · interval_cases i <;> cases b <;> decide
    · rw [List.take_of_length_le hle]
      cases b <;> decide
  have hfirst : firstOpen? [open₁, open₂, open₃, close₁] = some .paren := by decide
  have hbelow : depth .square ([open₂, close₂, close₁].take 2) < 0 := by decide
  exact ⟨⟨hnever, hfirst, (imbalance?_by_depth _).2.2 hnever _ hfirst⟩, hbelow,
    (imbalance?_by_depth _).2.1 ⟨_, _, hbelow⟩⟩

end PlainMath.Token
