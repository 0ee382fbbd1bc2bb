/-
# `Proofs.Superscripts` — where a superscript stands on a superscript

A superscript is a group in braces behind a caret.  One superscript directly behind another is
refused by whoever typesets the LaTeX.  Templates put their arguments as they are, so this
happens if the base of a power ends with a superscript itself: `exp(x)^n` is `e^{x}^{n}`.

To find such places a text is read from left to right with the groups that are open
(`Superscript.read`).  A template is read in the same way, with a hole for each argument.

    reading finds the places                             (`doubleSuperscript_iff`)
    a filled template is read as the template is         (`Superscript.reads_fill`)
    the LaTeX of a tree ends with a superscript if the
    tree does, and has two together if the tree does     (`Node.Proper.readsAsTree`)
-/
import PlainMath.Proofs.Composition
import PlainMath.Proofs.Regions

namespace PlainMath

/-! ## Superscripts of a text -/

/-- Each brace of the text has its partner. -/
inductive Matched : List Char → Prop where
  | nil : Matched []
  | char {c : Char} {s : List Char} : c ≠ '\x7b' → c ≠ '\x7d' → Matched s → Matched (c :: s)
  | group {s t : List Char} : Matched s → Matched t → Matched ('\x7b' :: (s ++ '\x7d' :: t))

theorem Matched.append {s t : List Char} (hs : Matched s) (ht : Matched t) : Matched (s ++ t) := by
  induction hs with
  | nil => exact ht
  | char hopen hclose _ ih => exact .char hopen hclose ih
  | group hs _ _ ih =>
      rw [List.cons_append, List.append_assoc, List.cons_append]
      exact .group hs ih

/-- The text ends with a superscript. -/
def EndsWithSuperscript (s : List Char) : Prop :=
  ∃ before body, Matched body ∧ s = before ++ '^' :: '\x7b' :: (body ++ ['\x7d'])

/-- A superscript stands directly behind a superscript. -/
def DoubleSuperscript (s : List Char) : Prop :=
  ∃ before body after, Matched body ∧
    s = before ++ '^' :: '\x7b' :: (body ++ '\x7d' :: '^' :: after)

theorem DoubleSuperscript.append {s : List Char} (h : DoubleSuperscript s) (t : List Char) :
    DoubleSuperscript (s ++ t) := by
  obtain ⟨before, body, after, hbody, rfl⟩ := h
  exact ⟨before, body, after ++ t, hbody, by simp⟩

theorem EndsWithSuperscript.doubleSuperscript {s : List Char} (h : EndsWithSuperscript s) :
    DoubleSuperscript (s ++ ['^']) := by
  obtain ⟨before, body, hbody, rfl⟩ := h
  exact ⟨before, body, [], hbody, by simp⟩

namespace Superscript

/-! ## Reading a text -/

/-- What stands directly before a place in a text. -/
inductive Edge where
  | caret
  /-- The end of a superscript. -/
  | raised
  | plain
  /-- What stands before a template. -/
  | before
  /-- An argument of a template. -/
  | arg (i : Nat)
  deriving DecidableEq

/-- How far a text has been read. -/
structure State where
  /-- The groups that are open, the innermost first: which of them are superscripts. -/
  groups : List Bool
  edge : Edge
  /-- What stands before each caret. -/
  bases : List Edge
  deriving DecidableEq

/-- Reads one character; a group that is not open cannot be closed. -/
def step (r : State) (c : Char) : Option State :=
  if c = '^' then some ⟨r.groups, .caret, r.edge :: r.bases⟩
  else if c = '\x7b' then some ⟨(r.edge == .caret) :: r.groups, .plain, r.bases⟩
  else if c = '\x7d' then
    match r.groups with
    | [] => none
    | isRaised :: groups => some ⟨groups, if isRaised then .raised else .plain, r.bases⟩
  else some ⟨r.groups, .plain, r.bases⟩

def read (r : State) : List Char → Option State
  | [] => some r
  | c :: cs => (step r c).bind fun r => read r cs

theorem step_caret (r : State) : step r '^' = some ⟨r.groups, .caret, r.edge :: r.bases⟩ := rfl

theorem step_open (r : State) :
    step r '\x7b' = some ⟨(r.edge == .caret) :: r.groups, .plain, r.bases⟩ := rfl

theorem step_close (isRaised : Bool) (groups : List Bool) (edge : Edge) (bases : List Edge) :
    step ⟨isRaised :: groups, edge, bases⟩ '\x7d' =
      some ⟨groups, if isRaised then .raised else .plain, bases⟩ := rfl

/-- The character has no part in superscripts. -/
def Inert (c : Char) : Prop := c ≠ '^' ∧ c ≠ '\x7b' ∧ c ≠ '\x7d'

theorem step_inert {c : Char} (h : Inert c) (r : State) :
    step r c = some ⟨r.groups, .plain, r.bases⟩ := by
  rw [step, if_neg h.1, if_neg h.2.1, if_neg h.2.2]

theorem eq_or_inert (c : Char) : c = '^' ∨ c = '\x7b' ∨ c = '\x7d' ∨ Inert c := by
  unfold Inert
  tauto

theorem read_append (s t : List Char) (r : State) :
    read r (s ++ t) = (read r s).bind fun r => read r t := by
  induction s generalizing r with
  | nil => rfl
  | cons c s ih =>
      rw [List.cons_append, read, read, Option.bind_assoc]
      congr 1
      funext q
      exact ih q

/-- The carets that were met are not forgotten. -/
theorem bases_subset_of_step {r q : State} {c : Char} (h : step r c = some q) :
    r.bases ⊆ q.bases := by
  unfold step at h
  split at h
  · cases h
    exact List.subset_cons_self _ _
  · split at h
    · cases h
      exact List.Subset.refl _
    · split at h
      · split at h
        · cases h
        · cases h
          exact List.Subset.refl _
      · cases h
        exact List.Subset.refl _

theorem bases_subset_of_read {s : List Char} : ∀ {r q : State}, read r s = some q →
    r.bases ⊆ q.bases := by
  induction s with
  | nil =>
      intro r q h
      cases h
      exact List.Subset.refl _
  | cons c s ih =>
      intro r q h
      obtain ⟨r', hstep, hread⟩ := Option.bind_eq_some_iff.mp h
      exact List.Subset.trans (bases_subset_of_step hstep) (ih hread)

/-- Matched braces leave the groups as they are. -/
theorem read_of_matched {s : List Char} (h : Matched s) :
    ∀ r : State, ∃ edge bases, read r s = some ⟨r.groups, edge, bases⟩ := by
  induction h with
  | nil => exact fun r => ⟨r.edge, r.bases, rfl⟩
  | @char c s hopen hclose _ ih =>
      intro r
      rcases eq_or_inert c with rfl | rfl | rfl | hc
      · rw [read, step_caret]
        exact ih _
      · exact absurd rfl hopen
      · exact absurd rfl hclose
      · rw [read, step_inert hc]
        exact ih _
  | group _ _ ihs iht =>
      intro r
      obtain ⟨edge, bases, hs⟩ := ihs ⟨(r.edge == .caret) :: r.groups, .plain, r.bases⟩
      rw [read, step_open, Option.bind_some, read_append, hs, Option.bind_some, read, step_close]
      exact iht _

theorem raised_mem_bases {s : List Char} (h : DoubleSuperscript s) {r q : State}
    (hread : read r s = some q) : .raised ∈ q.bases := by
  obtain ⟨before, body, after, hbody, rfl⟩ := h
  rw [read_append] at hread
  obtain ⟨r₁, -, hread⟩ := Option.bind_eq_some_iff.mp hread
  rw [read, step_caret, Option.bind_some, read, step_open, Option.bind_some, read_append] at hread
  obtain ⟨edge, bases, hbody⟩ :=
    read_of_matched hbody ⟨true :: r₁.groups, .plain, r₁.edge :: r₁.bases⟩
  have hcaret : ((Edge.caret == Edge.caret) : Bool) = true := rfl
  rw [hcaret, hbody, Option.bind_some, read, step_close, Option.bind_some, read, step_caret,
    Option.bind_some] at hread
  exact bases_subset_of_read hread List.mem_cons_self

/-- These groups are open at the end of the text. -/
def Opened : List Bool → List Char → Prop
  | [], _ => True
  | isRaised :: groups, s => ∃ before body, s = before ++ '\x7b' :: body ∧ Matched body ∧
      (isRaised = true → ∃ u, before = u ++ ['^']) ∧ Opened groups before

theorem Opened.append {t : List Char} (ht : Matched t) : ∀ {groups : List Bool} {s : List Char},
    Opened groups s → Opened groups (s ++ t)
  | [], _, _ => trivial
  | _ :: _, _, ⟨before, body, hs, hbody, hraised, hgroups⟩ =>
      ⟨before, body ++ t, by rw [hs]; simp, hbody.append ht, hraised, hgroups⟩

/-- What was found out about the text up to here is so. -/
structure Faithful (s : List Char) (r : State) : Prop where
  opened : Opened r.groups s
  caret : r.edge = .caret → ∃ u, s = u ++ ['^']
  raised : r.edge = .raised → EndsWithSuperscript s
  bases : .raised ∈ r.bases → DoubleSuperscript s

theorem faithful_of_step {s : List Char} {r q : State} {c : Char} (h : Faithful s r)
    (hstep : step r c = some q) : Faithful (s ++ [c]) q := by
  have hbases : .raised ∈ r.bases → DoubleSuperscript (s ++ [c]) := fun hmem =>
    (h.bases hmem).append [c]
  rcases eq_or_inert c with rfl | rfl | rfl | hc
  · cases (step_caret r).symm.trans hstep
    refine ⟨h.opened.append (.char (by decide) (by decide) .nil), fun _ => ⟨s, rfl⟩, nofun, ?_⟩
    intro hmem
    rcases List.mem_cons.mp hmem with hedge | hmem
    · exact (h.raised hedge.symm).doubleSuperscript
    · exact hbases hmem
  · cases (step_open r).symm.trans hstep
    refine ⟨⟨s, [], rfl, .nil, fun hcaret => h.caret (by simpa using hcaret), h.opened⟩, nofun,
      nofun, hbases⟩
  · obtain ⟨groups, edge, bases⟩ := r
    cases groups with
    | nil => cases hstep
    | cons isRaised groups =>
        cases (step_close isRaised groups edge bases).symm.trans hstep
        obtain ⟨before, body, rfl, hbody, hraised, hopened⟩ := h.opened
        have hgroup : (before ++ '\x7b' :: body) ++ ['\x7d'] =
            before ++ '\x7b' :: (body ++ ['\x7d']) := by simp
        rw [hgroup] at hbases ⊢
        refine ⟨hopened.append (.group hbody .nil), ?_, ?_, hbases⟩
        · cases isRaised <;> exact nofun
        · cases isRaised with
          | false => exact nofun
          | true =>
              -- the group that closes here was opened behind a caret
              obtain ⟨u, rfl⟩ := hraised rfl
              exact fun _ => ⟨u, body, hbody, by simp⟩
  · cases (step_inert hc r).symm.trans hstep
    exact ⟨h.opened.append (.char hc.2.1 hc.2.2 .nil), nofun, nofun, hbases⟩

theorem faithful_of_read {t : List Char} : ∀ {s : List Char} {r q : State}, Faithful s r →
    read r t = some q → Faithful (s ++ t) q := by
  induction t with
  | nil =>
      intro s r q h hread
      cases hread
      rwa [List.append_nil]
  | cons c t ih =>
      intro s r q h hread
      obtain ⟨r', hstep, hread⟩ := Option.bind_eq_some_iff.mp hread
      rw [List.append_cons]
      exact ih (faithful_of_step h hstep) hread

/-- The state before the first character. -/
def start : State := ⟨[], .plain, []⟩

theorem faithful_start : Faithful [] start := ⟨trivial, nofun, nofun, nofun⟩

end Superscript

open Superscript in
/-- Reading a text finds out whether a superscript stands on a superscript. -/
theorem doubleSuperscript_iff {s : List Char} {r : State} (h : read start s = some r) :
    DoubleSuperscript s ↔ .raised ∈ r.bases :=
  ⟨fun hdouble => raised_mem_bases hdouble h, (faithful_of_read faithful_start h).bases⟩

namespace Superscript

/-! ## Reading a template -/

/-- Reads a piece of a template; a caret has to have its group before an argument comes. -/
def readPiece (r : State) : Piece → Option State
  | .arg i => if r.edge = .caret then none else some ⟨r.groups, .arg i, r.bases⟩
  | p => read r (p.fill []).toList

def readTemplate (r : State) : Template → Option State
  | [] => some r
  | p :: t => (readPiece r p).bind fun r => readTemplate r t

/-- An edge of a filled template, given the ends of what stands before it and of its arguments. -/
def Edge.fill (e lead : Edge) (ends : Nat → Edge) : Edge :=
  match e with
  | .before => lead
  | .arg i => ends i
  | e => e

/-- The second state is that of the filled template where the first one is that of the template.
The groups below and what else is in the text before are not known to the template. -/
structure Fills (lead : Edge) (ends : Nat → Edge) (below : List Bool) (elsewhere : Prop)
    (r q : State) : Prop where
  groups : q.groups = r.groups ++ below
  edge : q.edge = r.edge.fill lead ends
  bases : .raised ∈ q.bases ↔ elsewhere ∨ ∃ e ∈ r.bases, e.fill lead ends = .raised

/-- The text keeps the groups and ends in one of these ways, wherever it stands but behind a
caret; the last proposition says whether a superscript stands on a superscript in it. -/
def Reads (s : List Char) (edges : Edge → Prop) (doubled : Prop) : Prop :=
  ∀ r : State, r.edge ≠ .caret → ∃ edge bases, edges edge ∧
    read r s = some ⟨r.groups, edge, bases⟩ ∧ (.raised ∈ bases ↔ doubled ∨ .raised ∈ r.bases)

section Fill
variable {lead : Edge} {ends : Nat → Edge} {below : List Bool} {elsewhere : Prop} {r q r' : State}

theorem Edge.fill_ne_caret (hlead : lead ≠ .caret) (hends : ∀ i, ends i ≠ .caret) {e : Edge}
    (he : e ≠ .caret) : e.fill lead ends ≠ .caret := by
  cases e with
  | caret => exact absurd rfl he
  | before => exact hlead
  | arg i => exact hends i
  | _ => exact nofun

theorem Fills.exists_step (hlead : lead ≠ .caret) (hends : ∀ i, ends i ≠ .caret) {c : Char}
    (h : Fills lead ends below elsewhere r q) (hstep : step r c = some r') :
    ∃ q', step q c = some q' ∧ Fills lead ends below elsewhere r' q' := by
  rcases eq_or_inert c with rfl | rfl | rfl | hc
  · cases (step_caret r).symm.trans hstep
    refine ⟨_, step_caret q, h.groups, rfl, ?_⟩
    rw [List.mem_cons, h.bases, h.edge, List.exists_mem_cons_iff]
    tauto
  · cases (step_open r).symm.trans hstep
    -- a hole is never filled with a caret, so both open the same sort of group
    have hcaret : (q.edge == .caret) = (r.edge == .caret) := by
      rw [h.edge]
      by_cases hr : r.edge = .caret
      · rw [hr]
        rfl
      · rw [beq_false_of_ne hr, beq_false_of_ne (Edge.fill_ne_caret hlead hends hr)]
    refine ⟨_, step_open q, ?_, rfl, h.bases⟩
    rw [hcaret, h.groups, List.cons_append]
  · obtain ⟨groups, edge, bases⟩ := r
    obtain ⟨groups', edge', bases'⟩ := q
    cases groups with
    | nil => cases hstep
    | cons isRaised groups =>
        cases (step_close isRaised groups edge bases).symm.trans hstep
        obtain rfl : groups' = isRaised :: (groups ++ below) := h.groups
        refine ⟨_, step_close isRaised _ edge' bases', rfl, ?_, h.bases⟩
        cases isRaised <;> rfl
  · cases (step_inert hc r).symm.trans hstep
    exact ⟨_, step_inert hc q, h.groups, rfl, h.bases⟩

theorem Fills.exists_read (hlead : lead ≠ .caret) (hends : ∀ i, ends i ≠ .caret)
    {s : List Char} : ∀ {r q r' : State}, Fills lead ends below elsewhere r q →
    read r s = some r' → ∃ q', read q s = some q' ∧ Fills lead ends below elsewhere r' q' := by
  induction s with
  | nil =>
      intro r q r' h hread
      cases hread
      exact ⟨q, rfl, h⟩
  | cons c s ih =>
      intro r q r' h hread
      obtain ⟨r₁, hstep, hread⟩ := Option.bind_eq_some_iff.mp hread
      obtain ⟨q₁, hstep', h₁⟩ := h.exists_step hlead hends hstep
      obtain ⟨q', hread', h'⟩ := ih h₁ hread
      exact ⟨q', Option.bind_eq_some_iff.mpr ⟨q₁, hstep', hread'⟩, h'⟩

variable {args : List String} {doubled : Nat → Prop}

/-- The step lemma of arguments: the argument is read as a whole. -/
theorem Fills.exists_read_arg (hlead : lead ≠ .caret) (hends : ∀ i, ends i ≠ .caret) {i : Nat}
    (harg : Reads (args.getD i "").toList (· = ends i) (doubled i))
    (h : Fills lead ends below elsewhere r q) (hpiece : readPiece r (.arg i) = some r') :
    ∃ q', read q (args.getD i "").toList = some q' ∧
      Fills lead ends below (doubled i ∨ elsewhere) r' q' := by
  simp only [readPiece, Option.ite_none_left_eq_some, Option.some.injEq] at hpiece
  obtain ⟨hcaret, rfl⟩ := hpiece
  have hedge : q.edge ≠ .caret := by
    rw [h.edge]
    exact Edge.fill_ne_caret hlead hends hcaret
  obtain ⟨edge, bases, rfl, hread, hbases⟩ := harg q hedge
  exact ⟨_, hread, h.groups, rfl, by rw [hbases, h.bases, or_assoc]⟩

theorem Fills.exists_read_fill (hlead : lead ≠ .caret) (hends : ∀ i, ends i ≠ .caret) :
    ∀ {t : Template} {elsewhere : Prop} {r q r' : State},
    (∀ i, .arg i ∈ t → Reads (args.getD i "").toList (· = ends i) (doubled i)) →
    Fills lead ends below elsewhere r q → readTemplate r t = some r' →
    ∃ q', read q (t.fill args).toList = some q' ∧
      Fills lead ends below ((∃ i, .arg i ∈ t ∧ doubled i) ∨ elsewhere) r' q'
  | [], elsewhere, r, q, r', _, h, hread => by
      cases hread
      refine ⟨q, rfl, h.groups, h.edge, ?_⟩
      simpa using h.bases
  | p :: t, elsewhere, r, q, r', hargs, h, hread => by
      obtain ⟨r₁, hpiece, htemplate⟩ := Option.bind_eq_some_iff.mp hread
      have hrest := fun i hi => hargs i (List.mem_cons_of_mem p hi)
      rw [Template.fill_cons, String.toList_append, read_append]
      cases p with
      | arg i =>
          obtain ⟨q₁, hread₁, h₁⟩ :=
            h.exists_read_arg hlead hends (hargs i List.mem_cons_self) hpiece
          obtain ⟨q', hread', h'⟩ := h₁.exists_read_fill hlead hends hrest htemplate
          refine ⟨q', Option.bind_eq_some_iff.mpr ⟨q₁, hread₁, hread'⟩, h'.groups, h'.edge, ?_⟩
          have hcomm : ∀ {a b c d : Prop}, (a ∨ b ∨ c) ∨ d ↔ ((b ∨ a) ∨ c) ∨ d := by tauto
          rw [h'.bases, hcomm]
          simp only [List.mem_cons, Piece.arg.injEq, or_and_right, exists_or, exists_eq_left]
      | text | control | opening | closing =>
          obtain ⟨q₁, hread₁, h₁⟩ := h.exists_read hlead hends hpiece
          obtain ⟨q', hread', h'⟩ := h₁.exists_read_fill hlead hends hrest htemplate
          refine ⟨q', Option.bind_eq_some_iff.mpr ⟨q₁, hread₁, hread'⟩, h'.groups, h'.edge, ?_⟩
          rw [h'.bases]
          simp

/-- The state before a template. -/
def beginning : State := ⟨[], .before, []⟩

theorem fills_beginning (ends : Nat → Edge) (r : State) :
    Fills r.edge ends r.groups (.raised ∈ r.bases) beginning r :=
  ⟨rfl, rfl, by simp [beginning]⟩

/-- A filled template is read as the template is, if what is found does not depend on what
stands before it. -/
theorem reads_fill {t : Template} {edge : Edge} {bases : List Edge}
    (ht : readTemplate beginning t = some ⟨[], edge, bases⟩) (hedge : edge ≠ .before)
    (hbases : .before ∉ bases) (hends : ∀ i, ends i ≠ .caret)
    (hargs : ∀ i, .arg i ∈ t → Reads (args.getD i "").toList (· = ends i) (doubled i)) :
    Reads (t.fill args).toList (· = edge.fill .plain ends)
      ((∃ i, .arg i ∈ t ∧ doubled i) ∨ ∃ e ∈ bases, e.fill .plain ends = .raised) := by
  intro r hr
  have hfill : ∀ e : Edge, e ≠ .before → e.fill r.edge ends = e.fill .plain ends := by
    intro e he
    cases e with
    | before => exact absurd rfl he
    | _ => rfl
  obtain ⟨⟨groups, edge', bases'⟩, hread, hgroups, hedge', hbases'⟩ :=
    (fills_beginning ends r).exists_read_fill hr hends hargs ht
  obtain rfl : groups = r.groups := hgroups
  obtain rfl := hedge'.trans (hfill edge hedge)
  refine ⟨_, bases', rfl, hread, hbases'.trans ?_⟩
  have hraised : (∃ e ∈ bases, e.fill r.edge ends = .raised) ↔
      ∃ e ∈ bases, e.fill .plain ends = .raised :=
    exists_congr fun e => and_congr_right fun he =>
      by rw [hfill e fun hnone => hbases (hnone ▸ he)]
  rw [hraised]
  exact or_right_comm

end Fill

/-! ## Texts side by side -/

theorem ne_caret_of_eq_plain (e : Edge) (h : e = .plain) : e ≠ .caret := by
  rintro rfl
  cases h

theorem Reads.imp {s : List Char} {edges edges' : Edge → Prop} {p q : Prop}
    (hs : Reads s edges p) (hedges : ∀ e, edges e → edges' e) (hpq : p ↔ q) :
    Reads s edges' q := by
  intro r hr
  obtain ⟨edge, bases, hedge, hread, hbases⟩ := hs r hr
  exact ⟨edge, bases, hedges edge hedge, hread, by rw [hbases, hpq]⟩

theorem Reads.append {s t : List Char} {edges edges' : Edge → Prop} {p q : Prop}
    (hs : Reads s edges p) (hedges : ∀ e, edges e → e ≠ .caret) (ht : Reads t edges' q) :
    Reads (s ++ t) edges' (p ∨ q) := by
  intro r hr
  obtain ⟨edge, bases, hedge, hread, hbases⟩ := hs r hr
  obtain ⟨edge', bases', hedge', hread', hbases'⟩ :=
    ht ⟨r.groups, edge, bases⟩ (hedges edge hedge)
  refine ⟨edge', bases', hedge', by rw [read_append, hread, Option.bind_some, hread'], ?_⟩
  rw [hbases', hbases, or_left_comm, or_assoc]

/-- A text without a caret. -/
theorem reads_of_read {s : List Char} (h : read beginning s = some ⟨[], .plain, []⟩) :
    Reads s (· = .plain) False := by
  intro r hr
  have hplain : ∀ _ : Nat, Edge.plain ≠ .caret := fun _ => ne_caret_of_eq_plain .plain rfl
  obtain ⟨⟨groups, edge, bases⟩, hread, hgroups, hedge, hbases⟩ :=
    (fills_beginning (fun _ => .plain) r).exists_read hr hplain h
  obtain rfl : groups = r.groups := hgroups
  exact ⟨edge, bases, hedge, hread, by simpa using hbases⟩

theorem reads_nil : Reads [] (· ≠ .caret) False := fun r hr => ⟨r.edge, r.bases, hr, rfl, by simp⟩

theorem reads_of_inert {c : Char} {s : List Char} (h : ∀ d ∈ c :: s, Inert d) :
    Reads (c :: s) (· = .plain) False := by
  induction s generalizing c with
  | nil =>
      intro r _
      obtain ⟨hc, -⟩ := List.forall_mem_cons.mp h
      rw [read, step_inert hc]
      exact ⟨_, _, rfl, rfl, by simp⟩
  | cons d s ih =>
      intro r _
      obtain ⟨hc, hs⟩ := List.forall_mem_cons.mp h
      rw [read, step_inert hc]
      exact ih hs ⟨_, _, _⟩ (ne_caret_of_eq_plain .plain rfl)

end Superscript

/-! ## Superscripts of a tree -/

namespace Node

open Superscript

/-- The base of a power, which is written with a caret or as a call. -/
def base? : Node → Option Node
  | .binary (.operator .power) base _ => some base
  | .call (.func .pow) _ [base, _] => some base
  | _ => none

/-- The tree that stands at the end of the template of a tree. -/
def lastChild? (n : Node) : Option Node :=
  match n.template?.bind List.getLast? with
  | some (.arg i) => n.children[i]?
  | _ => none

/-- The tree is a power or an exponential, or a tree that ends with one. -/
inductive EndsRaised : Node → Prop where
  | power {n base : Node} : n.base? = some base → EndsRaised n
  | exp {word : String} {n : Node} : EndsRaised (.call (.func .exp) word [n])
  | last {n m : Node} : n.lastChild? = some m → EndsRaised m → EndsRaised n

/-- Somewhere in the tree is a power whose base ends with a power or an exponential. -/
inductive StacksPowers : Node → Prop where
  | here {n base : Node} : n.base? = some base → EndsRaised base → StacksPowers n
  | inside {n m : Node} : m ∈ n.children → StacksPowers m → StacksPowers n

def expTemplate : Template := .text "e^" :: Template.enclosed .brace [.arg 0]

/-- How a filled template ends. -/
def endEdge (t : Template) : Edge :=
  match t.getLast? with
  | some (.arg i) => .arg i
  | _ => if t = operatorTemplate .power ∨ t = expTemplate then .raised else .plain

/-- Whether the template is read as it is meant: of its arguments, only the base of a power
stands before a caret. -/
def raisesBaseOnly (t : Template) : Bool :=
  (readTemplate beginning t).any fun r =>
    r.groups == [] && r.edge == endEdge t &&
      r.bases.filter (· ≠ .plain) == if t = operatorTemplate .power then [.arg 0] else []

theorem raisesBaseOnly_of_mem : ∀ t ∈ templates, raisesBaseOnly t = true := by
  decide

theorem template?_of_base? {n base : Node} (h : n.base? = some base) :
    n.template? = some (operatorTemplate .power) ∧ n.children[0]? = some base := by
  unfold base? at h
  split at h
  · cases h
    exact ⟨rfl, rfl⟩
  · cases h
    exact ⟨rfl, rfl⟩
  · cases h

/-- The template of powers is that of no other tree. -/
theorem exists_base? {n : Node} (h : n.template? = some (operatorTemplate .power)) :
    ∃ base, n.base? = some base := by
  rcases template?_cases h with ⟨op, l, r, -, rfl, hop⟩ | ⟨f, word, args, rfl, ht⟩ | ⟨-, ht⟩
  · obtain rfl : op = .power := by
      revert hop
      cases op <;> decide
    exact ⟨l, rfl⟩
  · obtain rfl : f = .pow := by
      have hmem := Func.template?_mem ht
      revert hmem
      cases f <;> decide
    have hlength : args.length = 2 := Func.count_of_template? ht (by decide) (by decide)
    obtain ⟨l, r, rfl⟩ := List.length_eq_two.mp hlength
    exact ⟨l, rfl⟩
  · exact absurd ht (by decide)

/-- The template of exponentials is that of no other tree. -/
theorem eq_exp_of_template? {n : Node} (h : n.template? = some expTemplate) :
    ∃ word m, n = .call (.func .exp) word [m] := by
  rcases template?_cases h with ⟨op, l, r, -, rfl, hop⟩ | ⟨f, word, args, rfl, ht⟩ | ⟨-, ht⟩
  · exact absurd hop (by cases op <;> decide)
  · obtain rfl : f = .exp := by
      have hmem := Func.template?_mem ht
      revert hmem
      cases f <;> decide
    have hlength : args.length = 1 := Func.count_of_template? ht (by decide) (by decide)
    obtain ⟨m, rfl⟩ := List.length_eq_one_iff.mp hlength
    exact ⟨word, m, rfl⟩
  · exact absurd ht (by decide)

/-- The tree ends with a superscript exactly if its template does, or the child that its template
ends with. -/
theorem endsRaised_iff {n : Node} : EndsRaised n ↔
    n.template? = some (operatorTemplate .power) ∨ n.template? = some expTemplate ∨
      ∃ m, n.lastChild? = some m ∧ EndsRaised m := by
  constructor
  · intro h
    cases h with
    | power hbase => exact .inl (template?_of_base? hbase).1
    | exp => exact .inr (.inl rfl)
    | last hm hraised => exact .inr (.inr ⟨_, hm, hraised⟩)
  · rintro (h | h | ⟨m, hm, hraised⟩)
    · obtain ⟨base, hbase⟩ := exists_base? h
      exact .power hbase
    · obtain ⟨word, m, rfl⟩ := eq_exp_of_template? h
      exact .exp
    · exact .last hm hraised

theorem stacksPowers_iff {n : Node} : StacksPowers n ↔
    (∃ m ∈ n.children, StacksPowers m) ∨
      n.template? = some (operatorTemplate .power) ∧
        ∃ base, n.children[0]? = some base ∧ EndsRaised base := by
  constructor
  · intro h
    cases h with
    | here hbase hraised =>
        obtain ⟨ht, hchild⟩ := template?_of_base? hbase
        exact .inr ⟨ht, _, hchild, hraised⟩
    | inside hm hstacks => exact .inl ⟨_, hm, hstacks⟩
  · rintro (⟨m, hm, hstacks⟩ | ⟨ht, base, hchild, hraised⟩)
    · exact .inside hm hstacks
    · obtain ⟨base', hbase⟩ := exists_base? ht
      obtain rfl : base = base' :=
        Option.some.inj (hchild.symm.trans (template?_of_base? hbase).2)
      exact .here hbase hraised

/-! ## The LaTeX of a tree -/

open Classical in
/-- How the LaTeX of a tree ends. -/
noncomputable def edge (n : Node) : Edge := if EndsRaised n then .raised else .plain

theorem edge_ne_caret (n : Node) : n.edge ≠ .caret := by
  unfold edge
  split <;> exact nofun

theorem edge_eq_raised_iff {n : Node} : n.edge = .raised ↔ EndsRaised n := by
  unfold edge
  split <;> simp [*]

theorem edge_of_not_endsRaised {n : Node} (h : ¬ EndsRaised n) : n.edge = .plain := if_neg h

theorem edge_congr {m n : Node} (h : EndsRaised m ↔ EndsRaised n) : m.edge = n.edge := by
  by_cases hn : EndsRaised n
  · rw [edge_eq_raised_iff.mpr hn, edge_eq_raised_iff.mpr (h.mpr hn)]
  · rw [edge_of_not_endsRaised hn, edge_of_not_endsRaised (mt h.mp hn)]

/-- A tree without a template does not end with a superscript. -/
theorem edge_of_template?_none {n : Node} (h : n.template? = none) : n.edge = .plain := by
  refine edge_of_not_endsRaised fun hraised => ?_
  rcases endsRaised_iff.mp hraised with ht | ht | ⟨m, hm, -⟩
  · cases h.symm.trans ht
  · cases h.symm.trans ht
  · simp [lastChild?, h] at hm

/-- How the LaTeX of the child with this index ends. -/
noncomputable def childEdge (n : Node) (i : Nat) : Edge := (n.children[i]?.map edge).getD .plain

theorem childEdge_of_getElem? {n m : Node} {i : Nat} (h : n.children[i]? = some m) :
    n.childEdge i = m.edge := by
  rw [childEdge, h, Option.map_some, Option.getD_some]

theorem childEdge_ne_caret (n : Node) (i : Nat) : n.childEdge i ≠ .caret := by
  cases h : n.children[i]? with
  | none =>
      rw [childEdge, h]
      exact nofun
  | some m =>
      rw [childEdge_of_getElem? h]
      exact m.edge_ne_caret

theorem childEdge_eq_raised_iff {n : Node} {i : Nat} :
    n.childEdge i = .raised ↔ ∃ m, n.children[i]? = some m ∧ EndsRaised m := by
  cases h : n.children[i]? with
  | none => simp [childEdge, h]
  | some m => simp [childEdge_of_getElem? h, edge_eq_raised_iff]

/-- The template says how the LaTeX of the tree ends. -/
theorem edge_eq_fill {n : Node} {t : Template} (ht : n.template? = some t) :
    n.edge = (endEdge t).fill .plain n.childEdge := by
  unfold endEdge
  split
  · next i hi =>
      have hlast : n.lastChild? = n.children[i]? := by
        unfold lastChild?
        rw [ht, Option.bind_some, hi]
      have hlength := (arg_mem_template? ht).mp (List.mem_of_getLast? hi)
      obtain ⟨m, hm⟩ : ∃ m, n.children[i]? = some m := ⟨_, List.getElem?_eq_getElem hlength⟩
      rw [Edge.fill, childEdge_of_getElem? hm]
      refine edge_congr ?_
      rw [endsRaised_iff, ht, hlast, hm]
      -- the templates of powers and exponentials end with a brace, not with an argument
      constructor
      · rintro (hpower | hexp | ⟨m', hm', hraised⟩)
        · cases hpower
          cases hi
        · cases hexp
          cases hi
        · cases hm'
          exact hraised
      · exact fun hraised => .inr (.inr ⟨m, rfl, hraised⟩)
  · next hlast =>
      have hnone : n.lastChild? = none := by
        unfold lastChild?
        rw [ht, Option.bind_some]
        split
        · next i hi => exact absurd hi (hlast i)
        · rfl
      have hraised : EndsRaised n ↔ t = operatorTemplate .power ∨ t = expTemplate := by
        rw [endsRaised_iff, ht, hnone]
        simp
      unfold edge
      simp only [hraised]
      split <;> rfl

/-- Of the arguments, only the base of a power stands before a caret. -/
theorem exists_bases {t : Template} (ht : t ∈ templates) :
    ∃ bases, readTemplate beginning t = some ⟨[], endEdge t, bases⟩ ∧
      ∀ e, e ≠ .plain → (e ∈ bases ↔ t = operatorTemplate .power ∧ e = .arg 0) := by
  have hraises := raisesBaseOnly_of_mem t ht
  unfold raisesBaseOnly at hraises
  cases hread : readTemplate beginning t with
  | none => simp [hread] at hraises
  | some r =>
      obtain ⟨groups, edge, bases⟩ := r
      simp only [hread, Option.any_some, Bool.and_eq_true, beq_iff_eq] at hraises
      obtain ⟨⟨rfl, rfl⟩, hbases⟩ := hraises
      refine ⟨bases, rfl, fun e he => ?_⟩
      have hmem : e ∈ bases ↔ e ∈ bases.filter (· ≠ .plain) := by simp [he]
      rw [hmem, hbases]
      split <;> simp [*]

theorem endEdge_ne_before (t : Template) : endEdge t ≠ .before := by
  unfold endEdge
  split
  · exact nofun
  · split <;> exact nofun

/-- A superscript stands on a superscript in a child, or on the base of a power. -/
theorem stacksPowers_iff_template {n : Node} {t : Template} (ht : n.template? = some t)
    {bases : List Edge}
    (hbases : ∀ e, e ≠ .plain → (e ∈ bases ↔ t = operatorTemplate .power ∧ e = .arg 0)) :
    StacksPowers n ↔
      (∃ i, .arg i ∈ t ∧ ∃ m, n.children[i]? = some m ∧ StacksPowers m) ∨
        ∃ e ∈ bases, e.fill .plain n.childEdge = .raised := by
  have hchildren : (∃ m ∈ n.children, StacksPowers m) ↔
      ∃ i, .arg i ∈ t ∧ ∃ m, n.children[i]? = some m ∧ StacksPowers m := by
    constructor
    · rintro ⟨m, hm, hstacks⟩
      obtain ⟨i, hi, rfl⟩ := List.mem_iff_getElem.mp hm
      exact ⟨i, (arg_mem_template? ht).mpr hi, _, List.getElem?_eq_getElem hi, hstacks⟩
    · rintro ⟨i, -, m, hm, hstacks⟩
      exact ⟨m, List.mem_of_getElem? hm, hstacks⟩
  have hbase : (n.template? = some (operatorTemplate .power) ∧
        ∃ base, n.children[0]? = some base ∧ EndsRaised base) ↔
      ∃ e ∈ bases, e.fill .plain n.childEdge = .raised := by
    rw [← childEdge_eq_raised_iff, ht, Option.some.injEq]
    constructor
    · rintro ⟨hpower, hraised⟩
      exact ⟨.arg 0, (hbases (.arg 0) nofun).mpr ⟨hpower, rfl⟩, hraised⟩
    · rintro ⟨e, he, hraised⟩
      have hplain : e ≠ .plain := by
        rintro rfl
        cases hraised
      obtain ⟨hpower, rfl⟩ := (hbases e hplain).mp he
      exact ⟨hpower, hraised⟩
  rw [stacksPowers_iff, hchildren, hbase]

/-- The text is read as the LaTeX of the tree should be. -/
def ReadsAsTree (n : Node) (s : String) : Prop := Reads s.toList (· = n.edge) (StacksPowers n)

theorem readsAsTree_fill {n : Node} {t : Template} {parts : List String}
    (ht : n.template? = some t) (hparts : List.Forall₂ ReadsAsTree n.children parts) :
    ReadsAsTree n (t.fill parts) := by
  obtain ⟨bases, hread, hbases⟩ := exists_bases (template?_mem ht)
  have hargs : ∀ i, .arg i ∈ t → Reads (parts.getD i "").toList (· = n.childEdge i)
      (∃ m, n.children[i]? = some m ∧ StacksPowers m) := by
    intro i hi
    obtain ⟨m, hm⟩ : ∃ m, n.children[i]? = some m :=
      ⟨_, List.getElem?_eq_getElem ((arg_mem_template? ht).mp hi)⟩
    have hpart : ReadsAsTree m (parts.getD i "") := forall₂_getD hparts hm
    rw [childEdge_of_getElem? hm, hm]
    simpa [ReadsAsTree] using hpart
  have hbefore : .before ∉ bases := by
    intro hmem
    cases ((hbases .before nofun).mp hmem).2
  unfold ReadsAsTree
  rw [edge_eq_fill ht, stacksPowers_iff_template ht hbases]
  exact reads_fill hread (endEdge_ne_before t) hbefore n.childEdge_ne_caret hargs

theorem read_environment {f : Func} {name : String} (h : f.form = .environment name) :
    read beginning ("\\begin\x7b" ++ name ++ "\x7d ").toList = some ⟨[], .plain, []⟩ ∧
      read beginning (" \\end\x7b" ++ name ++ "\x7d").toList = some ⟨[], .plain, []⟩ := by
  cases f <;> cases h <;> decide

theorem reads_rows {ns : List Node} {rows : List String} (h : List.Forall₂ ReadsAsTree ns rows) :
    Reads (" \\\\ ".intercalate rows).toList (· ≠ .caret) (∃ m ∈ ns, StacksPowers m) := by
  induction h with
  | nil => exact reads_nil.imp (fun _ he => he) (by simp)
  | @cons n s ns rows hs hrows ih =>
      cases hrows with
      | nil =>
          rw [String.intercalate_singleton]
          exact hs.imp (fun _ he => he ▸ n.edge_ne_caret) (by simp)
      | cons =>
          have hblanks : Reads " \\\\ ".toList (· = .plain) False := reads_of_read (by decide)
          have hall := (hs.append (fun _ he => he ▸ n.edge_ne_caret) hblanks).append
            ne_caret_of_eq_plain ih
          rw [String.intercalate_cons_cons, String.toList_append, String.toList_append]
          exact hall.imp (fun _ he => he) (by simp)

theorem readsAsTree_rows {f : Func} {word name : String} {args : List Node} {parts : List String}
    (hform : f.form = .environment name) (hparts : List.Forall₂ ReadsAsTree args parts) :
    ReadsAsTree (.call (.func f) word args) (Func.environmentLatex name parts) := by
  have htemplate : (Node.call (.func f) word args).template? = none := by
    simp only [template?, Func.template?, hform]
  obtain ⟨hopening, hclosing⟩ := read_environment hform
  have hrows := ((reads_of_read hopening).append ne_caret_of_eq_plain
    (reads_rows hparts)).append (fun _ he => he) (reads_of_read hclosing)
  have hlatex : (Func.environmentLatex name parts).toList =
      ("\\begin\x7b" ++ name ++ "\x7d ").toList ++ (" \\\\ ".intercalate parts).toList ++
        (" \\end\x7b" ++ name ++ "\x7d").toList := by
    simp [Func.environmentLatex_eq]
  unfold ReadsAsTree
  rw [hlatex, edge_of_template?_none htemplate, stacksPowers_iff, htemplate]
  exact hrows.imp (fun _ he => he) (by simp [children])

theorem inert_of_isLeafChar {c : Char} (h : isLeafChar c = true) : Inert c := by
  refine ⟨?_, ?_, ?_⟩ <;> rintro rfl <;> exact absurd h (by decide)

theorem inert_of_hasNoRule {c : Char} (h : Lexeme.hasNoRule c = true) : Inert c := by
  refine ⟨?_, ?_, ?_⟩ <;> rintro rfl <;> exact absurd h (by decide)

/-- A tree without children and without a template. -/
theorem readsAsTree_of_inert {n : Node} {s : String} (htemplate : n.template? = none)
    (hchildren : n.children = []) {c : Char} {cs : List Char} (hs : s.toList = c :: cs)
    (h : ∀ d ∈ s.toList, Inert d) : ReadsAsTree n s := by
  unfold ReadsAsTree
  rw [edge_of_template?_none htemplate, stacksPowers_iff, htemplate, hchildren]
  rw [hs] at h ⊢
  exact (reads_of_inert h).imp (fun _ he => he) (by simp)

/-- The LaTeX of a tree ends with a superscript exactly if the tree says so, and a superscript
stands on a superscript in it exactly if the tree says so. -/
theorem Proper.readsAsTree {mode : Mode} {n : Node} (hn : n.Proper) {s : String}
    (h : n.latex mode = .ok s) : ReadsAsTree n s := by
  refine hn.latex_induction ?_ ?_ readsAsTree_fill readsAsTree_rows h
  · intro n s hleaf
    obtain ⟨c, cs, hs, -⟩ := hleaf.first
    refine readsAsTree_of_inert ?_ ?_ hs fun d hd => inert_of_isLeafChar (hleaf.chars d hd)
    · cases hleaf <;> rfl
    · cases hleaf <;> rfl
  · intro c hc
    have hs : (String.singleton c).toList = [c] := String.toList_singleton c
    refine readsAsTree_of_inert rfl rfl hs fun d hd => ?_
    rw [hs] at hd
    exact List.mem_singleton.mp hd ▸ inert_of_hasNoRule hc

/-! ## Documents -/

section Document
variable (mode : Mode)

theorem reads_part {n : Node} {s : String} (h : ReadsAsTree n s) :
    Reads (part mode n s).toList (· ≠ .caret) (StacksPowers n) := by
  have hs : Reads s.toList (· ≠ .caret) (StacksPowers n) :=
    h.imp (fun _ he => he ▸ n.edge_ne_caret) Iff.rfl
  have hwrap : ∀ {fence : String}, Reads fence.toList (· = .plain) False →
      Reads (fence ++ s ++ fence).toList (· ≠ .caret) (StacksPowers n) := by
    intro fence hfence
    rw [String.toList_append, String.toList_append]
    exact ((hfence.append ne_caret_of_eq_plain hs).append (fun _ he => he) hfence).imp
      ne_caret_of_eq_plain (by simp)
  unfold part
  split
  · exact hs
  · cases mode with
    | plain => exact hs
    | inline => exact hwrap (reads_of_read (by decide))
    | display => exact hwrap (reads_of_read (by decide))

theorem reads_gap (wrapped : Bool) (n : Node) :
    Reads (gap mode wrapped n).toList (· ≠ .caret) False := by
  unfold gap
  split
  · exact (reads_of_read (by decide)).imp ne_caret_of_eq_plain Iff.rfl
  · exact reads_nil

theorem reads_assemble {ns : List Node} {parts : List String}
    (h : List.Forall₂ ReadsAsTree ns parts) : ∀ wrapped : Bool,
    Reads (assemble mode wrapped ((ns.map isVerbatim).zip parts)).toList (· ≠ .caret)
      (∃ n ∈ ns, StacksPowers n) := by
  induction h with
  | nil => exact fun _ => reads_nil.imp (fun _ he => he) (by simp)
  | @cons n s ns parts hs _ ih =>
      intro wrapped
      have hpart := (reads_gap mode wrapped n).append (fun _ he => he) (reads_part mode hs)
      have hparts := hpart.append (fun _ he => he) (ih (!n.isVerbatim))
      rw [List.map_cons, List.zip_cons_cons, assemble_cons, String.toList_append,
        String.toList_append]
      exact hparts.imp (fun _ he => he) (by simp)

end Document

end Node

namespace Typesetting

open Node Superscript

/-- A superscript stands directly behind a superscript in what is typeset exactly if, somewhere
in the expressions of the source, the base of a power ends with a power or an exponential. -/
theorem doubleSuperscript_iff_stacksPowers {options : Options} {source latex : String}
    (h : Typesets options source latex) :
    DoubleSuperscript latex.toList ↔ ∃ n ∈ expressions source, n.StacksPowers := by
  obtain ⟨parts, hparts, rfl⟩ := exists_parts h
  have hreads := reads_assemble options.mode (hparts.imp fun n s hn => hn.1.readsAsTree hn.2) false
  obtain ⟨edge, bases, -, hread, hbases⟩ := hreads start nofun
  rw [doubleSuperscript_iff hread, hbases]
  simp [start]

/-- The base of the first power is a difference that ends with an exponential; the base of the
second one is in parentheses. -/
theorem doubleSuperscript_iff_stacksPowers_difference :
    Typesets ⟨.inline, false⟩ "pow(1 - exp(x), n)\n(x^2)^y"
        "$1.0 - e^\x7bx\x7d^\x7bn\x7d$\n$(x^\x7b2.0\x7d)^\x7by\x7d$" ∧
      DoubleSuperscript
        "$1.0 - e^\x7bx\x7d^\x7bn\x7d$\n$(x^\x7b2.0\x7d)^\x7by\x7d$".toList := by
  have h : Typesets ⟨.inline, false⟩ "pow(1 - exp(x), n)\n(x^2)^y"
      "$1.0 - e^\x7bx\x7d^\x7bn\x7d$\n$(x^\x7b2.0\x7d)^\x7by\x7d$" :=
    typesets_iff.mpr ⟨_, rfl, rfl⟩
  refine ⟨h, (doubleSuperscript_iff_stacksPowers h).mpr ⟨_, List.mem_cons_self, ?_⟩⟩
  exact .here rfl (.last rfl .exp)

/-- The power of an exponential, with nothing between the two superscripts. -/
theorem doubleSuperscript_of_exp :
    Typesets ⟨.plain, false⟩ "exp(x)^n" "e^\x7bx\x7d^\x7bn\x7d" ∧
      DoubleSuperscript "e^\x7bx\x7d^\x7bn\x7d".toList :=
  ⟨typesets_iff.mpr ⟨_, rfl, rfl⟩, ['e'], ['x'], ['\x7b', 'n', '\x7d'],
    .char (by decide) (by decide) .nil, rfl⟩

end Typesetting

end PlainMath
