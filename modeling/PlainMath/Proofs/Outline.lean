/-
# `Proofs.Outline` — what of a LaTeX text stands outside brackets

Each character of a text is a `Stroke`, and the control words that matter are told by the
letters behind their backslash.  Brackets are those of the text, and also the signs of a ceiling
or a floor and the two ends of an environment.  The `outer` strokes are those that stand in no
bracket; a bracket leaves one stroke of no meaning.

    a filled template is read piece by piece             (`strokes_fill`)
    its outer strokes are its own and those of the
    arguments that it does not put into brackets         (`outer_fill`)
    every template shows its arguments in a few ways     (`Func.outlines_form`)
    so the LaTeX of every tree has an outline            (`Node.Outlined`, `Node.Proper.renders`)
-/
import Mathlib.Logic.Relation
import PlainMath.Proofs.Spelling

namespace PlainMath

/-! ## Strokes -/

/-- What a character of a text is to someone who looks for sums. -/
inductive Stroke where
  | opening
  | closing
  /-- The sign of an integral or a quantifier. -/
  | binder
  | comma
  /-- A bar or a dollar, which opens and closes. -/
  | fence
  /-- What can stand between an operand and what follows it. -/
  | gap
  | sign
  | other
  deriving DecidableEq

namespace Stroke

/-- The characters that are not of the sort `other`, control words apart. -/
def table : List (Char × Stroke) :=
  Bracket.all.flatMap (fun b => [(b.openChar, .opening), (b.closeChar, .closing)]) ++
    [(',', .comma), ('|', .fence), ('$', .fence), (' ', .gap), ('^', .gap), ('+', .sign),
      ('-', .sign)]

def ofChar (c : Char) : Stroke := (table.lookup c).getD .other

theorem ofChar_cases (c : Char) : ofChar c = .other ∨ (c, ofChar c) ∈ table := by
  unfold ofChar
  cases h : table.lookup c with
  | none => exact .inl rfl
  | some m => exact .inr (Lexeme.lookup_mem h)

/-- The control words that are not of the sort `other`. -/
def words : List (String × Stroke) :=
  [("lceil", .opening), ("lfloor", .opening), ("begin", .opening), ("rceil", .closing),
    ("rfloor", .closing), ("end", .closing), ("int", .binder), ("forall", .binder),
    ("exists", .binder)]

def ofWord (name : String) : Stroke := (words.lookup name).getD .other

/-- A character as a stroke, if these characters follow it.  The letters of a control word come
behind the stroke of its backslash, as strokes of no meaning. -/
def read (c : Char) (cs : List Char) : Stroke :=
  if c = '\\' then ofWord (String.ofList (cs.takeWhile Char.isAlpha)) else ofChar c

end Stroke

/-- The strokes of a text. -/
def strokes : List Char → List Stroke
  | [] => []
  | c :: cs => .read c cs :: strokes cs

/-- Whether the text does not end within a control word. -/
def settled : List Char → Bool
  | [] => true
  | c :: cs => (c != '\\' || cs.any (!·.isAlpha)) && settled cs

/-- The text does not begin with a letter, so that it does not go on with a control word. -/
def NoLetterFirst (t : List Char) : Prop := ∀ c ∈ t.head?, c.isAlpha = false

theorem takeWhile_append_of_any {p : Char → Bool} {s : List Char} (h : s.any (!p ·) = true)
    (t : List Char) : (s ++ t).takeWhile p = s.takeWhile p := by
  induction s with
  | nil => cases h
  | cons c s ih =>
      cases hc : p c with
      | false => simp [hc]
      | true =>
          simp only [List.any_cons, hc, Bool.not_true, Bool.false_or] at h
          simp [hc, ih h]

theorem takeWhile_append_of_head {p : Char → Bool} {t : List Char}
    (ht : ∀ c ∈ t.head?, p c = false) (s : List Char) :
    (s ++ t).takeWhile p = s.takeWhile p := by
  induction s with
  | nil =>
      cases t with
      | nil => rfl
      | cons c t => simp [ht c rfl]
  | cons c s ih => cases hc : p c <;> simp [hc, ih]

theorem strokes_append {s t : List Char} (h : settled s = true ∨ NoLetterFirst t) :
    strokes (s ++ t) = strokes s ++ strokes t := by
  induction s with
  | nil => rfl
  | cons c s ih =>
      have hs : settled s = true ∨ NoLetterFirst t :=
        h.imp_left fun h => ((Bool.and_eq_true _ _).mp h).2
      have hread : Stroke.read c (s ++ t) = Stroke.read c s := by
        unfold Stroke.read
        split
        · next hc =>
            rcases h with h | h
            · simp only [settled, hc, bne_self_eq_false, Bool.false_or, Bool.and_eq_true] at h
              rw [takeWhile_append_of_any h.1]
            · rw [takeWhile_append_of_head h]
        · rfl
      rw [List.cons_append, strokes, strokes, hread, ih hs, List.cons_append]

/-! ## Outer strokes -/

/-- How many brackets are open behind the strokes, if so many are before them. -/
def depth : Nat → List Stroke → Nat
  | d, [] => d
  | d, .opening :: ms => depth (d + 1) ms
  | d, .closing :: ms => depth (d - 1) ms
  | d, _ :: ms => depth d ms

/-- The strokes that stand in no bracket, if so many are open before them. -/
def outer : Nat → List Stroke → List Stroke
  | _, [] => []
  | 0, .opening :: ms => .other :: outer 1 ms
  | d + 1, .opening :: ms => outer (d + 2) ms
  | 0, .closing :: ms => .other :: outer 0 ms
  | d + 1, .closing :: ms => outer d ms
  | 0, m :: ms => m :: outer 0 ms
  | d + 1, _ :: ms => outer (d + 1) ms

theorem depth_append (u v : List Stroke) : ∀ d, depth d (u ++ v) = depth (depth d u) v := by
  induction u with
  | nil => exact fun _ => rfl
  | cons m u ih =>
      intro d
      cases m <;> exact ih _

theorem outer_append (u v : List Stroke) :
    ∀ d, outer d (u ++ v) = outer d u ++ outer (depth d u) v := by
  induction u with
  | nil => exact fun _ => rfl
  | cons m u ih =>
      intro d
      cases d with
      | zero =>
          cases m <;> simp only [List.cons_append, outer, depth, ih, Nat.zero_sub, Nat.zero_add]
      | succ d =>
          cases m <;> simp only [List.cons_append, outer, depth, ih, Nat.add_sub_cancel]

/-- The strokes close what they open and nothing else. -/
structure Balanced (ms : List Stroke) : Prop where
  depth_eq : ∀ d, depth d ms = d
  outer_eq : ∀ d, outer (d + 1) ms = []

theorem Balanced.nil : Balanced [] := ⟨fun _ => rfl, fun _ => rfl⟩

/-- Strokes without brackets. -/
def Flat (ms : List Stroke) : Prop := ∀ m ∈ ms, m ≠ .opening ∧ m ≠ .closing

theorem Flat.balanced {ms : List Stroke} (h : Flat ms) : Balanced ms ∧ outer 0 ms = ms := by
  induction ms with
  | nil => exact ⟨.nil, rfl⟩
  | cons m ms ih =>
      obtain ⟨hm, hms⟩ := List.forall_mem_cons.mp h
      obtain ⟨hbalanced, houter⟩ := ih hms
      cases m with
      | opening => exact absurd rfl hm.1
      | closing => exact absurd rfl hm.2
      | _ => exact ⟨⟨hbalanced.depth_eq, hbalanced.outer_eq⟩, congrArg _ houter⟩

/-- Whether the strokes close what they open and, besides, so many brackets that are open. -/
def closesFrom : Nat → List Stroke → Bool
  | k, [] => k == 0
  | k, .opening :: ms => closesFrom (k + 1) ms
  | 0, .closing :: _ => false
  | k + 1, .closing :: ms => closesFrom k ms
  | k, _ :: ms => closesFrom k ms

/-- Strokes that close what they open can be cut anywhere: up to there they open so many brackets
more than they close, and only their outermost brackets can be seen from outside. -/
theorem closesFrom_append {u v : List Stroke} : ∀ {k : Nat}, closesFrom k (u ++ v) = true →
    ∃ k', closesFrom k' v = true ∧
      ∀ e, k ≤ e → depth e u + k = e + k' ∧ (k < e → outer e u = []) := by
  induction u with
  | nil => exact fun h => ⟨_, h, fun _ _ => ⟨rfl, fun _ => rfl⟩⟩
  | cons m u ih =>
      intro k h
      cases m with
      | opening =>
          obtain ⟨k', hv, hu⟩ := ih (show closesFrom (k + 1) (u ++ v) = true from h)
          refine ⟨k', hv, fun e he => ?_⟩
          obtain ⟨hdepth, houter⟩ := hu (e + 1) (Nat.succ_le_succ he)
          refine ⟨?_, fun hlt => ?_⟩
          · rw [depth]
            omega
          · obtain ⟨e, rfl⟩ := Nat.exists_eq_succ_of_ne_zero (Nat.ne_zero_of_lt hlt)
            exact houter (Nat.succ_lt_succ hlt)
      | closing =>
          cases k with
          | zero => cases h
          | succ k =>
              obtain ⟨k', hv, hu⟩ := ih (show closesFrom k (u ++ v) = true from h)
              refine ⟨k', hv, fun e he => ?_⟩
              obtain ⟨e, rfl⟩ := Nat.exists_eq_succ_of_ne_zero (Nat.ne_zero_of_lt he)
              obtain ⟨hdepth, houter⟩ := hu e (Nat.le_of_succ_le_succ he)
              refine ⟨?_, fun hlt => houter (Nat.lt_of_succ_lt_succ hlt)⟩
              have heq : depth (e + 1) (.closing :: u) = depth e u := rfl
              rw [heq]
              omega
      | _ =>
          obtain ⟨k', hv, hu⟩ := ih (k := k) h
          refine ⟨k', hv, fun e he => ?_⟩
          obtain ⟨hdepth, houter⟩ := hu e he
          refine ⟨hdepth, fun hlt => ?_⟩
          obtain ⟨e, rfl⟩ := Nat.exists_eq_succ_of_ne_zero (Nat.ne_zero_of_lt hlt)
          exact houter hlt

/-! ## Templates -/

/-- Whether the piece does not begin with a letter, whatever the arguments are. -/
def Piece.beginsSoftly : Piece → Bool
  | .text s => s.toList.head?.any (!·.isAlpha)
  | .control _ | .opening _ | .closing _ => true
  | .arg _ => false

/-- Whether no piece runs into the next one. -/
def Template.legible : Template → Bool
  | [] => true
  | .text s :: t => settled s.toList && legible t
  | .opening _ :: t | .closing _ :: t => legible t
  | .control _ :: t | .arg _ :: t => t.head?.all Piece.beginsSoftly && legible t

section Fill
variable {args : List String}

/-- The strokes of a filled piece. -/
def Piece.strokes (args : List String) (p : Piece) : List Stroke :=
  PlainMath.strokes (p.fill args).toList

theorem noLetterFirst_fill {t : Template} (h : t.head?.all Piece.beginsSoftly = true) :
    NoLetterFirst (t.fill args).toList := by
  cases t with
  | nil => exact nofun
  | cons p t =>
      have hp : p.beginsSoftly = true := h
      rw [Template.fill_cons, String.toList_append]
      cases p with
      | text s =>
          cases hs : s.toList with
          | nil => simp [Piece.beginsSoftly, hs] at hp
          | cons c cs =>
              rintro d hd
              simp only [Piece.fill, hs] at hd
              cases hd
              simpa [Piece.beginsSoftly, hs] using hp
      | control name =>
          rintro c hc
          simp [Piece.fill] at hc
          subst hc
          decide
      | opening b | closing b =>
          rintro c hc
          simp [Piece.fill] at hc
          subst hc
          cases b <;> decide
      | arg i => cases hp

/-- Nothing runs from the first piece into the others. -/
theorem Template.legible_cons {p : Piece} {t : Template} (h : Template.legible (p :: t) = true) :
    (settled (p.fill args).toList = true ∨ t.head?.all Piece.beginsSoftly = true) ∧
      t.legible = true := by
  cases p with
  | text s => exact ((Bool.and_eq_true _ _).mp h).imp_left .inl
  | opening b => exact ⟨.inl (by cases b <;> simp [Piece.fill, settled, Bracket.openChar]), h⟩
  | closing b => exact ⟨.inl (by cases b <;> simp [Piece.fill, settled, Bracket.closeChar]), h⟩
  | control | arg => exact ((Bool.and_eq_true _ _).mp h).imp_left .inr

/-- Whoever reads texts side by side where none runs into the next one can read a filled template
piece by piece. -/
theorem Template.read_fill {α : Type} {read : List Char → List α} (hnil : read [] = [])
    (happend : ∀ {s t : List Char}, settled s = true ∨ NoLetterFirst t →
      read (s ++ t) = read s ++ read t) :
    ∀ {t : Template}, t.legible = true →
      read (t.fill args).toList = t.flatMap fun p => read (p.fill args).toList
  | [], _ => hnil
  | p :: t, h => by
      obtain ⟨hjoin, ht⟩ := legible_cons h
      rw [Template.fill_cons, String.toList_append, happend (hjoin.imp_right noLetterFirst_fill),
        read_fill hnil happend ht, List.flatMap_cons]

theorem strokes_fill {t : Template} (h : t.legible = true) :
    strokes (t.fill args).toList = t.flatMap (Piece.strokes args) :=
  Template.read_fill rfl strokes_append h

/-- All arguments close what they open. -/
abbrev BalancedArgs (args : List String) : Prop := ∀ s ∈ args, Balanced (strokes s.toList)

theorem BalancedArgs.getD (hargs : BalancedArgs args) (i : Nat) :
    Balanced (strokes (args.getD i "").toList) := by
  rw [List.getD_eq_getElem?_getD]
  cases h : args[i]? with
  | none => exact .nil
  | some s => exact hargs s (List.mem_of_getElem? h)

/-- A template closes what it opens if it does so without arguments. -/
theorem closes_fill (hargs : BalancedArgs args) : ∀ {t : Template} {k : Nat},
    closesFrom k (t.flatMap (Piece.strokes [])) = true →
    ∀ e, k ≤ e → depth e (t.flatMap (Piece.strokes args)) + k = e ∧
      (k < e → outer e (t.flatMap (Piece.strokes args)) = [])
  | [], k, h, e, he => by
      obtain rfl : k = 0 := by simpa [closesFrom] using h
      exact ⟨rfl, fun _ => rfl⟩
  | p :: t, k, h, e, he => by
      rw [List.flatMap_cons] at h ⊢
      obtain ⟨k', ht, hp⟩ := closesFrom_append h
      have hpiece : depth e (p.strokes args) + k = e + k' ∧
          (k < e → outer e (p.strokes args) = []) := by
        cases p with
        | arg i =>
            have harg := hargs.getD i
            have hk : k' = k := by
              have hempty := (hp e he).1
              simp only [Piece.strokes, Piece.fill, List.getD_nil, String.toList_empty, strokes,
                depth] at hempty
              omega
            refine ⟨by rw [hk]; exact congrArg (· + k) (harg.depth_eq e), fun hlt => ?_⟩
            obtain ⟨e, rfl⟩ := Nat.exists_eq_succ_of_ne_zero (Nat.ne_zero_of_lt hlt)
            exact harg.outer_eq e
        | _ => exact hp e he
      have hrest := closes_fill hargs ht (depth e (p.strokes args)) (by omega)
      rw [depth_append, outer_append]
      refine ⟨by omega, fun hlt => ?_⟩
      rw [hpiece.2 hlt, hrest.2 (by omega), List.nil_append]

theorem balanced_fill (hargs : BalancedArgs args) {t : Template}
    (h : closesFrom 0 (t.flatMap (Piece.strokes [])) = true) :
    Balanced (t.flatMap (Piece.strokes args)) where
  depth_eq d := (closes_fill hargs h d (Nat.zero_le d)).1
  outer_eq d := (closes_fill hargs h (d + 1) (Nat.zero_le _)).2 (Nat.succ_pos d)

/-- Whether no piece runs into the next one and the template closes what it opens. -/
def Template.orderly (t : Template) : Bool :=
  t.legible && closesFrom 0 (t.flatMap (Piece.strokes []))

theorem Template.balanced_strokes {t : Template} (ht : t.orderly = true)
    (hargs : BalancedArgs args) : Balanced (PlainMath.strokes (t.fill args).toList) := by
  obtain ⟨hlegible, hcloses⟩ := (Bool.and_eq_true _ _).mp ht
  rw [strokes_fill hlegible]
  exact balanced_fill hargs hcloses

/-- The outer strokes of a template before its first argument that stands in no bracket, and for
each such argument its index and the outer strokes behind it. -/
def Template.arrange : Nat → Template → List Stroke × List (Nat × List Stroke)
  | _, [] => ([], [])
  | 0, .arg i :: t => ([], (i, (arrange 0 t).1) :: (arrange 0 t).2)
  | d + 1, .arg _ :: t => arrange (d + 1) t
  | d, p :: t =>
    let ms := p.strokes []
    (outer d ms ++ (arrange (depth d ms) t).1, (arrange (depth d ms) t).2)

/-- The outer strokes of arguments with strokes behind each of them. -/
def expand (args : List String) (shown : List (Nat × List Stroke)) : List Stroke :=
  shown.flatMap fun p => outer 0 (strokes (args.getD p.1 "").toList) ++ p.2

/-- The outer strokes of a filled template are its own and those of the arguments that it shows. -/
theorem outer_fill (hargs : BalancedArgs args) : ∀ (t : Template) (d : Nat),
    outer d (t.flatMap (Piece.strokes args)) = (t.arrange d).1 ++ expand args (t.arrange d).2
  | [], d => rfl
  | p :: t, d => by
      have hstep : ∀ {p : Piece}, (∀ i, p ≠ .arg i) →
          outer d ((p :: t).flatMap (Piece.strokes args)) =
            (Template.arrange d (p :: t)).1 ++ expand args (Template.arrange d (p :: t)).2 := by
        intro p hp
        have harrange : Template.arrange d (p :: t) =
            (outer d (p.strokes []) ++ (Template.arrange (depth d (p.strokes [])) t).1,
              (Template.arrange (depth d (p.strokes [])) t).2) := by
          cases p with
          | arg i => exact absurd rfl (hp i)
          | _ => cases d <;> rfl
        have hpiece : p.strokes args = p.strokes [] := by
          cases p with
          | arg i => exact absurd rfl (hp i)
          | _ => rfl
        rw [harrange, List.flatMap_cons, outer_append, hpiece, outer_fill hargs t,
          List.append_assoc]
      cases p with
      | arg i =>
          have harg : Balanced (Piece.strokes args (.arg i)) := hargs.getD i
          rw [List.flatMap_cons, outer_append, harg.depth_eq, outer_fill hargs t]
          cases d with
          | zero => simp only [Template.arrange, expand, List.flatMap_cons, List.append_assoc]; rfl
          | succ d => rw [harg.outer_eq]; rfl
      | text | control | opening | closing => exact hstep nofun

end Fill

/-! ## What a tree shows outside brackets -/

namespace Func

/-- The indices of the arguments that the function does not put into brackets, if it has so many
of them. -/
def shown (f : Func) (count : Nat) : List Nat :=
  match f.form with
  | .shapes templates =>
    match templates.lookup count with
    | some t => (t.arrange 0).2.map Prod.fst
    | none => []
  | .environment _ => []

def isQuantifier : Func → Bool
  | .forAll | .thereIs => true
  | _ => false

/-- Whether the argument stands between the sign of an integral or a quantifier and the comma
that belongs to it. -/
def binds (f : Func) (count i : Nat) : Bool :=
  i == 0 && (f == .integral || f.isQuantifier && count == 2)

end Func

namespace Node

/-- The second tree is a part of the first one, and its LaTeX stands in no bracket there.  Bars
and dollars may count as brackets too, and so may the sign of an integral or a quantifier and
the comma that belongs to it. -/
inductive Shows (bars commas : Bool) : Node → Node → Prop where
  | left {op : Operator} {l r : Node} :
      op ≠ .fraction → Shows bars commas (.binary (.operator op) l r) l
  | right {op : Operator} {l r : Node} :
      op ≠ .fraction → op ≠ .power → Shows bars commas (.binary (.operator op) l r) r
  | operand {op : Kind} {n : Node} : Shows bars commas (.unary op n) n
  | argument {f : Func} {name : String} {args : List Node} {i : Nat} {n : Node} :
      i ∈ f.shown args.length → args[i]? = some n → (bars = true → f ≠ .abs) →
      (commas = true → f.binds args.length i = false) →
      Shows bars commas (.call (.func f) name args) n
  | inlineMath {n : Node} : bars = false → Shows bars commas (.inlineMath n) n
  | displayMath {n : Node} : bars = false → Shows bars commas (.displayMath n) n

/-- The second tree stands in no bracket of the first one. -/
def StandsOpen (bars commas : Bool) : Node → Node → Prop :=
  Relation.ReflTransGen (Shows bars commas)

end Node

/-! ## The outline of a tree -/

/-- Only strokes that hold two operands apart. -/
def Quiet (ms : List Stroke) : Prop := ∀ m ∈ ms, m = .other ∨ m = .gap

/-- The strokes of something that shows no part of it: no gap stands beside a sign. -/
def Plain (ms : List Stroke) : Prop :=
  ∃ rest, ms = .other :: rest ∧ (Quiet rest ∨ ∀ m ∈ rest, m = .other ∨ m = .sign)

instance (ms : List Stroke) : Decidable (Quiet ms) := inferInstanceAs (Decidable (∀ m ∈ ms, _))

/-- Whether the strokes are quiet and end with a gap. -/
def endsQuietly (ms : List Stroke) : Bool := decide (Quiet ms) && ms.getLast? == some .gap

theorem exists_of_endsQuietly {ms : List Stroke} (h : endsQuietly ms = true) :
    ∃ ms', ms = ms' ++ [.gap] ∧ Quiet ms' := by
  obtain ⟨hms, hlast⟩ := (Bool.and_eq_true _ _).mp h
  refine ⟨ms.dropLast, (List.dropLast_append_getLast? _ (eq_of_beq hlast)).symm, fun m hm => ?_⟩
  exact of_decide_eq_true hms m (List.mem_of_mem_dropLast hm)

namespace Node

/-- The tree has these outer strokes. -/
inductive Outlined : Node → List Stroke → Prop where
  | plain {n : Node} {ms : List Stroke} : Plain ms → Outlined n ms
  | bar : Outlined (.text "|") [.fence]
  | sum {op : Operator} {l r : Node} {u v : List Stroke} :
      op.isAdditive = true → Outlined l u → Outlined r v →
      Outlined (.binary (.operator op) l r) (u ++ .gap :: .sign :: .gap :: v)
  | signed {op : Kind} {n : Node} {u : List Stroke} :
      Outlined n u → Outlined (.unary op n) (.sign :: u)
  /-- An operand first: powers. -/
  | leading {n m : Node} {u ms : List Stroke} :
      (∀ bars commas, Shows bars commas n m) → Outlined m u → Quiet ms →
      Outlined n (u ++ .gap :: ms)
  /-- An operand last: large operators. -/
  | trailing {n m : Node} {u ms : List Stroke} :
      (∀ bars commas, Shows bars commas n m) → Quiet ms → Outlined m u →
      Outlined n (.other :: (ms ++ .gap :: u))
  /-- Two operands with anything but a sign between them. -/
  | between {n l r : Node} {u v ms : List Stroke} :
      (∀ bars commas, Shows bars commas n l) → (∀ bars commas, Shows bars commas n r) →
      Outlined l u → Quiet ms → Outlined r v → Outlined n (u ++ .gap :: (ms ++ .gap :: v))
  /-- An operand between bars or dollars. -/
  | fenced {n m : Node} {u : List Stroke} (k : Nat) :
      (∀ commas, Shows false commas n m) → Outlined m u →
      Outlined n (List.replicate (k + 1) .fence ++ (u ++ List.replicate (k + 1) .fence))
  /-- A quantifier over one operand. -/
  | bound {f : Func} {name : String} {n : Node} {u ms : List Stroke} :
      f.isQuantifier = true → Quiet ms → Outlined n u →
      Outlined (.call (.func f) name [n]) (.binder :: (ms ++ .gap :: u))
  /-- An integral, or a quantifier over two operands. -/
  | binding {n l r : Node} {u v ms ms' : List Stroke} :
      (∀ bars, Shows bars false n l) → (∀ bars commas, Shows bars commas n r) →
      Quiet ms → Outlined l u → (ms' = [] ∨ ms' = [.other]) → Outlined r v →
      Outlined n (.binder :: (ms ++ .gap :: (u ++ .gap :: .other :: .comma :: .gap :: (ms' ++ v))))

/-- The text has the brackets and the outline of the tree. -/
structure Renders (n : Node) (s : String) : Prop where
  balanced : Balanced (strokes s.toList)
  outlined : Outlined n (outer 0 (strokes s.toList))

/-- A filled template has the outline that its arrangement gives. -/
theorem renders_fill {n : Node} {t : Template} {parts : List String} (ht : t.orderly = true)
    (hparts : BalancedArgs parts)
    (h : Outlined n ((t.arrange 0).1 ++ expand parts (t.arrange 0).2)) :
    Renders n (t.fill parts) := by
  refine ⟨t.balanced_strokes ht hparts, ?_⟩
  rw [strokes_fill ((Bool.and_eq_true _ _).mp ht).1, outer_fill hparts]
  exact h

section Arranged
variable {n : Node} {kids : List Node} {parts : List String}

theorem balancedArgs_of_renders (h : List.Forall₂ Renders kids parts) : BalancedArgs parts := by
  induction h with
  | nil => exact nofun
  | cons hs _ ih => exact List.forall_mem_cons.mpr ⟨hs.balanced, ih⟩

theorem forall₂_getD {R : Node → String → Prop} (h : List.Forall₂ R kids parts) :
    ∀ {i : Nat} {m : Node}, kids[i]? = some m → R m (parts.getD i "") := by
  induction h with
  | nil => exact nofun
  | cons hs _ ih =>
      intro i m hm
      cases i with
      | zero =>
          cases hm
          exact hs
      | succ i => exact ih hm

/-- Whether the arguments that a template shows are free ones, with anything but a sign between
them. -/
def arranged (free : Nat → Bool) : List Stroke × List (Nat × List Stroke) → Bool
  | (.other :: ms, []) => decide (Quiet ms)
  | ([], [(i, .gap :: ms)]) => decide (Quiet ms) && free i
  | (.other :: ms, [(i, [])]) => endsQuietly ms && free i
  | ([], [(i, .gap :: ms), (j, [])]) => endsQuietly ms && (free i && free j)
  | _ => false

theorem outlined_of_arranged {free : Nat → Bool}
    (hfree : ∀ i, free i = true →
      ∃ m, (∀ bars commas, Shows bars commas n m) ∧ Renders m (parts.getD i ""))
    {shape : List Stroke × List (Nat × List Stroke)} (h : arranged free shape = true) :
    Outlined n (shape.1 ++ expand parts shape.2) := by
  unfold arranged at h
  split at h
  · exact .plain ⟨_, by simp [expand], .inl (of_decide_eq_true h)⟩
  · obtain ⟨hms, hi⟩ := (Bool.and_eq_true _ _).mp h
    obtain ⟨m, hshows, hm⟩ := hfree _ hi
    simpa [expand] using Outlined.leading hshows hm.outlined (of_decide_eq_true hms)
  · obtain ⟨hms, hi⟩ := (Bool.and_eq_true _ _).mp h
    obtain ⟨m, hshows, hm⟩ := hfree _ hi
    obtain ⟨ms', rfl, hms'⟩ := exists_of_endsQuietly hms
    simpa [expand] using Outlined.trailing hshows hms' hm.outlined
  · obtain ⟨hms, hfrees⟩ := (Bool.and_eq_true _ _).mp h
    obtain ⟨hi, hj⟩ := (Bool.and_eq_true _ _).mp hfrees
    obtain ⟨l, hshowsl, hl⟩ := hfree _ hi
    obtain ⟨r, hshowsr, hr⟩ := hfree _ hj
    obtain ⟨ms', rfl, hms'⟩ := exists_of_endsQuietly hms
    simpa [expand] using Outlined.between hshowsl hshowsr hl.outlined hms' hr.outlined
  · cases h

theorem outlined_of_closed {shape : List Stroke × List (Nat × List Stroke)}
    (h : arranged (fun _ => false) shape = true) : Outlined n (shape.1 ++ expand parts shape.2) :=
  outlined_of_arranged (fun _ h => absurd h Bool.false_ne_true) h

end Arranged

/-! ## Operators -/

/-- The template of an operator between two operands. -/
def operatorTemplate : Operator → Template
  | .fraction =>
    .control "frac" :: Template.enclosed .brace [.arg 0] ++ Template.enclosed .brace [.arg 1]
  | .power => [.arg 0, .text "^"] ++ Template.enclosed .brace [.arg 1]
  | .plus => Template.between (.text "+")
  | .minus => Template.between (.text "-")
  | .times => Template.between (.text "*")
  | .over => Template.between (.text "/")
  | .modulo => Template.between (.control "bmod")
  | .equals => []

theorem join_eq_fill {op : Operator} {join : String → String → String}
    (h : join? (.operator op) = some join) (l r : String) :
    join l r = (operatorTemplate op).fill [l, r] := by
  apply String.toList_inj.mp
  cases op with
  | equals => cases h
  | _ =>
      cases h
      simp [operatorTemplate, Template.between, Template.enclosed, Template.fill, Piece.fill,
        spaced, braces, String.join_cons, Bracket.openChar, Bracket.closeChar]

/-- Which operands an operator puts into no bracket. -/
def operandFree (op : Operator) (i : Nat) : Bool :=
  op != .fraction && (i == 0 || i == 1 && op != .power)

theorem shows_operand {op : Operator} {l r : Node} {sl sr : String} (hl : Renders l sl)
    (hr : Renders r sr) {i : Nat} (h : operandFree op i = true) :
    ∃ m, (∀ bars commas, Shows bars commas (.binary (.operator op) l r) m) ∧
      Renders m ([sl, sr].getD i "") := by
  simp only [operandFree, Bool.and_eq_true, Bool.or_eq_true, bne_iff_ne, beq_iff_eq] at h
  obtain ⟨hfraction, rfl | ⟨rfl, hpower⟩⟩ := h
  · exact ⟨l, fun _ _ => .left hfraction, hl⟩
  · exact ⟨r, fun _ _ => .right hfraction hpower, hr⟩

theorem arranged_operator {op : Operator} (hop : op ≠ .equals) (hsum : op.isAdditive = false) :
    arranged (operandFree op) ((operatorTemplate op).arrange 0) = true := by
  cases op with
  | equals => exact absurd rfl hop
  | plus | minus => cases hsum
  | _ => decide

theorem arrange_additive {op : Operator} (h : op.isAdditive = true) :
    (operatorTemplate op).arrange 0 = ([], [(0, [.gap, .sign, .gap]), (1, [])]) := by
  cases op with
  | plus | minus => decide
  | _ => cases h

theorem orderly_operator (op : Operator) : (operatorTemplate op).orderly = true := by
  cases op <;> decide

/-- The outline of a sum. -/
theorem outer_sum {op : Operator} {sl sr : String} (hop : op.isAdditive = true)
    (hargs : BalancedArgs [sl, sr]) :
    outer 0 (strokes ((operatorTemplate op).fill [sl, sr]).toList) =
      outer 0 (strokes sl.toList) ++ .gap :: .sign :: .gap :: outer 0 (strokes sr.toList) := by
  have hlegible := ((Bool.and_eq_true _ _).mp (orderly_operator op)).1
  rw [strokes_fill hlegible, outer_fill hargs, arrange_additive hop]
  simp [expand]

theorem renders_binary {op : Operator} {l r : Node} {sl sr : String} (hop : op ≠ .equals)
    (hl : Renders l sl) (hr : Renders r sr) :
    Renders (.binary (.operator op) l r) ((operatorTemplate op).fill [sl, sr]) := by
  have hparts : List.Forall₂ Renders [l, r] [sl, sr] := .cons hl (.cons hr .nil)
  have hargs := balancedArgs_of_renders hparts
  cases hsum : op.isAdditive with
  | true =>
      refine ⟨Template.balanced_strokes (orderly_operator op) hargs, ?_⟩
      rw [outer_sum hsum hargs]
      exact .sum hsum hl.outlined hr.outlined
  | false =>
      refine renders_fill (orderly_operator op) hargs ?_
      exact outlined_of_arranged (fun _ => shows_operand hl hr) (arranged_operator hop hsum)

theorem renders_unary {op : Operator} {n : Node} {s sign : String}
    (hsign : sign? (.operator op) = some sign) (hn : Renders n s) :
    Renders (.unary (.operator op) n) (sign ++ s) := by
  have hstrokes : strokes (sign ++ s).toList = .sign :: strokes s.toList := by
    rw [String.toList_append]
    cases op with
    | plus | minus =>
        cases hsign
        rfl
    | _ => cases hsign
  constructor
  · rw [hstrokes]
    exact ⟨hn.balanced.depth_eq, hn.balanced.outer_eq⟩
  · rw [hstrokes]
    exact .signed hn.outlined

/-! ## Brackets and dollars -/

theorem renders_grouping {n : Node} {s : String} (hn : Renders n s) :
    Renders (.grouping n) ("(" ++ s ++ ")") := by
  have hparts : List.Forall₂ Renders [n] [s] := .cons hn .nil
  have hfill : "(" ++ s ++ ")" = (Template.enclosed .paren [.arg 0]).fill [s] := by
    apply String.toList_inj.mp
    simp [Template.enclosed, Template.fill, Piece.fill, String.join_cons, Bracket.openChar,
      Bracket.closeChar]
  rw [hfill]
  refine renders_fill (by decide) (balancedArgs_of_renders hparts) ?_
  exact outlined_of_closed (by decide)

/-- A tree between bars or dollars. -/
theorem renders_fenced {n m : Node} {s : String} {t : Template} {k : Nat} (ht : t.orderly = true)
    (harrange : t.arrange 0 =
      (List.replicate (k + 1) .fence, [(0, List.replicate (k + 1) .fence)]))
    (hshows : ∀ commas, Shows false commas n m) (hm : Renders m s) : Renders n (t.fill [s]) := by
  have hparts : List.Forall₂ Renders [m] [s] := .cons hm .nil
  refine renders_fill ht (balancedArgs_of_renders hparts) ?_
  rw [harrange]
  simpa [expand] using Outlined.fenced k hshows hm.outlined

/-- An argument between two texts. -/
theorem wrap_eq_fill (fence s : String) :
    fence ++ s ++ fence = Template.fill [.text fence, .arg 0, .text fence] [s] := by
  apply String.toList_inj.mp
  simp [Template.fill, Piece.fill, String.join_cons]

theorem renders_inlineMath {n : Node} {s : String} (hn : Renders n s) :
    Renders (.inlineMath n) (Mode.inline.wrap s) := by
  rw [Mode.wrap, wrap_eq_fill]
  exact renders_fenced (k := 0) (by decide) (by decide) (fun _ => .inlineMath rfl) hn

theorem renders_displayMath {n : Node} {s : String} (hn : Renders n s) :
    Renders (.displayMath n) (Mode.display.wrap s) := by
  rw [Mode.wrap, wrap_eq_fill]
  exact renders_fenced (k := 1) (by decide) (by decide) (fun _ => .displayMath rfl) hn

/-! ## Calls -/

/-- The template of an environment, with its rows as one argument. -/
def environmentTemplate (name : String) : Template :=
  .control "begin" :: Template.enclosed .brace [.text name] ++
    [.text " ", .arg 0, .text " ", .control "end"] ++ Template.enclosed .brace [.text name]

theorem environmentLatex_eq_fill (name : String) (rows : List String) :
    Func.environmentLatex name rows =
      (environmentTemplate name).fill [" \\\\ ".intercalate rows] := by
  apply String.toList_inj.mp
  simp [Func.environmentLatex, environmentTemplate, Template.enclosed, Template.fill, Piece.fill,
    String.join_cons, Bracket.openChar, Bracket.closeChar]

/-- The first row, and the others as one argument. -/
theorem intercalate_eq_fill (s t : String) (rows : List String) :
    " \\\\ ".intercalate (s :: t :: rows) =
      Template.fill [.arg 0, .text " \\\\ ", .arg 1] [s, " \\\\ ".intercalate (t :: rows)] := by
  rw [String.intercalate_cons_cons]
  simp [Template.fill, Piece.fill, String.join_cons, String.append_assoc]

theorem balanced_intercalate : ∀ {rows : List String}, BalancedArgs rows →
    Balanced (strokes (" \\\\ ".intercalate rows).toList)
  | [], _ => .nil
  | [s], h => by simpa using h s List.mem_cons_self
  | s :: t :: rows, h => by
      have hrest := balanced_intercalate fun u hu => h u (List.mem_cons_of_mem s hu)
      rw [intercalate_eq_fill]
      refine Template.balanced_strokes (by decide) ?_
      exact List.forall_mem_cons.mpr
        ⟨h s List.mem_cons_self, List.forall_mem_singleton.mpr hrest⟩

end Node

namespace Func

/-- Whether the function leaves the argument without any bracket, bars and commas included. -/
def leavesOpen (f : Func) (count i : Nat) : Bool :=
  (f.shown count).contains i && decide (i < count) && f != .abs && !f.binds count i

/-- Whether a function with so many arguments has the sign of an integral or a quantifier, and
its first argument behind it. -/
def announces (f : Func) (count : Nat) : List Stroke × List (Nat × List Stroke) → Bool
  | (.binder :: ms, [(0, [])]) => endsQuietly ms && (f.isQuantifier && count == 1)
  | (.binder :: ms, [(0, .gap :: .other :: .comma :: .gap :: ms'), (1, [])]) =>
    endsQuietly ms && (f.leavesOpen count 1 && (ms' == [] || ms' == [.other]))
  | _ => false

/-- Whether the arguments stand in the templates as an outline wants them. -/
def outlines (f : Func) : Form → Bool
  | .shapes templates => templates.all fun p => p.2.orderly &&
      (Node.arranged (f.leavesOpen p.1) (p.2.arrange 0) || f.announces p.1 (p.2.arrange 0) ||
        f == .abs)
  | .environment name => (Node.environmentTemplate name).orderly &&
      Node.arranged (fun _ => false) ((Node.environmentTemplate name).arrange 0)

theorem outlines_form (f : Func) : f.outlines f.form = true := by
  cases f <;> decide

end Func

namespace Node

section Call
variable {f : Func} {name : String} {args : List Node} {parts : List String}

theorem leavesOpen_iff {count i : Nat} : f.leavesOpen count i = true ↔
    i ∈ f.shown count ∧ i < count ∧ f ≠ .abs ∧ f.binds count i = false := by
  simp [Func.leavesOpen, and_assoc]

theorem shows_argument (hparts : List.Forall₂ Renders args parts) {i : Nat}
    (h : f.leavesOpen args.length i = true) :
    ∃ m, (∀ bars commas, Shows bars commas (.call (.func f) name args) m) ∧
      Renders m (parts.getD i "") := by
  obtain ⟨hshown, hlt, habs, hbinds⟩ := leavesOpen_iff.mp h
  have hm := List.getElem?_eq_getElem hlt
  exact ⟨args[i], fun _ _ => .argument hshown hm (fun _ => habs) (fun _ => hbinds),
    forall₂_getD hparts hm⟩

theorem shown_of_lookup {templates : List (Nat × Template)} {t : Template} {count : Nat}
    (hform : f.form = .shapes templates) (ht : templates.lookup count = some t) :
    f.shown count = (t.arrange 0).2.map Prod.fst := by
  simp only [Func.shown, hform, ht]

theorem outlined_of_announces {templates : List (Nat × Template)} {t : Template}
    (hform : f.form = .shapes templates) (ht : templates.lookup args.length = some t)
    (hparts : List.Forall₂ Renders args parts)
    (h : f.announces args.length (t.arrange 0) = true) :
    Outlined (.call (.func f) name args) ((t.arrange 0).1 ++ expand parts (t.arrange 0).2) := by
  have hshown := shown_of_lookup hform ht
  generalize hshape : t.arrange 0 = shape at h hshown ⊢
  unfold Func.announces at h
  split at h
  · obtain ⟨hms, hcall⟩ := (Bool.and_eq_true _ _).mp h
    obtain ⟨hquantifier, hcount⟩ := (Bool.and_eq_true _ _).mp hcall
    obtain ⟨ms', rfl, hms'⟩ := exists_of_endsQuietly hms
    obtain ⟨m, rfl⟩ := List.length_eq_one_iff.mp (eq_of_beq hcount)
    simpa [expand] using Outlined.bound hquantifier hms' (forall₂_getD hparts (i := 0) rfl).outlined
  · obtain ⟨hms, hcall⟩ := (Bool.and_eq_true _ _).mp h
    obtain ⟨hopen, hms''⟩ := (Bool.and_eq_true _ _).mp hcall
    obtain ⟨ms', rfl, hms'⟩ := exists_of_endsQuietly hms
    obtain ⟨r, hshowsr, hr⟩ := shows_argument hparts hopen
    obtain ⟨-, hlt, habs, -⟩ := leavesOpen_iff.mp hopen
    have hl := List.getElem?_eq_getElem (Nat.zero_lt_of_lt hlt)
    have hshowsl : ∀ bars, Shows bars false (.call (.func f) name args) args[0] := fun _ =>
      .argument (by simp [hshown]) hl (fun _ => habs) (fun h => absurd h Bool.false_ne_true)
    have houtlined := Outlined.binding hshowsl hshowsr hms' (forall₂_getD hparts hl).outlined
      (by simpa using hms'') hr.outlined
    simpa [expand] using houtlined
  · cases h

theorem renders_shapes {templates : List (Nat × Template)} {t : Template}
    (hform : f.form = .shapes templates) (ht : templates.lookup args.length = some t)
    (hparts : List.Forall₂ Renders args parts) :
    Renders (.call (.func f) name args) (t.fill parts) := by
  have houtlines := f.outlines_form
  simp only [hform, Func.outlines, List.all_eq_true, Bool.and_eq_true, Bool.or_eq_true,
    beq_iff_eq] at houtlines
  obtain ⟨horderly, (harranged | hannounces) | rfl⟩ := houtlines _ (Lexeme.lookup_mem ht)
  · refine renders_fill horderly (balancedArgs_of_renders hparts) ?_
    exact outlined_of_arranged (fun _ => shows_argument hparts) harranged
  · refine renders_fill horderly (balancedArgs_of_renders hparts) ?_
    exact outlined_of_announces hform ht hparts hannounces
  · cases hform
    obtain ⟨hcount, rfl⟩ : args.length = 1 ∧ t = [.text "|", .arg 0, .text "|"] := by
      simpa [List.lookup_cons] using Lexeme.lookup_mem ht
    obtain ⟨m, rfl⟩ := List.length_eq_one_iff.mp hcount
    obtain ⟨s, rfl⟩ := List.length_eq_one_iff.mp (hparts.length_eq.symm.trans hcount)
    have hs : Renders m s := forall₂_getD hparts (i := 0) rfl
    refine renders_fenced (k := 0) horderly (by decide) (fun _ => ?_) hs
    have hshown : 0 ∈ Func.abs.shown 1 := by decide
    exact .argument hshown rfl nofun fun _ => rfl

theorem renders_call {s : String} (hparts : List.Forall₂ Renders args parts)
    (h : f.latex? parts = some s) : Renders (.call (.func f) name args) s := by
  unfold Func.latex? at h
  cases hform : f.form with
  | shapes templates =>
      simp only [hform, Option.map_eq_some_iff] at h
      obtain ⟨t, ht, rfl⟩ := h
      rw [← hparts.length_eq] at ht
      exact renders_shapes hform ht hparts
  | environment name =>
      simp only [hform, Option.some.injEq] at h
      subst h
      have houtlines := f.outlines_form
      simp only [hform, Func.outlines, Bool.and_eq_true] at houtlines
      have hrows := balanced_intercalate (balancedArgs_of_renders hparts)
      rw [environmentLatex_eq_fill]
      refine renders_fill houtlines.1 (List.forall_mem_singleton.mpr hrows) ?_
      exact outlined_of_closed houtlines.2

end Call

/-! ## Leaves -/

theorem strokes_of_leaf {cs : List Char} (h : ∀ c ∈ cs, isLeafChar c = true ∧ c ≠ '\\') :
    ∀ m ∈ strokes cs, m = .other ∨ m = .sign := by
  have htable : ∀ p ∈ Stroke.table, isLeafChar p.1 = true → p.2 = .sign := by decide
  induction cs with
  | nil => exact nofun
  | cons c cs ih =>
      obtain ⟨⟨hc, hslash⟩, hcs⟩ := List.forall_mem_cons.mp h
      refine List.forall_mem_cons.mpr ⟨?_, ih hcs⟩
      rw [Stroke.read, if_neg hslash]
      exact (Stroke.ofChar_cases c).imp_right fun hmem => htable (c, .ofChar c) hmem hc

theorem strokes_of_leafStart {c : Char} {cs : List Char} (hc : isLeafStart c = true)
    (h : ∀ d ∈ c :: cs, isLeafChar d = true ∧ d ≠ '\\') :
    strokes (c :: cs) = .other :: strokes cs := by
  have htable : ∀ p ∈ Stroke.table, isLeafStart p.1 = false := by decide
  rw [strokes, Stroke.read, if_neg (h c List.mem_cons_self).2]
  rcases Stroke.ofChar_cases c with hother | hmem
  · rw [hother]
  · exact absurd hc (Bool.eq_false_iff.mp (htable (c, .ofChar c) hmem))

theorem Leaf.strokes_eq {n : Node} {s : String} (h : Leaf n s) :
    ∃ rest, strokes s.toList = .other :: rest ∧ ∀ m ∈ rest, m = .other ∨ m = .sign := by
  obtain ⟨c, cs, hs, hfirst⟩ := h.first
  have hchars := h.chars
  -- Only a symbol has a backslash.
  have hword : '\\' ∉ s.toList →
      ∃ rest, strokes s.toList = .other :: rest ∧ ∀ m ∈ rest, m = .other ∨ m = .sign := by
    intro hslash
    have hleaf : ∀ d ∈ c :: cs, isLeafChar d = true ∧ d ≠ '\\' := fun d hd =>
      ⟨hchars d (hs ▸ hd), fun heq => hslash (heq ▸ hs ▸ hd)⟩
    rw [hs]
    exact ⟨strokes cs, strokes_of_leafStart hfirst hleaf,
      strokes_of_leaf fun d hd => hleaf d (List.mem_cons_of_mem c hd)⟩
  cases h with
  | number rank =>
      refine hword ?_
      rcases Binary64.text_ofRank rank with ⟨-, d, hd, -⟩ | ⟨-, htext⟩
      · exact fun hslash => absurd (hd.chars _ hslash) (by decide)
      · rw [htext]
        decide
  | constant c => cases c <;> exact ⟨_, rfl, by decide⟩
  | greek g => cases g <;> exact ⟨_, rfl, by decide⟩
  | identifier hname =>
      refine hword ?_
      obtain ⟨c, rest, hs, hc, hrest⟩ := isWord_iff.mp hname
      rw [hs]
      intro hslash
      rcases List.mem_cons.mp hslash with rfl | hd
      · exact absurd hc (by decide)
      · exact absurd (hrest _ hd) (by decide)

theorem Leaf.renders {n : Node} {s : String} (h : Leaf n s) : Renders n s := by
  obtain ⟨rest, hstrokes, hrest⟩ := h.strokes_eq
  have hflat : Flat (strokes s.toList) := by
    rw [hstrokes]
    refine List.forall_mem_cons.mpr ⟨⟨nofun, nofun⟩, fun m hm => ?_⟩
    rcases hrest m hm with rfl | rfl
    · exact ⟨nofun, nofun⟩
    · exact ⟨nofun, nofun⟩
  obtain ⟨hbalanced, houter⟩ := hflat.balanced
  refine ⟨hbalanced, ?_⟩
  rw [houter]
  exact .plain ⟨rest, hstrokes, .inr hrest⟩

theorem renders_text {c : Char} (hc : Lexeme.hasNoRule c = true) :
    Renders (.text (String.singleton c)) (String.singleton c) := by
  have htable : ∀ p ∈ Stroke.table, Lexeme.hasNoRule p.1 = true → p = ('|', .fence) := by decide
  have hstrokes : strokes (String.singleton c).toList = [.other] ∨ c = '|' := by
    rw [String.toList_singleton, strokes, Stroke.read]
    split
    · exact .inl rfl
    · rcases Stroke.ofChar_cases c with hother | hmem
      · exact .inl (by rw [hother]; rfl)
      · exact .inr (congrArg Prod.fst (htable (c, .ofChar c) hmem hc))
  rcases hstrokes with hstrokes | rfl
  · constructor
    · rw [hstrokes]
      exact ⟨fun _ => rfl, fun _ => rfl⟩
    · rw [hstrokes]
      exact .plain ⟨[], rfl, .inl nofun⟩
  · have hbar : String.singleton '|' = "|" := by decide
    rw [hbar]
    exact ⟨⟨fun _ => rfl, fun _ => rfl⟩, .bar⟩

/-- The LaTeX of a proper tree has an outline. -/
theorem Proper.renders {mode : Mode} {n : Node} (hn : n.Proper) :
    ∀ {s : String}, n.latex mode = .ok s → Renders n s := by
  induction hn with
  | leaf hleaf =>
      intro s h
      rw [hleaf.latex_eq] at h
      cases h
      exact hleaf.renders
  | text hc =>
      intro s h
      cases h
      exact renders_text hc
  | binary hop _ _ ihl ihr =>
      intro s h
      obtain ⟨join, sl, sr, hjoin, hl, hr, rfl⟩ := binary_latex_eq_ok_iff.mp h
      rw [join_eq_fill hjoin]
      exact renders_binary hop (ihl hl) (ihr hr)
  | unary _ _ ih =>
      intro s h
      obtain ⟨sign, sn, hsign, hsn, rfl⟩ := unary_latex_eq_ok_iff.mp h
      exact renders_unary hsign (ih hsn)
  | call _ _ ih =>
      intro s h
      obtain ⟨parts, hparts, hs⟩ := call_latex_eq_ok_iff.mp h
      refine renders_call ?_ hs
      have hargs := (List.forall₂_and_left _ _).mpr ⟨ih, latexAll_eq_ok_iff.mp hparts⟩
      exact hargs.imp fun _ _ h => h.1 h.2
  | grouping _ ih =>
      intro s h
      obtain ⟨sn, hsn, rfl⟩ := grouping_latex_eq_ok_iff.mp h
      exact renders_grouping (ih hsn)
  | inlineMath _ ih =>
      intro s h
      obtain ⟨sn, hsn, rfl⟩ := inlineMath_latex_eq_ok_iff.mp h
      exact renders_inlineMath (ih hsn)
  | displayMath _ ih =>
      intro s h
      obtain ⟨sn, hsn, rfl⟩ := displayMath_latex_eq_ok_iff.mp h
      exact renders_displayMath (ih hsn)

end Node

end PlainMath
