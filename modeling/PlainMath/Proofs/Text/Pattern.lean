/-
# `Proofs.Text.Pattern` — patterns of characters

The lexemes of a source and the fragments of a line are both found by patterns.  A pattern has two
meanings.  One is a language, the set of the words that it matches.  The other is a search with an
order: beginning at a place of a text it can end at several places, and these are listed in the
order in which they are preferred (`Pattern.ends`).  A repetition prefers more to less, an optional
part prefers to be there, of some words or of two alternatives the earlier one is preferred, and a
sequence prefers what its first part prefers.  The match is the first place of the list.

    the search finds words of the language                (`exists_word_of_mem_ends`)
    and all of them, if no edge of a word is asked for    (`mem_ends_of_word`)
    the first match of a sequence, where the search
    never has to go back                                  (`Prefers.seq`)

That the search does not go back comes from classes of characters that are disjoint: a repetition
that is followed by something it cannot hold goes on as long as it can (`Refuses.commits_many`).
-/
import Mathlib.Computability.Language
import PlainMath.Proofs.Text.Run
import PlainMath.Text.Word

namespace PlainMath.Text

open scoped Computability

/-! ## Patterns -/

/-- A pattern of characters. -/
inductive Pattern where
  /-- One character of a class. -/
  | one (p : Char → Bool)
  /-- Any number of characters of a class, more rather than less. -/
  | many (p : Char → Bool)
  /-- One of some words, the earlier rather than the later. -/
  | oneOf (words : List String)
  /-- The place where a word begins or ends. -/
  | edge
  /-- The pattern, if it is there. -/
  | maybe (a : Pattern)
  /-- A pattern and then another one. -/
  | seq (a b : Pattern)
  /-- The first pattern rather than the second. -/
  | either (a b : Pattern)

/-- The words of one character of a class. -/
def letters (p : Char → Bool) : Language Char := {w | ∃ c, p c = true ∧ w = [c]}

/-- The character before a place. -/
def charBefore? (cs : List Char) : Nat → Option Char
  | 0 => none
  | i + 1 => cs[i]?

/-- Whether the character before a place belongs to a word. -/
def wordBefore (cs : List Char) (i : Nat) : Bool := (charBefore? cs i).any isWordChar

/-- Whether the character behind a place belongs to a word. -/
def wordBehind (cs : List Char) (i : Nat) : Bool := cs[i]?.any isWordChar

namespace Pattern

/-- The words that the pattern matches. -/
def language : Pattern → Language Char
  | .one p => letters p
  | .many p => (letters p)∗
  | .oneOf words => {w | String.ofList w ∈ words}
  | .edge => 1
  | .maybe a => a.language + 1
  | .seq a b => a.language * b.language
  | .either a b => a.language + b.language

/-- The places where a match that begins at a place can end, in the order of preference. -/
def ends (cs : List Char) : Pattern → Nat → List Nat
  | .one p, i => if cs[i]?.any p then [i + 1] else []
  | .many p, i => (List.range (run p (cs.drop i) + 1)).reverse.map (i + ·)
  | .oneOf words, i =>
    (words.filter fun w => w.toList.isPrefixOf (cs.drop i)).map fun w => i + w.toList.length
  | .edge, i => if wordBefore cs i != wordBehind cs i then [i] else []
  | .maybe a, i => a.ends cs i ++ [i]
  | .seq a b, i => (a.ends cs i).flatMap (b.ends cs)
  | .either a b, i => a.ends cs i ++ b.ends cs i

/-- One character. -/
def char (d : Char) : Pattern := .one (· == d)

/-- At least one character of a class. -/
def atLeastOne (p : Char → Bool) : Pattern := .seq (.one p) (.many p)

/-- Whether nothing in the pattern looks at the characters around a match. -/
def edgeless : Pattern → Bool
  | .one _ | .many _ | .oneOf _ => true
  | .edge => false
  | .maybe a => a.edgeless
  | .seq a b | .either a b => a.edgeless && b.edgeless

end Pattern

/-! ## The search and the language -/

theorem mem_letters {p : Char → Bool} {w : List Char} :
    w ∈ letters p ↔ ∃ c, p c = true ∧ w = [c] := Iff.rfl

theorem mem_kstar_letters {p : Char → Bool} {w : List Char} :
    w ∈ (letters p)∗ ↔ ∀ c ∈ w, p c = true := by
  rw [Language.mem_kstar]
  constructor
  · rintro ⟨words, rfl, hwords⟩ c hc
    obtain ⟨v, hv, hcv⟩ := List.mem_flatten.mp hc
    obtain ⟨d, hd, rfl⟩ := hwords v hv
    rwa [List.mem_singleton.mp hcv]
  · intro hw
    refine ⟨w.map ([·]), by rw [← List.flatMap_def, List.flatMap_singleton'], fun v hv => ?_⟩
    obtain ⟨c, hc, rfl⟩ := List.mem_map.mp hv
    exact ⟨c, hw c hc, rfl⟩

theorem append_prefix_iff {u v ds : List Char} :
    u ++ v <+: ds ↔ u <+: ds ∧ v <+: ds.drop u.length := by
  constructor
  · rintro ⟨rest, rfl⟩
    rw [List.append_assoc, List.drop_left]
    exact ⟨List.prefix_append u _, List.prefix_append v rest⟩
  · rintro ⟨⟨more, rfl⟩, hv⟩
    rw [List.drop_left] at hv
    exact (List.prefix_append_right_inj u).mpr hv

namespace Pattern

variable {a b : Pattern} {p q : Char → Bool} {cs w : List Char} {i j : Nat}

/-- The place is where a word of the language ends that begins at the other place. -/
def EndsWord (L : Language Char) (cs : List Char) (i j : Nat) : Prop :=
  ∃ w ∈ L, w <+: cs.drop i ∧ j = i + w.length

theorem mem_ends_one : j ∈ (one p).ends cs i ↔ EndsWord (letters p) cs i j := by
  rw [ends, ← List.head?_drop]
  constructor
  · intro h
    split at h
    · next hany =>
        obtain ⟨c, hc, hp⟩ := (Option.any_eq_true p _).mp hany
        obtain ⟨rest, hrest⟩ := List.head?_eq_some_iff.mp hc
        exact ⟨[c], ⟨c, hp, rfl⟩, ⟨rest, hrest.symm⟩, List.mem_singleton.mp h⟩
    · cases h
  · rintro ⟨_, ⟨c, hc, rfl⟩, ⟨rest, hrest⟩, rfl⟩
    simp [← hrest, hc]

theorem mem_ends_many : j ∈ (many p).ends cs i ↔ EndsWord (letters p)∗ cs i j := by
  simp only [ends, List.mem_map, List.mem_reverse, List.mem_range, Nat.lt_succ_iff, EndsWord,
    mem_kstar_letters]
  constructor
  · rintro ⟨n, hn, rfl⟩
    have hle : n ≤ (cs.drop i).length := hn.trans (run_le_length p _)
    refine ⟨(cs.drop i).take n, fun c hc => ?_, List.take_prefix n _, ?_⟩
    · have hmem : c ∈ (cs.drop i).takeWhile p := by
        rw [← take_run]
        exact List.take_subset_take_left _ hn hc
      exact List.mem_takeWhile_imp hmem
    · rw [List.length_take, Nat.min_eq_left hle]
  · rintro ⟨w, hw, hfront, rfl⟩
    exact ⟨w.length, length_le_run hw hfront, rfl⟩

theorem mem_ends_oneOf {words : List String} :
    j ∈ (oneOf words).ends cs i ↔ EndsWord (oneOf words).language cs i j := by
  simp only [ends, List.mem_map, List.mem_filter, List.isPrefixOf_iff_prefix]
  constructor
  · rintro ⟨v, ⟨hv, hfront⟩, rfl⟩
    have hword : String.ofList v.toList ∈ words := by rwa [String.ofList_toList]
    exact ⟨v.toList, hword, hfront, rfl⟩
  · rintro ⟨w, hw, hfront, rfl⟩
    refine ⟨String.ofList w, ⟨hw, ?_⟩, ?_⟩
    · rwa [String.toList_ofList]
    · rw [String.toList_ofList]

/-- A match is a word of the language. -/
theorem exists_word_of_mem_ends (h : j ∈ a.ends cs i) : EndsWord a.language cs i j := by
  induction a generalizing i j with
  | one p => exact mem_ends_one.mp h
  | many p => exact mem_ends_many.mp h
  | oneOf words => exact mem_ends_oneOf.mp h
  | edge =>
      rw [ends] at h
      split at h
      · exact ⟨[], Language.nil_mem_one, List.nil_prefix, List.mem_singleton.mp h⟩
      · cases h
  | maybe a ih =>
      rcases List.mem_append.mp h with h | h
      · obtain ⟨w, hw, hfront, hj⟩ := ih h
        exact ⟨w, .inl hw, hfront, hj⟩
      · exact ⟨[], .inr Language.nil_mem_one, List.nil_prefix, List.mem_singleton.mp h⟩
  | seq a b iha ihb =>
      obtain ⟨k, hk, hj⟩ := List.mem_flatMap.mp h
      obtain ⟨u, hu, hfront, rfl⟩ := iha hk
      obtain ⟨v, hv, hbehind, rfl⟩ := ihb hj
      rw [← List.drop_drop] at hbehind
      refine ⟨u ++ v, Language.append_mem_mul hu hv, append_prefix_iff.mpr ⟨hfront, hbehind⟩, ?_⟩
      rw [List.length_append, Nat.add_assoc]
  | either a b iha ihb =>
      rcases List.mem_append.mp h with h | h
      · obtain ⟨w, hw, hfront, hj⟩ := iha h
        exact ⟨w, .inl hw, hfront, hj⟩
      · obtain ⟨w, hw, hfront, hj⟩ := ihb h
        exact ⟨w, .inr hw, hfront, hj⟩

/-- Every word of the language that stands at a place is a match. -/
theorem mem_ends_of_word (hedge : a.edgeless = true) (hw : w ∈ a.language)
    (hfront : w <+: cs.drop i) : i + w.length ∈ a.ends cs i := by
  induction a generalizing i w with
  | one p => exact mem_ends_one.mpr ⟨w, hw, hfront, rfl⟩
  | many p => exact mem_ends_many.mpr ⟨w, hw, hfront, rfl⟩
  | oneOf words => exact mem_ends_oneOf.mpr ⟨w, hw, hfront, rfl⟩
  | edge => cases hedge
  | maybe a ih =>
      rcases hw with hw | rfl
      · exact List.mem_append_left _ (ih hedge hw hfront)
      · exact List.mem_append_right _ (List.mem_singleton.mpr rfl)
  | seq a b iha ihb =>
      obtain ⟨ha, hb⟩ := Bool.and_eq_true_iff.mp hedge
      obtain ⟨u, hu, v, hv, rfl⟩ := Language.mem_mul.mp hw
      obtain ⟨hfront, hbehind⟩ := append_prefix_iff.mp hfront
      rw [List.drop_drop] at hbehind
      rw [List.length_append, ← Nat.add_assoc]
      exact List.mem_flatMap.mpr ⟨_, iha ha hu hfront, ihb hb hv hbehind⟩
  | either a b iha ihb =>
      obtain ⟨ha, hb⟩ := Bool.and_eq_true_iff.mp hedge
      rcases hw with hw | hw
      · exact List.mem_append_left _ (iha ha hw hfront)
      · exact List.mem_append_right _ (ihb hb hw hfront)

/-- A pattern of which no word is empty goes on at every match, and stays in the text. -/
theorem bounds_of_mem_ends (hnil : [] ∉ a.language) (h : j ∈ a.ends cs i) :
    i < j ∧ j ≤ cs.length := by
  obtain ⟨w, hw, hfront, rfl⟩ := exists_word_of_mem_ends h
  have hpos : 0 < w.length := List.length_pos_iff.mpr fun hempty => hnil (hempty ▸ hw)
  have hle := hfront.length_le
  rw [List.length_drop] at hle
  omega

/-! ## What is preferred -/

/-- The length of the preferred match is read off the characters behind the place. -/
def Prefers (a : Pattern) (length? : List Char → Option Nat) : Prop :=
  ∀ (cs : List Char) (i : Nat), (a.ends cs i).head? = (length? (cs.drop i)).map (i + ·)

/-- One length, and then another one behind it. -/
def andThen (first? second? : List Char → Option Nat) (ds : List Char) : Option Nat :=
  (first? ds).bind fun n => (second? (ds.drop n)).map (n + ·)

/-- Where the second pattern does not match behind what the first one prefers, it matches behind
nothing that the first one finds. -/
def Commits (a b : Pattern) : Prop :=
  ∀ (cs : List Char) (i j : Nat), (a.ends cs i).head? = some j → b.ends cs j = [] →
    ∀ k ∈ a.ends cs i, b.ends cs k = []

/-- Where a character of the class stands, the pattern does not match. -/
def Refuses (b : Pattern) (p : Char → Bool) : Prop :=
  ∀ (cs : List Char) (j : Nat), cs[j]?.any p = true → b.ends cs j = []

/-- There is at most one match at a place. -/
def Sole (a : Pattern) : Prop := ∀ (cs : List Char) (i : Nat), (a.ends cs i).length ≤ 1

variable {f g : List Char → Option Nat}

theorem Prefers.congr (h : a.Prefers f) (hfg : ∀ ds, f ds = g ds) : a.Prefers g := by
  intro cs i
  rw [h cs i, hfg]

theorem prefers_one (p : Char → Bool) :
    (one p).Prefers fun ds => if ds.head?.any p then some 1 else none := by
  intro cs i
  simp only [ends, List.head?_drop]
  split <;> rfl

theorem prefers_char (d : Char) :
    (char d).Prefers fun ds => if ds.head? = some d then some 1 else none := by
  refine (prefers_one (· == d)).congr fun ds => ?_
  cases ds <;> simp

theorem prefers_many (p : Char → Bool) : (many p).Prefers fun ds => some (run p ds) := by
  intro cs i
  rw [ends, List.range_succ]
  simp

theorem Prefers.maybe (h : a.Prefers f) :
    (Pattern.maybe a).Prefers fun ds => some ((f ds).getD 0) := by
  intro cs i
  simp only [ends, List.head?_append, h cs i]
  cases f (cs.drop i) <;> rfl

theorem Prefers.either (ha : a.Prefers f) (hb : b.Prefers g) :
    (Pattern.either a b).Prefers fun ds => (f ds).or (g ds) := by
  intro cs i
  rw [ends, List.head?_append, ha cs i, hb cs i, Option.map_or]

/-- A sequence goes on behind the first match of its first part. -/
theorem Prefers.seq (ha : a.Prefers f) (hb : b.Prefers g) (hcommits : Commits a b) :
    (Pattern.seq a b).Prefers (andThen f g) := by
  intro cs i
  have hfirst := ha cs i
  rw [ends, andThen]
  cases hf : f (cs.drop i) with
  | none =>
      rw [hf, Option.map_none, List.head?_eq_none_iff] at hfirst
      rw [hfirst]
      rfl
  | some n =>
      rw [hf, Option.map_some] at hfirst
      have hsecond := hb cs (i + n)
      rw [Option.bind_some, List.drop_drop, Option.map_map]
      cases hg : g (cs.drop (i + n)) with
      | none =>
          -- going back to another match of the first part does not help
          rw [hg, Option.map_none, List.head?_eq_none_iff] at hsecond
          rw [List.flatMap_eq_nil_iff.mpr (hcommits cs i _ hfirst hsecond)]
          rfl
      | some m =>
          obtain ⟨more, hmore⟩ := List.head?_eq_some_iff.mp hfirst
          rw [hmore, List.flatMap_cons, List.head?_append, hsecond, hg]
          simp [Nat.add_assoc]

/-! ## Where the search does not go back -/

theorem sole_one (p : Char → Bool) : (one p).Sole := by
  intro cs i
  rw [ends]
  split <;> simp

theorem sole_char (d : Char) : (char d).Sole := sole_one _

theorem Sole.seq (ha : a.Sole) (hb : b.Sole) : (Pattern.seq a b).Sole := by
  intro cs i
  have hle := ha cs i
  rw [ends]
  rcases hends : a.ends cs i with _ | ⟨j, _ | ⟨k, more⟩⟩
  · exact Nat.zero_le 1
  · simpa using hb cs j
  · simp [hends] at hle

theorem Sole.commits (ha : a.Sole) (b : Pattern) : Commits a b := by
  intro cs i j hhead hnone k hk
  obtain ⟨more, hmore⟩ := List.head?_eq_some_iff.mp hhead
  have hle := ha cs i
  rw [hmore] at hk hle
  obtain rfl : more = [] := List.eq_nil_of_length_eq_zero (by simpa using hle)
  rwa [List.mem_singleton.mp hk]

/-- The second pattern always matches. -/
theorem Prefers.commits {length : List Char → Nat} (hb : b.Prefers fun ds => some (length ds))
    (a : Pattern) : Commits a b := by
  intro cs i j _ hnone
  have hsome := hb cs j
  rw [hnone] at hsome
  cases hsome

theorem refuses_one (h : ∀ c, p c = true → q c = false) : (one q).Refuses p := by
  intro cs j hj
  obtain ⟨c, hc, hp⟩ := (Option.any_eq_true p _).mp hj
  simp [ends, hc, h c hp]

theorem refuses_char {d : Char} (h : p d = false) : (char d).Refuses p := by
  refine refuses_one fun c hc => beq_eq_false_iff_ne.mpr ?_
  rintro rfl
  rw [h] at hc
  cases hc

theorem Refuses.seq (h : a.Refuses p) (b : Pattern) : (Pattern.seq a b).Refuses p := by
  intro cs j hj
  rw [ends, h cs j hj, List.flatMap_nil]

theorem Refuses.many_seq (h : b.Refuses p) (hdisjoint : ∀ c, p c = true → q c = false) :
    (Pattern.seq (many q) b).Refuses p := by
  intro cs j hj
  obtain ⟨c, hc, hp⟩ := (Option.any_eq_true p _).mp hj
  have hzero : run q (cs.drop j) = 0 := run_drop_eq_zero.mpr (by simp [hc, hdisjoint c hp])
  simp [ends, hzero, h cs j hj]

theorem refuses_atLeastOne (h : ∀ c, p c = true → q c = false) : (atLeastOne q).Refuses p :=
  (refuses_one h).seq _

/-- A run that is followed by something it cannot hold goes on as long as it can. -/
theorem Refuses.commits_many (h : b.Refuses p) : Commits (many p) b := by
  intro cs i j hhead hnone k hk
  rw [prefers_many p cs i, Option.map_some, Option.some.injEq] at hhead
  simp only [ends, List.mem_map, List.mem_reverse, List.mem_range, Nat.lt_succ_iff] at hk
  obtain ⟨n, hn, rfl⟩ := hk
  rcases Nat.eq_or_lt_of_le hn with rfl | hlt
  · rwa [hhead]
  · have hany := any_of_lt_run hlt
    rw [List.getElem?_drop] at hany
    exact h cs _ hany

theorem ends_one_seq (b : Pattern) (p : Char → Bool) (i : Nat) :
    (seq (one p) b).ends cs i = if cs[i]?.any p then b.ends cs (i + 1) else [] := by
  rw [ends, ends]
  split <;> simp

theorem Refuses.commits_atLeastOne (h : b.Refuses p) : Commits (atLeastOne p) b := by
  intro cs i j hhead hnone k hk
  rw [atLeastOne, ends_one_seq] at hhead hk
  split at hk
  · next hany =>
      rw [if_pos hany] at hhead
      exact h.commits_many cs (i + 1) j hhead hnone k hk
  · cases hk

/-- A character that may be there is taken, if what follows cannot begin with it. -/
theorem Refuses.commits_maybe_one (h : b.Refuses p) : Commits (maybe (one p)) b := by
  intro cs i j hhead hnone k hk
  rw [ends, ends] at hhead hk
  split at hk
  · next hany =>
      rw [if_pos hany] at hhead
      obtain rfl : i + 1 = j := Option.some.inj hhead
      rcases List.mem_pair.mp hk with rfl | rfl
      · exact hnone
      · exact h cs _ hany
  · next hany =>
      rw [if_neg hany] at hhead
      obtain rfl : i = j := Option.some.inj hhead
      rwa [List.mem_singleton.mp hk]

theorem prefers_atLeastOne (p : Char → Bool) : (atLeastOne p).Prefers (run? p) := by
  refine ((prefers_one p).seq (prefers_many p) ((sole_one p).commits _)).congr fun ds => ?_
  cases ds with
  | nil => rfl
  | cons c ds => cases hc : p c <;> simp [andThen, run?, run_cons, hc, Nat.add_comm]

end Pattern

end PlainMath.Text
