/-
# `Proofs.Suggestion` — what is proposed for a word

A word ranks all keywords, the closest first (`ranked`), and no two of them share a place in the
ranking.  A cutoff only ends it early:

    the close keywords begin the ranking                    (`closest_eq`)
    a higher cutoff proposes the beginning of a lower one    (`proposals_mono`)
    a hint names the beginning of what a suggestion names    (`hinted_prefix_proposals`)

A keyword in the wrong case stands first in the ranking, since only equal words score one
(`ranked_eq_cons`).

Suggestions and hints are texts.  The words that they name are read off them: a question names
what it has between quotes (`quotations`).
-/
import Mathlib.Data.Prod.Lex
import Mathlib.Data.String.Basic
import PlainMath.Proofs.Similarity
import PlainMath.Proofs.Text.Lines
import PlainMath.Suggestion

namespace PlainMath

namespace Suggestion

/-! ## Keywords in lower case -/

/-- Keywords differ in more than case, they are short, and none of them has another keyword for
its fixed correction. -/
theorem words_lower : (Keyword.words.map Text.lower).Nodup ∧
    ∀ k ∈ Keyword.words, (Text.lower k).length ≤ 14 ∧
      (corrections.lookup (Text.lower k)).getD k = k := by
  decide +kernel

theorem eq_of_lower_eq {k k' : String} (hk : k ∈ Keyword.words) (hk' : k' ∈ Keyword.words)
    (h : Text.lower k = Text.lower k') : k = k' :=
  List.inj_on_of_nodup_map words_lower.1 hk hk' h

theorem quote_not_mem : ∀ k ∈ Keyword.words, '\'' ∉ k.toList := by decide +kernel

/-! ## The ranking -/

/-- In a list where what satisfies `p` comes first, the elements that do are those in front. -/
theorem filter_eq_takeWhile {α : Type} {p : α → Bool} {l : List α}
    (h : l.Pairwise fun x y => p y = true → p x = true) : l.filter p = l.takeWhile p := by
  induction h with
  | nil => rfl
  | @cons x l hx _ ih =>
      cases hp : p x with
      | true => rw [List.filter_cons_of_pos hp, List.takeWhile_cons_of_pos hp, ih]
      | false =>
          have hl : ∀ y ∈ l, ¬ p y = true := fun y hy hpy => by
            rw [hx y hy hpy] at hp
            cases hp
          have hnot : ¬ p x = true := by simp [hp]
          rw [List.filter_cons_of_neg hnot, List.takeWhile_cons_of_neg hnot,
            List.filter_eq_nil_iff.mpr hl]

namespace Candidate

/-- The score is not negative. -/
def Scored (c : Candidate) : Prop := ∃ rank, c.score = .ofRank false rank

/-- The place in a ranking: the score, and then the spelling. -/
def key (c : Candidate) : ℤ ×ₗ String := toLex (c.score.place?.getD 0, c.folded)

theorem Scored.place?_eq {c : Candidate} (h : c.Scored) :
    c.score.place? = some (c.score.place?.getD 0) := by
  obtain ⟨rank, hrank⟩ := h
  rw [hrank, Binary64.place?_ofRank, Option.getD_some]

theorem precedes_iff {x y : Candidate} (hx : x.Scored) (hy : y.Scored) :
    x.precedes y = true ↔ y.key ≤ x.key := by
  have hbelow := Binary64.below_iff hy.place?_eq hx.place?_eq
  have hsame : x.score = y.score ↔ y.score.place?.getD 0 = x.score.place?.getD 0 := by
    have hplaces : x.score.place? = y.score.place? ↔
        y.score.place?.getD 0 = x.score.place?.getD 0 := by
      rw [hx.place?_eq, hy.place?_eq, Option.some_inj, eq_comm]
      rfl
    obtain ⟨r, hr⟩ := hx
    obtain ⟨s, hs⟩ := hy
    rw [← hplaces, hr, hs]
    exact Binary64.ofRank_eq_iff_place?
  rw [precedes, Bool.or_eq_true, Bool.and_eq_true, beq_iff_eq, decide_eq_true_iff, hbelow, hsame,
    key, key, Prod.Lex.le_iff]
  rfl

/-- A ranked list is sorted by place. -/
theorem pairwise_mergeSort {l : List Candidate} (h : ∀ c ∈ l, c.Scored) :
    (l.mergeSort precedes).Pairwise fun x y => y.key ≤ x.key := by
  have hsame : l.mergeSort precedes = l.mergeSort fun x y => decide (y.key ≤ x.key) := by
    have hmap := List.map_mergeSort (r := precedes) (s := fun x y => decide (y.key ≤ x.key))
      (f := id) fun x hx y hy => Bool.eq_iff_iff.mpr
        ((precedes_iff (h x hx) (h y hy)).trans decide_eq_true_iff.symm)
    simpa using hmap
  rw [hsame]
  refine (List.pairwise_mergeSort ?_ ?_ l).imp of_decide_eq_true
  · intro x y z hxy hyz
    rw [decide_eq_true_iff] at *
    exact hyz.trans hxy
  · intro x y
    rw [Bool.or_eq_true, decide_eq_true_iff, decide_eq_true_iff]
    exact le_total y.key x.key

/-- Sorting the elements that satisfy `p` gives the first ones of all, if `p` holds of whatever
stands in front of an element that satisfies it. -/
theorem mergeSort_filter {l : List Candidate} (hscored : ∀ c ∈ l, c.Scored)
    (hkey : ∀ x ∈ l, ∀ y ∈ l, x.key = y.key → x = y) {p : Candidate → Bool}
    (hp : ∀ x ∈ l, ∀ y ∈ l, y.key ≤ x.key → p y = true → p x = true) :
    (l.filter p).mergeSort precedes = (l.mergeSort precedes).takeWhile p := by
  have hsorted := pairwise_mergeSort hscored
  have hfront : (l.mergeSort precedes).filter p = (l.mergeSort precedes).takeWhile p := by
    refine filter_eq_takeWhile (hsorted.imp_of_mem ?_)
    intro x y hx hy
    exact hp x (List.mem_mergeSort.mp hx) y (List.mem_mergeSort.mp hy)
  have hperm : ((l.filter p).mergeSort precedes).Perm ((l.mergeSort precedes).filter p) :=
    (List.mergeSort_perm _ _).trans ((List.mergeSort_perm l _).filter p).symm
  have hsorted' : ((l.filter p).mergeSort precedes).Pairwise fun x y => y.key ≤ x.key :=
    pairwise_mergeSort fun c hc => hscored c (List.mem_filter.mp hc).1
  rw [← hfront]
  refine hperm.eq_of_pairwise ?_ hsorted' (hsorted.filter p)
  -- two sorted lists with the same elements are equal, since no two elements share a place
  intro x y hx hy hxy hyx
  have hx : x ∈ l := (List.mem_filter.mp (List.mem_mergeSort.mp hx)).1
  have hy : y ∈ l := List.mem_mergeSort.mp (List.mem_filter.mp hy).1
  exact hkey x hx y hy (le_antisymm hyx hxy)

end Candidate

theorem candidate_mem {k : String} (hk : k ∈ Keyword.words) (folded : List Char) :
    ⟨k, Text.lower k, Similarity.score (Text.lower k).toList folded⟩ ∈ candidates folded :=
  List.mem_map_of_mem hk

theorem mem_candidates {folded : List Char} {c : Candidate} (h : c ∈ candidates folded) :
    c.keyword ∈ Keyword.words ∧ c.folded = Text.lower c.keyword ∧
      c.score = Similarity.score (Text.lower c.keyword).toList folded := by
  obtain ⟨k, hk, rfl⟩ := List.mem_map.mp h
  exact ⟨hk, rfl, rfl⟩

theorem scored_of_mem {folded : List Char} {c : Candidate} (h : c ∈ candidates folded) :
    c.Scored := by
  obtain ⟨rank, hrank⟩ := Similarity.score_eq_ofRank (Text.lower c.keyword).toList folded
  exact ⟨rank, (mem_candidates h).2.2.trans hrank⟩

/-- Different candidates have different places. -/
theorem eq_of_key_eq {folded : List Char} {x y : Candidate} (hx : x ∈ candidates folded)
    (hy : y ∈ candidates folded) (h : x.key = y.key) : x = y := by
  obtain ⟨k, hk, rfl⟩ := List.mem_map.mp hx
  obtain ⟨k', hk', rfl⟩ := List.mem_map.mp hy
  have hlower : Text.lower k = Text.lower k' := congrArg (fun key => (ofLex key).2) h
  rw [eq_of_lower_eq hk hk' hlower]

/-- All keywords, from the closest to a word on. -/
def ranked (name : String) : List Candidate :=
  (candidates (Text.lower name).toList).mergeSort Candidate.precedes

theorem mem_ranked {name : String} {c : Candidate} :
    c ∈ ranked name ↔ c ∈ candidates (Text.lower name).toList :=
  List.mem_mergeSort

theorem pairwise_ranked (name : String) : (ranked name).Pairwise fun x y => y.key ≤ x.key :=
  Candidate.pairwise_mergeSort fun _ => scored_of_mem

/-- A candidate in front of one that scores high enough scores high enough. -/
theorem atMost_of_key_le {cutoff : Binary64} {x y : Candidate} (hx : x.Scored) (hy : y.Scored)
    (hxy : y.key ≤ x.key) (h : cutoff.atMost y.score = true) : cutoff.atMost x.score = true := by
  refine Binary64.atMost_trans h (Binary64.atMost_iff.mpr ⟨_, _, hy.place?_eq, hx.place?_eq, ?_⟩)
  rw [Candidate.key, Candidate.key, Prod.Lex.le_iff] at hxy
  rcases hxy with hlt | ⟨heq, -⟩
  · exact hlt.le
  · exact heq.le

/-- The close keywords are the first of the ranking, as long as they score high enough. -/
theorem closest_eq (name : String) (cutoff : Binary64) :
    closest name cutoff =
      (((ranked name).takeWhile fun c => cutoff.atMost c.score).take 5).map Candidate.keyword := by
  have hsort : ((candidates (Text.lower name).toList).filter fun c =>
      cutoff.atMost c.score).mergeSort Candidate.precedes =
        (ranked name).takeWhile fun c => cutoff.atMost c.score := by
    refine Candidate.mergeSort_filter (fun _ => scored_of_mem) (fun _ hx _ => eq_of_key_eq hx) ?_
    intro x hx y hy
    exact atMost_of_key_le (scored_of_mem hx) (scored_of_mem hy)
  rw [← hsort]
  rfl

/-- A higher cutoff ends the list earlier. -/
theorem closest_mono (name : String) {low high : Binary64} (h : low.atMost high = true) :
    closest name high <+: closest name low := by
  have hboth : (ranked name).takeWhile (fun c => high.atMost c.score) =
      ((ranked name).takeWhile fun c => low.atMost c.score).takeWhile
        fun c => high.atMost c.score := by
    rw [List.takeWhile_takeWhile]
    congr 1
    funext c
    rw [Bool.eq_iff_iff, decide_eq_true_iff]
    exact ⟨fun hc => ⟨hc, Binary64.atMost_trans h hc⟩, And.left⟩
  rw [closest_eq, closest_eq, hboth]
  exact ((List.takeWhile_prefix _).take 5).map _

/-- Close keywords are keywords, and none of them comes twice. -/
theorem closest_sublist (name : String) (cutoff : Binary64) :
    ∃ l, l.Perm Keyword.words ∧ (closest name cutoff).Sublist l := by
  refine ⟨(ranked name).map Candidate.keyword, ?_, ?_⟩
  · have hmap : (candidates (Text.lower name).toList).map Candidate.keyword = Keyword.words := by
      simp [candidates, Function.comp_def]
    exact hmap ▸ (List.mergeSort_perm _ _).map Candidate.keyword
  · rw [closest_eq]
    exact ((List.take_sublist _ _).trans (List.takeWhile_sublist _)).map _

theorem mem_words_of_mem_closest {name word : String} {cutoff : Binary64}
    (h : word ∈ closest name cutoff) : word ∈ Keyword.words := by
  obtain ⟨l, hperm, hsublist⟩ := closest_sublist name cutoff
  exact hperm.mem_iff.mp (hsublist.subset h)

theorem nodup_closest (name : String) (cutoff : Binary64) : (closest name cutoff).Nodup := by
  obtain ⟨l, hperm, hsublist⟩ := closest_sublist name cutoff
  exact (hperm.nodup_iff.mpr words_lower.1.of_map).sublist hsublist

/-! ## Proposals -/

theorem mem_words_of_correction? {name word : String} (h : correction? name = some word) :
    word ∈ Keyword.words := by
  have htable : ∀ p ∈ corrections, p.2 ∈ Keyword.words := by decide
  obtain ⟨before, after, hlist, -⟩ := List.lookup_eq_some_iff.mp h
  exact htable (Text.lower name, word) (hlist ▸ List.mem_append_right before List.mem_cons_self)

/-- What is proposed for a word when the cutoff is a cutoff. -/
def proposals (name : String) (cutoff : Binary64) : List String :=
  (correction? name).toList ++
    if Keyword.isReserved name then []
    else (closest name cutoff).filter fun k => !(correction? name).toList.contains k

theorem similar_eq_proposals {cutoff : Binary64} (name : String) (h : isCutoff cutoff = true) :
    similar name cutoff = .ok (proposals name cutoff) := by
  unfold similar proposals
  cases Keyword.isReserved name with
  | true => simp
  | false => simp [h]

theorem proposals_mono (name : String) {low high : Binary64} (h : low.atMost high = true) :
    proposals name high <+: proposals name low := by
  unfold proposals
  rw [List.prefix_append_right_inj]
  split
  · exact List.prefix_rfl
  · exact (closest_mono name h).filter _

theorem mem_words_of_mem_proposals {name word : String} {cutoff : Binary64}
    (h : word ∈ proposals name cutoff) : word ∈ Keyword.words := by
  rcases List.mem_append.mp h with h | h
  · exact mem_words_of_correction? (Option.mem_toList.mp h)
  · split at h
    · cases h
    · exact mem_words_of_mem_closest (List.mem_filter.mp h).1

theorem nodup_proposals (name : String) (cutoff : Binary64) : (proposals name cutoff).Nodup := by
  rw [proposals, List.nodup_append']
  refine ⟨?_, ?_, ?_⟩
  · cases correction? name with
    | none => exact List.nodup_nil
    | some word => exact List.nodup_singleton word
  · split
    · exact List.nodup_nil
    · exact (nodup_closest name cutoff).filter _
  · intro word hfixed hclose
    split at hclose
    · cases hclose
    · simpa [hfixed] using (List.mem_filter.mp hclose).2

/-! ## Questions -/

/-- The second element, the fourth, and so on. -/
def everySecond {α : Type} : List α → List α
  | _ :: x :: rest => x :: everySecond rest
  | _ => []

/-- The pieces of a text that stand between two quotes. -/
def quotations (text : String) : List String :=
  (everySecond (Text.splitAt '\'' text.toList)).map String.ofList

/-- The words that a question names; none if nothing is asked. -/
def named (question : Option String) : List String := (question.map quotations).getD []

/-- The pieces of a question, words and what stands between them. -/
def questionPieces : List String → List (List Char)
  | [] => []
  | [word] => [word.toList, "?".toList]
  | word :: rest => word.toList :: ", ".toList :: questionPieces rest

theorem questionPieces_cons_cons (word next : String) (rest : List String) :
    questionPieces (word :: next :: rest) =
      word.toList :: ", ".toList :: questionPieces (next :: rest) :=
  rfl

theorem everySecond_questionPieces (start : List Char) : ∀ words : List String,
    everySecond (start :: questionPieces words) = words.map String.toList := by
  intro words
  induction words generalizing start with
  | nil => rfl
  | cons word rest ih =>
      cases rest with
      | nil => rfl
      | cons next rest =>
          rw [questionPieces_cons_cons, everySecond, ih]
          rfl

theorem intercalate_questionPieces (start : List Char) : ∀ words : List String, words ≠ [] →
    ['\''].intercalate (start :: questionPieces words) =
      start ++ (", ".intercalate (words.map fun p => "'" ++ p ++ "'")).toList ++ "?".toList := by
  intro words
  induction words generalizing start with
  | nil => exact fun h => absurd rfl h
  | cons word rest ih =>
      intro _
      cases rest with
      | nil => simp [questionPieces, List.intercalate_cons_cons]
      | cons next rest =>
          have hrest := ih ", ".toList (List.cons_ne_nil _ _)
          rw [questionPieces_cons_cons, List.intercalate_cons_cons, List.intercalate_cons_cons,
            hrest]
          simp

theorem quote_not_mem_questionPieces {piece : List Char} : ∀ {words : List String},
    (∀ w ∈ words, '\'' ∉ w.toList) → piece ∈ questionPieces words → '\'' ∉ piece := by
  intro words
  induction words with
  | nil => exact fun _ h => absurd h List.not_mem_nil
  | cons word rest ih =>
      intro hwords hpiece
      rw [List.forall_mem_cons] at hwords
      cases rest with
      | nil =>
          simp only [questionPieces, List.mem_cons, List.not_mem_nil, or_false] at hpiece
          rcases hpiece with rfl | rfl
          · exact hwords.1
          · decide
      | cons next rest =>
          rw [questionPieces_cons_cons] at hpiece
          rcases List.mem_cons.mp hpiece with rfl | hpiece
          · exact hwords.1
          · rcases List.mem_cons.mp hpiece with rfl | hpiece
            · decide
            · exact ih hwords.2 hpiece

/-- A question names its first three words. -/
theorem named_question? {words : List String} (h : ∀ w ∈ words, '\'' ∉ w.toList) :
    named (question? words) = words.take 3 := by
  cases words with
  | nil => rfl
  | cons word rest =>
      have hfirst : (word :: rest).take 3 ≠ [] := by simp
      have hpieces : ∀ piece ∈ "Did you mean ".toList :: questionPieces ((word :: rest).take 3),
          '\'' ∉ piece := by
        refine List.forall_mem_cons.mpr ⟨by decide, fun piece hpiece => ?_⟩
        exact quote_not_mem_questionPieces (fun w hw => h w (List.mem_of_mem_take hw)) hpiece
      simp only [named, question?, List.isEmpty_cons, Bool.false_eq_true, if_false, Option.map_some,
        Option.getD_some, quotations, Text.splitAt_eq_splitOn, String.toList_append]
      rw [← intercalate_questionPieces _ _ hfirst,
        List.splitOn_intercalate '\'' hpieces (List.cons_ne_nil _ _), everySecond_questionPieces]
      simp [Function.comp_def]

/-- What a hint asks about. -/
def hinted (name : String) : List String :=
  match correction? name with
  | some fixed => [fixed]
  | none =>
    if name.length < leastMisspelling || Keyword.isReserved name then []
    else closest name strictCutoff

theorem hint?_eq_question? (name : String) : hint? name = question? (hinted name) := by
  unfold hint? hinted
  cases correction? name with
  | some fixed => rfl
  | none =>
      simp only
      split
      · rfl
      · rfl

theorem isCutoff_usualCutoff : isCutoff usualCutoff = true := by decide +kernel

theorem suggestion?_eq_question? (name : String) :
    suggestion? name = question? (proposals name usualCutoff) := by
  rw [suggestion?, similar_eq_proposals name isCutoff_usualCutoff]

/-- A hint asks about the beginning of what is proposed. -/
theorem hinted_prefix_proposals (name : String) : hinted name <+: proposals name usualCutoff := by
  unfold hinted proposals
  cases correction? name with
  | some fixed => exact List.prefix_append [fixed] _
  | none =>
      simp only
      split
      · exact List.nil_prefix
      · next h =>
          have hreserved : Keyword.isReserved name = false := by simp_all
          have hcutoff : usualCutoff.atMost strictCutoff = true := by decide +kernel
          simpa [hreserved] using closest_mono name hcutoff

theorem mem_words_of_mem_hinted {name word : String} (h : word ∈ hinted name) :
    word ∈ Keyword.words :=
  mem_words_of_mem_proposals ((hinted_prefix_proposals name).subset h)

theorem named_suggestion? (name : String) :
    named (suggestion? name) = (proposals name usualCutoff).take 3 := by
  rw [suggestion?_eq_question?, named_question? fun w hw =>
    quote_not_mem w (mem_words_of_mem_proposals hw)]

theorem named_hint? (name : String) : named (hint? name) = (hinted name).take 3 := by
  rw [hint?_eq_question?, named_question? fun w hw => quote_not_mem w (mem_words_of_mem_hinted hw)]

/-- For every word, a higher cutoff proposes a beginning of what a lower one proposes, without
repetition and only keywords; and a hint names a beginning of what a suggestion names, which is
the first three proposals. -/
theorem proposals_by_cutoff (name : String) :
    (∀ low high : Binary64, Binary64.zero.atMost low = true → low.atMost high = true →
      high.atMost .one = true → ∃ few many, similar name high = .ok few ∧
        similar name low = .ok many ∧ few <+: many ∧ many.Nodup ∧
        ∀ k ∈ many, Keyword.isReserved k = true) ∧
    (∃ usual, similar name usualCutoff = .ok usual ∧
      named (suggestion? name) = usual.take 3) ∧
    named (hint? name) <+: named (suggestion? name) := by
  refine ⟨?_, ⟨_, similar_eq_proposals name isCutoff_usualCutoff, named_suggestion? name⟩, ?_⟩
  · intro low high hlow hmono hhigh
    have hcutoff : ∀ {c : Binary64}, Binary64.zero.atMost c = true → c.atMost .one = true →
        isCutoff c = true := fun hzero hone => by rw [isCutoff, hzero, hone]; rfl
    refine ⟨_, _, similar_eq_proposals name (hcutoff (Binary64.atMost_trans hlow hmono) hhigh),
      similar_eq_proposals name (hcutoff hlow (Binary64.atMost_trans hmono hhigh)),
      proposals_mono name hmono, nodup_proposals name low, fun k hk => ?_⟩
    exact List.contains_iff_mem.mpr (mem_words_of_mem_proposals hk)
  · rw [named_hint?, named_suggestion?]
    exact (hinted_prefix_proposals name).take 3

/-- The cutoffs of hints and of suggestions, on a word that is close to four keywords. -/
theorem proposals_by_cutoff_supsett :
    usualCutoff.atMost strictCutoff = true ∧ ∃ few many, similar "supsett" strictCutoff = .ok few ∧
      similar "supsett" usualCutoff = .ok many ∧ few <+: many := by
  have hmono : usualCutoff.atMost strictCutoff = true := by decide +kernel
  obtain ⟨few, many, hfew, hmany, hprefix, -⟩ := (proposals_by_cutoff "supsett").1
    usualCutoff strictCutoff (by decide +kernel) hmono (by decide +kernel)
  exact ⟨hmono, few, many, hfew, hmany, hprefix⟩

/-! ## Keywords in the wrong case -/

section WrongCase
variable {name k : String} (hk : k ∈ Keyword.words) (h : Text.lower name = Text.lower k)
include hk h

/-- Every other keyword scores less than one. -/
theorem score_below_one_of_ne {k' : String} (hk' : k' ∈ Keyword.words) (hne : k' ≠ k) :
    (Similarity.score (Text.lower k').toList (Text.lower name).toList).below .one = true := by
  have hdiffer : (Text.lower k').toList ≠ (Text.lower k).toList := fun heq =>
    hne (eq_of_lower_eq hk' hk (String.toList_inj.mp heq))
  have hshort := (words_lower.2 k hk).1
  have hshort' := (words_lower.2 k' hk').1
  rw [h]
  refine Similarity.score_below_one hdiffer ?_
  rw [String.length_toList, String.length_toList]
  omega

/-- A keyword in the wrong case is the closest of all. -/
theorem ranked_eq_cons :
    ∃ first rest, ranked name = first :: rest ∧ first.keyword = k ∧ first.score = .one := by
  obtain ⟨own, hown, hkeyword, hone⟩ : ∃ own ∈ ranked name, own.keyword = k ∧ own.score = .one := by
    have hmem := candidate_mem hk (Text.lower name).toList
    rw [h, Similarity.score_self, ← h] at hmem
    exact ⟨_, mem_ranked.mpr hmem, rfl, rfl⟩
  have hsorted := pairwise_ranked name
  cases hranked : ranked name with
  | nil => rw [hranked] at hown; cases hown
  | cons first rest =>
      have hfirst : first ∈ ranked name := hranked ▸ List.mem_cons_self
      obtain ⟨hword, -, hscore⟩ := mem_candidates (mem_ranked.mp hfirst)
      rw [hranked] at hown hsorted
      rcases List.mem_cons.mp hown with rfl | hbehind
      · exact ⟨own, rest, rfl, hkeyword, hone⟩
      · refine ⟨first, rest, rfl, ?_⟩
        have hscored : ∀ c ∈ first :: rest, c.Scored := fun c hc =>
          scored_of_mem (mem_ranked.mp (hranked ▸ hc))
        have hself : Binary64.one.atMost own.score = true := by
          rw [hone]
          decide +kernel
        -- the first candidate scores at least one, and no other keyword does
        have hleast : Binary64.one.atMost first.score = true :=
          atMost_of_key_le (hscored first List.mem_cons_self) (hscored own hown)
            ((List.pairwise_cons.mp hsorted).1 own hbehind) hself
        by_cases hsame : first.keyword = k
        · refine ⟨hsame, ?_⟩
          rw [hscore, hsame, h, Similarity.score_self]
        · have hbelow := score_below_one_of_ne hk h hword hsame
          rw [hscore, Binary64.atMost_eq_false_of_below hbelow] at hleast
          cases hleast

theorem closest_eq_cons {cutoff : Binary64} (hcutoff : cutoff.atMost .one = true) :
    ∃ rest, closest name cutoff = k :: rest := by
  obtain ⟨first, rest, hranked, hkeyword, hone⟩ := ranked_eq_cons hk h
  rw [closest_eq, hranked]
  simp only [List.takeWhile_cons, hone, hcutoff, if_true, List.take_succ_cons, List.map_cons,
    hkeyword]
  exact ⟨_, rfl⟩

/-- Its fixed correction, if there is one, is the keyword. -/
theorem correction?_cases : correction? name = none ∨ correction? name = some k := by
  have htable := (words_lower.2 k hk).2
  rw [← h] at htable
  unfold correction?
  cases hfixed : corrections.lookup (Text.lower name) with
  | none => exact .inl rfl
  | some word =>
      rw [hfixed] at htable
      exact .inr (congrArg some htable)

end WrongCase

/-- A keyword in the wrong case is the first proposal at every cutoff, and the first word that a
hint names unless the word is shorter than a misspelling can be. -/
theorem proposes_keyword_first {name k : String} (hname : Keyword.isReserved name = false)
    (hk : Keyword.isReserved k = true) (h : Text.lower name = Text.lower k) :
    (∀ cutoff, isCutoff cutoff = true → ∃ rest, similar name cutoff = .ok (k :: rest)) ∧
      (3 ≤ name.length → ∃ hint, hint? name = some hint ∧ (quotations hint).head? = some k) := by
  have hk : k ∈ Keyword.words := List.contains_iff_mem.mp hk
  constructor
  · intro cutoff hcutoff
    rw [similar_eq_proposals name hcutoff, proposals, hname]
    rcases correction?_cases hk h with hnone | hsome
    · obtain ⟨rest, hrest⟩ := closest_eq_cons hk h (Bool.and_eq_true_iff.mp hcutoff).2
      exact ⟨rest, by simp [hnone, hrest]⟩
    · rw [hsome]
      exact ⟨_, rfl⟩
  · intro hlength
    have hhinted : ∃ rest, hinted name = k :: rest := by
      unfold hinted
      rcases correction?_cases hk h with hnone | hsome
      · have hlong : ¬ name.length < leastMisspelling := Nat.not_lt.mpr hlength
        simp only [hnone, hlong, hname, decide_false, Bool.or_self, Bool.false_eq_true, if_false]
        exact closest_eq_cons hk h (by decide +kernel)
      · rw [hsome]
        exact ⟨[], rfl⟩
    obtain ⟨rest, hrest⟩ := hhinted
    have hnamed : named (hint? name) = k :: rest.take 2 := by
      rw [named_hint?, hrest]
      rfl
    cases hhint : hint? name with
    | none => rw [hhint] at hnamed; cases hnamed
    | some hint =>
        rw [hhint] at hnamed
        have hquotations : quotations hint = k :: rest.take 2 := hnamed
        exact ⟨hint, rfl, by rw [hquotations]; rfl⟩

/-- The sign for a kelvin is a capital letter whose small form is that of `K`. -/
theorem proposes_keyword_first_kelvin :
    (∃ rest, similar "\u212aappa" .one = .ok ("KAPPA" :: rest)) ∧
      ∃ hint, hint? "\u212aappa" = some hint ∧ (quotations hint).head? = some "KAPPA" := by
  have hname : Keyword.isReserved "\u212aappa" = false := by decide +kernel
  have hlower : Text.lower "\u212aappa" = Text.lower "KAPPA" := by decide +kernel
  obtain ⟨hsimilar, hhint⟩ := proposes_keyword_first hname (by decide +kernel) hlower
  exact ⟨hsimilar .one (by decide +kernel), hhint (by decide +kernel)⟩

end Suggestion

end PlainMath
