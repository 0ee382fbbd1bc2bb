/-
# `Proofs.Text.Markup` — texts that can be shown

A message is read as markup, and what looks like a tag in it has to be one.  Two kinds of texts
are safe.  In the first kind a bracket is always followed by a quote, so that nothing looks like
a tag (`fault?_of_harmless`).  The second kind is a text that was escaped: whatever it is, no tag in
it counts, unless a tag that it leaves unfinished is finished by what follows
(`exists_tagsFrom_escape`).  So nothing is read of two such texts in a row (`fault?_escaped`), and
of a path between tags only these tags.  The closing one may be lost, if the path ends with enough
backslashes, but a style may stay open (`fault?_path`).
-/
import Mathlib.Data.List.TakeWhile
import PlainMath.Text.Markup.Tag

namespace PlainMath.Text

open Markup

/-! ## Equations -/

theorem tagsFrom_cons (pending : Nat) (c : Char) (cs : List Char) :
    tagsFrom 0 pending (c :: cs) =
      if c == '\\' then tagsFrom 0 (pending + 1) cs
      else if c == '[' then
        match tagWidth? cs with
        | some width =>
          if pending % 2 == 1 then tagsFrom width 0 cs
          else Tag.ofChars (cs.take (width - 1)) :: tagsFrom width 0 cs
        | none => tagsFrom 0 0 cs
      else tagsFrom 0 0 cs := rfl

theorem escapeTags_cons (pending : Nat) (c : Char) (cs : List Char) :
    escapeTags 0 pending (c :: cs) =
      if c == '\\' then escapeTags 0 (pending + 1) cs
      else if c == '[' then
        match tagWidth? cs with
        | some width => List.replicate (2 * pending + 1) '\\' ++ c :: escapeTags width 0 cs
        | none => List.replicate pending '\\' ++ c :: escapeTags 0 0 cs
      else List.replicate pending '\\' ++ c :: escapeTags 0 0 cs := rfl

/-! ## Brackets before quotes -/

/-- Every opening bracket is followed by a quote. -/
def Harmless (cs : List Char) : Prop :=
  ∀ before after, cs = before ++ '[' :: after → after.head? = some '\''

theorem harmless_of_not_mem {cs : List Char} (h : '[' ∉ cs) : Harmless cs := by
  rintro before after rfl
  exact absurd (List.mem_append_right before List.mem_cons_self) h

theorem harmless_cons {c : Char} {cs : List Char} :
    Harmless (c :: cs) ↔ (c = '[' → cs.head? = some '\'') ∧ Harmless cs := by
  constructor
  · intro h
    refine ⟨fun hc => h [] cs (by rw [hc, List.nil_append]), fun before after hcs => ?_⟩
    exact h (c :: before) after (by rw [hcs, List.cons_append])
  · rintro ⟨hc, hcs⟩ before after heq
    rcases List.cons_eq_append_iff.mp heq with ⟨-, hfirst⟩ | ⟨before', -, hrest⟩
    · cases hfirst
      exact hc rfl
    · exact hcs before' after hrest

theorem Harmless.append {cs ds : List Char} (hcs : Harmless cs) (hds : Harmless ds) :
    Harmless (cs ++ ds) := by
  induction cs with
  | nil => exact hds
  | cons c cs ih =>
      rw [harmless_cons] at hcs
      refine harmless_cons.mpr ⟨fun hc => ?_, ih hcs.2⟩
      show (cs ++ ds).head? = some '\''
      rw [List.head?_append, hcs.1 hc]
      rfl

theorem Harmless.of_append {cs ds : List Char} (h : Harmless (cs ++ ds)) : Harmless ds := by
  intro before after hds
  exact h (cs ++ before) after (by rw [hds, List.append_assoc])

theorem tagsFrom_of_harmless {cs : List Char} (h : Harmless cs) (pending : Nat) :
    tagsFrom 0 pending cs = [] := by
  induction cs generalizing pending with
  | nil => rfl
  | cons c cs ih =>
      rw [harmless_cons] at h
      rw [tagsFrom_cons]
      by_cases hbackslash : c = '\\'
      · simp [hbackslash, ih h.2]
      · by_cases hbracket : c = '['
        · obtain ⟨rest, rfl⟩ := List.head?_eq_some_iff.mp (h.1 hbracket)
          have hwidth : tagWidth? ('\'' :: rest) = none := rfl
          simp [hbracket, hwidth, ih h.2]
        · simp [hbackslash, hbracket, ih h.2]

/-- Such a text can be shown. -/
theorem fault?_of_harmless {markup : String} (h : Harmless markup.toList) :
    fault? markup = none := by
  rw [fault?, tags, tagsFrom_of_harmless h]
  rfl

/-! ## What looks like a tag -/

/-- The character is no bracket. -/
def isInner (x : Char) : Bool := x != '[' && x != ']'

/-- The first bracket of a text. -/
def bracket? (cs : List Char) : Option Char := cs.find? fun x => !isInner x

theorem bracket?_append (cs ds : List Char) :
    bracket? (cs ++ ds) = (bracket? cs).or (bracket? ds) := List.find?_append

theorem bracket?_cons (c : Char) (cs : List Char) :
    bracket? (c :: cs) = if isInner c = true then bracket? cs else some c := by
  cases h : isInner c <;> simp [bracket?, h]

theorem bracket?_backslashes (n : Nat) (cs : List Char) :
    bracket? (List.replicate n '\\' ++ cs) = bracket? cs := by
  have hnone : bracket? (List.replicate n '\\') = none := by
    simp [bracket?, isInner]
  rw [bracket?_append, hnone, Option.none_or]

/-- A tag goes from a character that can begin it to the first bracket, which closes it. -/
theorem tagWidth?_eq_some {cs : List Char} {width : Nat} :
    tagWidth? cs = some width ↔ ∃ c name rest, cs = c :: (name ++ ']' :: rest) ∧
      isTagStart c = true ∧ (∀ x ∈ name, isInner x = true) ∧ width = name.length + 2 := by
  cases cs with
  | nil => simp [tagWidth?]
  | cons c cs =>
      show (if isTagStart c && (cs.drop (cs.takeWhile isInner).length).head? == some ']' then
        some ((cs.takeWhile isInner).length + 2) else none) = some width ↔ _
      constructor
      · intro h
        split at h
        · next htag =>
            obtain ⟨hc, hhead⟩ := Bool.and_eq_true_iff.mp htag
            have hinner : ∀ x ∈ cs.takeWhile isInner, isInner x = true :=
              fun x => List.mem_takeWhile_imp
            obtain ⟨tail, htail⟩ := List.takeWhile_prefix isInner (l := cs)
            generalize cs.takeWhile isInner = name at *
            subst htail
            rw [List.drop_left] at hhead
            obtain ⟨rest, rfl⟩ := List.head?_eq_some_iff.mp (eq_of_beq hhead)
            cases h
            exact ⟨c, name, rest, rfl, hc, hinner, rfl⟩
        · cases h
      · rintro ⟨c', name, rest, heq, hc, hname, rfl⟩
        cases heq
        have htake : (name ++ ']' :: rest).takeWhile isInner = name := by
          rw [List.takeWhile_append_of_pos hname]
          simp [isInner]
        simp [htake, hc]

theorem tagWidth?_isSome {c : Char} {cs : List Char} :
    (tagWidth? (c :: cs)).isSome = true ↔ isTagStart c = true ∧ bracket? cs = some ']' := by
  rw [Option.isSome_iff_exists]
  constructor
  · rintro ⟨width, h⟩
    obtain ⟨c', name, rest, heq, hc, hname, -⟩ := tagWidth?_eq_some.mp h
    cases heq
    refine ⟨hc, ?_⟩
    have hnone : bracket? name = none := by
      simpa [bracket?] using hname
    rw [bracket?_append, hnone]
    rfl
  · rintro ⟨hc, h⟩
    obtain ⟨-, name, rest, rfl, hname⟩ := List.find?_eq_some_iff_append.mp h
    exact ⟨_, tagWidth?_eq_some.mpr ⟨c, name, rest, rfl, hc, by simpa using hname, rfl⟩⟩

/-- Whether there is a tag is seen from the characters of the tag alone. -/
theorem tagWidth?_take {cs : List Char} {width : Nat} (h : tagWidth? cs = some width) :
    width ≤ cs.length ∧ ∀ ds, tagWidth? (cs.take width ++ ds) = some width := by
  obtain ⟨c, name, rest, rfl, hc, hname, rfl⟩ := tagWidth?_eq_some.mp h
  have htake : (c :: (name ++ ']' :: rest)).take (name.length + 2) = c :: (name ++ [']']) := by
    simp [List.take_append, List.take_of_length_le]
  refine ⟨by simp, fun ds => tagWidth?_eq_some.mpr ⟨c, name, ds, ?_, hc, hname, rfl⟩⟩
  rw [htake]
  simp

/-! ## Escaped text -/

theorem tagsFrom_backslashes (n pending : Nat) (cs : List Char) :
    tagsFrom 0 pending (List.replicate n '\\' ++ cs) = tagsFrom 0 (pending + n) cs := by
  induction n generalizing pending with
  | zero => rfl
  | succ n ih =>
      rw [List.replicate_succ, List.cons_append, tagsFrom_cons]
      simp only [beq_self_eq_true, if_true]
      rw [ih, Nat.add_assoc, Nat.add_comm 1]

theorem escapeTags_take : ∀ {copied : Nat} {cs : List Char}, copied ≤ cs.length →
    escapeTags copied 0 cs = cs.take copied ++ escapeTags 0 0 (cs.drop copied)
  | 0, _, _ => rfl
  | n + 1, c :: cs, h => by
      show c :: escapeTags n 0 cs = c :: (cs.take n ++ escapeTags 0 0 (cs.drop n))
      rw [escapeTags_take (Nat.le_of_succ_le_succ h)]

theorem tagsFrom_take {copied : Nat} {cs : List Char} (h : copied ≤ cs.length) (ds : List Char) :
    tagsFrom copied 0 (cs.take copied ++ ds) = tagsFrom 0 0 ds := by
  induction copied generalizing cs with
  | zero => rfl
  | succ n ih =>
      cases cs with
      | nil => cases h
      | cons c cs => exact ih (Nat.le_of_succ_le_succ h)

/-- Escaping moves no bracket in front of another. -/
theorem bracket?_escapeTags (pending : Nat) (cs ds : List Char) :
    bracket? (escapeTags 0 pending cs ++ ds) = bracket? (cs ++ ds) := by
  induction cs generalizing pending with
  | nil => exact bracket?_backslashes pending ds
  | cons c cs ih =>
      rw [escapeTags_cons]
      by_cases hbackslash : c = '\\'
      · simp only [hbackslash, beq_self_eq_true, if_true, ih]
        rfl
      · by_cases hbracket : c = '['
        · subst hbracket
          rw [if_neg (by decide), if_pos (by decide)]
          split <;> rw [List.append_assoc, bracket?_backslashes] <;> rfl
        · rw [if_neg (by simpa using hbackslash), if_neg (by simpa using hbracket),
            List.append_assoc, bracket?_backslashes, List.cons_append, List.cons_append,
            bracket?_cons, bracket?_cons, ih]

theorem head?_escapeTags (pending : Nat) (cs ds : List Char) :
    (escapeTags 0 (pending + 1) cs ++ ds).head? = some '\\' := by
  induction cs generalizing pending with
  | nil => rfl
  | cons c cs ih =>
      rw [escapeTags_cons]
      split
      · exact ih (pending + 1)
      · split
        · split <;> rfl
        · rfl

section Escape
variable {ds : List Char} (hstart : ds.head?.all (fun c => !isTagStart c) = true)
  (hbracket : bracket? ds ≠ some ']')
include hstart hbracket

/-- What does not look like a tag does not after escaping. -/
theorem tagWidth?_escapeTags {cs : List Char} (h : tagWidth? cs = none) :
    tagWidth? (escapeTags 0 0 cs ++ ds) = none := by
  have hhead : ∀ {x : Char} {ds : List Char}, ds.head? = some x → isTagStart x = false →
      tagWidth? ds = none := by
    intro x ds hx hstart
    obtain ⟨rest, rfl⟩ := List.head?_eq_some_iff.mp hx
    rw [← Option.not_isSome_iff_eq_none, tagWidth?_isSome]
    simp [hstart]
  cases cs with
  | nil =>
      show tagWidth? ds = none
      cases hds : ds with
      | nil => rfl
      | cons x rest =>
          rw [hds] at hstart
          exact hhead rfl (by simpa using hstart)
  | cons c cs =>
      rw [escapeTags_cons]
      split
      · exact hhead (head?_escapeTags 0 cs ds) (by decide)
      · split
        · next hc =>
            obtain rfl := eq_of_beq hc
            split
            · exact hhead rfl (by decide)
            · exact hhead rfl (by decide)
        · show tagWidth? (c :: (escapeTags 0 0 cs ++ ds)) = none
          rw [← Option.not_isSome_iff_eq_none, tagWidth?_isSome] at h ⊢
          rintro ⟨hc, hclosed⟩
          rw [bracket?_escapeTags, bracket?_append] at hclosed
          cases hcs : bracket? cs with
          | none =>
              rw [hcs] at hclosed
              exact hbracket hclosed
          | some x =>
              rw [hcs] at hclosed
              exact h ⟨hc, hcs.trans hclosed⟩

/-- No tag of a text counts after escaping. -/
theorem exists_tagsFrom_escapeTags (pending : Nat) (cs : List Char) :
    ∃ k, tagsFrom 0 0 (escapeTags 0 pending cs ++ ds) = tagsFrom 0 k ds := by
  induction hlength : cs.length using Nat.strong_induction_on generalizing pending cs with
  | _ n ih =>
      cases cs with
      | nil => exact ⟨0 + pending, tagsFrom_backslashes pending 0 ds⟩
      | cons c cs =>
          rw [List.length_cons] at hlength
          rw [escapeTags_cons]
          by_cases hbackslash : c = '\\'
          · rw [if_pos (by simpa using hbackslash)]
            exact ih cs.length (by omega) (pending + 1) cs rfl
          · rw [if_neg (by simpa using hbackslash)]
            by_cases hc : c = '['
            · subst hc
              rw [if_pos (by decide)]
              cases hwidth : tagWidth? cs with
              | none =>
                  have hnone := tagWidth?_escapeTags hstart hbracket hwidth
                  simp only [List.append_assoc, tagsFrom_backslashes, List.cons_append]
                  rw [tagsFrom_cons]
                  simp only [hnone]
                  exact ih cs.length (by omega) 0 cs rfl
              | some width =>
                  obtain ⟨hle, htake⟩ := tagWidth?_take hwidth
                  simp only [List.append_assoc, tagsFrom_backslashes, List.cons_append,
                    escapeTags_take hle]
                  rw [tagsFrom_cons]
                  simp only [htake]
                  have hodd : (0 + (2 * pending + 1)) % 2 = 1 := by omega
                  simp only [hodd, tagsFrom_take hle]
                  exact ih (cs.drop width).length (by rw [List.length_drop]; omega) 0 _ rfl
            · rw [if_neg (by simpa using hc), List.append_assoc, tagsFrom_backslashes,
                List.cons_append, tagsFrom_cons]
              rw [if_neg (by simpa using hbackslash), if_neg (by simpa using hc)]
              exact ih cs.length (by omega) 0 cs rfl

/-- The same of the text as it is shown. -/
theorem exists_tagsFrom_escape (text : String) :
    ∃ k, tagsFrom 0 0 ((escape text).toList ++ ds) = tagsFrom 0 k ds := by
  rw [escape, String.toList_ofList, closeBackslash]
  split
  · have hstart' : ('\\' :: ds).head?.all (fun c => !isTagStart c) = true := by
      simp [isTagStart]
    have hbracket' : bracket? ('\\' :: ds) ≠ some ']' := hbracket
    obtain ⟨k, hk⟩ := exists_tagsFrom_escapeTags hstart' hbracket' 0 text.toList
    refine ⟨k + 1, ?_⟩
    rw [List.append_assoc]
    exact hk
  · exact exists_tagsFrom_escapeTags hstart hbracket 0 text.toList

end Escape

theorem tagsFrom_append {cs : List Char} (hbracket : '[' ∉ cs) (hbackslash : '\\' ∉ cs)
    (ds : List Char) : tagsFrom 0 0 (cs ++ ds) = tagsFrom 0 0 ds := by
  induction cs with
  | nil => rfl
  | cons c cs ih =>
      rw [List.mem_cons, not_or] at hbracket hbackslash
      rw [List.cons_append, tagsFrom_cons]
      simp [Ne.symm hbracket.1, Ne.symm hbackslash.1, ih hbracket.2 hbackslash.2]

/-! ## Escaped texts in a row -/

theorem bracket?_escape (text : String) : bracket? (escape text).toList = bracket? text.toList := by
  rw [escape, String.toList_ofList, closeBackslash]
  split
  · rw [bracket?_escapeTags, bracket?_append]
    exact Option.or_none
  · simpa using bracket?_escapeTags 0 text.toList []

/-- Two texts with a colon between them, if the second one finishes no tag of the first. -/
theorem fault?_escaped {before : String} (hbracket : '[' ∉ before.toList)
    (hbackslash : '\\' ∉ before.toList) (first : String) {second : String}
    (hsecond : bracket? second.toList ≠ some ']') :
    fault? (before ++ escape first ++ ": " ++ escape second) = none := by
  have hcolon : ": ".toList = [':', ' '] := rfl
  have hafter : bracket? (": ".toList ++ (escape second).toList) ≠ some ']' := by
    rw [bracket?_append, bracket?_escape, hcolon]
    exact hsecond
  have hstart : (": ".toList ++ (escape second).toList).head?.all (fun c => !isTagStart c) =
      true := by
    rw [hcolon]
    rfl
  obtain ⟨k, hfirst⟩ := exists_tagsFrom_escape hstart hafter first
  have hend : ([] : List Char).head?.all (fun c => !isTagStart c) = true := rfl
  obtain ⟨j, hlast⟩ := exists_tagsFrom_escape hend (by decide) second
  have hbetween : tagsFrom 0 k (": ".toList ++ (escape second).toList) =
      tagsFrom 0 0 (escape second).toList := by
    rw [hcolon]
    rfl
  have htags : tags (before ++ escape first ++ ": " ++ escape second) = [] := by
    rw [List.append_nil] at hlast
    rw [tags, String.toList_append, String.toList_append, String.toList_append, List.append_assoc,
      List.append_assoc, tagsFrom_append hbracket hbackslash, hfirst, hbetween, hlast]
    rfl
  rw [fault?, htags]
  rfl

/-! ## Paths between tags -/

/-- Of a path between tags, the opening one is read, and the closing one unless it is lost. -/
theorem exists_tagsFrom_path (text : String) (ds : List Char) :
    ∃ closing, (closing = [] ∨ closing = [⟨"/path", none⟩]) ∧
      tagsFrom 0 0 (("[path]" ++ escape text ++ "[/path]").toList ++ ds) =
        ⟨"path", none⟩ :: (closing ++ tagsFrom 0 0 ds) := by
  have hopen : ∀ es : List Char, tagsFrom 0 0 ("[path]".toList ++ es) =
      ⟨"path", none⟩ :: tagsFrom 0 0 es := by
    intro es
    have hwidth : tagWidth? ("path]".toList ++ es) = some 5 :=
      tagWidth?_eq_some.mpr ⟨'p', "ath".toList, es, rfl, rfl, List.all_eq_true.mp rfl, rfl⟩
    show tagsFrom 0 0 ('[' :: ("path]".toList ++ es)) = _
    rw [tagsFrom_cons]
    simp only [hwidth]
    rfl
  have hclose : ∀ k : Nat, ∃ closing, (closing = [] ∨ closing = [⟨"/path", none⟩]) ∧
      tagsFrom 0 k ("[/path]".toList ++ ds) = closing ++ tagsFrom 0 0 ds := by
    intro k
    have hwidth : tagWidth? ("/path]".toList ++ ds) = some 6 :=
      tagWidth?_eq_some.mpr ⟨'/', "path".toList, ds, rfl, rfl, List.all_eq_true.mp rfl, rfl⟩
    have hrest : tagsFrom 6 0 ("/path]".toList ++ ds) = tagsFrom 0 0 ds := by
      cases ds <;> rfl
    show ∃ closing, _ ∧ tagsFrom 0 k ('[' :: ("/path]".toList ++ ds)) = _
    rw [tagsFrom_cons]
    simp only [hwidth, hrest]
    by_cases hodd : k % 2 = 1
    · exact ⟨[], .inl rfl, by simp [hodd]⟩
    · simp only [beq_false_of_ne hodd]
      exact ⟨[⟨"/path", none⟩], .inr rfl, rfl⟩
  have hstart : ("[/path]".toList ++ ds).head?.all (fun c => !isTagStart c) = true := rfl
  have hbracket : bracket? ("[/path]".toList ++ ds) ≠ some ']' := by
    show some '[' ≠ some ']'
    decide
  obtain ⟨k, hk⟩ := exists_tagsFrom_escape hstart hbracket text
  obtain ⟨closing, hclosing, hread⟩ := hclose k
  refine ⟨closing, hclosing, ?_⟩
  simp only [String.toList_append, List.append_assoc]
  rw [hopen, hk, hread]

/-- A path can be shown, whatever it is. -/
theorem fault?_path {before after : String} (hbracket : '[' ∉ before.toList)
    (hbackslash : '\\' ∉ before.toList) (hafter : '[' ∉ after.toList) (text : String) :
    fault? (before ++ ("[path]" ++ escape text ++ "[/path]") ++ after) = none := by
  obtain ⟨closing, hclosing, htags⟩ := exists_tagsFrom_path text after.toList
  rw [fault?, tags, String.toList_append, String.toList_append, List.append_assoc,
    tagsFrom_append hbracket hbackslash, htags, tagsFrom_eq_nil hafter]
  rcases hclosing with rfl | rfl <;> rfl

/-- Two paths can be shown together, whatever they are. -/
theorem fault?_paths {before between : String} (hbefore : '[' ∉ before.toList)
    (hbackslash : '\\' ∉ before.toList) (hbetween : '[' ∉ between.toList)
    (hbackslash' : '\\' ∉ between.toList) (first second : String) :
    fault? (before ++ ("[path]" ++ escape first ++ "[/path]") ++ between ++
      ("[path]" ++ escape second ++ "[/path]")) = none := by
  obtain ⟨closing', hclosing', htags'⟩ := exists_tagsFrom_path second []
  obtain ⟨closing, hclosing, htags⟩ := exists_tagsFrom_path first
    (between.toList ++ ("[path]" ++ escape second ++ "[/path]").toList)
  rw [List.append_nil] at htags'
  rw [fault?, tags, String.toList_append, String.toList_append, String.toList_append,
    List.append_assoc, List.append_assoc, tagsFrom_append hbefore hbackslash, htags,
    tagsFrom_append hbetween hbackslash', htags']
  rcases hclosing with rfl | rfl <;> rcases hclosing' with rfl | rfl <;> rfl

end PlainMath.Text
