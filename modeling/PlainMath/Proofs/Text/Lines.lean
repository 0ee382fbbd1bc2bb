/-
# `Proofs.Text.Lines` — the lines of a text

A text is cut at its line ends.  Lines that hold no line end come back when they are put
together and cut again, and the line of a number is the one behind so many line ends.

    lines put together and cut again            (`lines_intercalate`)
    every place of a text lies in a line        (`exists_line_front`, `exists_line_back`)
    that line is found by its number            (`LineBetween.line?_eq`)
    and it is what `IsLine` says                (`LineBetween.isLine`)
-/
import Mathlib.Data.List.DropRight
import PlainMath.Text.Lines

namespace PlainMath.Text

/-! ## Cutting at a character -/

theorem splitAt_eq_splitOn (sep : Char) (cs : List Char) : splitAt sep cs = cs.splitOn sep := by
  induction cs with
  | nil => rfl
  | cons c cs ih =>
      rw [splitAt, List.splitOn_cons_eq_if_modifyHead, ih]
      simp only [beq_iff_eq]
      split
      · rfl
      · cases hpieces : cs.splitOn sep with
        | nil => exact absurd hpieces (List.splitOn_ne_nil sep cs)
        | cons piece pieces => rfl

theorem splitAt_append (sep : Char) (a b : List Char) :
    splitAt sep (a ++ sep :: b) = splitAt sep a ++ splitAt sep b := by
  simp only [splitAt_eq_splitOn, List.splitOn_append_cons_self]

theorem splitAt_of_not_mem {sep : Char} {cs : List Char} (h : sep ∉ cs) :
    splitAt sep cs = [cs] := by
  rw [splitAt_eq_splitOn, List.splitOn_eq_singleton h]

/-- There is one piece more than separators. -/
theorem length_splitAt (sep : Char) (cs : List Char) :
    (splitAt sep cs).length = cs.count sep + 1 := by
  induction cs with
  | nil => rfl
  | cons c cs ih =>
      rw [splitAt]
      split
      · next hc => simp [hc, ih]
      · next hc =>
          rw [List.count_cons_of_ne hc, ← ih]
          split
          · next hpieces => simp [hpieces] at ih
          · next hpieces => simp [hpieces]

theorem not_mem_of_mem_splitAt {sep : Char} {cs : List Char} :
    ∀ {piece : List Char}, piece ∈ splitAt sep cs → sep ∉ piece := by
  induction cs with
  | nil =>
      intro piece h
      obtain rfl := List.mem_singleton.mp h
      exact List.not_mem_nil
  | cons c cs ih =>
      intro piece h
      rw [splitAt] at h
      split at h
      · rcases List.mem_cons.mp h with rfl | h
        · exact List.not_mem_nil
        · exact ih h
      · next hc =>
          split at h
          · obtain rfl := List.mem_singleton.mp h
            simpa using Ne.symm hc
          · next first pieces hpieces =>
              rw [hpieces] at ih
              rcases List.mem_cons.mp h with rfl | h
              · have hfirst : sep ∉ first := ih List.mem_cons_self
                simpa [Ne.symm hc] using hfirst
              · exact ih (List.mem_cons_of_mem first h)

/-- A line holds no line end. -/
theorem newline_not_mem_of_mem_lines {s l : String} (h : l ∈ lines s) : '\n' ∉ l.toList := by
  obtain ⟨piece, hpiece, rfl⟩ := List.mem_map.mp h
  rw [String.toList_ofList]
  exact not_mem_of_mem_splitAt hpiece

/-- There is one line more than line ends. -/
theorem length_lines (s : String) : (lines s).length = s.toList.count '\n' + 1 := by
  rw [lines, List.length_map, length_splitAt]

/-- Lines that are put together are the lines of the whole. -/
theorem lines_intercalate {ls : List String} (hne : ls ≠ [])
    (h : ∀ l ∈ ls, '\n' ∉ l.toList) : lines ("\n".intercalate ls) = ls := by
  have hpieces : ∀ l ∈ ls.map String.toList, '\n' ∉ l := by simpa using h
  rw [lines, splitAt_eq_splitOn, String.toList_intercalate]
  rw [show "\n".toList = ['\n'] from rfl]
  rw [List.splitOn_intercalate '\n' hpieces (by simpa using hne)]
  simp

theorem not_mem_intercalate {c : Char} {separator : String} (hseparator : c ∉ separator.toList) :
    ∀ {rows : List String}, (∀ s ∈ rows, c ∉ s.toList) → c ∉ (separator.intercalate rows).toList
  | [], _ => by simp
  | [s], h => by simpa using h
  | s :: t :: rows, h => by
      have hrest := not_mem_intercalate hseparator fun u hu => h u (List.mem_cons_of_mem s hu)
      simp only [String.intercalate_cons_cons, String.toList_append, List.mem_append, not_or]
      exact ⟨⟨h s List.mem_cons_self, hseparator⟩, hrest⟩

/-- A line of the first of two texts is found by its number in both together. -/
theorem line?_append_left {a b : String} {number : Int}
    (h : number ≤ 1 + a.toList.count '\n') : line? (a ++ "\n" ++ b) number = line? a number := by
  have hchars : (a ++ "\n" ++ b).toList = a.toList ++ '\n' :: b.toList := by simp
  have hindex : number < 1 ∨ (number - 1).toNat < (splitAt '\n' a.toList).length := by
    rw [length_splitAt]
    omega
  rw [line?, line?, hchars, splitAt_append]
  split
  · rfl
  · next hnumber => rw [List.getElem?_append_left (hindex.resolve_left hnumber)]

/-- A line of the second of two texts stands behind all lines of the first. -/
theorem line?_append_right {a b : String} {number : Int} (h : 1 ≤ number) :
    line? (a ++ "\n" ++ b) (number + (1 + a.toList.count '\n')) = line? b number := by
  have hchars : (a ++ "\n" ++ b).toList = a.toList ++ '\n' :: b.toList := by simp
  have hlength := length_splitAt '\n' a.toList
  have hindex : (number + (1 + (a.toList.count '\n' : Int)) - 1).toNat =
      (splitAt '\n' a.toList).length + (number - 1).toNat := by omega
  rw [line?, line?, if_neg (by omega), if_neg (by omega), hchars, splitAt_append, hindex,
    List.getElem?_append_right (Nat.le_add_right _ _), Nat.add_sub_cancel_left]

/-! ## Trailing characters -/

/-- What does not end in such a character is kept. -/
theorem dropTrailing_append {α : Type} {p : α → Bool} {a : List α}
    (ha : ∀ c ∈ a.getLast?, p c = false) (b : List α) :
    dropTrailing p (a ++ b) = a ++ dropTrailing p b := by
  have hkeep : a.reverse.dropWhile p = a.reverse := by
    cases hrev : a.reverse with
    | nil => rfl
    | cons c cs => simp [ha c (by simp [← List.head?_reverse, hrev])]
  rw [dropTrailing, dropTrailing, List.reverse_append, List.dropWhile_append]
  split
  · next hempty => simp [hkeep, List.isEmpty_iff.mp hempty]
  · simp

/-! ## Lines by number -/

/-- A whole line: no line end in it, and on either side a line end or nothing. -/
structure LineBetween (before body after : List Char) : Prop where
  start : before = [] ∨ before.getLast? = some '\n'
  inLine : '\n' ∉ body
  stop : after = [] ∨ after.head? = some '\n'

/-- What stands before a place begins with whole lines. -/
theorem exists_line_front (front : List Char) : ∃ before inner, front = before ++ inner ∧
    (before = [] ∨ before.getLast? = some '\n') ∧ '\n' ∉ inner := by
  induction front using List.reverseRecOn with
  | nil => exact ⟨[], [], rfl, .inl rfl, List.not_mem_nil⟩
  | append_singleton front c ih =>
      obtain ⟨before, inner, rfl, hbefore, hinner⟩ := ih
      by_cases hc : c = '\n'
      · exact ⟨before ++ inner ++ [c], [], by simp, .inr (by simp [hc]), List.not_mem_nil⟩
      · refine ⟨before, inner ++ [c], by simp, hbefore, ?_⟩
        simp [hinner, Ne.symm hc]

theorem exists_line_back (rest : List Char) : ∃ inner after, rest = inner ++ after ∧
    '\n' ∉ inner ∧ (after = [] ∨ after.head? = some '\n') := by
  induction rest with
  | nil => exact ⟨[], [], rfl, List.not_mem_nil, .inl rfl⟩
  | cons c rest ih =>
      obtain ⟨inner, after, rfl, hinner, hafter⟩ := ih
      by_cases hc : c = '\n'
      · exact ⟨[], c :: (inner ++ after), rfl, List.not_mem_nil, .inr (by simp [hc])⟩
      · refine ⟨c :: inner, after, rfl, ?_, hafter⟩
        simp [hinner, Ne.symm hc]

namespace LineBetween

variable {before body after : List Char} (h : LineBetween before body after)
include h

/-- The line stands behind as many lines as line ends. -/
theorem getElem?_splitAt :
    (splitAt '\n' (before ++ (body ++ after)))[before.count '\n']? = some body := by
  have hfirst : (splitAt '\n' (body ++ after))[0]? = some body := by
    rcases h.stop with rfl | hafter
    · rw [List.append_nil, splitAt_of_not_mem h.inLine]
      rfl
    · obtain ⟨rest, rfl⟩ := List.head?_eq_some_iff.mp hafter
      rw [splitAt_append, splitAt_of_not_mem h.inLine]
      rfl
  rcases h.start with rfl | hbefore
  · exact hfirst
  · obtain ⟨front, rfl⟩ := List.getLast?_eq_some_iff.mp hbefore
    have hlength : (front ++ ['\n']).count '\n' = (splitAt '\n' front).length + 0 := by
      simp [length_splitAt]
    rw [List.append_assoc, List.singleton_append, splitAt_append, hlength,
      List.getElem?_append_right (Nat.le_add_right _ _), Nat.add_sub_cancel_left]
    exact hfirst

/-- The line is found by its number. -/
theorem line?_eq {s : String} (hs : s.toList = before ++ (body ++ after)) :
    line? s (1 + before.count '\n') = some (String.ofList (dropTrailing (· == '\r') body)) := by
  have hnumber : ¬ (1 + (before.count '\n' : Int)) < 1 := by omega
  have hindex : ((1 + (before.count '\n' : Int)) - 1).toNat = before.count '\n' := by omega
  rw [line?, if_neg hnumber, hindex, hs, h.getElem?_splitAt]
  rfl

end LineBetween

/-- `line` is what is shown as the line of this number: a whole line of the text, behind one line
end less than the number says, and without the carriage returns at its end. -/
def IsLine (s : String) (number : Int) (line : String) : Prop :=
  ∃ before returns after, s.toList = before ++ ((line.toList ++ returns) ++ after) ∧
    LineBetween before (line.toList ++ returns) after ∧ number = 1 + before.count '\n' ∧
    (∀ c ∈ returns, c = '\r') ∧ line.toList.getLast? ≠ some '\r'

theorem LineBetween.isLine {before body after : List Char} (h : LineBetween before body after)
    {s : String} (hs : s.toList = before ++ (body ++ after)) :
    IsLine s (1 + before.count '\n') (String.ofList (dropTrailing (· == '\r') body)) := by
  have hbody : dropTrailing (· == '\r') body ++ body.rtakeWhile (· == '\r') = body :=
    List.rdropWhile_append_rtakeWhile
  refine ⟨before, body.rtakeWhile (· == '\r'), after, ?_, ?_, rfl, ?_, ?_⟩
  · rwa [String.toList_ofList, hbody]
  · rwa [String.toList_ofList, hbody]
  · intro c hc
    have hreturn := List.mem_rtakeWhile_imp hc
    exact eq_of_beq hreturn
  · rw [String.toList_ofList]
    intro hlast
    obtain ⟨hne, hreturn⟩ := List.mem_getLast?_eq_getLast hlast
    exact List.rdropWhile_last_not _ _ hne (beq_iff_eq.mpr hreturn.symm)

end PlainMath.Text
