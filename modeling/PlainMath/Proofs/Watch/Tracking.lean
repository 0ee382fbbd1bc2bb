/-
# `Proofs.Watch.Tracking` — a watch keeps up with its input

A watch is described without its disk.  What is seen of the input after each edit is what would be
seen if nobody else wrote to the disk (`sightings`); of these the ones with a new stamp are
converted (`conversions`); and the output holds what the last of them that has LaTeX made of it.
That this is so rests on one invariant, `Follows`: the disk of the watch shows the same input as the
disk with the edits alone, since writing the output leaves the input as it is, and editing the
input leaves the output as it is.

    one look        (`look_follows`)
    a whole loop    (`loop_follows`)
    a whole watch   (`run_follows_input`)

One thing stops a watch, a content that aborts its conversion.
-/
import Mathlib.Data.List.ReduceOption
import PlainMath.Proofs.Conversion
import PlainMath.Watch

namespace PlainMath.Watch

open Disk (Edit)

/-! ## A watch without its disk -/

/-- What is seen of a file after each of the edits. -/
def sightings (p : Path) (d : Disk) : List Edit → List (Option (ByteArray × Nat))
  | [] => []
  | e :: edits => (d.edit p e).file? p :: sightings p (d.edit p e) edits

/-- The content that is new at a look: there is a file, and its stamp is not the one that was seen
last. -/
def fresh? (seen : Option Nat) : Option (ByteArray × Nat) → Option ByteArray
  | some (content, stamp) => if seen = some stamp then none else some content
  | none => none

/-- The stamp that was seen last after a look. -/
def seenAfter (seen : Option Nat) : Option (ByteArray × Nat) → Option Nat
  | some (_, stamp) => some stamp
  | none => seen

/-- The content that is converted at each look, if any is. -/
def conversions : Option Nat → List (Option (ByteArray × Nat)) → List (Option ByteArray)
  | _, [] => []
  | seen, sight :: rest => fresh? seen sight :: conversions (seenAfter seen sight) rest

/-- The edits before the looks, of which there may be a limit. -/
def edited (limit : Option Nat) (edits : List Edit) : List Edit :=
  match limit with
  | some n => edits.take n
  | none => edits

/-- The content that is converted at each look, when the input is edited on this disk. -/
def converted (c : Conversion) (limit : Option Nat) (edits : List Edit) (seen : Option Nat)
    (d : Disk) : List (Option ByteArray) :=
  conversions seen (sightings c.input d (edited limit edits))

/-- What is shown about a content that is new. -/
def shownFresh (threshold : Int) (time : String) (c : Conversion) : Option ByteArray → List Event
  | none => []
  | some content => changed time :: c.told threshold content

/-- What is shown at a look. -/
def shownAtLook (threshold : Int) (time : String) (c : Conversion) (fresh : Option ByteArray) :
    List Event :=
  .pause c.settings.interval :: shownFresh threshold time c fresh

/-- What is shown about the first conversion. -/
def shownFirst (threshold : Int) (c : Conversion) (d : Disk) : List Event :=
  match d.read c.input with
  | .ok content => c.told threshold content
  | .error f => [c.unreadable f]

/-- What is shown at the end: a pause that is interrupted, if there are no edits left for it. -/
def shownLast (c : Conversion) (limit : Option Nat) (edits : List Edit) : List Event :=
  if limit.all (edits.length < ·) then [.pause c.settings.interval, stopped] else []

/-- What the contents leave in the output: the LaTeX of the last of them that has some. -/
def latest? (threshold : Int) (c : Conversion) (contents : List ByteArray) : Option ByteArray :=
  (contents.filterMap (c.result? threshold)).getLast?.map String.toUTF8

theorem latest?_append (threshold : Int) (c : Conversion) (first later : List ByteArray) :
    latest? threshold c (first ++ later) =
      (latest? threshold c later).or (latest? threshold c first) := by
  unfold latest?
  rw [List.filterMap_append, List.getLast?_append]
  cases (later.filterMap (c.result? threshold)).getLast? <;> rfl

theorem latest?_singleton (threshold : Int) (c : Conversion) (content : ByteArray) :
    latest? threshold c [content] = (c.result? threshold content).map String.toUTF8 := by
  unfold latest?
  cases h : c.result? threshold content <;> simp [h]

theorem latest?_toList (threshold : Int) (c : Conversion) (content : Option ByteArray) :
    latest? threshold c content.toList =
      (content.bind (c.result? threshold)).map String.toUTF8 := by
  cases content with
  | none => rfl
  | some content => exact latest?_singleton threshold c content

/-- The contents before the first one that aborts its conversion. -/
def lasting (threshold : Int) (c : Conversion) (contents : List ByteArray) : List ByteArray :=
  contents.takeWhile fun content => (c.abort? threshold content).isNone

theorem lasting_append {threshold : Int} {c : Conversion} {first : List ByteArray}
    (h : ∀ content ∈ first, c.abort? threshold content = none) (later : List ByteArray) :
    lasting threshold c (first ++ later) = first ++ lasting threshold c later :=
  List.takeWhile_append_of_pos fun content hcontent => by simp [h content hcontent]

theorem reduceOption_cons {α : Type} (x : Option α) (rest : List (Option α)) :
    (x :: rest).reduceOption = x.toList ++ rest.reduceOption := by
  cases x <;> rfl

theorem converted_cons {limit : Option Nat} (h : limit ≠ some 0) (c : Conversion) (e : Edit)
    (edits : List Edit) (seen : Option Nat) (d : Disk) :
    converted c limit (e :: edits) seen d =
      fresh? seen ((d.edit c.input e).file? c.input) ::
        converted c (limit.map (· - 1)) edits
          (seenAfter seen ((d.edit c.input e).file? c.input)) (d.edit c.input e) := by
  match limit, h with
  | none, _ => rfl
  | some (n + 1), _ => rfl

theorem shownLast_cons {limit : Option Nat} (h : limit ≠ some 0) (c : Conversion) (e : Edit)
    (edits : List Edit) :
    shownLast c limit (e :: edits) = shownLast c (limit.map (· - 1)) edits := by
  match limit, h with
  | none, _ => rfl
  | some (n + 1), _ => simp [shownLast]

/-- The changes of the disk that edits of the input are. -/
def changes (c : Conversion) (edits : List Edit) : List (Disk → Disk) :=
  edits.map fun e d => d.edit c.input e

theorem loop_cons {limit : Option Nat} (h : limit ≠ some 0) (threshold : Int) (time : String)
    (c : Conversion) (e : Edit) (edits : List Edit) (s : State) :
    loop threshold time c (changes c (e :: edits)) limit s =
      look threshold time c
          ⟨s.seen, s.disk.edit c.input e, s.events ++ [.pause c.settings.interval]⟩ >>=
        loop threshold time c (changes c edits) (limit.map (· - 1)) := by
  match limit, h with
  | none, _ => rfl
  | some (n + 1), _ => rfl

/-! ## One conversion -/

section Following
variable {threshold : Int} {time : String} {c : Conversion} {edits : List Edit} {d u : Disk}
  {s : State} {content : ByteArray} {stamp : Nat}

theorem State.convert_of_abort? (hfile : s.disk.file? c.input = some (content, stamp))
    {e : Conversion.Abort} (h : c.abort? threshold content = some e) :
    ∃ o, s.convert threshold c = .error o ∧ o.failure = some e ∧ o.disk = s.disk := by
  simp only [State.convert, Conversion.run, Disk.read_of_file? hfile,
    Conversion.convert_of_abort? h s.disk]
  exact ⟨_, rfl, rfl, rfl⟩

theorem State.convert_of_abort?_none (hfile : s.disk.file? c.input = some (content, stamp))
    (h : c.abort? threshold content = none)
    (hwritable : ∀ bytes, (s.disk.publish c.output bytes).2 = none) :
    s.convert threshold c =
      .ok ⟨s.seen, c.after threshold content s.disk, s.events ++ c.told threshold content⟩ := by
  obtain ⟨⟨written, hwritten⟩, hevents⟩ := Conversion.convert_of_abort?_none h hwritable
  simp only [State.convert, Conversion.run, Disk.read_of_file? hfile, hwritten, hevents,
    Conversion.convert_disk]

/-! ## The invariant -/

/-- The disk `d'` shows the same input as the disk `u`, and comes from `d` by edits of the input and
writing the output. -/
structure Follows (c : Conversion) (edits : List Edit) (d d' u : Disk) : Prop where
  mirrors : Disk.Mirrors c.input d' u
  reaches : Disk.Reaches c.input c.output edits d d'

namespace Follows

variable {d' : Disk}

theorem edit (h : Follows c edits d d' u) {e : Edit} (he : e ∈ edits) (hstamped : e.IsStamped) :
    Follows c edits d (d'.edit c.input e) (u.edit c.input e) :=
  ⟨h.mirrors.edit hstamped, h.reaches.edit he⟩

theorem after (h : Follows c edits d d' u) (hplace : d.place c.input ≠ d.place c.output)
    (hfile : d'.file? c.input = some (content, stamp)) (threshold : Int) :
    Follows c edits d (c.after threshold content d') u := by
  unfold Conversion.after
  split
  · exact ⟨h.mirrors.publish (h.reaches.place_ne hplace) hfile _, h.reaches.publish _⟩
  · exact h

end Follows

/-! ## One look -/

/-- Nothing is done at a look if nothing is new. -/
theorem look_of_fresh?_none (h : fresh? s.seen (s.disk.file? c.input) = none) :
    look threshold time c s = .ok s ∧ seenAfter s.seen (s.disk.file? c.input) = s.seen := by
  unfold look
  rw [Disk.stamp?_eq]
  cases hfile : s.disk.file? c.input with
  | none => exact ⟨rfl, rfl⟩
  | some f =>
      obtain ⟨content, stamp⟩ := f
      rw [hfile] at h
      have hseen : s.seen = some stamp := by
        by_contra hne
        rw [fresh?, if_neg hne] at h
        cases h
      exact ⟨if_pos hseen, hseen.symm⟩

/-- A content that is new is converted, and its stamp is kept in mind. -/
theorem look_of_fresh?_some (h : fresh? s.seen (s.disk.file? c.input) = some content) :
    ∃ stamp, s.disk.file? c.input = some (content, stamp) ∧
      look threshold time c s =
        State.convert threshold ⟨some stamp, s.disk, s.events ++ [changed time]⟩ c := by
  unfold look
  rw [Disk.stamp?_eq]
  cases hfile : s.disk.file? c.input with
  | none =>
      rw [hfile] at h
      cases h
  | some f =>
      obtain ⟨content', stamp⟩ := f
      rw [hfile, fresh?] at h
      split at h
      · cases h
      · next hseen =>
          cases h
          exact ⟨stamp, rfl, if_neg hseen⟩

theorem look_of_abort? (h : fresh? s.seen (s.disk.file? c.input) = some content)
    {e : Conversion.Abort} (habort : c.abort? threshold content = some e) :
    ∃ o, look threshold time c s = .error o ∧ o.failure = some e ∧ o.disk = s.disk := by
  obtain ⟨stamp, hfile, hlook⟩ := look_of_fresh?_some h
  rw [hlook]
  exact State.convert_of_abort? (s := ⟨some stamp, s.disk, _⟩) hfile habort

section Loop
variable (hplace : d.place c.input ≠ d.place c.output)
  (hwritable : Disk.AlwaysWritable c.input c.output edits d)
include hplace hwritable

/-- What a look does, if it is not aborted. -/
theorem look_follows (hfollows : Follows c edits d s.disk u)
    (hlasts : ∀ content, fresh? s.seen (u.file? c.input) = some content →
      c.abort? threshold content = none) :
    ∃ s', look threshold time c s = .ok s' ∧ Follows c edits d s'.disk u ∧
      s'.seen = seenAfter s.seen (u.file? c.input) ∧
      s'.events = s.events ++ shownFresh threshold time c (fresh? s.seen (u.file? c.input)) ∧
      s'.disk.content? c.output =
        (latest? threshold c (fresh? s.seen (u.file? c.input)).toList).or
          (s.disk.content? c.output) := by
  rw [← hfollows.mirrors.file?] at hlasts ⊢
  cases hfresh : fresh? s.seen (s.disk.file? c.input) with
  | none =>
      obtain ⟨hlook, hseen⟩ := look_of_fresh?_none hfresh
      exact ⟨s, hlook, hfollows, hseen.symm, (List.append_nil _).symm, rfl⟩
  | some content =>
      obtain ⟨stamp, hfile, hlook⟩ := look_of_fresh?_some hfresh
      have hwritten := hwritable s.disk hfollows.reaches
      have hconvert := State.convert_of_abort?_none
        (s := ⟨some stamp, s.disk, s.events ++ [changed time]⟩) hfile (hlasts content hfresh)
        hwritten
      refine ⟨_, hlook.trans hconvert, hfollows.after hplace hfile threshold, ?_, ?_, ?_⟩
      · rw [hfile]
        rfl
      · exact List.append_assoc _ _ _
      · rw [latest?_toList]
        exact Conversion.content?_after hwritten

variable (time) in
/-- What a loop does, if it is not aborted. -/
theorem loop_follows {remaining : List Edit} : ∀ {limit : Option Nat} {s : State} {u : Disk},
    (∀ e ∈ remaining, e ∈ edits ∧ e.IsStamped) → Follows c edits d s.disk u →
    (∀ content ∈ (converted c limit remaining s.seen u).reduceOption,
      c.abort? threshold content = none) →
    ∃ s', loop threshold time c (changes c remaining) limit s = .ok s' ∧
      s'.events = s.events ++
        ((converted c limit remaining s.seen u).flatMap (shownAtLook threshold time c) ++
          shownLast c limit remaining) ∧
      s'.disk.content? c.output =
        (latest? threshold c (converted c limit remaining s.seen u).reduceOption).or
          (s.disk.content? c.output) := by
  induction remaining with
  | nil =>
      intro limit s u _ _ _
      match limit with
      | some 0 => exact ⟨s, rfl, (List.append_nil _).symm, rfl⟩
      | some (n + 1) => exact ⟨_, rfl, List.append_assoc _ _ _, rfl⟩
      | none => exact ⟨_, rfl, List.append_assoc _ _ _, rfl⟩
  | cons e remaining ih =>
      intro limit s u hedits hfollows hlasts
      by_cases hlimit : limit = some 0
      · subst hlimit
        exact ⟨s, rfl, (List.append_nil _).symm, rfl⟩
      · obtain ⟨⟨he, hstamped⟩, hrest⟩ := List.forall_mem_cons.mp hedits
        rw [converted_cons hlimit, reduceOption_cons, List.forall_mem_append] at hlasts
        -- the look after this edit, and then all others
        obtain ⟨s₁, hlook, hfollows₁, hseen₁, hevents₁, houtput₁⟩ :=
          look_follows
            (s := ⟨s.seen, s.disk.edit c.input e, s.events ++ [.pause c.settings.interval]⟩)
            hplace hwritable (hfollows.edit he hstamped)
            fun content hcontent => hlasts.1 content (Option.mem_toList.mpr hcontent)
        have hdirectory := hfollows.mirrors.isDirectory
        rw [Disk.content?_edit hdirectory (hfollows.reaches.place_ne hplace)] at houtput₁
        rw [← hseen₁] at hlasts
        obtain ⟨s₂, hloop, hevents₂, houtput₂⟩ := ih hrest hfollows₁ hlasts.2
        refine ⟨s₂, ?_, ?_, ?_⟩
        · rw [loop_cons hlimit, hlook]
          exact hloop
        · rw [hevents₂, hevents₁, converted_cons hlimit, shownLast_cons hlimit, hseen₁]
          simp [shownAtLook]
        · rw [houtput₂, houtput₁, converted_cons hlimit, reduceOption_cons, latest?_append, hseen₁,
            Option.or_assoc]

variable (time) in
/-- A content that aborts its conversion ends the loop; what was converted before it is kept. -/
theorem loop_aborts {remaining : List Edit} {e : Conversion.Abort} :
    ∀ {limit : Option Nat} {s : State} {u : Disk},
    (∀ e ∈ remaining, e ∈ edits ∧ e.IsStamped) → Follows c edits d s.disk u →
    (converted c limit remaining s.seen u).reduceOption.findSome? (c.abort? threshold) = some e →
    ∃ o, loop threshold time c (changes c remaining) limit s = .error o ∧ o.failure = some e ∧
      o.disk.content? c.output =
        (latest? threshold c (lasting threshold c
          (converted c limit remaining s.seen u).reduceOption)).or (s.disk.content? c.output) := by
  induction remaining with
  | nil =>
      intro limit s u _ _ habort
      have hnone : converted c limit [] s.seen u = [] := by
        cases limit <;> simp [converted, edited, sightings, conversions]
      rw [hnone] at habort
      cases habort
  | cons edit remaining ih =>
      intro limit s u hedits hfollows habort
      have hlimit : limit ≠ some 0 := by
        rintro rfl
        cases habort
      obtain ⟨⟨hmem, hstamped⟩, hrest⟩ := List.forall_mem_cons.mp hedits
      have hedited := hfollows.edit hmem hstamped
      have houtput := Disk.content?_edit hfollows.mirrors.isDirectory
        (hfollows.reaches.place_ne hplace) edit
      rw [converted_cons hlimit, reduceOption_cons] at habort ⊢
      rw [loop_cons hlimit]
      -- either this look is aborted, or it is not and a later one is
      cases hfirst : (fresh? s.seen ((u.edit c.input edit).file? c.input)).bind
          (c.abort? threshold) with
      | some e' =>
          obtain ⟨content, hfresh, hcontent⟩ := Option.bind_eq_some_iff.mp hfirst
          rw [hfresh] at habort ⊢
          obtain rfl : e' = e := by simpa [hcontent] using habort
          rw [← hedited.mirrors.file?] at hfresh
          obtain ⟨o, hlook, hfailure, hdisk⟩ := look_of_abort?
            (s := ⟨s.seen, s.disk.edit c.input edit, s.events ++ [.pause c.settings.interval]⟩)
            hfresh hcontent
          refine ⟨o, by rw [hlook]; rfl, hfailure, ?_⟩
          have hnone : lasting threshold c (content :: (converted c (limit.map (· - 1)) remaining
              (seenAfter s.seen ((u.edit c.input edit).file? c.input))
              (u.edit c.input edit)).reduceOption) = [] := by
            simp [lasting, hcontent]
          rw [hdisk, Option.toList_some, List.singleton_append, hnone]
          exact houtput
      | none =>
          have hlasts : ∀ content, fresh? s.seen ((u.edit c.input edit).file? c.input) =
              some content → c.abort? threshold content = none := by
            intro content hfresh
            rw [hfresh] at hfirst
            exact hfirst
          obtain ⟨s₁, hlook, hfollows₁, hseen₁, -, houtput₁⟩ := look_follows
            (s := ⟨s.seen, s.disk.edit c.input edit, s.events ++ [.pause c.settings.interval]⟩)
            hplace hwritable hedited hlasts
          have hskip : ∀ rest : List ByteArray,
              ((fresh? s.seen ((u.edit c.input edit).file? c.input)).toList ++ rest).findSome?
                (c.abort? threshold) = rest.findSome? (c.abort? threshold) := by
            intro rest
            cases hfresh : fresh? s.seen ((u.edit c.input edit).file? c.input) with
            | none => rfl
            | some content => simp [hlasts content hfresh]
          rw [hskip, ← hseen₁] at habort
          obtain ⟨o, hloop, hfailure, houtput₂⟩ := ih hrest hfollows₁ habort
          refine ⟨o, by rw [hlook]; exact hloop, hfailure, ?_⟩
          rw [houtput₂, houtput₁, houtput, lasting_append fun content hcontent =>
            hlasts content (Option.mem_toList.mp hcontent), latest?_append, hseen₁, Option.or_assoc]

/-! ## The first conversion -/

theorem start_follows (hnull : '\x00' ∉ c.input.text.toList)
    (hdirectory : d.isDirectory c.input = false)
    (hlasts : ∀ content, d.content? c.input = some content →
      c.abort? threshold content = none) :
    ∃ s, start threshold c d = .ok s ∧ Follows c edits d s.disk d ∧
      s.seen = d.stamp? c.input ∧
      s.events = beginning c :: shownFirst threshold c d ++ [watching c] ∧
      s.disk.content? c.output =
        (latest? threshold c (d.content? c.input).toList).or (d.content? c.output) := by
  have hfollows : Follows c edits d d d := ⟨.refl hdirectory, .start⟩
  unfold Disk.content? at hlasts
  rw [latest?_toList, Disk.content?]
  cases hfile : d.file? c.input with
  | none =>
      obtain ⟨f, hread⟩ := Disk.read_of_file?_none hfile
      have hrefused : Conversion.refused d f (c.unreadable f) = ⟨.ok false, d, [c.unreadable f]⟩ :=
        if_neg (Disk.read_ne_nullInName hnull hread)
      have hconvert : State.convert threshold ⟨none, d, [beginning c]⟩ c =
          .ok ⟨none, d, [beginning c, c.unreadable f]⟩ := by
        simp only [State.convert, Conversion.run, hread, hrefused]
        rfl
      refine ⟨⟨d.stamp? c.input, d, [beginning c, c.unreadable f, watching c]⟩, ?_, hfollows, rfl,
        ?_, rfl⟩
      · rw [start, hconvert]
        rfl
      · rw [shownFirst, hread]
        rfl
  | some f =>
      obtain ⟨content, stamp⟩ := f
      rw [hfile] at hlasts
      have hwritten := hwritable d .start
      have hconvert := State.convert_of_abort?_none (s := ⟨none, d, [beginning c]⟩) hfile
        (hlasts content rfl) hwritten
      have hafter := hfollows.after hplace hfile threshold
      refine ⟨⟨(c.after threshold content d).stamp? c.input, c.after threshold content d,
        [beginning c] ++ c.told threshold content ++ [watching c]⟩, ?_, hafter, ?_, ?_, ?_⟩
      · rw [start, hconvert]
        rfl
      · show (c.after threshold content d).stamp? c.input = d.stamp? c.input
        rw [Disk.stamp?_eq, Disk.stamp?_eq, hafter.mirrors.file?]
      · rw [shownFirst, Disk.read_of_file? hfile]
        rfl
      · exact Conversion.content?_after hwritten

end Loop

theorem start_aborts (h : d.content? c.input = some content) {e : Conversion.Abort}
    (habort : c.abort? threshold content = some e) :
    ∃ o, start threshold c d = .error o ∧ o.failure = some e ∧ o.disk = d := by
  obtain ⟨⟨content', stamp⟩, hfile, rfl⟩ := Option.map_eq_some_iff.mp h
  obtain ⟨o, hconvert, hfailure, hdisk⟩ :=
    State.convert_of_abort? (s := ⟨none, d, [beginning c]⟩) hfile habort
  refine ⟨o, ?_, hfailure, hdisk⟩
  rw [start, hconvert]
  rfl

end Following

/-! ## A whole watch -/

section Run
variable {threshold : Int} (time : String) {c : Conversion} {edits : List Edit}
  {limit : Option Nat} {d : Disk} (hnull : '\x00' ∉ c.input.text.toList)
  (hdirectory : d.isDirectory c.input = false) (hplace : d.place c.input ≠ d.place c.output)
  (hstamped : ∀ e ∈ edits, e.IsStamped)
  (hwritable : Disk.AlwaysWritable c.input c.output edits d)
include hnull hdirectory hplace hstamped hwritable

theorem run_of_not_aborts
    (hlasts : ∀ content ∈ (d.content? c.input).toList ++
      (converted c limit edits (d.stamp? c.input) d).reduceOption,
        c.abort? threshold content = none) :
    let outcome := run threshold time c (changes c edits) limit d
    outcome.failure = none ∧
    outcome.events = beginning c :: shownFirst threshold c d ++ [watching c] ++
      (converted c limit edits (d.stamp? c.input) d).flatMap (shownAtLook threshold time c) ++
        shownLast c limit edits ∧
    outcome.disk.content? c.output =
      (latest? threshold c ((d.content? c.input).toList ++
        (converted c limit edits (d.stamp? c.input) d).reduceOption)).or
          (d.content? c.output) := by
  rw [List.forall_mem_append] at hlasts
  obtain ⟨s, hstart, hfollows, hseen, hevents, houtput⟩ := start_follows hplace hwritable hnull
    hdirectory fun content hcontent => hlasts.1 content (Option.mem_toList.mpr hcontent)
  rw [← hseen] at hlasts
  obtain ⟨s', hloop, hevents', houtput'⟩ := loop_follows time hplace hwritable
    (fun e he => ⟨he, hstamped e he⟩) hfollows hlasts.2
  rw [hseen] at hevents' houtput'
  rw [run_of_loop hstart hloop]
  refine ⟨rfl, ?_, ?_⟩
  · show s'.events = _
    rw [hevents', hevents, List.append_assoc _ _ (shownLast c limit edits)]
  · show s'.disk.content? c.output = _
    rw [houtput', houtput, latest?_append, Option.or_assoc]

theorem run_of_aborts {e : Conversion.Abort}
    (habort : ((d.content? c.input).toList ++
      (converted c limit edits (d.stamp? c.input) d).reduceOption).findSome? (c.abort? threshold) =
        some e) :
    let outcome := run threshold time c (changes c edits) limit d
    outcome.failure = some e ∧
    outcome.disk.content? c.output =
      (latest? threshold c (lasting threshold c ((d.content? c.input).toList ++
        (converted c limit edits (d.stamp? c.input) d).reduceOption))).or
          (d.content? c.output) := by
  cases hfirst : (d.content? c.input).bind (c.abort? threshold) with
  | some e' =>
      obtain ⟨content, hcontent, hcontentAborts⟩ := Option.bind_eq_some_iff.mp hfirst
      rw [hcontent] at habort ⊢
      obtain rfl : e' = e := by simpa [hcontentAborts] using habort
      obtain ⟨o, hstart, hfailure, hdisk⟩ := start_aborts hcontent hcontentAborts
      rw [run_of_start hstart]
      refine ⟨hfailure, ?_⟩
      show o.disk.content? c.output = _
      rw [hdisk]
      simp [lasting, hcontentAborts, latest?]
  | none =>
      have hlasts : ∀ content, d.content? c.input = some content →
          c.abort? threshold content = none := by
        intro content hcontent
        rw [hcontent] at hfirst
        exact hfirst
      obtain ⟨s, hstart, hfollows, hseen, -, houtput⟩ := start_follows hplace hwritable hnull
        hdirectory hlasts
      have hskip : ((d.content? c.input).toList ++ (converted c limit edits
          (d.stamp? c.input) d).reduceOption).findSome? (c.abort? threshold) =
            (converted c limit edits s.seen d).reduceOption.findSome? (c.abort? threshold) := by
        rw [hseen]
        cases hcontent : d.content? c.input with
        | none => rfl
        | some content => simp [hlasts content hcontent]
      rw [hskip] at habort
      obtain ⟨o, hloop, hfailure, houtput'⟩ := loop_aborts time hplace hwritable
        (fun e he => ⟨he, hstamped e he⟩) hfollows habort
      rw [run_of_loop_error hstart hloop, lasting_append fun content hcontent =>
        hlasts content (Option.mem_toList.mp hcontent), latest?_append, Option.or_assoc, ← houtput,
        ← hseen]
      exact ⟨hfailure, houtput'⟩

end Run

/-- A watch keeps up with its input, however it is edited.  It converts the input once, and then at
exactly the looks where there is a stamp and not the one that was seen last; in the end the output
holds the LaTeX of the latest of these contents that has some, or what it held before.  The only
thing that ends a watch is a content that aborts its conversion; what was converted before is kept,
and what comes later is not converted.  A text aborts its conversion only if it is prose and
messages for debugging are shown. -/
theorem run_follows_input {threshold : Int} {time : String} {c : Conversion} {edits : List Edit}
    {limit : Option Nat} {d : Disk} (hnull : '\x00' ∉ c.input.text.toList)
    (hdirectory : d.isDirectory c.input = false) (hplace : d.place c.input ≠ d.place c.output)
    (hstamped : ∀ e ∈ edits, e.IsStamped)
    (hwritable : Disk.AlwaysWritable c.input c.output edits d) :
    let looks := conversions (d.stamp? c.input) (sightings c.input d (edited limit edits))
    let contents := (d.content? c.input).toList ++ looks.reduceOption
    let outcome := run threshold time c (changes c edits) limit d
    outcome.failure = contents.findSome? (c.abort? threshold) ∧
    (outcome.failure = none →
      outcome.events = beginning c :: shownFirst threshold c d ++ [watching c] ++
        looks.flatMap (shownAtLook threshold time c) ++ shownLast c limit edits ∧
      outcome.disk.content? c.output =
        (latest? threshold c contents).or (d.content? c.output)) ∧
    (outcome.failure ≠ none →
      outcome.disk.content? c.output =
        (latest? threshold c (lasting threshold c contents)).or (d.content? c.output)) ∧
    ∀ content ∈ contents, (Text.ofBytes? content).isSome →
      (c.settings.mixed = false ∨ Severity.debug.rank < threshold) →
      c.abort? threshold content = none := by
  intro looks contents outcome
  have htexts : ∀ content ∈ contents, (Text.ofBytes? content).isSome →
      (c.settings.mixed = false ∨ Severity.debug.rank < threshold) →
      c.abort? threshold content = none := by
    intro content _ htext hquiet
    obtain ⟨source, hsource⟩ := Option.isSome_iff_exists.mp htext
    exact Conversion.abort?_of_text hsource hquiet
  cases habort : contents.findSome? (c.abort? threshold) with
  | none =>
      have hlasts : ∀ content ∈ contents, c.abort? threshold content = none :=
        List.findSome?_eq_none_iff.mp habort
      obtain ⟨hfailure, hrest⟩ :=
        run_of_not_aborts time hnull hdirectory hplace hstamped hwritable hlasts
      exact ⟨hfailure, fun _ => hrest, fun hne => absurd hfailure hne, htexts⟩
  | some e =>
      obtain ⟨hfailure, houtput⟩ :=
        run_of_aborts time hnull hdirectory hplace hstamped hwritable habort
      refine ⟨hfailure, fun hnone => ?_, fun _ => houtput, htexts⟩
      rw [hfailure] at hnone
      cases hnone

/-- A source is broken, removed and written again, and the output holds its last version. -/
theorem run_follows_input_repaired :
    let c : Conversion := ⟨⟨.none, ["a.ed"]⟩, ⟨.none, ["a.tex"]⟩, {}⟩
    let d : Disk := ⟨⟨["home"]⟩, [(⟨["home", "a.ed"]⟩, .file "x".toUTF8 3)], 4⟩
    let edits : List Edit :=
      [.write "2 +".toUTF8 (some 9), .delete, .write "y".toUTF8 (some 5), .keep]
    Disk.AlwaysWritable c.input c.output edits d ∧
      (run Severity.info.rank "12:00:00" c (changes c edits) none d).failure = none ∧
      (run Severity.info.rank "12:00:00" c (changes c edits) none d).disk.content? c.output =
        some "y".toUTF8 := by
  intro c d edits
  have hwritable : Disk.AlwaysWritable c.input c.output edits d :=
    Disk.alwaysWritable_name (l := ⟨["home", "a.tex"]⟩) rfl rfl (by decide) (by decide) edits
  have hstamped : ∀ e ∈ edits, e.IsStamped := by simp [edits, Edit.IsStamped]
  obtain ⟨hfailure, hpeace, -, htexts⟩ := @run_follows_input Severity.info.rank "12:00:00" c edits
    none d (by decide) (by decide) (by decide) hstamped hwritable
  have hfirst : d.file? c.input = some ("x".toUTF8, 3) := by
    show d.file? ⟨.none, ["a.ed"]⟩ = _
    rfl
  have hsightings : sightings c.input d (edited none edits) =
      [some ("2 +".toUTF8, 9), none, some ("y".toUTF8, 5), some ("y".toUTF8, 5)] := by
    show sightings ⟨.none, ["a.ed"]⟩ d edits = _
    rfl
  have hcontents : (d.content? c.input).toList ++ (conversions (d.stamp? c.input)
      (sightings c.input d (edited none edits))).reduceOption =
        ["x", "2 +", "y"].map String.toUTF8 := by
    rw [Disk.content?, Disk.stamp?_eq, hfirst, hsightings]
    rfl
  rw [hcontents] at hfailure hpeace htexts
  have hlasts : ∀ content ∈ ["x", "2 +", "y"].map String.toUTF8,
      c.abort? Severity.info.rank content = none := by
    intro content hcontent
    refine htexts content hcontent ?_ (.inl rfl)
    obtain ⟨text, -, rfl⟩ := List.mem_map.mp hcontent
    rw [Text.ofBytes?_toUTF8]
    rfl
  have hnone := hfailure.trans (List.findSome?_eq_none_iff.mpr hlasts)
  refine ⟨hwritable, hnone, (hpeace hnone).2.trans ?_⟩
  have hlast : c.result? Severity.info.rank "y".toUTF8 = some "y" := by
    unfold Conversion.result? Conversion.judge
    rw [Text.ofBytes?_toUTF8]
    rfl
  show (latest? _ c (["x", "2 +"].map String.toUTF8 ++ ["y".toUTF8])).or _ = _
  rw [latest?_append, latest?_singleton, hlast]
  rfl

/-- A bracket in prose ends a watch when messages for debugging are shown: what is written later
does not reach the output. -/
theorem run_ends_at_bracket :
    let c : Conversion := ⟨⟨.none, ["a.txt"]⟩, ⟨.none, ["a.md"]⟩, { mixed := true }⟩
    let d : Disk := ⟨⟨["home"]⟩, [(⟨["home", "a.txt"]⟩, .file "x".toUTF8 3)], 4⟩
    let edits : List Edit := [.write "sin([/x])".toUTF8 (some 9), .write "y".toUTF8 (some 10)]
    Disk.AlwaysWritable c.input c.output edits d ∧
      c.result? Severity.debug.rank "y".toUTF8 = some "y" ∧
      (run Severity.debug.rank "12:00:00" c (changes c edits) none d).failure ≠ none ∧
      (run Severity.debug.rank "12:00:00" c (changes c edits) none d).disk.content? c.output =
        some "x".toUTF8 := by
  intro c d edits
  have hwritable : Disk.AlwaysWritable c.input c.output edits d :=
    Disk.alwaysWritable_name (l := ⟨["home", "a.md"]⟩) rfl rfl (by decide) (by decide) edits
  have hstamped : ∀ e ∈ edits, e.IsStamped := by simp [edits, Edit.IsStamped]
  have hfirst : d.file? c.input = some ("x".toUTF8, 3) := by
    show d.file? ⟨.none, ["a.txt"]⟩ = _
    rfl
  have hsightings : sightings c.input d (edited none edits) =
      [some ("sin([/x])".toUTF8, 9), some ("y".toUTF8, 10)] := by
    show sightings ⟨.none, ["a.txt"]⟩ d edits = _
    rfl
  have hcontents : (d.content? c.input).toList ++
      (converted c none edits (d.stamp? c.input) d).reduceOption =
        ["x".toUTF8, "sin([/x])".toUTF8, "y".toUTF8] := by
    rw [converted, Disk.content?, Disk.stamp?_eq, hfirst, hsightings]
    rfl
  have hbracket : (c.abort? Severity.debug.rank "sin([/x])".toUTF8).isSome = true := by
    unfold Conversion.abort? Conversion.judge
    rw [Text.ofBytes?_toUTF8]
    decide +kernel
  have hplain : ∀ s ∈ ["x", "y"], c.judge Severity.debug.rank s.toUTF8 = (.ok (some s), []) := by
    intro s hs
    unfold Conversion.judge
    rw [Text.ofBytes?_toUTF8]
    simp only [List.mem_cons, List.not_mem_nil, or_false] at hs
    rcases hs with rfl | rfl <;> rfl
  have hx := hplain "x" (by decide)
  have hy := hplain "y" (by decide)
  have hresult : c.result? Severity.debug.rank "x".toUTF8 = some "x" := by
    rw [Conversion.result?, hx]
  have hpasses : c.abort? Severity.debug.rank "x".toUTF8 = none := by
    rw [Conversion.abort?, hx]
  obtain ⟨e, he⟩ := Option.isSome_iff_exists.mp hbracket
  obtain ⟨hfailure, houtput⟩ := @run_of_aborts Severity.debug.rank "12:00:00" c edits none d
    (by decide) (by decide) (by decide) hstamped hwritable e
    (by rw [hcontents]; simp only [List.findSome?, hpasses, he])
  refine ⟨hwritable, by rw [Conversion.result?, hy], ?_, ?_⟩
  · rw [hfailure]
    exact Option.some_ne_none e
  · have hlasting : lasting Severity.debug.rank c
        ["x".toUTF8, "sin([/x])".toUTF8, "y".toUTF8] = ["x".toUTF8] := by
      simp only [lasting, List.takeWhile, hpasses, he, Option.isNone_none, Option.isNone_some]
    rw [hcontents, hlasting, latest?_singleton, hresult] at houtput
    exact houtput

end PlainMath.Watch
