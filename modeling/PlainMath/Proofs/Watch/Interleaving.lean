/-
# `Proofs.Watch.Interleaving` — a watcher and an editor at the same time

The watcher is taken apart into its requests to the disk (`Moment.act`), and between any two of
them an editor may write the input (`Moment.move`).  What the watcher does alone is one of these
runs (`exists_exec_run`).

A look takes the stamp before the content, so that whatever is written later has another stamp and
is seen by the next look.  The first conversion takes the content before the stamp, and a write
between the two is never seen: the stamp says that it is known (`Stage.IsBlind`).

    what all runs have in common                     (`Orderly.exec`)
    a look that is due catches up                    (`caught_of_due`)
    a write that is overlooked stays overlooked      (`overlooks_acts`)
    both together                                    (`last_write_reaches_output`)
    without an editor there is one conversion only   (`run_unedited`)
-/
import PlainMath.Proofs.Watch.Tracking

namespace PlainMath.Watch

open Disk (Edit)

/-! ## One request after the other -/

/-- Where a watcher stands between two requests.  A conversion has the stamp of the look that it
belongs to; the first one has none. -/
inductive Stage where
  /-- The input is to be read. -/
  | reading (stamp : Option Nat)
  /-- The content was read, and its LaTeX is to be written. -/
  | writing (stamp : Option Nat) (content : ByteArray)
  /-- The first conversion is done, and the stamp is to be taken. -/
  | stamping
  /-- The next request is a look. -/
  | looking (seen : Option Nat)
  /-- The watch was aborted. -/
  | ended

namespace Stage

/-- What follows a conversion. -/
def next : Option Nat → Stage
  | none => .stamping
  | some stamp => .looking (some stamp)

/-- The stamp that is kept in mind. -/
def stamp? : Stage → Option Nat
  | .reading stamp | .writing stamp _ => stamp
  | .looking seen => seen
  | .stamping | .ended => none

/-- The content that is at hand. -/
def content? : Stage → Option ByteArray
  | .writing _ content => some content
  | _ => none

/-- The next request is a look. -/
def IsLooking : Stage → Prop
  | .looking _ => True
  | _ => False

/-- The first content was read, and the first stamp was not taken yet. -/
def IsBlind : Stage → Prop
  | .writing none _ | .stamping => True
  | _ => False

instance : DecidablePred IsLooking
  | .looking _ => .isTrue trivial
  | .reading _ | .writing _ _ | .stamping | .ended => .isFalse id

instance : DecidablePred IsBlind
  | .writing none _ | .stamping => .isTrue trivial
  | .writing (some _) _ | .reading _ | .looking _ | .ended => .isFalse id

end Stage

/-- A watcher and the disk. -/
structure Moment where
  stage : Stage
  disk : Disk

/-- A move of the watcher, or a write by the editor. -/
inductive Move where
  | act
  | write (content : ByteArray) (stamp : Nat)

/-- The write as an edit of the input. -/
def Move.edit? : Move → Option Edit
  | .act => none
  | .write content stamp => some (.write content (some stamp))

/-- The stamp of the write. -/
def Move.stamp? : Move → Option Nat
  | .act => none
  | .write _ stamp => some stamp

/-- All writes, as edits of the input. -/
def Move.edits (moves : List Move) : List Edit := moves.filterMap edit?

/-- The stamps of all writes. -/
def Move.stamps (moves : List Move) : List Nat := moves.filterMap stamp?

namespace Moment

/-- The end of a conversion. -/
def conclude (stamp : Option Nat) (o : Conversion.Outcome) : Moment :=
  match o.written with
  | .ok _ => ⟨.next stamp, o.disk⟩
  | .error _ => ⟨.ended, o.disk⟩

/-- The next request of the watcher. -/
def act (threshold : Int) (c : Conversion) : Moment → Moment
  | ⟨.reading stamp, d⟩ =>
    match d.read c.input with
    | .error f => conclude stamp (Conversion.refused d f (c.unreadable f))
    | .ok content => ⟨.writing stamp content, d⟩
  | ⟨.writing stamp content, d⟩ => conclude stamp (c.convert threshold d content)
  | ⟨.stamping, d⟩ => ⟨.looking (d.stamp? c.input), d⟩
  | ⟨.looking seen, d⟩ =>
    match d.stamp? c.input with
    | none => ⟨.looking seen, d⟩
    | some stamp => if seen = some stamp then ⟨.looking seen, d⟩ else ⟨.reading (some stamp), d⟩
  | ⟨.ended, d⟩ => ⟨.ended, d⟩

/-- One move of either. -/
def move (threshold : Int) (c : Conversion) (m : Moment) : Move → Moment
  | .act => m.act threshold c
  | .write content stamp => ⟨m.stage, m.disk.edit c.input (.write content (some stamp))⟩

/-- Moves in some order. -/
def exec (threshold : Int) (c : Conversion) (m : Moment) (moves : List Move) : Moment :=
  moves.foldl (move threshold c) m

/-- So many requests of the watcher, without a write. -/
def acts (threshold : Int) (c : Conversion) (n : Nat) (m : Moment) : Moment :=
  m.exec threshold c (List.replicate n .act)

/-- The beginning of a watch. -/
def first (d : Disk) : Moment := ⟨.reading none, d⟩

/-- So many requests are enough for a whole poll: from a look to the next one. -/
def HoldsPoll (threshold : Int) (c : Conversion) (n : Nat) (m : Moment) : Prop :=
  ∃ k j, k < j ∧ j ≤ n ∧ (m.acts threshold c k).stage.IsLooking ∧
    (m.acts threshold c j).stage.IsLooking

/-- What the output will hold after the content that is at hand, if there is one. -/
def leaves (threshold : Int) (c : Conversion) (m : Moment) : Option ByteArray :=
  ((m.stage.content?.bind (c.result? threshold)).map String.toUTF8).or (m.disk.content? c.output)

variable {threshold : Int} {c : Conversion}

theorem exec_append (m : Moment) (first later : List Move) :
    m.exec threshold c (first ++ later) = (m.exec threshold c first).exec threshold c later :=
  List.foldl_append

theorem acts_add (m : Moment) (n k : Nat) :
    m.acts threshold c (n + k) = (m.acts threshold c n).acts threshold c k := by
  rw [acts, List.replicate_add, exec_append]
  rfl

/-- What holds of all acts, if one act keeps it. -/
theorem acts_induction {P : Moment → Prop} (hact : ∀ m, P m → P (m.act threshold c)) {m : Moment}
    (h : P m) (n : Nat) : P (m.acts threshold c n) := by
  induction n generalizing m with
  | zero => exact h
  | succ n ih => exact ih (hact m h)

/-! ## The watcher alone -/

/-- Where a watcher is after a look, or after an abort. -/
def reached : Except Outcome State → Moment
  | .ok s => ⟨.looking s.seen, s.disk⟩
  | .error o => ⟨.ended, o.disk⟩

section Alone
variable (threshold c)

theorem exists_acts_run (stamp : Option Nat) (d : Disk) :
    ∃ n, acts threshold c n ⟨.reading stamp, d⟩ = conclude stamp (c.run threshold d) := by
  unfold Conversion.run
  cases hread : d.read c.input with
  | error f =>
      refine ⟨1, ?_⟩
      show act threshold c ⟨.reading stamp, d⟩ = _
      simp only [act, hread]
  | ok content =>
      refine ⟨2, ?_⟩
      show act threshold c (act threshold c ⟨.reading stamp, d⟩) = _
      simp only [act, hread]

theorem exists_acts_start (d : Disk) :
    ∃ n, (first d).acts threshold c n = reached (start threshold c d) := by
  obtain ⟨n, hn⟩ := exists_acts_run threshold c none d
  refine ⟨n + 1, ?_⟩
  rw [acts_add, first, hn, start, State.convert]
  show act threshold c (conclude none (c.run threshold d)) = _
  unfold conclude
  cases (c.run threshold d).written <;> rfl

theorem exists_acts_look (time : String) (s : State) :
    ∃ n, 0 < n ∧ (reached (.ok s)).acts threshold c n = reached (look threshold time c s) := by
  unfold look
  cases hstamp : s.disk.stamp? c.input with
  | none =>
      refine ⟨1, Nat.one_pos, ?_⟩
      show (reached (.ok s)).act threshold c = _
      simp only [reached, act, hstamp]
  | some stamp =>
      by_cases hseen : s.seen = some stamp
      · refine ⟨1, Nat.one_pos, ?_⟩
        show (reached (.ok s)).act threshold c = _
        simp only [reached, act, hstamp, if_pos hseen]
      · obtain ⟨n, hn⟩ := exists_acts_run threshold c (some stamp) s.disk
        have hact : (reached (.ok s)).act threshold c = ⟨.reading (some stamp), s.disk⟩ := by
          simp only [reached, act, hstamp, if_neg hseen]
        refine ⟨1 + n, by omega, ?_⟩
        rw [acts_add]
        show ((reached (.ok s)).act threshold c).acts threshold c n = _
        rw [hact, hn]
        simp only [if_neg hseen, State.convert]
        unfold conclude
        split <;> simp_all [reached, State.show, Stage.next]

/-- A content and its stamp, as an edit. -/
def written (w : ByteArray × Nat) : Edit := .write w.1 (some w.2)

omit threshold c in
theorem edits_append_acts (n : Nat) (moves : List Move) :
    Move.edits (List.replicate n .act ++ moves) = Move.edits moves := by
  induction n with
  | zero => rfl
  | succ n ih => exact ih

theorem exists_exec_loop (time : String) (writes : List (ByteArray × Nat)) :
    ∀ (limit : Option Nat) (s : State), ∃ moves,
      (reached (.ok s)).exec threshold c moves =
        reached (loop threshold time c (changes c (writes.map written)) limit s) ∧
      Move.edits moves <+: writes.map written := by
  induction writes with
  | nil =>
      intro limit s
      match limit with
      | some 0 => exact ⟨[], rfl, List.nil_prefix⟩
      | some (n + 1) => exact ⟨[], rfl, List.nil_prefix⟩
      | none => exact ⟨[], rfl, List.nil_prefix⟩
  | cons w writes ih =>
      intro limit s
      by_cases hlimit : limit = some 0
      · subst hlimit
        exact ⟨[], rfl, List.nil_prefix⟩
      · rw [List.map_cons, loop_cons hlimit]
        generalize hasleep : State.mk s.seen (s.disk.edit c.input (written w))
          (s.events ++ [.pause c.settings.interval]) = asleep
        have hwrite : (reached (.ok s)).move threshold c (.write w.1 w.2) =
            reached (.ok asleep) := by
          rw [← hasleep]
          rfl
        obtain ⟨n, -, hn⟩ := exists_acts_look threshold c time asleep
        -- after an abort nothing is left to do
        have hrest : ∃ moves, (reached (look threshold time c asleep)).exec threshold c moves =
            reached (look threshold time c asleep >>=
              loop threshold time c (changes c (writes.map written)) (limit.map (· - 1))) ∧
            Move.edits moves <+: writes.map written := by
          cases look threshold time c asleep with
          | error o => exact ⟨[], rfl, List.nil_prefix⟩
          | ok s' => exact ih (limit.map (· - 1)) s'
        obtain ⟨moves, hmoves, hprefix⟩ := hrest
        refine ⟨.write w.1 w.2 :: (List.replicate n .act ++ moves), ?_, ?_⟩
        · show ((reached (.ok s)).move threshold c (.write w.1 w.2)).exec threshold c
            (List.replicate n .act ++ moves) = _
          rw [hwrite, exec_append, ← hmoves, ← hn]
          rfl
        · show written w :: Move.edits (List.replicate n .act ++ moves) <+: _
          rw [edits_append_acts]
          exact List.cons_prefix_cons.mpr ⟨rfl, hprefix⟩

/-- A watch whose input is written during the pauses is one of the runs. -/
theorem exists_exec_run (time : String) (writes : List (ByteArray × Nat)) (limit : Option Nat)
    (d : Disk) : ∃ moves,
      ((first d).exec threshold c moves).disk =
        (run threshold time c (changes c (writes.map written)) limit d).disk ∧
      Move.edits moves <+: writes.map written := by
  obtain ⟨n, hn⟩ := exists_acts_start threshold c d
  have hrest : ∃ moves, ((reached (start threshold c d)).exec threshold c moves).disk =
      (run threshold time c (changes c (writes.map written)) limit d).disk ∧
      Move.edits moves <+: writes.map written := by
    cases hstart : start threshold c d with
    | error o => exact ⟨[], by rw [run_of_start hstart]; rfl, List.nil_prefix⟩
    | ok s =>
        obtain ⟨moves, hmoves, hprefix⟩ := exists_exec_loop threshold c time writes limit s
        refine ⟨moves, ?_, hprefix⟩
        rw [hmoves]
        cases hloop : loop threshold time c (changes c (writes.map written)) limit s with
        | error o => rw [run_of_loop_error hstart hloop, reached]
        | ok s' => rw [run_of_loop hstart hloop, reached, State.finish]
  obtain ⟨moves, hmoves, hprefix⟩ := hrest
  refine ⟨List.replicate n .act ++ moves, ?_, ?_⟩
  · rw [exec_append, ← hmoves, ← hn]
    rfl
  · rw [edits_append_acts]
    exact hprefix

end Alone

end Moment

/-! ## One request -/

section Step
variable {threshold : Int} {c : Conversion} {m m' : Moment}

/-- All that a request of the watcher can do. -/
inductive Step (threshold : Int) (c : Conversion) : Moment → Moment → Prop where
  | read {d : Disk} {stamp : Option Nat} {content : ByteArray} {age : Nat} :
      d.file? c.input = some (content, age) →
      Step threshold c ⟨.reading stamp, d⟩ ⟨.writing stamp content, d⟩
  | unread {d : Disk} {stamp : Option Nat} : d.file? c.input = none →
      Step threshold c ⟨.reading stamp, d⟩ ⟨.next stamp, d⟩
  /-- The name of the input is none. -/
  | unnamed {d : Disk} {stamp : Option Nat} : d.file? c.input = none →
      Step threshold c ⟨.reading stamp, d⟩ ⟨.ended, d⟩
  | write {d : Disk} {stamp : Option Nat} {content : ByteArray} :
      Step threshold c ⟨.writing stamp content, d⟩ ⟨.next stamp, c.after threshold content d⟩
  | abort {d : Disk} {stamp : Option Nat} {content : ByteArray} :
      Step threshold c ⟨.writing stamp content, d⟩ ⟨.ended, c.after threshold content d⟩
  | stamp {d : Disk} : Step threshold c ⟨.stamping, d⟩ ⟨.looking (d.stamp? c.input), d⟩
  /-- There is nothing new. -/
  | rest {d : Disk} {seen : Option Nat} :
      (∀ content stamp, d.file? c.input = some (content, stamp) → seen = some stamp) →
      Step threshold c ⟨.looking seen, d⟩ ⟨.looking seen, d⟩
  | look {d : Disk} {seen : Option Nat} {content : ByteArray} {stamp : Nat} :
      d.file? c.input = some (content, stamp) → seen ≠ some stamp →
      Step threshold c ⟨.looking seen, d⟩ ⟨.reading (some stamp), d⟩
  | ended {d : Disk} : Step threshold c ⟨.ended, d⟩ ⟨.ended, d⟩

theorem step_act (threshold : Int) (c : Conversion) (m : Moment) :
    Step threshold c m (m.act threshold c) := by
  obtain ⟨stage, d⟩ := m
  cases stage with
  | reading stamp =>
      cases hfile : d.file? c.input with
      | none =>
          obtain ⟨f, hread⟩ := Disk.read_of_file?_none hfile
          simp only [Moment.act, hread, Conversion.refused]
          split
          · exact .unnamed hfile
          · exact .unread hfile
      | some f =>
          obtain ⟨content, age⟩ := f
          simp only [Moment.act, Disk.read_of_file? hfile]
          exact .read hfile
  | writing stamp content =>
      simp only [Moment.act, Moment.conclude, Conversion.convert_disk]
      split
      · exact .write
      · exact .abort
  | stamping => exact .stamp
  | looking seen =>
      simp only [Moment.act, Disk.stamp?_eq]
      cases hfile : d.file? c.input with
      | none => exact .rest (by simp [hfile])
      | some f =>
          obtain ⟨content, stamp⟩ := f
          simp only [Option.map_some]
          split
          · next hseen => exact .rest (by simp [hfile, hseen])
          · next hseen => exact .look hfile hseen
  | ended => exact .ended

theorem Stage.stamp?_next (stamp : Option Nat) : (Stage.next stamp).stamp? = stamp := by
  cases stamp <;> rfl

theorem Stage.content?_next (stamp : Option Nat) : (Stage.next stamp).content? = none := by
  cases stamp <;> rfl

end Step

/-! ## What all runs have in common -/

/-- What holds in every run with these edits: the input can be written, there is an input while a
content of it is at hand, and all stamps that are known are among the used ones. -/
structure Orderly (c : Conversion) (edits : List Edit) (d : Disk) (used : List Nat) (m : Moment) :
    Prop where
  reaches : Disk.Reaches c.input c.output edits d m.disk
  hosts : m.disk.Hosts c.input
  file : m.stage.content?.isSome → (m.disk.file? c.input).isSome
  current : ∀ stamp, m.disk.stamp? c.input = some stamp → stamp ∈ used
  seen : ∀ stamp, m.stage.stamp? = some stamp → stamp ∈ used

namespace Orderly

variable {threshold : Int} {c : Conversion} {edits : List Edit} {d : Disk} {used : List Nat}
  {m m' : Moment}

theorem first (hhosts : d.Hosts c.input) :
    Orderly c edits d (d.stamp? c.input).toList (.first d) where
  reaches := .start
  hosts := hhosts
  file := nofun
  current := fun _ h => Option.mem_toList.mpr h
  seen := nofun

/-- A request keeps the order. -/
theorem step (h : Orderly c edits d used m) (hplace : d.place c.input ≠ d.place c.output)
    (hstep : Step threshold c m m') : Orderly c edits d used m' := by
  have hafter : ∀ {stamp content disk}, m = ⟨.writing stamp content, disk⟩ → ∀ {stage : Stage},
      stage.content? = none → (∀ stamp, stage.stamp? = some stamp → stamp ∈ used) →
      Orderly c edits d used ⟨stage, c.after threshold content disk⟩ := by
    rintro stamp content disk rfl stage hcontent hseen
    obtain ⟨f, hfile⟩ := Option.isSome_iff_exists.mp (h.file rfl)
    have hfile' := Conversion.file?_after (h.reaches.place_ne hplace) hfile threshold content
    refine ⟨Conversion.reaches_after h.reaches, .of_file? hfile', ?_, ?_, hseen⟩
    · simp [hcontent]
    · intro stamp hstamp
      rw [Disk.stamp?_eq, hfile'] at hstamp
      exact h.current stamp (by rw [Disk.stamp?_eq, hfile, hstamp])
  cases hstep with
  | read hfile => exact ⟨h.reaches, h.hosts, fun _ => by simp [hfile], h.current, h.seen⟩
  | unread hfile =>
      refine ⟨h.reaches, h.hosts, ?_, h.current, ?_⟩
      · simp [Stage.content?_next]
      · rw [Stage.stamp?_next]
        exact h.seen
  | unnamed hfile => exact ⟨h.reaches, h.hosts, nofun, h.current, nofun⟩
  | write =>
      refine hafter rfl (Stage.content?_next _) ?_
      rw [Stage.stamp?_next]
      exact h.seen
  | abort => exact hafter rfl rfl nofun
  | stamp => exact ⟨h.reaches, h.hosts, nofun, h.current, h.current⟩
  | rest hseen => exact h
  | look hfile hseen =>
      refine ⟨h.reaches, h.hosts, nofun, h.current, ?_⟩
      rintro stamp hstamp
      exact h.current stamp (by rw [Disk.stamp?_eq, hfile]; exact hstamp)
  | ended => exact h

/-- A write keeps the order; its stamp is a used one from then on. -/
theorem write (h : Orderly c edits d used m) {content : ByteArray} {stamp : Nat}
    (hmem : Edit.write content (some stamp) ∈ edits) (threshold : Int) :
    Orderly c edits d (used ++ [stamp]) (m.move threshold c (.write content stamp)) where
  reaches := h.reaches.edit hmem
  hosts := h.hosts.edit (.write content (some stamp))
  file := fun _ => by simp [Moment.move, h.hosts.file?_edit content stamp]
  current := fun s hs => by
    have hstamp : stamp = s := by
      simpa [Moment.move, Disk.stamp?_eq, h.hosts.file?_edit content stamp] using hs
    simp [hstamp]
  seen := fun s hs => List.mem_append_left _ (h.seen s hs)

theorem exec (hplace : d.place c.input ≠ d.place c.output) {moves : List Move}
    (hmoves : ∀ e ∈ Move.edits moves, e ∈ edits) (h : Orderly c edits d used m) :
    Orderly c edits d (used ++ Move.stamps moves) (m.exec threshold c moves) := by
  induction moves generalizing used m with
  | nil =>
      rw [Move.stamps, List.filterMap_nil, List.append_nil]
      exact h
  | cons move rest ih =>
      cases move with
      | act => exact ih hmoves (h.step hplace (step_act threshold c m))
      | write content stamp =>
          obtain ⟨hmem, hrest⟩ := List.forall_mem_cons.mp hmoves
          have hwrite := ih hrest (h.write hmem threshold)
          rwa [List.append_assoc] at hwrite

end Orderly

/-! ## After the last write -/

/-- The order of a run, and what was written last. -/
structure Stands (c : Conversion) (edits : List Edit) (d : Disk) (used : List Nat)
    (content : ByteArray) (stamp : Nat) (m : Moment) : Prop extends Orderly c edits d used m where
  input : m.disk.file? c.input = some (content, stamp)

/-- The output holds this LaTeX, and no other content than this one is at hand. -/
structure IsCaught (c : Conversion) (content : ByteArray) (latex : String) (m : Moment) : Prop where
  output : m.disk.content? c.output = some latex.toUTF8
  pending : ∀ old, m.stage.content? = some old → old = content

namespace Stage

/-- The content will be read, or the next look will see that its stamp is new. -/
def IsDue (content : ByteArray) (stamp : Nat) : Stage → Prop
  | .reading _ | .ended => True
  | .writing age old => old = content ∨ age ≠ none ∧ age ≠ some stamp
  | .stamping => False
  | .looking seen => seen ≠ some stamp

/-- The content is being converted. -/
def IsTaking (content : ByteArray) : Stage → Prop
  | .reading _ => True
  | .writing _ old => old = content
  | _ => False

/-- No look will find anything new, unless there is another stamp. -/
def Overlooks (stamp : Nat) : Stage → Prop
  | .writing none _ | .stamping | .ended => True
  | .looking seen => seen = some stamp
  | _ => False

theorem isDue_of_not_isBlind {stage : Stage} {stamp : Nat} (content : ByteArray)
    (hsees : ¬stage.IsBlind) (hseen : stage.stamp? ≠ some stamp) : stage.IsDue content stamp := by
  cases stage with
  | reading age => trivial
  | writing age old =>
      refine .inr ⟨?_, hseen⟩
      rintro rfl
      exact hsees trivial
  | stamping => exact hsees trivial
  | looking seen => exact hseen
  | ended => trivial

theorem IsLooking.not_isTaking {stage : Stage} {content : ByteArray} (h : stage.IsLooking) :
    ¬stage.IsTaking content := by
  match stage, h with
  | .looking seen, _ => exact id

theorem overlooks_of_isBlind {stage : Stage} (stamp : Nat) (hblind : stage.IsBlind) :
    stage.Overlooks stamp := by
  match stage, hblind with
  | .writing none _, _ => trivial
  | .stamping, _ => trivial

end Stage

section LastWrite
variable {threshold : Int} {c : Conversion} {edits : List Edit} {d : Disk} {used : List Nat}
  {content : ByteArray} {stamp : Nat} {latex : String} {m m' : Moment}
  (hplace : d.place c.input ≠ d.place c.output)
include hplace

theorem Stands.step (h : Stands c edits d used content stamp m) (hstep : Step threshold c m m') :
    Stands c edits d used content stamp m' := by
  refine ⟨h.toOrderly.step hplace hstep, ?_⟩
  cases hstep with
  | write => exact Conversion.file?_after (h.reaches.place_ne hplace) h.input _ _
  | abort => exact Conversion.file?_after (h.reaches.place_ne hplace) h.input _ _
  | _ => exact h.input

variable (hwritable : Disk.AlwaysWritable c.input c.output edits d)
include hwritable

omit hplace in
/-- The output after the content that is at hand. -/
theorem Stands.content?_after (h : Stands c edits d used content stamp m) (old : ByteArray) :
    (c.after threshold old m.disk).content? c.output =
      ((c.result? threshold old).map String.toUTF8).or (m.disk.content? c.output) :=
  Conversion.content?_after (hwritable m.disk h.reaches)

/-! ### A write that is overlooked -/

omit hplace in
theorem overlooks_step (h : Stands c edits d used content stamp m) (hover : m.stage.Overlooks stamp)
    (hstep : Step threshold c m m') :
    m'.stage.Overlooks stamp ∧ m'.stage.content? = none ∧
      m'.leaves threshold c = m.leaves threshold c := by
  cases hstep with
  | read hfile => cases hover
  | unread hfile => cases hover
  | unnamed hfile => cases hover
  | @write disk age old =>
      cases age with
      | some age => cases hover
      | none => exact ⟨trivial, rfl, h.content?_after hwritable old⟩
  | @abort disk age old => exact ⟨trivial, rfl, h.content?_after hwritable old⟩
  | stamp => exact ⟨by simp [Stage.Overlooks, Disk.stamp?_eq, h.input], rfl, rfl⟩
  | rest hseen => exact ⟨hover, rfl, rfl⟩
  | look hfile hseen =>
      rw [h.input] at hfile
      cases hfile
      exact absurd hover hseen
  | ended => exact ⟨trivial, rfl, rfl⟩

theorem overlooks_acts (h : Stands c edits d used content stamp m)
    (hover : m.stage.Overlooks stamp) {n : Nat} (hn : 0 < n) :
    (m.acts threshold c n).disk.content? c.output = m.leaves threshold c := by
  have hall : ∀ k, (m.acts threshold c k).stage.Overlooks stamp ∧
      Stands c edits d used content stamp (m.acts threshold c k) ∧
      (m.acts threshold c k).leaves threshold c = m.leaves threshold c := by
    refine Moment.acts_induction (P := fun m' => m'.stage.Overlooks stamp ∧
      Stands c edits d used content stamp m' ∧ m'.leaves threshold c = m.leaves threshold c)
      ?_ ⟨hover, h, rfl⟩
    rintro m' ⟨hover', h', hleaves⟩
    have hstep := step_act threshold c m'
    obtain ⟨hover'', -, hleaves'⟩ := overlooks_step hwritable h' hover' hstep
    exact ⟨hover'', h'.step hplace hstep, hleaves'.trans hleaves⟩
  obtain ⟨k, rfl⟩ := Nat.exists_eq_add_of_lt hn
  obtain ⟨hover', h', hleaves⟩ := hall k
  -- after a request of the watcher nothing is at hand
  obtain ⟨-, hnone, hleaves'⟩ := overlooks_step hwritable h' hover' (step_act threshold c _)
  rw [← hleaves, ← hleaves', Nat.zero_add, Moment.acts_add]
  show _ = (Option.map _ (Option.bind (Stage.content? _) _)).or _
  rw [hnone]
  rfl

/-! ### A write that is seen -/

variable (hlatex : c.result? threshold content = some latex)
include hlatex

omit hplace in
theorem isCaught_after (h : Stands c edits d used content stamp m) {stage : Stage}
    (hstage : stage.content? = none) :
    IsCaught c content latex ⟨stage, c.after threshold content m.disk⟩ := by
  refine ⟨?_, ?_⟩
  · rw [h.content?_after hwritable, hlatex]
    rfl
  · intro old hold
    rw [hstage] at hold
    cases hold

omit hplace in
theorem caught_step (h : Stands c edits d used content stamp m)
    (hcaught : IsCaught c content latex m) (hstep : Step threshold c m m') :
    IsCaught c content latex m' := by
  cases hstep with
  | read hfile =>
      refine ⟨hcaught.output, fun old hold => ?_⟩
      rw [h.input] at hfile
      cases hfile
      cases hold
      rfl
  | @write disk age old =>
      obtain rfl := hcaught.pending old rfl
      exact isCaught_after hwritable hlatex h (Stage.content?_next age)
  | @abort disk age old =>
      obtain rfl := hcaught.pending old rfl
      exact isCaught_after hwritable hlatex h rfl
  | unread hfile => exact ⟨hcaught.output, by simp [Stage.content?_next]⟩
  | unnamed hfile => exact ⟨hcaught.output, nofun⟩
  | stamp => exact ⟨hcaught.output, nofun⟩
  | rest hseen => exact hcaught
  | look hfile hseen => exact ⟨hcaught.output, nofun⟩
  | ended => exact hcaught

omit hplace in
theorem due_step (h : Stands c edits d used content stamp m) (hdue : m.stage.IsDue content stamp)
    (hstep : Step threshold c m m') :
    m'.stage.IsDue content stamp ∨ IsCaught c content latex m' := by
  cases hstep with
  | read hfile =>
      rw [h.input] at hfile
      cases hfile
      exact .inl (.inl rfl)
  | unread hfile =>
      rw [h.input] at hfile
      cases hfile
  | unnamed hfile => exact .inl trivial
  | @write disk age old =>
      rcases hdue with rfl | ⟨hage, hne⟩
      · exact .inr (isCaught_after hwritable hlatex h (Stage.content?_next age))
      · cases age with
        | none => exact absurd rfl hage
        | some age => exact .inl hne
  | abort => exact .inl trivial
  | stamp => cases hdue
  | rest hseen => exact .inl hdue
  | look hfile hseen => exact .inl trivial
  | ended => exact .inl trivial

omit hplace in
theorem taking_step (h : Stands c edits d used content stamp m) (htaking : m.stage.IsTaking content)
    (hstep : Step threshold c m m') :
    m'.stage.IsTaking content ∨ IsCaught c content latex m' := by
  cases hstep with
  | read hfile =>
      rw [h.input] at hfile
      cases hfile
      exact .inl rfl
  | unread hfile =>
      rw [h.input] at hfile
      cases hfile
  | unnamed hfile =>
      rw [h.input] at hfile
      cases hfile
  | @write disk age old =>
      cases htaking
      exact .inr (isCaught_after hwritable hlatex h (Stage.content?_next age))
  | @abort disk age old =>
      cases htaking
      exact .inr (isCaught_after hwritable hlatex h rfl)
  | stamp => cases htaking
  | rest hseen => cases htaking
  | look hfile hseen => cases htaking
  | ended => cases htaking

omit hplace hwritable hlatex in
theorem look_step (h : Stands c edits d used content stamp m) (hdue : m.stage.IsDue content stamp)
    (hlooking : m.stage.IsLooking) (hstep : Step threshold c m m') : m'.stage.IsTaking content := by
  cases hstep with
  | rest hseen => exact absurd (hseen content stamp h.input) hdue
  | look hfile hseen => trivial
  | _ => cases hlooking

/-- What a phase is followed by at every request is so after any number of them. -/
theorem acts_phase {P : Stage → Prop}
    (hP : ∀ {m m'}, Stands c edits d used content stamp m → P m.stage → Step threshold c m m' →
      P m'.stage ∨ IsCaught c content latex m')
    (h : Stands c edits d used content stamp m) (hm : P m.stage ∨ IsCaught c content latex m)
    (n : Nat) :
    Stands c edits d used content stamp (m.acts threshold c n) ∧
      (P (m.acts threshold c n).stage ∨ IsCaught c content latex (m.acts threshold c n)) := by
  refine Moment.acts_induction (P := fun m => Stands c edits d used content stamp m ∧
    (P m.stage ∨ IsCaught c content latex m)) ?_ ⟨h, hm⟩ n
  rintro m ⟨h, hm⟩
  have hstep := step_act threshold c m
  refine ⟨h.step hplace hstep, ?_⟩
  rcases hm with hphase | hcaught
  · exact hP h hphase hstep
  · exact .inr (caught_step hwritable hlatex h hcaught hstep)

theorem caught_acts (h : Stands c edits d used content stamp m)
    (hcaught : IsCaught c content latex m) (n : Nat) :
    IsCaught c content latex (m.acts threshold c n) :=
  (acts_phase (P := fun _ => False) hplace hwritable hlatex (fun _ hfalse _ => hfalse.elim) h
    (.inr hcaught) n).2.resolve_left id

/-- A poll that begins when a look is due ends with the LaTeX in the output. -/
theorem caught_of_due (h : Stands c edits d used content stamp m)
    (hdue : m.stage.IsDue content stamp) {n : Nat} (hpoll : m.HoldsPoll threshold c n) :
    IsCaught c content latex (m.acts threshold c n) := by
  obtain ⟨k, j, hkj, hjn, hbegin, hend⟩ := hpoll
  obtain ⟨hk, hphase⟩ := acts_phase hplace hwritable hlatex
    (fun h hdue => due_step hwritable hlatex h hdue) h (.inl hdue) k
  rcases hphase with hdue | hcaught
  · -- the look sees the new stamp, and the next one comes after the conversion
    have hstep := step_act threshold c (m.acts threshold c k)
    have htaking := look_step hk hdue hbegin hstep
    obtain ⟨i, rfl⟩ := Nat.exists_eq_add_of_lt hkj
    obtain ⟨hj, hphase⟩ := acts_phase hplace hwritable hlatex
      (fun h htaking => taking_step hwritable hlatex h htaking) (hk.step hplace hstep)
      (.inl htaking) i
    have hacts : m.acts threshold c (k + i + 1) =
        ((m.acts threshold c k).act threshold c).acts threshold c i := by
      rw [Nat.add_assoc, Nat.add_comm i 1, Moment.acts_add, Moment.acts_add]
      rfl
    rw [← hacts] at hj hphase
    have hcaught := hphase.resolve_left hend.not_isTaking
    obtain ⟨rest, rfl⟩ := Nat.exists_eq_add_of_le hjn
    rw [Moment.acts_add]
    exact caught_acts hplace hwritable hlatex hj hcaught rest
  · obtain ⟨rest, rfl⟩ := Nat.exists_eq_add_of_le (hkj.le.trans hjn)
    rw [Moment.acts_add]
    exact caught_acts hplace hwritable hlatex hk hcaught rest

end LastWrite

/-! ## The last write -/

/-- Whatever the order of the requests and the writes, and whatever was written before: if the last
thing that is written has LaTeX and a whole poll comes after it, the output holds its LaTeX.  The
exception is a write after the first content was read and before the first stamp was taken; then
the output is left with the first content. -/
theorem last_write_reaches_output {threshold : Int} {c : Conversion} {d : Disk}
    {moves : List Move} {content : ByteArray} {stamp : Nat} {latex : String} {n : Nat}
    (hhosts : d.Hosts c.input) (hplace : d.place c.input ≠ d.place c.output)
    (hwritable : Disk.AlwaysWritable c.input c.output
      (Move.edits (moves ++ [.write content stamp])) d)
    (hfresh : ((d.stamp? c.input).toList ++
      Move.stamps (moves ++ [.write content stamp])).Nodup)
    (hlatex : c.result? threshold content = some latex)
    (hpoll : ((Moment.first d).exec threshold c (moves ++ [.write content stamp])).HoldsPoll
      threshold c n) :
    let before := (Moment.first d).exec threshold c moves
    let final := (Moment.first d).exec threshold c
      (moves ++ [.write content stamp] ++ List.replicate n .act)
    (¬before.stage.IsBlind → final.disk.content? c.output = some latex.toUTF8) ∧
    (before.stage.IsBlind → final.disk.content? c.output = before.leaves threshold c) := by
  intro before final
  have hstamps : Move.stamps (moves ++ [.write content stamp]) = Move.stamps moves ++ [stamp] :=
    List.filterMap_append
  have hedits : Move.edits (moves ++ [.write content stamp]) =
      Move.edits moves ++ [.write content (some stamp)] := List.filterMap_append
  rw [hstamps, ← List.append_assoc] at hfresh
  rw [hedits] at hwritable
  have hbefore : Orderly c (Move.edits moves ++ [.write content (some stamp)]) d _ before :=
    .exec hplace (fun e he => List.mem_append_left _ he) (.first hhosts)
  have hseen : before.stage.stamp? ≠ some stamp := by
    intro hseen
    have hused := hbefore.seen stamp hseen
    exact List.disjoint_of_nodup_append hfresh hused (List.mem_singleton.mpr rfl)
  have hwritten : Stands c _ d _ content stamp (before.move threshold c (.write content stamp)) :=
    ⟨hbefore.write (List.mem_append_right _ (List.mem_singleton.mpr rfl)) threshold,
      hbefore.hosts.file?_edit content stamp⟩
  have hlast : (Moment.first d).exec threshold c (moves ++ [.write content stamp]) =
      before.move threshold c (.write content stamp) := Moment.exec_append _ _ _
  have hfinal : final = (before.move threshold c (.write content stamp)).acts threshold c n := by
    rw [← hlast]
    exact Moment.exec_append _ _ _
  rw [hlast] at hpoll
  rw [hfinal]
  constructor
  · intro hsees
    have hdue := Stage.isDue_of_not_isBlind content hsees hseen
    exact (caught_of_due hplace hwritable hlatex hwritten hdue hpoll).output
  · intro hblind
    have hover := Stage.overlooks_of_isBlind stamp hblind
    obtain ⟨k, j, hkj, hjn, -⟩ := hpoll
    rw [overlooks_acts hplace hwritable hwritten hover (by omega), Moment.leaves, Moment.leaves]
    show Option.or _
      ((before.disk.edit c.input (.write content (some stamp))).content? c.output) = _
    rw [Disk.content?_edit hbefore.hosts.isDirectory (hbefore.reaches.place_ne hplace)]
    rfl

/-- The input is written while an older content of it is at hand. -/
theorem last_write_reaches_output_overtaken :
    let c : Conversion := ⟨⟨.none, ["a.ed"]⟩, ⟨.none, ["a.tex"]⟩, {}⟩
    let d : Disk := ⟨⟨["home"]⟩, [(⟨["home", "a.ed"]⟩, .file "x".toUTF8 3)], 4⟩
    let moves : List Move := [.act, .act, .act, .write "z".toUTF8 9, .act, .act]
    ((Moment.first d).exec Severity.info.rank c moves).stage.content? = some "z".toUTF8 ∧
      ((Moment.first d).exec Severity.info.rank c
        (moves ++ [.write "y".toUTF8 5] ++ List.replicate 4 .act)).disk.content? c.output =
          some "y".toUTF8 := by
  intro c d moves
  have hwritable : Disk.AlwaysWritable c.input c.output
      (Move.edits (moves ++ [.write "y".toUTF8 5])) d :=
    Disk.alwaysWritable_name (l := ⟨["home", "a.tex"]⟩) rfl rfl (by decide) (by decide) _
  have hcontent : ((Moment.first d).exec Severity.info.rank c moves).stage.content? =
      some "z".toUTF8 := by decide +kernel
  have hsees : ¬((Moment.first d).exec Severity.info.rank c moves).stage.IsBlind := by
    decide +kernel
  have hpoll : ((Moment.first d).exec Severity.info.rank c
      (moves ++ [.write "y".toUTF8 5])).HoldsPoll Severity.info.rank c 4 :=
    ⟨1, 4, by decide, by decide, by decide +kernel, by decide +kernel⟩
  have hlatex : c.result? Severity.info.rank "y".toUTF8 = some "y" := by decide +kernel
  have hinput : d.file? c.input = some ("x".toUTF8, 3) := by
    show d.file? ⟨.none, ["a.ed"]⟩ = _
    rfl
  exact ⟨hcontent, (last_write_reaches_output (.of_file? hinput) (by decide) hwritable (by decide)
    hlatex hpoll).1 hsees⟩

/-- A write between the first reading and the first stamp does not reach the output. -/
theorem first_stamp_is_late :
    let c : Conversion := ⟨⟨.none, ["a.ed"]⟩, ⟨.none, ["a.tex"]⟩, {}⟩
    let d : Disk := ⟨⟨["home"]⟩, [(⟨["home", "a.ed"]⟩, .file "x".toUTF8 3)], 4⟩
    let moves : List Move := [.act, .write "y".toUTF8 9]
    Disk.AlwaysWritable c.input c.output (Move.edits moves) d ∧
      c.result? Severity.info.rank "y".toUTF8 = some "y" ∧
      ((Moment.first d).exec Severity.info.rank c moves).HoldsPoll Severity.info.rank c 3 ∧
      ((Moment.first d).exec Severity.info.rank c
        (moves ++ List.replicate 3 .act)).disk.content? c.output = some "x".toUTF8 := by
  intro c d moves
  have hwritable : Disk.AlwaysWritable c.input c.output (Move.edits moves) d :=
    Disk.alwaysWritable_name (l := ⟨["home", "a.tex"]⟩) rfl rfl (by decide) (by decide) _
  have hpoll :
      ((Moment.first d).exec Severity.info.rank c moves).HoldsPoll Severity.info.rank c 3 :=
    ⟨2, 3, by decide, by decide, by decide +kernel, by decide +kernel⟩
  refine ⟨hwritable, ?_, hpoll, ?_⟩
  · decide +kernel
  · decide +kernel

/-! ## Nobody writes the input -/

section Unedited
variable {threshold : Int} {c : Conversion} {s : State}

theorem look_of_seen (threshold : Int) (time : String) (hseen : s.seen = s.disk.stamp? c.input) :
    look threshold time c s = .ok s := by
  unfold look
  split
  · rfl
  · next hstamp => rw [if_pos (hseen.trans hstamp)]

/-- As long as the stamp that was seen is that of the input, a loop does nothing but pause. -/
theorem loop_unedited (time : String) (n : Nat) (limit : Option Nat)
    (hseen : s.seen = s.disk.stamp? c.input) :
    ∃ s', loop threshold time c (changes c (List.replicate n .keep)) limit s = .ok s' ∧
      s'.disk = s.disk := by
  induction n generalizing limit s with
  | zero =>
      match limit with
      | some 0 => exact ⟨s, rfl, rfl⟩
      | some (k + 1) => exact ⟨_, rfl, rfl⟩
      | none => exact ⟨_, rfl, rfl⟩
  | succ n ih =>
      by_cases hlimit : limit = some 0
      · subst hlimit
        exact ⟨s, rfl, rfl⟩
      · have hkeep : s.disk.edit c.input .keep = s.disk := by
          unfold Disk.edit
          split <;> rfl
        have hlook := look_of_seen threshold time
          (s := s.show (.pause c.settings.interval)) hseen
        rw [List.replicate_succ, loop_cons hlimit, hkeep]
        exact hlook ▸ ih (limit.map (· - 1)) hseen

end Unedited

/-- If nobody else writes the input, it is converted once, also if the watch itself writes it. -/
theorem run_unedited (threshold : Int) (time : String) (c : Conversion) (n : Nat)
    (limit : Option Nat) (d : Disk) :
    (run threshold time c (changes c (List.replicate n .keep)) limit d).disk =
      (c.run threshold d).disk := by
  cases hwritten : (c.run threshold d).written with
  | error e =>
      have hstart : ∃ o, start threshold c d = .error o ∧ o.disk = (c.run threshold d).disk := by
        simp only [start, State.convert, hwritten, bind, Except.bind]
        exact ⟨_, rfl, rfl⟩
      obtain ⟨o, hstart, hdisk⟩ := hstart
      rw [run_of_start hstart, hdisk]
  | ok written =>
      have hstart : ∃ s, start threshold c d = .ok s ∧ s.seen = s.disk.stamp? c.input ∧
          s.disk = (c.run threshold d).disk := by
        simp only [start, State.convert, hwritten, bind, Except.bind, pure, Except.pure]
        exact ⟨_, rfl, rfl, rfl⟩
      obtain ⟨s, hstart, hseen, hdisk⟩ := hstart
      obtain ⟨s', hloop, hdisk'⟩ := loop_unedited time n limit hseen
      rw [run_of_loop hstart hloop, State.finish, hdisk', hdisk]

-- The output is the input: what the first conversion writes there is another source, and it stays.
example :
    let c : Conversion := ⟨⟨.none, ["w.ed"]⟩, ⟨.none, ["w.ed"]⟩, {}⟩
    let d : Disk := ⟨⟨["home"]⟩, [(⟨["home", "w.ed"]⟩, .file "AL PHA".toUTF8 3)], 4⟩
    c.result? Severity.info.rank "ALPHA".toUTF8 = some "\\alpha" ∧
      (run Severity.info.rank "12:00:00" c (changes c [.keep]) (some 1) d).disk.content? c.output =
        some "ALPHA".toUTF8 := by
  decide +kernel

end PlainMath.Watch
