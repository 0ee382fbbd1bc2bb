/-
# `Proofs.Delivery` — what is said on the way can be shown

The messages of typesetting are tested before anything is written (`Event.delivered`).  What a
conversion and a watch say themselves is not tested, and it need not be: they quote paths and the
failures of the disk, and both are escaped.  If all of their events were tested, nothing would be
different.  All of them are delivered, except that one may be wrong, and then it is the last one
and the conversion is aborted because of it.

    what a refused request says            (`Conversion.heard_refused`)
    a conversion                           (`Conversion.heard_run`)
    one look, and all looks                (`Watch.heard_look`, `Watch.heard_loop`)
    a watch                                (`Watch.heard_run`)
-/
import PlainMath.Proofs.Conversion.AllOrNothing
import PlainMath.Watch

namespace PlainMath

/-! ## Events that are delivered -/

namespace Event

variable {threshold : Int} {events rest : List Event} {fault : Option Text.Markup.Fault}

/-- All events are delivered at this threshold, and this is wrong with the last one, if anything
is. -/
def Heard (threshold : Int) (events : List Event) (fault : Option Text.Markup.Fault) : Prop :=
  delivered threshold events = (events, fault)

/-- What is wrong with an event that is to be shown. -/
def shownFault? (threshold : Int) (e : Event) : Option Text.Markup.Fault :=
  if isShown threshold e then e.fault? else none

theorem delivered_cons_of_none {e : Event} (h : shownFault? threshold e = none) :
    delivered threshold (e :: rest) =
      (e :: (delivered threshold rest).1, (delivered threshold rest).2) := by
  rw [delivered, ← shownFault?, h]

theorem delivered_cons_of_some {e : Event} {f : Text.Markup.Fault}
    (h : shownFault? threshold e = some f) : delivered threshold (e :: rest) = ([e], some f) := by
  rw [delivered, ← shownFault?, h]

theorem heard_delivered (threshold : Int) (events : List Event) :
    Heard threshold (delivered threshold events).1 (delivered threshold events).2 := by
  induction events with
  | nil => rfl
  | cons e rest ih =>
      cases h : shownFault? threshold e with
      | none =>
          rw [delivered_cons_of_none h, Heard, delivered_cons_of_none h]
          rw [Heard] at ih
          rw [ih]
      | some f =>
          rw [delivered_cons_of_some h]
          exact delivered_cons_of_some h

theorem heard_singleton {e : Event} (h : e.fault? = none) : Heard threshold [e] none := by
  refine delivered_cons_of_none ?_
  rw [shownFault?, h, ite_self]

/-- Nothing is wrong up to some place, and then the rest is heard. -/
theorem Heard.append (h : Heard threshold events none) (hrest : Heard threshold rest fault) :
    Heard threshold (events ++ rest) fault := by
  induction events with
  | nil => exact hrest
  | cons e events ih =>
      rw [Heard] at h
      cases he : shownFault? threshold e with
      | some f =>
          rw [delivered_cons_of_some he] at h
          cases (Prod.mk.inj h).2
      | none =>
          rw [delivered_cons_of_none he] at h
          obtain ⟨hevents, hfault⟩ := Prod.mk.inj h
          have htail : Heard threshold events none :=
            Prod.ext (List.cons.inj hevents).2 hfault
          have happend : delivered threshold (events ++ rest) = (events ++ rest, fault) := ih htail
          rw [Heard, List.cons_append, delivered_cons_of_none he, happend]

/-- The same with one event more. -/
theorem Heard.concat {e : Event} (h : Heard threshold events none) (he : e.fault? = none) :
    Heard threshold (events ++ [e]) none :=
  h.append (heard_singleton he)

end Event

/-! ## A conversion -/

namespace Conversion

open Event (Heard)

variable {threshold : Int} {c : Conversion} {d : Disk} {content : ByteArray}

/-- What is wrong with a message that aborts a conversion. -/
def Abort.fault? : Abort → Option Text.Markup.Fault
  | .defect (.markup f) => some f
  | _ => none

/-- What is wrong with the message that ends a conversion, if it is a message that does. -/
def faultOf {α : Type} : Except Abort α → Option Text.Markup.Fault
  | .ok _ => none
  | .error e => e.fault?

theorem bracket?_message {f : DiskFailure} (h : f.error ≠ .nullInName) :
    Text.bracket? f.message.toList = some '[' := by
  have hreason : Text.bracket? f.error.reason.toList = some '[' := by
    cases herror : f.error with
    | nullInName => exact absurd herror h
    | _ => rfl
  rw [DiskFailure.message, String.toList_append, String.toList_append, List.append_assoc,
    Text.bracket?_append, hreason]
  rfl

/-- A message about a path and what the disk says of it. -/
theorem fault?_said_failure {before : String} (hbracket : '[' ∉ before.toList)
    (hbackslash : '\\' ∉ before.toList) (p : Path) {f : DiskFailure} (h : f.error ≠ .nullInName) :
    (Event.said .error (before ++ Text.escape p.text ++ ": " ++ Text.escape f.message)).fault? =
      none := by
  have hfront : '[' ∉ (Event.sign .error ++ before).toList := by
    have hsign : '[' ∉ (Event.sign .error).toList := by decide
    simp [hsign, hbracket]
  have hfront' : '\\' ∉ (Event.sign .error ++ before).toList := by
    have hsign : '\\' ∉ (Event.sign .error).toList := by decide
    simp [hsign, hbackslash]
  have hsecond : Text.bracket? f.message.toList ≠ some ']' := by
    rw [bracket?_message h]
    decide
  show Text.Markup.fault? (Event.sign .error ++
    (before ++ Text.escape p.text ++ ": " ++ Text.escape f.message)) = none
  rw [← String.append_assoc, ← String.append_assoc, ← String.append_assoc]
  exact Text.fault?_escaped hfront hfront' p.text hsecond

theorem fault?_unreadable (c : Conversion) {f : DiskFailure} (h : f.error ≠ .nullInName) :
    (c.unreadable f).fault? = none :=
  fault?_said_failure (by decide) (by decide) c.input h

theorem fault?_unwritable (c : Conversion) {f : DiskFailure} (h : f.error ≠ .nullInName) :
    (c.unwritable f).fault? = none :=
  fault?_said_failure (by decide) (by decide) c.output h

theorem heard_refused {f : DiskFailure} {e : Event} (he : f.error ≠ .nullInName → e.fault? = none) :
    Heard threshold (refused d f e).events (faultOf (refused d f e).written) := by
  unfold refused
  split
  · rfl
  · next h => exact Event.heard_singleton (he h)

theorem heard_write (c : Conversion) (d : Disk) (latex : String) :
    Heard threshold (c.write d latex).events (faultOf (c.write d latex).written) := by
  unfold write
  split
  · exact Event.heard_singleton (fault?_succeeded c)
  · exact heard_refused (fault?_unwritable c)

/-- Typesetting itself never fails. -/
theorem exists_typeset_ok (c : Conversion) (source : String) : ∃ t, c.typeset source = .ok t := by
  cases hmixed : c.settings.mixed with
  | false =>
      have htypeset : ∃ t, c.typeset source = .ok t ∧ ∀ e ∈ t.events, e.fault? = none :=
        exists_typeset hmixed
      exact htypeset.imp fun t => And.left
  | true =>
      obtain ⟨logged, hdocument, -⟩ := Prose.exists_document (proseMode c.settings.mode) source
      refine ⟨⟨some logged.value, logged.log.map .message⟩, ?_⟩
      simp [typeset, hmixed, hdocument, bind, Except.bind, pure, Except.pure]

theorem heard_judge (threshold : Int) (c : Conversion) (content : ByteArray) :
    Heard threshold (c.judge threshold content).2 (faultOf (c.judge threshold content).1) := by
  unfold judge
  cases Text.ofBytes? content with
  | none => rfl
  | some source =>
      obtain ⟨⟨result, events⟩, ht⟩ := exists_typeset_ok c source
      have hheard := Event.heard_delivered threshold events
      simp only [ht]
      rcases hdelivered : Event.delivered threshold events with ⟨shown, _ | f⟩
      · rwa [hdelivered] at hheard
      · rwa [hdelivered] at hheard

/-- Everything that a conversion says is delivered, and it is aborted by a message just if this is
the last one and cannot be read. -/
theorem heard_run (threshold : Int) (c : Conversion) (d : Disk) :
    Heard threshold (c.run threshold d).events (faultOf (c.run threshold d).written) := by
  unfold run
  cases d.read c.input with
  | error f => exact heard_refused (fault?_unreadable c)
  | ok content =>
      have hheard := heard_judge threshold c content
      simp only [convert_eq]
      rcases hjudge : c.judge threshold content with ⟨e | _ | latex, events⟩
      · rwa [hjudge] at hheard
      · rwa [hjudge] at hheard
      · rw [hjudge] at hheard
        exact hheard.append (heard_write c d latex)

end Conversion

/-! ## A watch -/

namespace Watch

open Event (Heard)
open Conversion (Abort)

theorem fault?_beginning (c : Conversion) : (beginning c).fault? = none := by
  have hmessage : (Event.said .info
      ("Initial translation of " ++ Conversion.shownPath c.input ++ "")).fault? = none :=
    Conversion.fault?_said_path .info (by decide) (by decide) (by decide) c.input
  rwa [String.append_empty] at hmessage

theorem fault?_watching (c : Conversion) : (watching c).fault? = none :=
  Conversion.fault?_said_path .info (by decide) (by decide) (by decide) c.input

theorem fault?_changed {time : String} (htime : '[' ∉ time.toList) :
    (changed time).fault? = none := by
  refine Text.fault?_of_harmless (Text.harmless_of_not_mem ?_)
  simp [Event.sign, htime]

/-- How far a watch got, or how it ended, with everything delivered. -/
def HeardUpTo (threshold : Int) : Except Outcome State → Prop
  | .ok s => Heard threshold s.events none
  | .error o => Heard threshold o.events (o.failure.bind Abort.fault?)

/-- What goes on where nothing was wrong so far. -/
theorem HeardUpTo.bind {threshold : Int} {result : Except Outcome State}
    {next : State → Except Outcome State} (h : HeardUpTo threshold result)
    (hnext : ∀ s : State, Heard threshold s.events none → HeardUpTo threshold (next s)) :
    HeardUpTo threshold (result >>= next) := by
  cases result with
  | error o => exact h
  | ok s => exact hnext s h

section Steps
variable {threshold : Int} {time : String} {c : Conversion} {s : State}

theorem heard_convert (h : Heard threshold s.events none) :
    HeardUpTo threshold (s.convert threshold c) := by
  have hrun := Conversion.heard_run threshold c s.disk
  unfold State.convert
  cases hwritten : (c.run threshold s.disk).written with
  | ok written =>
      rw [hwritten] at hrun
      simp only [hwritten]
      exact h.append hrun
  | error e =>
      rw [hwritten] at hrun
      simp only [hwritten]
      exact h.append hrun

theorem heard_start (threshold : Int) (c : Conversion) (d : Disk) :
    HeardUpTo threshold (start threshold c d) := by
  have hconvert : HeardUpTo threshold (State.convert threshold ⟨none, d, [beginning c]⟩ c) :=
    heard_convert (Event.heard_singleton (fault?_beginning c))
  exact hconvert.bind fun s hs => hs.concat (fault?_watching c)

variable (htime : '[' ∉ time.toList)
include htime

theorem heard_look (h : Heard threshold s.events none) :
    HeardUpTo threshold (look threshold time c s) := by
  unfold look
  split
  · exact h
  · split
    · exact h
    · exact heard_convert (h.concat (fault?_changed htime))

theorem heard_loop (changes : List (Disk → Disk)) : ∀ (limit : Option Nat) {s : State},
    Heard threshold s.events none →
      HeardUpTo threshold (loop threshold time c changes limit s) := by
  induction changes with
  | nil =>
      intro limit s h
      have hstopped :
          Heard threshold (s.events ++ [.pause c.settings.interval] ++ [stopped]) none :=
        (h.concat rfl).concat rfl
      match limit with
      | some 0 => exact h
      | some (n + 1) => exact hstopped
      | none => exact hstopped
  | cons change changes ih =>
      intro limit s h
      have hlook : HeardUpTo threshold (look threshold time c
          { s.show (.pause c.settings.interval) with disk := change s.disk }) :=
        heard_look htime (h.concat rfl)
      have hrest : ∀ limit, HeardUpTo threshold (look threshold time c
          { s.show (.pause c.settings.interval) with disk := change s.disk } >>=
            loop threshold time c changes limit) :=
        fun limit => hlook.bind fun _ hs => ih limit hs
      match limit with
      | some 0 => exact h
      | some (n + 1) => exact hrest (some n)
      | none => exact hrest none

end Steps

/-- Everything that a watch says is delivered, and it is aborted by a message just if this is the
last one and cannot be read. -/
theorem heard_run {time : String} (htime : '[' ∉ time.toList) (threshold : Int) (c : Conversion)
    (changes : List (Disk → Disk)) (limit : Option Nat) (d : Disk) :
    Heard threshold (run threshold time c changes limit d).events
      ((run threshold time c changes limit d).failure.bind Abort.fault?) := by
  have hstart := heard_start threshold c d
  cases hresult : start threshold c d with
  | error o =>
      rw [hresult] at hstart
      rw [run_of_start hresult]
      exact hstart
  | ok s =>
      rw [hresult] at hstart
      have hloop := heard_loop (c := c) htime changes limit hstart
      cases hend : loop threshold time c changes limit s with
      | error o =>
          rw [hend] at hloop
          rw [run_of_loop_error hresult hend]
          exact hloop
      | ok s' =>
          rw [hend] at hloop
          rw [run_of_loop hresult hend]
          exact hloop

end Watch

end PlainMath
