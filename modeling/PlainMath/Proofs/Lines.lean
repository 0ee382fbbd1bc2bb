/-
# `Proofs.Lines` — a source is typeset line by line

Two texts with a line end between them have LaTeX exactly if each of them has, and it is the
LaTeX of the first, a separator, and that of the second (`typesets_append_line`).  Each stage
of the work has its own law.

    cutting     the tokens of the second text are its own, further down    (`ofSource_append_line`)
    reading     a line end is welcome exactly where the end of the input
                would be, and what follows it is read from the start       (`run_append_newline`)
    rendering   documents side by side                                     (`document_latex_append`)
-/
import PlainMath.Proofs.Parser.Complete
import PlainMath.Proofs.Parser.Move
import PlainMath.Proofs.Rendering
import PlainMath.Proofs.Tokens
import PlainMath.Typesetting

namespace PlainMath

/-! ## Cutting -/

/-- The position so many lines further down. -/
def Position.down (lines : Int) (p : Position) : Position := ⟨p.line + lines, p.column⟩

namespace Token

theorem positionAfter_down (l : Lexeme) (k : Int) (p : Position) :
    l.positionAfter (p.down k) = (l.positionAfter p).down k := by
  unfold Lexeme.positionAfter
  split
  · simp only [Position.nextLine, Position.down, Position.mk.injEq, and_true]
    omega
  · rfl

theorem place_down (k : Int) : ∀ (p : Position) (ls : List Lexeme),
    place (p.down k) ls = (place p ls).map (Token.move (Position.down k))
  | _, [] => rfl
  | p, l :: ls => by
      simp only [place, positionAfter_down, place_down k _ ls]
      cases l.kind? <;> rfl

theorem placeEnd_down (k : Int) : ∀ (p : Position) (ls : List Lexeme),
    placeEnd (p.down k) ls = (placeEnd p ls).down k
  | _, [] => rfl
  | p, l :: ls => by
      simp only [placeEnd, List.foldl_cons, positionAfter_down]
      exact placeEnd_down k _ ls

theorem place_append (ms : List Lexeme) : ∀ (p : Position) (ls : List Lexeme),
    place p (ls ++ ms) = place p ls ++ place (placeEnd p ls) ms
  | _, [] => rfl
  | p, l :: ls => by
      simp only [List.cons_append, place, place_append ms _ ls, placeEnd, List.foldl_cons]
      cases l.kind? <;> rfl

theorem placeEnd_append (p : Position) (ls ms : List Lexeme) :
    placeEnd p (ls ++ ms) = placeEnd (placeEnd p ls) ms := List.foldl_append

/-- A line begins at the first column. -/
theorem nextLine_eq (p : Position) : p.nextLine = Position.start.down p.line := by
  simp only [Position.nextLine, Position.start, Position.down, Position.mk.injEq, and_true]
  omega

theorem place_newline (p : Position) (ls : List Lexeme) :
    place p (⟨.newline, ['\n']⟩ :: ls) =
      ⟨.newline, "\n", p, none⟩ :: (place .start ls).map (Token.move (Position.down p.line)) := by
  rw [← place_down, ← nextLine_eq]
  rfl

theorem placeEnd_newline (p : Position) (ls : List Lexeme) :
    placeEnd p (⟨.newline, ['\n']⟩ :: ls) = (placeEnd .start ls).down p.line := by
  rw [← placeEnd_down, ← nextLine_eq]
  rfl

end Token

namespace Stream

/-- The token for a line end behind the source. -/
def lineEnd (source : String) : Token := ⟨.newline, "\n", (ofSource source).last.position, none⟩

/-- How many lines down a text goes that is put behind the source and a line end. -/
def lineCount (source : String) : Int := (ofSource source).last.position.line

/-- The tokens of a text that stands behind another one and a line end are its own tokens, so
many lines further down. -/
theorem ofSource_append_line (a b : String) :
    (ofSource (a ++ "\n" ++ b)).body =
        (ofSource a).body ++
          lineEnd a :: (ofSource b).body.map (Token.move (Position.down (lineCount a))) ∧
      (ofSource (a ++ "\n" ++ b)).last =
        (ofSource b).last.move (Position.down (lineCount a)) := by
  have hchars : (a ++ "\n" ++ b).toList = a.toList ++ '\n' :: b.toList := by simp
  constructor
  · simp only [ofSource, lineEnd, lineCount, hchars, Lexeme.ofSource_append_newline,
      Token.place_append, Token.place_newline]
  · simp only [ofSource, lineCount, hchars, Lexeme.ofSource_append_newline,
      Token.placeEnd_append, Token.placeEnd_newline]
    rfl

end Stream

/-! ## Reading -/

namespace Parser

open Grammar

theorem Read.goal {s : State} {w : List Token} (h : Read s w) : ∃ ns, s.goal = .document ns := by
  cases h
  exact ⟨_, rfl⟩

/-- A line end is welcome exactly where the document may end, and then everything before it is
finished. -/
theorem next?_newline {s : State} {ms : List Node} (hgoal : s.goal = .document ms) {t : Token}
    (ht : t.kind = .newline) :
    s.next? t = s.finished?.map fun ns => .start (.document ns) := by
  obtain ⟨goal, fs, phase⟩ := s
  cases hgoal
  cases phase with
  | operand =>
      cases fs with
      | nil => simp [State.next?, beforeOperand, betweenExpressions, State.finished?, ht]
      | cons frame fs => simp [State.next?, beforeOperand, startOperand, State.finished?, ht]
  | firstArgument f name => simp [State.next?, startOperand, State.finished?, ht]
  | argumentList f name => simp [State.next?, State.finished?, ht]
  | operator n =>
      simp only [State.next?, afterOperand, State.finished?, ht]
      change afterExpression _ (closeAll n fs) t = _
      obtain ⟨m, gs⟩ := closeAll n fs
      cases gs with
      | nil => simp [afterExpression, betweenExpressions, ht]
      | cons frame gs => cases frame <;> simp [afterExpression, ht]
  | faulty fault => simp [State.next?, State.finished?]

/-- Tokens before a line end are read as if the input ended there; if that goes well, the
tokens behind the line end are read from the start. -/
theorem run_append_newline {e nl : Token} (he : e.kind = .eof) (hnl : nl.kind = .newline)
    (last : Token) (rest : List Token) {s : State} {ts : List Token}
    (hts : ∀ t ∈ ts, t.kind ≠ .eof) : ∀ {w : List Token}, Read s w →
      (∃ ns, (State.run e s ts).1 = .ok (.document ns) ∧
        State.run last s (ts ++ nl :: rest) = State.run last (.start (.document ns)) rest) ∨
      (∃ fault fault', (State.run e s ts).1 = .error fault ∧
        (State.run last s (ts ++ nl :: rest)).1 = .error fault') := by
  fun_induction State.run e s ts with
  | case1 s =>
      intro w hread
      obtain ⟨ms, hgoal⟩ := hread.goal
      have hnext := next?_newline hgoal hnl
      -- the line end is next, and `finished?` decides about it and about `e` alike
      cases hfinished : s.finished? with
      | some ns =>
          rw [hfinished, Option.map_some] at hnext
          refine .inl ⟨ns, ?_, ?_⟩
          · simp only [verdict_of_finished hfinished, endOfExpressions, he]
          · simp only [List.nil_append, State.run, hnext]
      | none =>
          rw [hfinished, Option.map_none] at hnext
          obtain ⟨fault, hfault⟩ := hread.unfinished hfinished
          refine .inr ⟨fault e, fault nl, hfault e, ?_⟩
          simp only [List.nil_append, State.run, hnext, hfault nl]
  | case2 s t ts s' hnext ih =>
      intro w hread
      simp only [List.cons_append, State.run, hnext]
      exact ih (fun u hu => hts u (List.mem_cons_of_mem t hu)) (hread.next hnext)
  | case3 s t ts hnext =>
      intro w hread
      -- stopping before the line end is not stopping well, since `t` is no end of the input
      cases hverdict : s.verdict t with
      | ok n => exact absurd (hread.verdict hverdict).1 (hts t List.mem_cons_self)
      | error fault =>
          refine .inr ⟨fault, fault, rfl, ?_⟩
          simp only [List.cons_append, State.run, hnext, hverdict]

theorem document_of_source {source : String} {n : Node} (h : parse (.ofSource source) = .ok n) :
    ∃ ns, n = .document ns ∧ Document (Stream.ofSource source).body ns :=
  document_body_of_run (fun _ => Token.kind_ne_eof_of_mem_body) (run_of_parse h)

/-- A text behind another one and a line end is read on its own. -/
theorem parse_append_line (a b : String) (n : Node) :
    parse (.ofSource (a ++ "\n" ++ b)) = .ok n ↔
      ∃ ns ms, parse (.ofSource a) = .ok (.document ns) ∧ parse (.ofSource b) = .ok (.document ms) ∧
        n = .document (ns ++ ms) := by
  have hbody : ∀ source : String, ∀ t ∈ (Stream.ofSource source).body, t.kind ≠ .eof :=
    fun _ _ => Token.kind_ne_eof_of_mem_body
  obtain ⟨hbodies, hlast⟩ := Stream.ofSource_append_line a b
  simp only [parse_eq_ok_iff_run (hbody _), hbodies, hlast]
  have hnewline : (Stream.lineEnd a).kind = .newline := rfl
  rcases run_append_newline (Stream.ofSource a).last_kind hnewline _ _ (hbody a) Read.start with
    ⟨ns, ha, hrun⟩ | ⟨fault, fault', ha, hrun⟩
  · rw [hrun, start_eq_move ns, run_move ns _ Read.start, ha]
    generalize hb : (State.run (Stream.ofSource b).last _ (Stream.ofSource b).body).1 = verdict
    cases verdict with
    | error fault => simp [moveVerdict]
    | ok m =>
        obtain ⟨ms, rfl, -⟩ := document_body_of_run (hbody b) hb
        simp [moveVerdict, eq_comm]
  · simp [hrun, ha]

end Parser

/-! ## Typesetting -/

namespace Typesetting

/-- Typesetting the source succeeds with this LaTeX. -/
def Typesets (options : Options) (source latex : String) : Prop :=
  ∃ logged, run options source = .ok logged ∧ logged.value.result = .ok latex

/-- The top-level expressions of a source; none if it cannot be read. -/
def expressions (source : String) : List Node :=
  match Parser.parse (.ofSource source) with
  | .ok (.document ns) => ns
  | _ => []

theorem typesets_iff {options : Options} {source latex : String} :
    Typesets options source latex ↔
      ∃ document, Parser.parse (.ofSource source) = .ok document ∧
        document.latex options.mode = .ok latex := by
  unfold Typesets run
  cases hparse : Parser.parse (.ofSource source) with
  | ok document =>
      cases hlatex : document.latex options.mode with
      | ok s => simp [hparse, hlatex]
      | error e => simp [hparse, hlatex]
  | error fault =>
      cases hreport : Report.ofDiagnostic (located source fault) <;> simp [hparse, hreport]

/-- Typesetting goes line by line: two texts with a line end between them have LaTeX exactly if
each of them has, and it is the one and the other, with a line end between them where an
expression between delimiters meets another. -/
theorem typesets_append_line (options : Options) (a b latex : String) :
    Typesets options (a ++ "\n" ++ b) latex ↔
      ∃ l r, Typesets options a l ∧ Typesets options b r ∧
        latex = l ++ Node.separator options.mode (expressions a) (expressions b) ++ r := by
  simp only [typesets_iff, Parser.parse_append_line]
  constructor
  · rintro ⟨_, ⟨ns, ms, ha, hb, rfl⟩, hlatex⟩
    obtain ⟨l, r, hl, hr, rfl⟩ := Node.document_latex_append.mp hlatex
    refine ⟨l, r, ⟨_, ha, hl⟩, ⟨_, hb, hr⟩, ?_⟩
    simp only [expressions, ha, hb]
  · rintro ⟨l, r, ⟨_, ha, hl⟩, ⟨_, hb, hr⟩, rfl⟩
    obtain ⟨ns, rfl, -⟩ := Parser.document_of_source ha
    obtain ⟨ms, rfl, -⟩ := Parser.document_of_source hb
    refine ⟨_, ⟨ns, ms, ha, hb, rfl⟩, Node.document_latex_append.mpr ⟨l, r, hl, hr, ?_⟩⟩
    simp only [expressions, ha, hb]

end Typesetting

end PlainMath
