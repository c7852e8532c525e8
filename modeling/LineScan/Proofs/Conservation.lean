import LineScan.Proofs.Calls
import LineScan.Calculator.Basic

/-!
# No text is lost or matched twice

Calls on a scanner keep account of the line: the text before the cursor is made of the texts that
were matched, in order, with nothing but blanks between them. What was matched and then given back,
because a later target of the same call was missed, is not part of the account.

The account is kept by a *log* of the matches. The log does not look at what the scanner remembers
of a match: a literal takes its own text, a character takes one character or none, and a terminal
takes the text from the first character past the blanks up to where its function stopped. That the
scanner remembers the same is a result (`Accounts.matched_eq`).

## Main statements

* `attempted_dispatch`: what an attempt at a target finds, where, and what it leaves alone.
* `Accounts.run`: every call keeps the account.
* `runAll_startLine`: so does every sequence of calls from the start of a line.
-/

namespace LineScan

/-! ## Slices -/

namespace Line

variable {line text : Line}

/-- A text that ends the line starts no later than the line ends. -/
theorem place_le (line text : Line) : place line text ≤ line.length := by
  unfold place
  omega

/-- Where the blanks after the place of a text end. -/
theorem place_add_leadingBlanks (h : text <:+ line) :
    place line text + leadingBlanks (line.drop (place line text).toNat) =
      place line text.ahead := by
  have := skipBlanks_place h
  rw [skipBlanks, if_pos (place_nonneg h)] at this
  exact Except.ok.inj this

/-- What comes next is no blank. -/
theorem isBlank_peek_ahead (h : text.ahead <:+ line) :
    Text.isBlank (line.peek (place line text.ahead)) = false := by
  rw [peek_place h]
  have hhead := List.head?_dropWhile_not Text.isBlank text
  rw [← ahead] at hhead
  cases ha : text.ahead with
  | nil => decide
  | cons c rest =>
    rw [ha] at hhead
    simpa using hhead

/-- The blanks that are skipped before what comes next. -/
theorem exists_blanks (text : Line) :
    ∃ gap, text = gap ++ text.ahead ∧ ∀ c ∈ gap, Text.isBlank c = true :=
  ⟨text.takeWhile Text.isBlank, (List.takeWhile_append_dropWhile).symm,
    fun c hc => List.all_eq_true.mp List.all_takeWhile c hc⟩

end Line

/-! ## The log -/

/-- The text that a target takes when it is found from a cursor on and its match ends at `stop`. -/
def Target.taken (line : Line) (cursor stop : Int) : Target → Line
  | .literal text => text
  | .char c =>
    if c = Line.nul then []
    else if Text.isBlank c then [line.peek cursor]
    else [c]
  | .terminal _ => line.slice (cursor + Line.leadingBlanks (line.drop cursor.toNat)) stop

/-- A match that was made. -/
structure Finding where
  target : Target
  text : Line
  value : Datum

/-- The value of a finding; only a terminal has one. -/
def Finding.value? (f : Finding) : Option Datum :=
  match f.target with
  | .terminal _ => some f.value
  | _ => none

/-- The match that an attempt at a target makes, if it makes one. -/
def ScanState.found? (state : ScanState) (target : Target) : Option Finding :=
  match Scan.dispatch target state with
  | .ok (.hit stop value) _ => some ⟨target, target.taken state.line state.cursor stop, value⟩
  | _ => none

/-- The matches that attempts make one after the other, up to the first that makes none. -/
def Bench.foundEach (setting : Setting) : List Wanted → Bench → List Finding
  | [], _ => []
  | wanted :: rest, b =>
    match wanted.coerce setting.registry with
    | .error _ => []
    | .ok target =>
      match Bench.attempt setting target b with
      | .ok true b' => (b.state.found? target).toList ++ foundEach setting rest b'
      | _ => []

namespace Call

/-- What a call adds to the log: the matches that it makes, and none of them when it answers that
it did not find all it was looking for. -/
def log (setting : Setting) (call : Call) (s : Scanner) : List Finding :=
  match call.run setting s with
  | .ok false _ => []
  | _ => Bench.foundEach setting call.wanted s.toBench

/-- The log of several calls. -/
def logAll (setting : Setting) : List Call → Scanner → List Finding
  | [], _ => []
  | call :: rest, s =>
    call.log setting s ++ logAll setting rest (Result.state (call.run setting s))

end Call

/-! ## Terminals that keep to a line -/

/-- Nothing was written but the detail of a miss and the place of a failure; the place is on the
line. -/
structure ScanState.OnlyNotes (line : Line) (before after : ScanState) : Prop where
  rest_eq : after = { before with
    failPosition := after.failPosition, pendingDetail := after.pendingDetail }
  place_mem : ∀ n ∈ after.failPosition, 0 ≤ n ∧ n ≤ line.length

/-- A terminal keeps to a line: wherever past the blanks it is tried, it ends on the line, whether
it matches or misses, and writes nothing but notes about a failure. It may give up instead. -/
def Terminal.KeepsTo (t : Terminal) (line : Line) : Prop :=
  ∀ (state : ScanState) (p : Int), state.line = line → 0 ≤ p → p ≤ line.length →
    Text.isBlank (line.peek p) = false →
    match t.scan p (state.cleared p) with
    | .ok (.hit stop _) after =>
      p ≤ stop ∧ stop ≤ line.length ∧ (state.cleared p).OnlyNotes line after
    | .ok (.miss place) after =>
      (∀ n ∈ place, 0 ≤ n ∧ n ≤ line.length) ∧ (state.cleared p).OnlyNotes line after
    | .error _ after => (state.cleared p).OnlyNotes line after

/-! ## What an attempt finds -/

/-- What an attempt leaves alone: the line, the cursor, the last match and the last value. The place
of the last failure is kept or is on the line. -/
structure ScanState.Keeps (line : Line) (before after : ScanState) : Prop extends
    ScanState.Alike after before where
  place_mem : after.failPosition = before.failPosition ∨
    ∀ n ∈ after.failPosition, 0 ≤ n ∧ n ≤ line.length

/-- How an attempt at a target may end that starts before a text: what it finds comes after nothing
but blanks. -/
inductive Attempted (line text : Line) (target : Target) (state : ScanState) :
    EStateM.Result Abort ScanState Match → Prop where
  | hit (gap found rest : Line) {value : Datum} {after : ScanState}
      (split : text = gap ++ (found ++ rest)) (blank : ∀ c ∈ gap, Text.isBlank c = true)
      (taken : target.taken line state.cursor (line.place rest) = found)
      (start : after.matchStart = line.place (found ++ rest)) (keeps : state.Keeps line after) :
      Attempted line text target state (.ok (.hit (line.place rest) value) after)
  | miss {place : Int} {after : ScanState} (nonneg : 0 ≤ place) (le : place ≤ line.length)
      (keeps : state.Keeps line after) :
      Attempted line text target state (.ok (.miss place) after)
  | gaveUp {e : Abort} {after : ScanState} (keeps : state.Keeps line after) :
      Attempted line text target state (.error e after)

section

variable {line text : Line} {s : Scanner} {target : Target}

/-- An attempt that may end only so is its matcher, settled: all that is written of it in a trace
lies on the line. -/
theorem Attempted.attempt_eq {b : Bench} (setting : Setting)
    (h : Attempted line text target b.state (Scan.dispatch target b.state))
    (hs : Stands line text { toBench := b }) :
    ∃ journal, Bench.attempt setting target b =
      match Scan.dispatch target b.state with
      | .ok m state => .ok m.isHit ⟨state.settle target m, journal⟩
      | .error e state => .error e ⟨state, journal⟩ := by
  have hcursor : setting.Writes b.state.line b.state.cursor := hs.writes_cursor setting
  rw [Bench.attempt_eq, if_pos hcursor]
  generalize Scan.dispatch target b.state = result at h
  cases h with
  | @hit gap found rest _ after split _ _ _ keeps =>
    have hrest : rest <:+ line :=
      (split ▸ (List.suffix_append found rest).trans (List.suffix_append gap _)).trans hs.suffix
    have hwrites : after.line.Writes (line.place rest) := by
      rw [keeps.line_eq.trans hs.line_eq]
      exact Line.writes_place hrest
    exact ⟨_, if_pos (hwrites.inTrace setting)⟩
  | @miss place after nonneg le keeps =>
    have hwrites : after.line.Writes place := by
      rw [keeps.line_eq.trans hs.line_eq]
      exact Line.writes_of_within nonneg (by omega)
    exact ⟨_, if_pos (hwrites.inTrace setting)⟩
  | gaveUp keeps => exact ⟨_, rfl⟩

/-- A miss at the place of a text. -/
theorem Attempted.miss_place (text : Line) (target : Target) {state after : ScanState} {rest : Line}
    (h : rest <:+ line) (keeps : state.Keeps line after) :
    Attempted line text target state (.ok (.miss (line.place rest)) after) :=
  .miss (Line.place_nonneg h) (Line.place_le line rest) keeps

variable (hs : Stands line text s)

include hs

/-- A matcher of the scanner itself only says where it found its text. -/
theorem keeps_matchStart (p : Int) :
    s.state.Keeps line { s.state with line := line, cursor := line.place text, matchStart := p } :=
  ⟨⟨hs.line_eq.symm, hs.cursor_eq.symm, rfl, rfl, rfl⟩, .inl rfl⟩

/-- An attempt at a blank finds one right at the cursor, or misses. -/
theorem attempted_char_of_blank {c : Char} (hc : Text.isBlank c = true) :
    Attempted line text (.char c) s.state (Scan.dispatch (.char c) s.state) := by
  have hnul : c ≠ Line.nul := by
    rintro rfl
    exact absurd hc (by decide)
  simp only [Scan.dispatch, Scan.char, bind_apply, get_apply, cond_apply, modify_apply, pure_apply,
    hs.line_eq, hs.cursor_eq, Line.peek_place hs.suffix, hc, Bool.true_and]
  split
  · next hblank =>
    cases text with
    | nil => exact absurd hblank (by decide)
    | cons d rest =>
      rw [Line.place_cons]
      refine .hit [] [d] rest rfl (by simp) ?_ rfl (keeps_matchStart hs _)
      rw [Target.taken, if_neg hnul, if_pos hc, hs.cursor_eq, Line.peek_place hs.suffix]
      rfl
  · -- past the blanks there is none, so that the one that is looked for is missed
    have hne : line.peek (line.place text.ahead) ≠ c := by
      intro h
      have hnone := Line.isBlank_peek_ahead hs.ahead_suffix
      rw [h, hc] at hnone
      cases hnone
    simp only [hs.skipBlanks hs.line_eq, beq_iff_eq, if_neg hne]
    exact .miss_place _ _ hs.ahead_suffix ⟨⟨rfl, rfl, rfl, rfl, rfl⟩, .inl rfl⟩

/-- An attempt at a character finds it past the blanks, or misses and leaves the account alone. -/
theorem attempted_char (c : Char) :
    Attempted line text (.char c) s.state (Scan.dispatch (.char c) s.state) := by
  cases hc : Text.isBlank c with
  | true => exact attempted_char_of_blank hs hc
  | false =>
    obtain ⟨gap, hgap, hblank⟩ := Line.exists_blanks text
    have keeps : s.state.Keeps line { s.state with matchStart := line.place text.ahead } :=
      ⟨⟨rfl, rfl, rfl, rfl, rfl⟩, .inl rfl⟩
    rw [hs.dispatch_char hc]
    by_cases hnext : text.ahead.headD Line.nul = c
    · rw [if_pos hnext]
      by_cases hnul : c = Line.nul
      · rw [if_pos hnul]
        refine .hit gap [] text.ahead hgap hblank ?_ rfl keeps
        rw [Target.taken, if_pos hnul]
      · rw [if_neg hnul]
        cases ha : text.ahead with
        | nil => exact absurd (by rw [← hnext, ha]; rfl) hnul
        | cons d rest =>
          obtain rfl : d = c := by rwa [ha] at hnext
          rw [ha] at hgap keeps
          rw [Line.place_cons]
          refine .hit gap [d] rest hgap hblank ?_ rfl keeps
          rw [Target.taken, if_neg hnul, if_neg (by simp [hc])]
    · rw [if_neg hnext]
      exact .miss_place _ _ hs.ahead_suffix keeps

/-- A literal is compared with the text past some blanks. -/
theorem attempted_compare (gap : Line) {start : Line} (hgap : text = gap ++ start)
    (hblank : ∀ c ∈ gap, Text.isBlank c = true) (first : Char) (others : Line) :
    Attempted line text (.literal (first :: others)) s.state
      (if (line.length : Int) - line.place start < (first :: others).length ∨
          line.slice (line.place start) (line.place start + (first :: others).length) ≠
            first :: others then
        .ok (.miss (line.place start))
          { s.state with line := line, cursor := line.place text, matchStart := line.place start }
      else if Scan.continues ((first :: others).getLastD first)
          (line.peek (line.place start + (first :: others).length)) = true then
        .ok (.miss (line.place start))
          { s.state with line := line, cursor := line.place text, matchStart := line.place start }
      else
        .ok (.hit (line.place start + (first :: others).length) .none)
          { s.state with
            line := line, cursor := line.place text, matchStart := line.place start }) := by
  have hsuffix : start <:+ line := (List.suffix_append gap start).trans (hgap ▸ hs.suffix)
  -- the two ways to miss a literal leave the same state
  have hmiss := Attempted.miss_place text (.literal (first :: others)) hsuffix
    (keeps_matchStart hs (line.place start))
  rw [Line.slice_place hsuffix]
  split
  · exact hmiss
  · next hfound =>
    have htake := Classical.not_not.mp fun h => hfound (.inr h)
    obtain ⟨rest, rfl⟩ : first :: others <+: start := htake ▸ List.take_prefix ..
    split
    · exact hmiss
    · have hstop : line.place (first :: others ++ rest) + (first :: others).length =
          line.place rest := by
        rw [Line.place, Line.place, List.length_append]
        omega
      rw [hstop]
      exact .hit gap _ rest hgap hblank rfl rfl (keeps_matchStart hs _)

/-- An attempt at a literal finds its text past the blanks, or misses and leaves the account
alone. -/
theorem attempted_literal (wanted : Line) :
    Attempted line text (.literal wanted) s.state (Scan.dispatch (.literal wanted) s.state) := by
  have hmiss := Attempted.miss_place text (.literal wanted) hs.suffix
    (keeps_matchStart hs (line.place text))
  cases wanted with
  | nil =>
    simp only [Scan.dispatch, Scan.literal, bind_apply, get_apply, modify_apply, hs.line_eq,
      hs.cursor_eq, pure_apply]
    split
    · next h =>
      obtain rfl : text = [] := by
        rw [Line.place] at h
        exact List.length_eq_zero_iff.mp (by omega)
      exact .hit [] [] [] rfl (by simp) rfl rfl (keeps_matchStart hs _)
    · exact hmiss
  | cons first others =>
    -- past the blanks, unless the literal starts with one
    by_cases hfirst : Text.isBlank first = true
    · simp only [Scan.dispatch, Scan.literal, bind_apply, get_apply, modify_apply, hs.line_eq,
        hs.cursor_eq, cond_apply, pure_apply, hfirst, if_true, Bool.or_eq_true, decide_eq_true_eq,
        bne_iff_ne]
      split
      · exact hmiss
      · exact attempted_compare hs [] rfl (by simp) first others
    · obtain ⟨gap, hgap, hblank⟩ := Line.exists_blanks text
      simp only [Scan.dispatch, Scan.literal, bind_apply, get_apply, modify_apply, hs.line_eq,
        hs.cursor_eq, cond_apply, pure_apply, hfirst, Scan.skipBlanks,
        Line.skipBlanks_place hs.suffix, Bool.or_eq_true, decide_eq_true_eq, bne_iff_ne]
      split
      · exact hmiss
      · exact attempted_compare hs gap hgap hblank first others

/-- An attempt at a terminal that keeps to the line finds what its function took, or misses. -/
theorem attempted_terminal {t : Terminal} (keepsTo : t.KeepsTo line) :
    Attempted line text (.terminal t) s.state (Scan.dispatch (.terminal t) s.state) := by
  let p := line.place text.ahead
  have hkeeps := keepsTo s.state p hs.line_eq (Line.place_nonneg hs.ahead_suffix)
    (Line.place_le ..) (Line.isBlank_peek_ahead hs.ahead_suffix)
  have hnotes : ∀ after, (s.state.cleared p).OnlyNotes line after →
      s.state.Keeps line after ∧ after.matchStart = p := by
    rintro after ⟨hrest, hplace⟩
    rw [hrest]
    exact ⟨⟨⟨rfl, rfl, rfl, rfl, rfl⟩, .inr hplace⟩, rfl⟩
  rw [hs.dispatch_terminal t]
  generalize t.scan p (s.state.cleared p) = result at hkeeps
  match result, hkeeps with
  | .ok (.hit stop value) after, ⟨hstart, hstop, notes⟩ =>
    obtain ⟨keeps, hmatch⟩ := hnotes after notes
    obtain ⟨gap, hgap, hblank⟩ := Line.exists_blanks text
    -- the match is the front of what comes next, as far as the terminal went
    obtain ⟨n, rfl⟩ : ∃ n : Nat, stop = p + n := ⟨(stop - p).toNat, by omega⟩
    have hrest : p + n = line.place (text.ahead.drop n) := by
      simp only [p, Line.place, List.length_drop] at hstop ⊢
      omega
    have htaken : (Target.terminal t).taken line s.state.cursor (p + n) = text.ahead.take n := by
      rw [Target.taken, hs.cursor_eq, Line.place_add_leadingBlanks hs.suffix]
      exact Line.slice_place hs.ahead_suffix n
    rw [hrest] at htaken ⊢
    refine .hit gap _ _ ?_ hblank htaken ?_ keeps
    · rw [List.take_append_drop]
      exact hgap
    · rw [List.take_append_drop]
      exact hmatch
  | .ok (.miss place) after, ⟨hplace, notes⟩ =>
    have keeps := (hnotes after notes).1
    cases place with
    | none => exact .miss_place _ _ hs.ahead_suffix keeps
    | some n => exact .miss (hplace n rfl).1 (hplace n rfl).2 keeps
  | .error e after, notes => exact .gaveUp (hnotes after notes).1

/-- What an attempt at a target finds comes after nothing but blanks. -/
theorem attempted_dispatch (keepsTo : ∀ t, target = .terminal t → t.KeepsTo line) :
    Attempted line text target s.state (Scan.dispatch target s.state) := by
  cases target with
  | literal wanted => exact attempted_literal hs wanted
  | char c => exact attempted_char hs c
  | terminal t => exact attempted_terminal hs (keepsTo t rfl)

end

/-- What an attempt has found is the matched text afterwards. -/
theorem ScanState.matched_settle_hit {line found rest : Line} {value : Datum} (after : ScanState)
    (target : Target) (hline : after.line = line) (hsuffix : found ++ rest <:+ line)
    (start : after.matchStart = line.place (found ++ rest)) :
    (after.settle target (.hit (line.place rest) value)).matched = found := by
  have hlength : line.place rest - line.place (found ++ rest) = found.length := by
    simp only [Line.place, List.length_append]
    omega
  have hmatched : (after.settle target (.hit (line.place rest) value)).matched =
      after.line.slice after.matchStart
        (after.matchStart + (line.place rest - after.matchStart)) := rfl
  rw [hmatched, start, hlength, hline, Line.slice_place hsuffix, List.take_left]

/-! ## The account -/

/-- A text is made of the matches of a log, in order, each after a gap of blanks. -/
def Covers (log : List Finding) (consumed : Line) : Prop :=
  ∃ gaps : List Line, gaps.length = log.length ∧ (∀ gap ∈ gaps, ∀ c ∈ gap, Text.isBlank c = true) ∧
    consumed = (List.zipWith (fun gap found => gap ++ found.text) gaps log).flatten

/-- An empty log covers the empty text. -/
theorem Covers.nil : Covers [] [] := ⟨[], rfl, by simp, rfl⟩

/-- A match after a gap of blanks extends what the log covers. -/
theorem Covers.concat {log : List Finding} {consumed gap : Line} (h : Covers log consumed)
    (blank : ∀ c ∈ gap, Text.isBlank c = true) (found : Finding) :
    Covers (log ++ [found]) (consumed ++ (gap ++ found.text)) := by
  obtain ⟨gaps, hlength, hblank, rfl⟩ := h
  refine ⟨gaps ++ [gap], by simp [hlength], ?_, ?_⟩
  · intro g hg
    obtain hg | rfl := List.mem_append.mp hg |>.imp_right List.mem_singleton.mp
    · exact hblank g hg
    · exact blank
  · rw [List.zipWith_append hlength]
    simp

/-- A scan state accounts for a line by a log: what is before the cursor is covered by the log, the
last match and the last value are those of the log, and a failure is on the line. -/
structure Accounts (line : Line) (log : List Finding) (state : ScanState) : Prop where
  line_eq : state.line = line
  covers : ∃ consumed text, line = consumed ++ text ∧ state.cursor = line.place text ∧
    Covers log consumed
  matched_eq : state.matched = (log.getLast?.map Finding.text).getD []
  value_eq : state.value = (log.filterMap Finding.value?).getLast?.getD .none
  place_mem : ∀ n ∈ state.failPosition, 0 ≤ n ∧ n ≤ line.length

namespace Accounts

variable {line : Line} {log : List Finding} {state after : ScanState} {target : Target}

/-- At the start of a line the empty log accounts for it. -/
theorem start (line : Line) : Accounts line [] (.start line) where
  line_eq := rfl
  covers := ⟨[], line, rfl, by simp [ScanState.start, Line.place], .nil⟩
  matched_eq := by simp [ScanState.start, ScanState.matched, Line.slice]
  value_eq := rfl
  place_mem := by simp [ScanState.start]

/-- Whatever keeps the match and the value keeps the account. -/
theorem keeps (h : Accounts line log state) (keeps : state.Keeps line after) :
    Accounts line log after where
  line_eq := keeps.line_eq.trans h.line_eq
  covers := keeps.cursor_eq ▸ h.covers
  matched_eq := by
    rw [ScanState.matched, keeps.line_eq, keeps.lastStart_eq, keeps.lastLength_eq]
    exact h.matched_eq
  value_eq := keeps.value_eq.trans h.value_eq
  place_mem := keeps.place_mem.elim (fun same => same ▸ h.place_mem) id

/-- Noting where a failure is keeps the account. -/
theorem noteFailure {place : Int} (h : Accounts line log state) (nonneg : 0 ≤ place)
    (le : place ≤ line.length) : Accounts line log { state with failPosition := some place } where
  line_eq := h.line_eq
  covers := h.covers
  matched_eq := h.matched_eq
  value_eq := h.value_eq
  place_mem := by simp [nonneg, le]

/-- Rewinding goes back to the account that was kept. -/
theorem rewind {log' : List Finding} {saved : ScanState} (h : Accounts line log state)
    (hsaved : Accounts line log' saved) : Accounts line log' (state.rewind saved) where
  line_eq := h.line_eq
  covers := hsaved.covers
  matched_eq := by
    rw [← hsaved.matched_eq, ScanState.matched, ScanState.matched, hsaved.line_eq, ← h.line_eq]
    rfl
  value_eq := hsaved.value_eq
  place_mem := h.place_mem

/-- Noting a complaint keeps the account. -/
theorem noteMessage {s : Scanner} (h : Accounts line log s.state) (c : Complaint) :
    Accounts line log (s.noteMessage c).state where
  line_eq := h.line_eq
  covers := h.covers
  matched_eq := h.matched_eq
  value_eq := h.value_eq
  place_mem := h.place_mem

/-- A match goes to the end of the log. -/
theorem hit {consumed gap found rest : Line} {value : Datum} (h : Accounts line log after)
    (hline : line = consumed ++ (gap ++ (found ++ rest))) (covers : Covers log consumed)
    (blank : ∀ c ∈ gap, Text.isBlank c = true)
    (start : after.matchStart = line.place (found ++ rest)) :
    Accounts line (log ++ [⟨target, found, value⟩])
      (after.settle target (.hit (line.place rest) value)) where
  line_eq := h.line_eq
  covers := ⟨consumed ++ (gap ++ found), rest, by simp [hline], rfl, covers.concat blank _⟩
  matched_eq := by
    have hsuffix : found ++ rest <:+ line := ⟨consumed ++ gap, by simp [hline]⟩
    rw [after.matched_settle_hit target h.line_eq hsuffix start]
    simp
  value_eq := by
    rw [List.filterMap_append]
    cases target with
    | terminal t => simp [ScanState.settle, Finding.value?]
    | literal text => simpa [ScanState.settle, Finding.value?] using h.value_eq
    | char c => simpa [ScanState.settle, Finding.value?] using h.value_eq
  place_mem := h.place_mem

/-- One attempt: a match goes to the log, and without one the account stays as it is. -/
theorem attempt {b : Bench} (h : Accounts line log b.state) (setting : Setting) (target : Target)
    (keepsTo : ∀ t, target = .terminal t → t.KeepsTo line) :
    match Bench.attempt setting target b with
    | .ok true b' => Accounts line (log ++ (b.state.found? target).toList) b'.state
    | .ok false b' => Accounts line log b'.state
    | .error _ b' => Accounts line log b'.state := by
  obtain ⟨consumed, text, hline, hcursor, covers⟩ := h.covers
  have hs : Stands line text { toBench := b } := ⟨h.line_eq, hcursor, ⟨consumed, hline.symm⟩, rfl⟩
  have hattempted := attempted_dispatch hs keepsTo
  obtain ⟨journal, hattempt⟩ := hattempted.attempt_eq setting hs
  rw [hattempt, ScanState.found?]
  generalize Scan.dispatch target b.state = result at hattempted
  cases hattempted with
  | hit gap found rest split blank taken start keeps =>
    simp only [Match.isHit, h.line_eq, taken, Option.toList_some]
    exact (h.keeps keeps).hit (hline.trans (congrArg _ split)) covers blank start
  | miss nonneg le keeps => exact (h.keeps keeps).noteFailure nonneg le
  | gaveUp keeps => exact h.keeps keeps

/-- Several attempts: a miss gives back what was matched since `saved`. -/
theorem acceptEach {setting : Setting} {saved : ScanState} {log' : List Finding}
    {wanted : List Wanted} {b : Bench}
    (keepsTo : ∀ w ∈ wanted, ∀ t, w.coerce setting.registry = .ok (.terminal t) → t.KeepsTo line)
    (hsaved : Accounts line log' saved) (h : Accounts line log b.state) :
    match Bench.acceptEach setting saved wanted b with
    | .ok false b' => Accounts line log' b'.state
    | r => Accounts line (log ++ Bench.foundEach setting wanted b) (Result.state r).state := by
  induction wanted generalizing log b with
  | nil => simpa [Bench.acceptEach, Bench.foundEach] using h
  | cons w rest ih =>
    simp only [Bench.acceptEach, Bench.accept, Bench.coerce, Bench.foundEach, bind_apply]
    cases hw : w.coerce setting.registry with
    | error f => simpa using h
    | ok target =>
      have hattempt := h.attempt setting target fun t ht =>
        keepsTo w (List.mem_cons_self ..) t (ht ▸ hw)
      simp only [pure_apply]
      generalize Bench.attempt setting target b = result at hattempt ⊢
      obtain ⟨_ | _, b'⟩ | ⟨e, b'⟩ := result
      · exact hattempt.rewind hsaved
      · simp only [if_true]
        rw [← List.append_assoc]
        exact ih (fun w' hw' => keepsTo w' (List.mem_cons_of_mem w hw')) hattempt
      · simpa using hattempt

/-- One target: a match goes to the log. -/
theorem accept {b : Bench} (h : Accounts line log b.state) (setting : Setting) (wanted : Wanted)
    (keepsTo : ∀ t, wanted.coerce setting.registry = .ok (.terminal t) → t.KeepsTo line) :
    match Bench.accept setting wanted b with
    | .ok true b' => Accounts line (log ++ Bench.foundEach setting [wanted] b) b'.state
    | r => Accounts line log (Result.state r).state ∧ Bench.foundEach setting [wanted] b = [] := by
  simp only [Bench.accept, Bench.coerce, Bench.foundEach, bind_apply]
  cases hw : wanted.coerce setting.registry with
  | error f => exact ⟨h, rfl⟩
  | ok target =>
    have hattempt := h.attempt setting target fun t ht =>
      keepsTo t (ht ▸ hw)
    simp only [pure_apply]
    generalize Bench.attempt setting target b = result at hattempt ⊢
    obtain ⟨_ | _, b'⟩ | ⟨e, b'⟩ := result
    · exact ⟨hattempt, rfl⟩
    · simpa using hattempt
    · exact ⟨hattempt, rfl⟩

/-- The work of a call keeps the account. -/
theorem work {setting : Setting} {call : Call} {b : Bench} (h : Accounts line log b.state)
    (keepsTo : ∀ t, call.Seeks setting t → t.KeepsTo line) :
    match call.work setting b with
    | .ok false b' => Accounts line log b'.state
    | r => Accounts line (log ++ Bench.foundEach setting call.wanted b) (Result.state r).state := by
  cases call with
  | acceptAll wanted => exact acceptEach (fun w hw t ht => keepsTo t ⟨w, hw, ht⟩) h h
  | accept wanted =>
    have haccept := h.accept setting wanted fun t ht =>
      keepsTo t ⟨wanted, List.mem_singleton_self _, ht⟩
    simp only [Call.work, Call.wanted]
    generalize Bench.accept setting wanted b = result at haccept ⊢
    obtain ⟨_ | _, b'⟩ | ⟨e, b'⟩ := result
    · exact haccept.1
    · exact haccept
    · simpa [haccept.2] using haccept.1
  | expect wanted what =>
    have haccept := h.accept setting wanted fun t ht =>
      keepsTo t ⟨wanted, List.mem_singleton_self _, ht⟩
    obtain ⟨c, hwork⟩ := Call.work_expect setting wanted what b
    rw [hwork, Call.wanted]
    generalize Bench.accept setting wanted b = result at haccept ⊢
    obtain ⟨_ | _, b'⟩ | ⟨e, b'⟩ := result
    · simpa [haccept.2] using haccept.1
    · exact haccept
    · simpa [haccept.2] using haccept.1

/-- Every call keeps the account. -/
theorem run {setting : Setting} {call : Call} {s : Scanner} (hook : s.hook = none)
    (h : Accounts line log s.state)
    (keepsTo : ∀ t, call.Seeks setting t → t.KeepsTo line) :
    Accounts line (log ++ call.log setting s) (Result.state (call.run setting s)).state := by
  have hwork := h.work keepsTo
  rw [Call.log, call.run_apply hook]
  generalize call.work setting s.toBench = result at hwork ⊢
  obtain ⟨_ | _, b⟩ | ⟨c | f, b⟩ := result
  · simpa [Scanner.conclude] using hwork
  · exact hwork
  · exact hwork.noteMessage (s := { s with toBench := b }) c
  · exact hwork

/-- So does every sequence of calls. -/
theorem runAll {setting : Setting} {calls : List Call} {s : Scanner} (hook : s.hook = none)
    (h : Accounts line log s.state)
    (keepsTo : ∀ call ∈ calls, ∀ t, call.Seeks setting t → t.KeepsTo line) :
    Accounts line (log ++ Call.logAll setting calls s) (Call.runAll setting calls s).state := by
  induction calls generalizing log s with
  | nil => simpa [Call.logAll, Call.runAll] using h
  | cons call rest ih =>
    rw [Call.logAll, ← List.append_assoc]
    exact ih (call.run_hook setting hook) (h.run hook (keepsTo call (List.mem_cons_self ..)))
      fun other hother => keepsTo other (List.mem_cons_of_mem call hother)

end Accounts

/-- **No text is lost or matched twice.** Whatever calls are made on a line, the text before the
cursor is made of the matches in the log, in order, each after a gap of blanks; the scanner
remembers the last match and the last value of the log, and a failure on the line. -/
theorem runAll_startLine (setting : Setting) (s : Scanner) (line : Line) (calls : List Call)
    (keepsTo : ∀ call ∈ calls, ∀ t, call.Seeks setting t → t.KeepsTo line) :
    let log := Call.logAll setting calls (s.startLine line)
    let state := (Call.runAll setting calls (s.startLine line)).state
    Covers log (line.slice 0 state.cursor) ∧
      0 ≤ state.cursor ∧ state.cursor ≤ line.length ∧
      state.matched = (log.getLast?.map Finding.text).getD [] ∧
      state.value = (log.filterMap Finding.value?).getLast?.getD .none ∧
      ∀ n ∈ state.failPosition, 0 ≤ n ∧ n ≤ line.length := by
  intro log state
  have accounts : Accounts line log state :=
    (Accounts.start line).runAll (s := s.startLine line) rfl keepsTo
  obtain ⟨consumed, text, hline, hcursor, covers⟩ := accounts.covers
  have hsuffix : text <:+ line := ⟨consumed, hline.symm⟩
  have hslice : line.slice 0 state.cursor = consumed := by
    have hplace : line.place text = consumed.length := by rw [hline, Line.place_append_left]
    have hwhole : line.place line = 0 := by simp [Line.place]
    have := Line.slice_place (List.suffix_refl line) consumed.length
    rw [hwhole, Int.zero_add] at this
    rw [hcursor, hplace, this, hline, List.take_left]
  refine ⟨hslice ▸ covers, ?_, ?_, accounts.matched_eq, accounts.value_eq, accounts.place_mem⟩
  · rw [hcursor]
    exact Line.place_nonneg hsuffix
  · rw [hcursor]
    exact Line.place_le line text

/-! ## The terminals of the calculator -/

namespace Line

/-- A run of characters ends on the line. -/
theorem add_length_runAt_le {line : Line} {p : Int} (nonneg : 0 ≤ p) (le : p ≤ line.length)
    (cls : Char → Bool) : p + (line.runAt cls p).length ≤ line.length := by
  have hrun := (List.takeWhile_prefix cls (l := line.drop p.toNat)).length_le
  rw [List.length_drop] at hrun
  rw [runAt, if_neg (by omega)]
  omega

end Line

namespace Calculator

/-- A scanning function that writes nothing leaves no notes. -/
theorem onlyNotes_cleared (line : Line) (state : ScanState) (p : Int) :
    (state.cleared p).OnlyNotes line (state.cleared p) :=
  ⟨rfl, by simp [ScanState.cleared]⟩

/-- The digit that makes a number exceed the bound is one of its digits. -/
theorem boundedValue_error {cutoff limit : Int} {digits : Line} {value pos place : Int}
    (h : boundedValue cutoff limit digits value pos = .error place) :
    pos ≤ place ∧ place ≤ pos + digits.length := by
  induction digits generalizing value pos with
  | nil => cases h
  | cons c rest ih =>
    simp only [boundedValue] at h
    simp only [List.length_cons]
    split at h
    · obtain rfl := Except.error.inj h
      omega
    · have := ih h
      omega

/-- Names keep to every line. -/
theorem identTerminal_keepsTo (line : Line) : identTerminal.KeepsTo line := by
  intro state p hline nonneg le _
  have notes := onlyNotes_cleared line state p
  simp only [identTerminal, scanIdent, bind_apply, get_apply, ScanState.cleared_line, hline]
  by_cases hstart : Text.isIdentStart (line.peek p) = true
  · simp only [if_pos hstart]
    exact ⟨by omega, Line.add_length_runAt_le nonneg le _, notes⟩
  · simp only [if_neg hstart]
    exact ⟨by simp [nonneg, le], notes⟩

/-- Integers keep to every line, whatever their bound. -/
theorem intTerminal_keepsTo (maxInt : Int) (line : Line) : (intTerminal maxInt).KeepsTo line := by
  intro state p hline nonneg le _
  have notes := onlyNotes_cleared line state p
  have hstop := Line.add_length_runAt_le nonneg le Text.isDigit
  simp only [intTerminal, scanInt, bind_apply, get_apply, ScanState.cleared_line, hline]
  cases hdigits : line.runAt Text.isDigit p with
  | nil => exact ⟨by simp [nonneg, le], notes⟩
  | cons c rest =>
    rw [hdigits] at hstop
    cases hvalue : boundedValue (maxInt.fdiv 10) (maxInt.fmod 10) (c :: rest) 0 p with
    | ok value =>
      simp only [hvalue]
      exact ⟨by omega, hstop, notes⟩
    | error place =>
      simp only [hvalue]
      have hplace := boundedValue_error hvalue
      refine ⟨rfl, ?_⟩
      intro n hn
      obtain rfl := Option.some.inj hn
      omega

/-- The end of the line keeps to every line. -/
theorem endTerminal_keepsTo (line : Line) : endTerminal.KeepsTo line := by
  intro state p hline nonneg le _
  have notes := onlyNotes_cleared line state p
  simp only [endTerminal, scanEnd, bind_apply, get_apply, ScanState.cleared_line, hline]
  by_cases hend : p ≥ line.length
  · simp only [if_pos hend]
    exact ⟨by omega, le, notes⟩
  · simp only [if_neg hend]
    exact ⟨by simp [nonneg, le], notes⟩

/-- The terminals of the calculator keep to every line. -/
theorem keepsTo_of_mem_registry {maxInt : Int} {t : Terminal}
    (h : t ∈ (registry maxInt).terminals) (line : Line) : t.KeepsTo line := by
  simp only [registry, List.mem_cons, List.not_mem_nil, or_false] at h
  obtain rfl | rfl | rfl := h
  · exact identTerminal_keepsTo line
  · exact intTerminal_keepsTo maxInt line
  · exact endTerminal_keepsTo line

/-- A parenthesis and a number are found and given back, and then they are found again. -/
def sampleCalls : List Call :=
  [ .accept (.target (.terminal identTerminal)),
    .acceptAll [.target (.char '('), .bare (.int 1), .target (.char ')')],
    .accept (.target (.literal ['('])),
    .expect (.bare (.int 1)) none,
    .accept (.target (.char ')')) ]

/-- All terminals of the sample calls keep to every line. -/
theorem sampleCalls_keepsTo (k : Calculator) (line : Line) :
    ∀ call ∈ sampleCalls, ∀ t, call.Seeks k.setting t → t.KeepsTo line := by
  -- the terminals that are looked for are the one for identifiers and the one with number one
  have hint : (registry k.maxInt).lookup 1 = .ok (intTerminal k.maxInt) := rfl
  have hident : identTerminal ∈ (registry k.maxInt).terminals := .head _
  have hnumber : intTerminal k.maxInt ∈ (registry k.maxInt).terminals := .tail _ (.head _)
  have hmem : ∀ call ∈ sampleCalls, ∀ wanted ∈ call.wanted, ∀ t,
      wanted.coerce k.setting.registry = .ok (.terminal t) → t ∈ (registry k.maxInt).terminals := by
    simp [sampleCalls, Call.wanted, Wanted.coerce, setting, hint, hident, hnumber]
  rintro call hcall t ⟨wanted, hwanted, hcoerce⟩
  exact keepsTo_of_mem_registry (hmem call hcall wanted hwanted t hcoerce) line

/-- Five calls leave three matches in the log. -/
theorem runAll_startLine_sampleCalls :
    let line := ['a', 'b', ' ', '(', '7', ' ', ';']
    let s := ({} : Scanner).startLine line
    let k : Calculator := {}
    let state := (Call.runAll k.setting sampleCalls s).state
    (Call.logAll k.setting sampleCalls s).map Finding.text = [['a', 'b'], ['('], ['7']] ∧
      Covers (Call.logAll k.setting sampleCalls s) ['a', 'b', ' ', '(', '7'] ∧
      state.matched = ['7'] ∧ state.value = .int 7 ∧ state.failPosition = some 6 := by
  have := runAll_startLine (setting {}) {} ['a', 'b', ' ', '(', '7', ' ', ';'] sampleCalls
    (sampleCalls_keepsTo {} _)
  refine ⟨?_, this.1, ?_, ?_, ?_⟩
  · rfl
  · rfl
  · rfl
  · rfl

end Calculator

end LineScan
