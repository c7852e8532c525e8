import LineScan.Calculator.Basic
import LineScan.Proofs.Lockstep
import LineScan.Proofs.Calls
import LineScan.Session.Script

/-!
# A failed call is invisible

A call that answers that it did not find what it was looking for changes the scan state: it leaves
behind where it looked, where it failed and what a terminal had to say about that. None of this can
be seen in what comes later, since the next attempt writes it anew before anything reads it.

The proof compares two runs, one with the failed call and one without. Their states are *alike*:
they differ only in what an attempt writes before it is read. Every matcher takes alike states to
alike states and reports the same in both, and so does every call.

## Main statements

* `lockstep_dispatch`: alike states lead a matcher to the same report and to alike states.
* `Call.lockstep_run`: so they do a call.
* `trace_of_failed_call`: a failed call cannot be seen in what comes after it.
-/

namespace LineScan

/-! ## Terminals that look at the line only -/

namespace Session.Assignment

/-- The assignment is to a field that is written anew by each attempt. -/
def IsPassing : Assignment → Prop
  | .matchStart _ | .failPosition _ | .matchLength _ | .errorMessage _ | .pendingDetail _ => True
  | .line _ | .cursor _ | .lastStart _ | .lastLength _ | .value _ => False

end Session.Assignment

/-- A terminal looks at the line only: what its function reports and what it writes depend on the
line and the position alone, and it writes nothing that lasts longer than an attempt. -/
def Terminal.Local (t : Terminal) : Prop :=
  ∃ (report : Line → Int → Except Abort Reading) (writes : Line → Int → List Session.Assignment),
    (∀ line p, ∀ a ∈ writes line p, a.IsPassing) ∧
    ∀ p (s : ScanState), t.scan p s =
      match report s.line p with
      | .ok reading => .ok reading ((writes s.line p).foldl Session.Assignment.apply s)
      | .error e => .error e ((writes s.line p).foldl Session.Assignment.apply s)

namespace ScanState

/-- Two states that are both alike to a third one. -/
structure Twins (base s t : ScanState) : Prop where
  left : s.Alike base
  right : t.Alike base

/-- Two states know the same of the attempt in progress and of the last failure. -/
structure SameNotes (s t : ScanState) : Prop where
  matchStart_eq : s.matchStart = t.matchStart
  failPosition_eq : s.failPosition = t.failPosition

variable {base s t : ScanState}

/-- A state is like itself. -/
theorem Alike.refl (s : ScanState) : s.Alike s := ⟨rfl, rfl, rfl, rfl, rfl⟩

/-- Nothing that can be asked for tells alike states apart. -/
theorem Alike.view (h : s.Alike t) : s.view = t.view := by
  simp only [ScanState.view, ScanState.matched, ScanState.rest, h.line_eq, h.cursor_eq, h.value_eq,
    h.lastStart_eq, h.lastLength_eq]

/-- What is known of an attempt and of a failure makes no difference. -/
theorem Alike.notes {start length : Int} {place : Option Int} {message detail : Option String}
    (h : s.Alike base) :
    Alike { s with
      matchStart := start, failPosition := place, matchLength := length, errorMessage := message,
      pendingDetail := detail } base :=
  ⟨h.line_eq, h.cursor_eq, h.value_eq, h.lastStart_eq, h.lastLength_eq⟩

/-- Writing a field that every attempt writes anew keeps states alike. -/
theorem Alike.apply {a : Session.Assignment} (ha : a.IsPassing) (h : s.Alike base) :
    (a.apply s).Alike base := by
  cases a <;> first | exact ha.elim | exact h.notes

/-- The same assignment keeps the notes the same. -/
theorem SameNotes.apply (a : Session.Assignment) (h : s.SameNotes t) :
    (a.apply s).SameNotes (a.apply t) := by
  cases a <;> first | exact ⟨h.1, h.2⟩ | exact ⟨rfl, h.2⟩ | exact ⟨h.1, rfl⟩

/-- Writing several such fields keeps states alike. -/
theorem Alike.foldl {writes : List Session.Assignment} (hw : ∀ a ∈ writes, a.IsPassing)
    (h : s.Alike base) : (writes.foldl Session.Assignment.apply s).Alike base := by
  induction writes generalizing s with
  | nil => exact h
  | cons a rest ih =>
    exact ih (fun b hb => hw b (List.mem_cons_of_mem a hb)) (h.apply (hw a (List.mem_cons_self ..)))

/-- The same assignments keep the notes the same. -/
theorem SameNotes.foldl (writes : List Session.Assignment) (h : s.SameNotes t) :
    (writes.foldl Session.Assignment.apply s).SameNotes
      (writes.foldl Session.Assignment.apply t) := by
  induction writes generalizing s t with
  | nil => exact h
  | cons a rest ih => exact ih (h.apply a)

namespace Twins

/-- Twins are on the same line. -/
theorem line_eq (h : Twins base s t) : s.line = t.line := h.left.line_eq.trans h.right.line_eq.symm

/-- Twins have the same cursor. -/
theorem cursor_eq (h : Twins base s t) : s.cursor = t.cursor :=
  h.left.cursor_eq.trans h.right.cursor_eq.symm

/-- Twins are alike to each other as well. -/
theorem alike (h : Twins base s t) : s.Alike t where
  line_eq := h.line_eq
  cursor_eq := h.cursor_eq
  value_eq := h.left.value_eq.trans h.right.value_eq.symm
  lastStart_eq := h.left.lastStart_eq.trans h.right.lastStart_eq.symm
  lastLength_eq := h.left.lastLength_eq.trans h.right.lastLength_eq.symm

end Twins

/-- A match that starts at one place makes alike states alike again. -/
theorem Alike.settle_hit {target : Target} {stop : Int} {value : Datum} (h : s.Alike t)
    (hstart : s.matchStart = t.matchStart) :
    (s.settle target (.hit stop value)).Alike (t.settle target (.hit stop value)) where
  line_eq := h.line_eq
  cursor_eq := rfl
  value_eq := by
    cases target with
    | terminal t => rfl
    | literal text => exact h.value_eq
    | char c => exact h.value_eq
  lastStart_eq := hstart
  lastLength_eq := congrArg (stop - ·) hstart

end ScanState

/-! ## Matchers -/

section

open ScanState

/-- How two runs of a matcher may end: the states are alike, and the match starts at one place. -/
def Looked (base : ScanState) (_ : Match) (s t : ScanState) : Prop :=
  Twins base s t ∧ s.matchStart = t.matchStart

/-- How two runs may give up: the states are alike, and a complaint is about one place. -/
def GaveUp (base : ScanState) (e : Abort) (s t : ScanState) : Prop :=
  Twins base s t ∧ ∀ c, e = .complaint c → s.failPosition = t.failPosition

variable {base : ScanState}

/-- Blanks are skipped up to the same place. -/
theorem lockstep_skipBlanks (pos : Int) :
    Lockstep (Twins base) (Scan.skipBlanks pos) (Scan.skipBlanks pos) (fun _ => Twins base)
      (GaveUp base) := by
  refine .get_bind fun s t h => ?_
  rw [h.line_eq]
  cases t.line.skipBlanks pos with
  | ok p => exact .pure fun _ _ => id
  | error cause => exact .throw fun _ _ h => ⟨h, nofun⟩

/-- Saying where the text begins keeps twins alike. -/
theorem lockstep_mark (pos : Int) {E : Abort → ScanState → ScanState → Prop} :
    Lockstep (Twins base) (modify fun s => { s with matchStart := pos })
      (modify fun s => { s with matchStart := pos })
      (fun _ s t => Twins base s t ∧ s.matchStart = t.matchStart) E :=
  .modify fun _ _ h => ⟨⟨h.left.notes, h.right.notes⟩, rfl⟩

/-- The matcher of a character reports the same on twins. -/
theorem lockstep_char (c : Char) (pos : Int) :
    Lockstep (Twins base) (Scan.char c pos) (Scan.char c pos) (Looked base) (GaveUp base) := by
  refine .get_bind fun s t h => ?_
  rw [h.line_eq]
  refine .ite (fun _ => .bind (lockstep_mark pos) fun _ => .pure fun _ _ => id) fun _ => ?_
  refine .bind (lockstep_skipBlanks pos) fun p => .bind (lockstep_mark p) fun _ => ?_
  exact .ite (fun _ => .pure fun _ _ => id) fun _ => .pure fun _ _ => id

/-- The matcher of a literal reports the same on twins. -/
theorem lockstep_literal (wanted : Line) (pos : Int) :
    Lockstep (Twins base) (Scan.literal wanted pos) (Scan.literal wanted pos) (Looked base)
      (GaveUp base) := by
  refine .get_bind fun s t h => ?_
  rw [h.line_eq]
  refine .bind (lockstep_mark pos) fun _ => ?_
  cases wanted with
  | nil => exact .pure fun _ _ => id
  | cons first others =>
    refine .ite (fun _ => .pure fun _ _ => id) fun _ => ?_
    dsimp only
    refine .ite (fun _ => .bind (Q := fun _ => Twins base) (.pure fun _ _ h => h.1) fun p => ?_)
      fun _ => .bind ((lockstep_skipBlanks pos).imp (fun _ _ h => h.1) (fun _ _ _ => id)
        fun _ _ _ => id) fun p => ?_
    all_goals
      refine .bind (lockstep_mark p) fun _ => .ite (fun _ => .pure fun _ _ => id) fun _ => ?_
      exact .ite (fun _ => .pure fun _ _ => id) fun _ => .pure fun _ _ => id

/-- The function of a terminal that looks at the line only. -/
theorem lockstep_scan {t : Terminal} (hlocal : t.Local) (p : Int) :
    Lockstep (fun s s' => Twins base s s' ∧ s.SameNotes s') (t.scan p) (t.scan p)
      (fun _ s s' => Twins base s s' ∧ s.SameNotes s')
      (fun _ s s' => Twins base s s' ∧ s.SameNotes s') := by
  obtain ⟨report, writes, hwrites, hscan⟩ := hlocal
  rintro s s' ⟨twins, same⟩
  have hafter : ∀ line, Twins base ((writes line p).foldl Session.Assignment.apply s)
      ((writes line p).foldl Session.Assignment.apply s') ∧
      ((writes line p).foldl Session.Assignment.apply s).SameNotes
        ((writes line p).foldl Session.Assignment.apply s') := fun line =>
    ⟨⟨twins.left.foldl (hwrites line p), twins.right.foldl (hwrites line p)⟩,
      same.foldl (writes line p)⟩
  rw [hscan, hscan, twins.line_eq]
  cases report s'.line p with
  | ok reading => exact .ok (hafter _)
  | error e => exact .error (hafter _)

/-- The matcher of a terminal that looks at the line only reports the same on twins. -/
theorem lockstep_terminal {t : Terminal} (hlocal : t.Local) (pos : Int) :
    Lockstep (Twins base) (Scan.terminal t pos) (Scan.terminal t pos) (Looked base)
      (GaveUp base) := by
  refine .bind (lockstep_skipBlanks pos) fun p => ?_
  -- the function starts with the last failure forgotten, so it knows the same in both runs
  refine .bind (Q := fun _ s s' => Twins base s s' ∧ s.SameNotes s') (.modify ?_) fun _ => ?_
  · exact fun s s' h => ⟨⟨h.left.notes, h.right.notes⟩, rfl, rfl⟩
  · refine .bind ((lockstep_scan hlocal p).imp (fun _ _ => id) (fun _ _ _ => id)
      fun _ _ _ h => ⟨h.1, fun _ _ => h.2.failPosition_eq⟩) fun reading => ?_
    cases reading with
    | hit stop value => exact .pure fun _ _ h => ⟨h.1, h.2.matchStart_eq⟩
    | miss place => exact .pure fun _ _ h => ⟨h.1, h.2.matchStart_eq⟩

/-- Alike states lead a matcher to the same report, and to alike states. -/
theorem lockstep_dispatch {target : Target} (hlocal : ∀ t, target = .terminal t → t.Local) :
    Lockstep (Twins base) (Scan.dispatch target) (Scan.dispatch target) (Looked base)
      (GaveUp base) := by
  refine .get_bind fun s t h => ?_
  rw [h.cursor_eq]
  cases target with
  | literal wanted => exact lockstep_literal wanted _
  | char c => exact lockstep_char c _
  | terminal t => exact lockstep_terminal (hlocal t rfl) _

/-! ## Attempts and calls -/

/-- How two attempts may end: on alike states, which are still those of before if nothing was
found, with one place of the failure. -/
def Settled (base : ScanState) (found : Bool) (b b' : Bench) : Prop :=
  b.state.Alike b'.state ∧ b.state.line = base.line ∧
    (found = false → Twins base b.state b'.state ∧ b.state.failPosition = b'.state.failPosition)

/-- How two runs may be stopped: on alike states, and a complaint is about one column. -/
def Stopped (e : Abort) (b b' : Bench) : Prop :=
  b.state.Alike b'.state ∧ ∀ c, e = .complaint c → b.state.failPosition = b'.state.failPosition

variable {setting : Setting}

/-- An attempt at a target answers the same on twins, and gives back the same if it misses. -/
theorem lockstep_attempt {target : Target} (hlocal : ∀ t, target = .terminal t → t.Local) :
    Lockstep (fun b b' => Twins base b.state b'.state) (Bench.attempt setting target)
      (Bench.attempt setting target) (Settled base) Stopped := by
  intro b b' h
  have hdispatch := lockstep_dispatch hlocal b.state b'.state h
  rw [Bench.attempt_eq, Bench.attempt_eq, h.alike.line_eq, h.alike.cursor_eq]
  -- what is written of the one attempt is written of the other
  by_cases hcursor : setting.Writes b'.state.line b'.state.cursor
  case neg =>
    rw [if_neg hcursor, if_neg hcursor]
    exact .error ⟨h.alike, nofun⟩
  rw [if_pos hcursor, if_pos hcursor]
  generalize Scan.dispatch target b.state = r, Scan.dispatch target b'.state = r' at hdispatch
  cases hdispatch with
  | error post => exact .error ⟨post.1.alike, post.2⟩
  | @ok m s t post =>
    obtain ⟨twins, hstart⟩ := post
    dsimp only
    rw [twins.alike.line_eq]
    by_cases hplace : setting.Writes t.line m.place
    case neg =>
      rw [if_neg hplace, if_neg hplace]
      exact .error ⟨twins.alike, nofun⟩
    rw [if_pos hplace, if_pos hplace]
    cases m with
    | miss place =>
      have hsettled : Twins base (s.settle target (.miss place)) (t.settle target (.miss place)) :=
        ⟨twins.left.notes, twins.right.notes⟩
      exact .ok ⟨hsettled.alike, hsettled.left.line_eq, fun _ => ⟨hsettled, rfl⟩⟩
    | hit stop value =>
      refine .ok ⟨twins.alike.settle_hit hstart, twins.left.line_eq, nofun⟩

/-- What is wanted means the same target, whatever the states. -/
theorem lockstep_coerce (wanted : Wanted) (P : Bench → Bench → Prop)
    (hP : ∀ b b', P b b' → b.state.Alike b'.state) :
    Lockstep P (Bench.coerce setting wanted) (Bench.coerce setting wanted)
      (fun target b b' => wanted.coerce setting.registry = .ok target ∧ P b b') Stopped := by
  unfold Bench.coerce
  cases wanted.coerce setting.registry with
  | ok target => exact .pure fun _ _ h => ⟨rfl, h⟩
  | error f => exact .throw fun b b' h => ⟨hP b b' h, nofun⟩

/-- An attempt at what is wanted answers the same on twins. -/
theorem lockstep_accept (base : ScanState) (setting : Setting) (wanted : Wanted)
    (hlocal : ∀ t, wanted.coerce setting.registry = .ok (.terminal t) → t.Local) :
    Lockstep (fun b b' => Twins base b.state b'.state) (Bench.accept setting wanted)
      (Bench.accept setting wanted) (Settled base) Stopped := by
  refine .bind (lockstep_coerce wanted _ fun _ _ h => h.alike) fun target b b' h => ?_
  exact lockstep_attempt (fun t ht => hlocal t (ht ▸ h.1)) b b' h.2

/-- Several attempts: a miss puts both states back to what they were. -/
theorem lockstep_acceptEach (setting : Setting) {saved saved' : ScanState}
    (hsaved : Twins base saved saved') {wanted : List Wanted}
    (hlocal : ∀ w ∈ wanted, ∀ t, w.coerce setting.registry = .ok (.terminal t) → t.Local) :
    Lockstep (fun b b' => b.state.Alike b'.state ∧ b.state.line = base.line)
      (Bench.acceptEach setting saved wanted) (Bench.acceptEach setting saved' wanted)
      (fun found b b' => b.state.Alike b'.state ∧
        (found = false → Twins base b.state b'.state)) Stopped := by
  induction wanted with
  | nil => exact .pure fun b b' h => ⟨h.1, nofun⟩
  | cons w rest ih =>
    have hfirst : Lockstep (fun b b' => b.state.Alike b'.state ∧ b.state.line = base.line)
        (Bench.accept setting w) (Bench.accept setting w)
        (fun _ b b' => b.state.Alike b'.state ∧ b.state.line = base.line) Stopped := by
      rintro b b' ⟨alike, hline⟩
      have haccept := lockstep_accept b'.state setting w (hlocal w (List.mem_cons_self ..)) b b'
        ⟨alike, .refl _⟩
      refine haccept.imp (fun found c c' h => ?_) fun _ _ _ => id
      exact ⟨h.1, h.2.1.trans (alike.line_eq.symm.trans hline)⟩
    refine .bind hfirst fun found => .ite (fun _ => ?_) fun _ => ?_
    · exact ih fun w' hw' => hlocal w' (List.mem_cons_of_mem w hw')
    · refine .bind (Q := fun _ b b' => Twins base b.state b'.state) (.modify ?_) fun _ =>
        .pure fun b b' h => ⟨h.alike, fun _ => h⟩
      rintro b b' ⟨alike, hline⟩
      exact ⟨⟨hline, hsaved.left.2, hsaved.left.3, hsaved.left.4, hsaved.left.5⟩,
        ⟨alike.line_eq.symm.trans hline, hsaved.right.2, hsaved.right.3, hsaved.right.4,
          hsaved.right.5⟩⟩

/-- The work of a call on alike states has the same answer and leaves alike states; and a failure
leaves the states as they were. -/
theorem Call.lockstep_work {call : Call} (hlocal : ∀ t, call.Seeks setting t → t.Local) :
    Lockstep (fun b b' => Twins base b.state b'.state) (call.work setting) (call.work setting)
      (fun found b b' => b.state.Alike b'.state ∧
        (found = false → Twins base b.state b'.state)) Stopped := by
  cases call with
  | accept wanted =>
    have haccept := lockstep_accept base setting wanted fun t ht =>
      hlocal t ⟨wanted, List.mem_singleton_self _, ht⟩
    exact haccept.imp (fun _ _ => id) (fun _ _ _ h => ⟨h.1, fun hf => (h.2.2 hf).1⟩) fun _ _ _ => id
  | acceptAll wanted =>
    refine .get_bind fun b b' h => ?_
    have heach := lockstep_acceptEach setting h fun w hw t ht => hlocal t ⟨w, hw, ht⟩
    exact heach.imp (fun c c' h => ⟨h.alike, h.left.line_eq⟩) (fun _ _ _ => id) fun _ _ _ => id
  | expect wanted what =>
    refine .bind (lockstep_coerce wanted _ fun _ _ h => h.alike) fun target => ?_
    refine .bind (Q := Settled base) (fun b b' h => ?_) fun found =>
      .ite (fun hfound => ?_) fun hfound => ?_
    · exact lockstep_attempt (fun t ht => hlocal t ⟨wanted, List.mem_singleton_self _, ht ▸ h.1⟩)
        b b' h.2
    · exact .pure fun b b' h => ⟨h.1, nofun⟩
    · refine .get_bind fun b b' h => ?_
      -- the error is written from the place and the line, which the two share after a failure
      obtain ⟨twins, hplace⟩ := h.2.2 (by simpa using hfound)
      have hcolumn : b.state.errorColumn = b'.state.errorColumn := by
        rw [ScanState.errorColumn, ScanState.errorColumn, hplace, h.1.cursor_eq]
      have hrefuse : refuse target what b.state = refuse target what b'.state := by
        rw [refuse, refuse, hcolumn, h.1.line_eq]
      rw [hrefuse]
      exact .throw fun c c' h => ⟨h.1, fun _ _ => (h.2.2 (by simpa using hfound)).2⟩

end

/-- Two scanners of one number without hooks, on alike states. -/
structure Scanner.Alike (s t : Scanner) : Prop where
  state : s.state.Alike t.state
  id_eq : s.id = t.id
  hook_left : s.hook = none
  hook_right : t.hook = none

namespace Call

variable {setting : Setting} {s t : Scanner}

/-- A call on alike scanners has the same answer and leaves alike scanners; and a failure leaves the
states as they were. -/
theorem lockstep_run {call : Call} (base : ScanState)
    (hlocal : ∀ t, call.Seeks setting t → t.Local) (h : s.Alike t)
    (twins : base.Twins s.state t.state) :
    InStep (fun found s t => s.Alike t ∧ (found = false → base.Twins s.state t.state))
      (fun _ s t => s.Alike t) (call.run setting s) (call.run setting t) := by
  have hwork := lockstep_work hlocal s.toBench t.toBench twins
  rw [call.run_apply h.hook_left, call.run_apply h.hook_right]
  generalize call.work setting s.toBench = r, call.work setting t.toBench = r' at hwork
  cases hwork with
  | ok post => exact .ok ⟨⟨post.1, h.id_eq, h.hook_left, h.hook_right⟩, post.2⟩
  | @error e b b' post =>
    cases e with
    | fault f => exact .error ⟨post.1, h.id_eq, h.hook_left, h.hook_right⟩
    | complaint c =>
      have hcolumn : b.state.errorColumn = b'.state.errorColumn := by
        rw [ScanState.errorColumn, ScanState.errorColumn, post.2 c rfl, post.1.cursor_eq]
      have herror : ({ s with toBench := b } : Scanner).errorOf c =
          ({ t with toBench := b' } : Scanner).errorOf c := by
        simp only [Scanner.errorOf, hcolumn, post.1.line_eq, h.id_eq]
      simp only [Scanner.conclude, herror]
      exact .error ⟨⟨post.1.1, post.1.2, post.1.3, post.1.4, post.1.5⟩, h.id_eq, h.hook_left,
        h.hook_right⟩

/-- Alike scanners look the same through any sequence of calls. -/
theorem trace_eq_of_alike {calls : List Call}
    (hlocal : ∀ call ∈ calls, ∀ t, call.Seeks setting t → t.Local) (h : s.Alike t) :
    trace setting calls s = trace setting calls t := by
  induction calls generalizing s t with
  | nil => rfl
  | cons call rest ih =>
    have hrest := fun other hother => hlocal other (List.mem_cons_of_mem call hother)
    have hrun := lockstep_run t.state (hlocal call (List.mem_cons_self ..)) h
      ⟨h.state, .refl _⟩
    rw [trace, trace]
    generalize call.run setting s = r, call.run setting t = r' at hrun
    cases hrun with
    | ok post => simp only [Result.answer, Result.state, post.1.state.view, ih hrest post.1]
    | error post => simp only [Result.answer, Result.state, post.state.view, ih hrest post]

end Call

/-- **A failed call is invisible.** After a call that did not find what it was looking for, all is
as if it had not been made: what can be seen now, and what any later calls give and let be seen. -/
theorem trace_of_failed_call {setting : Setting} {call : Call} {later : List Call} {s s' : Scanner}
    (hook : s.hook = none)
    (hlocal : ∀ c ∈ call :: later, ∀ t, c.Seeks setting t → t.Local)
    (failed : call.run setting s = .ok false s') :
    s'.state.view = s.state.view ∧
      Call.trace setting later s' = Call.trace setting later s := by
  have hrun := Call.lockstep_run s.state (hlocal call (List.mem_cons_self ..))
    (s := s) (t := s) ⟨.refl _, rfl, hook, hook⟩ ⟨.refl _, .refl _⟩
  rw [failed] at hrun
  cases hrun with
  | ok post =>
    have hid : s'.id = s.id := by simpa [failed] using call.run_id setting hook
    have alike : s'.Alike s := ⟨(post.2 rfl).left, hid, post.1.hook_left, hook⟩
    exact ⟨alike.state.view,
      Call.trace_eq_of_alike (fun c hc => hlocal c (List.mem_cons_of_mem call hc)) alike⟩

/-! ## The terminals of the calculator -/

namespace Calculator

/-- Names are told by the line only. -/
theorem identTerminal_local : identTerminal.Local := by
  let report (line : Line) (p : Int) : Reading :=
    if Text.isIdentStart (line.peek p) then
      .hit (p + (line.runAt Text.isIdentChar p).length)
        (.text (String.ofList (line.runAt Text.isIdentChar p)))
    else .miss (some p)
  refine ⟨fun line p => .ok (report line p), fun _ _ => [], by simp, fun p s => ?_⟩
  simp only [identTerminal, scanIdent, bind_apply, get_apply, cond_apply, pure_apply, report,
    List.foldl_nil]
  split <;> rfl

/-- What the scanning of an integer reports, and where it says that the bound is exceeded. -/
def readInt (maxInt : Int) (line : Line) (p : Int) :
    Except Abort Reading × List Session.Assignment :=
  match line.runAt Text.isDigit p with
  | [] => (.ok (.miss (some p)), [])
  | digits =>
    match boundedValue (maxInt.fdiv 10) (maxInt.fmod 10) digits 0 p with
    | .ok value => (.ok (.hit (p + digits.length) (.int value)), [])
    | .error place => (.error (.complaint .overflow), [.failPosition (some place)])

/-- Integers are told by the line only. -/
theorem intTerminal_local (maxInt : Int) : (intTerminal maxInt).Local := by
  refine ⟨fun line p => (readInt maxInt line p).1, fun line p => (readInt maxInt line p).2, ?_, ?_⟩
  · intro line p a ha
    simp only [readInt] at ha
    split at ha
    · cases ha
    · split at ha
      · cases ha
      · obtain rfl := List.mem_singleton.mp ha
        trivial
  · intro p s
    simp only [intTerminal, scanInt, bind_apply, get_apply]
    cases hdigits : s.line.runAt Text.isDigit p with
    | nil =>
      simp only [readInt, hdigits]
      rfl
    | cons c rest =>
      cases hvalue : boundedValue (maxInt.fdiv 10) (maxInt.fmod 10) (c :: rest) 0 p with
      | ok value =>
        simp only [readInt, hdigits, hvalue]
        rfl
      | error place =>
        simp only [readInt, hdigits, hvalue]
        rfl

/-- A number is found and given back, since no parenthesis follows. The place of the failure is all
that is left of it, and an expectation that is not met does not show it. -/
theorem trace_of_failed_pair :
    let call : Call := .acceptAll [.bare (.int 1), .target (.char ')')]
    let later : List Call :=
      [.expect (.target (.terminal identTerminal)) none, .accept (.target (.char '7'))]
    let s := ({} : Scanner).startLine ['7', ' ', '8']
    let s' := Result.state (call.run (setting {}) s)
    call.run (setting {}) s = .ok false s' ∧
      s.state.failPosition = none ∧ s'.state.failPosition = some 2 ∧
      s'.state.view = s.state.view ∧
      Call.trace (setting {}) later s' = Call.trace (setting {}) later s := by
  intro call later s s'
  have hlocal : ∀ c ∈ call :: later, ∀ t, c.Seeks (setting {}) t → t.Local := by
    have hint : (setting {}).registry.lookup 1 = .ok (intTerminal defaultMaxInt) := rfl
    simp [call, later, Call.Seeks, Call.wanted, Wanted.coerce, hint, identTerminal_local,
      intTerminal_local]
  have failed : call.run (setting {}) s = .ok false s' := rfl
  exact ⟨failed, rfl, rfl, trace_of_failed_call rfl hlocal failed⟩

end Calculator

end LineScan
