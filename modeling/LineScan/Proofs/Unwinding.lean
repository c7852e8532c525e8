import LineScan.Proofs.Ownership
import LineScan.Session.Machine

/-!
# Errors reach the handle of their scanner

While a routine runs it is nested in rules and handles, which are the frames of a machine that does
what the routine does. An error that is raised leaves these frames from the innermost one on. A
frame catches it if it is a line of a handle on the scanner that the error names; the handle then
has the error reported and goes on with its next line. No other frame does anything at all.

## Main statements

* `faithful`: the machine does what a run does.
* `steps_passing`: an error leaves the frames that do not catch it, and nothing else happens.
* `reported`: what a handle does that catches an error.
* `placed_steps`: every handle catches the errors of the scanner at its index.
* `error_reaches_own_handle`: every error reaches the handle of its scanner and no other.
-/

namespace LineScan.Routine

open Session (Answer)

variable {setting : Setting}

/-! ## The machine does what a run does -/

/-- No steps lead nowhere. -/
@[simp]
theorem steps_zero (c : Config) : steps setting 0 c = c := rfl

/-- One step, and then the others. -/
theorem steps_succ (n : Nat) (c : Config) :
    steps setting (n + 1) c = steps setting n (step setting c) := rfl

/-- Some steps, and then some more. -/
theorem steps_add (m n : Nat) (c : Config) :
    steps setting (m + n) c = steps setting n (steps setting m c) := by
  induction m generalizing c with
  | zero => rw [Nat.zero_add, steps_zero]
  | succ m ih => rw [Nat.succ_add, steps_succ, steps_succ, ih]

/-- Where a step changes nothing, no number of steps does. -/
theorem steps_fixed {c : Config} (h : step setting c = c) (n : Nat) : steps setting n c = c := by
  induction n with
  | zero => rfl
  | succ n ih => rw [steps_succ, h, ih]

/-- The frame is a line of a handle, and the error is one of the scanner of the handle. -/
def Frame.Catches (e : ScanError) : Frame → Prop
  | .handling h _ _ => e.origin = some h.owner
  | .parsing .. | .consuming .. | .reporting .. => False

section

variable {e : ScanError} {stack : List Frame} {session : Session}

/-- A handle reports an error of its own scanner. -/
theorem step_own {h : Handling} {line : Line} {rest : List Line} (own : e.origin = some h.owner) :
    step setting ⟨.raising (.scan e), .handling h line rest :: stack, session⟩ =
      ⟨.running (h.report e), .reporting (h.note e) rest :: stack, session⟩ :=
  if_pos own

/-- An error leaves every other frame, and nothing else happens. -/
theorem step_passing {frame : Frame} (foreign : ¬frame.Catches e) :
    step setting ⟨.raising (.scan e), frame :: stack, session⟩ =
      ⟨.raising (.scan e), stack, session⟩ := by
  cases frame with
  | handling h line rest => exact if_neg foreign
  | parsing | consuming | reporting => rfl

end

/-- The machine comes from one configuration to another, and until then the frames of `base` stay
where they are. -/
def Leads (setting : Setting) (base : List Frame) (c c' : Config) : Prop :=
  ∃ n, steps setting n c = c' ∧ ∀ m < n, base <:+ (steps setting m c).stack

namespace Leads

variable {base base' : List Frame} {c c' c'' : Config}

/-- Every configuration leads to itself. -/
theorem refl (base : List Frame) (c : Config) : Leads setting base c c :=
  ⟨0, rfl, fun _ h => absurd h (Nat.not_lt_zero _)⟩

/-- A step that leaves the frames of the base may come first. -/
theorem head (below : base <:+ c.stack) (first : step setting c = c')
    (next : Leads setting base c' c'') : Leads setting base c c'' := by
  subst first
  obtain ⟨n, hn, hbelow⟩ := next
  refine ⟨n + 1, hn, fun m hm => ?_⟩
  cases m with
  | zero => exact below
  | succ m => exact hbelow m (Nat.lt_of_succ_lt_succ hm)

/-- Ways that leave the frames of the base follow one another. -/
theorem trans (first : Leads setting base c c') (next : Leads setting base c' c'') :
    Leads setting base c c'' := by
  obtain ⟨n, hn, hbelow⟩ := first
  induction n generalizing c with
  | zero =>
    cases hn
    exact next
  | succ n ih =>
    exact head (hbelow 0 (Nat.succ_pos n)) rfl (ih hn fun m hm => hbelow (m + 1) (by omega))

/-- What leaves some frames where they are leaves those below where they are. -/
theorem mono (below : base' <:+ base) (h : Leads setting base c c') : Leads setting base' c c' :=
  let ⟨n, hn, hbelow⟩ := h
  ⟨n, hn, fun m hm => below.trans (hbelow m hm)⟩

end Leads

/-- A routine does on the machine what it does when it is run. -/
def Faithful (setting : Setting) (routine : Routine) : Prop :=
  ∀ stack session, Leads setting stack ⟨.running routine, stack, session⟩
    (.after stack .done (routine.run setting session))

/-- A line is parsed as it is when its rule is run. -/
theorem leads_parse {rule : Routine} (faithful : Faithful setting rule) (index : Int) (line : Line)
    (next : List Answer → Routine) (stack : List Frame) (session : Session) :
    Leads setting stack ⟨.running (.parse index line rule next), stack, session⟩
      (.after stack next (Session.parse index line (rule.run setting) session)) := by
  refine .head (List.suffix_refl stack) rfl ?_
  simp only [step, Session.parse, bind_apply]
  cases Session.onScanner index (Rule.reset line) session with
  | error failure session => exact .head (List.suffix_cons _ _) rfl (.refl _ _)
  | ok u session =>
    refine .trans ((faithful _ session).mono (List.suffix_cons _ _)) ?_
    dsimp only
    cases rule.run setting session with
    | error failure session => exact .head (List.suffix_cons _ _) rfl (.refl _ _)
    | ok answers session =>
      refine .head (List.suffix_cons _ _) rfl ?_
      simp only [Config.after, step, giveBack]
      cases Session.onScanner index (Rule.onCleanup none) session <;> exact .refl _ _

/-- A handle with the record of a sweep. -/
def Handling.recording (h : Handling) (w : Sweep Session (List Answer)) : Handling :=
  { h with yielded := w.yielded, errors := w.errors }

/-- The plan of a handle. -/
def Handling.plan (setting : Setting) (h : Handling) :
    Sweep.Plan Session (List Answer) (List Answer) :=
  Session.plan h.index h.owner (fun line => (h.rule line).run setting)
    (fun line answers => discard ((h.use line answers).run setting))
    (fun e => discard ((h.report e).run setting))

/-- Where a handle goes on after a part of its sweep. -/
def Handling.resume (h : Handling) (lines : List Line) (stack : List Frame) :
    EStateM.Result Failure (Sweep Session (List Answer)) Unit → Config
  | .ok _ w => (h.recording w).goOn lines stack w.state
  | .error failure w => ⟨.raising failure, stack, w.state⟩

section

variable {h : Handling} (rules : ∀ line, Faithful setting (h.rule line))
  (uses : ∀ line answers, Faithful setting (h.use line answers))
  (reports : ∀ e, Faithful setting (h.report e))

include rules uses reports

/-- A handle deals with a line as its sweep does. -/
theorem leads_line (line : Line) (rest : List Line) (stack : List Frame)
    (w : Sweep Session (List Answer)) :
    Leads setting stack ((h.recording w).goOn (line :: rest) stack w.state)
      (h.resume rest stack (Sweep.step (h.plan setting) line w)) := by
  refine .trans ((leads_parse (rules line) h.index line .done _ w.state).mono
    (List.suffix_cons _ _)) ?_
  have hparse : Session.parse h.index line ((h.rule line).run setting) w.state =
    (h.plan setting).parse line w.state := rfl
  rw [hparse, Sweep.step]
  -- What the frame of the line does with the end of the rule is what the sweep does with it.
  obtain ⟨answers, session⟩ | ⟨e | f, session⟩ := (h.plan setting).parse line w.state
  · refine .head (List.suffix_cons _ _) rfl ?_
    refine .trans ((uses line answers _ session).mono (List.suffix_cons _ _)) ?_
    simp only [Handling.plan, Session.plan, Sweep.handOn, Sweep.onState, bind_apply, discard_apply]
    cases (h.use line answers).run setting session <;>
      exact .head (List.suffix_cons _ _) rfl (.refl _ _)
  · by_cases horigin : e.origin = some (h.plan setting).owner
    · simp only [if_pos horigin]
      refine .head (List.suffix_cons _ _) (step_own (h := h.recording w) horigin) ?_
      refine .trans ((reports e _ session).mono (List.suffix_cons _ _)) ?_
      simp only [Handling.plan, Session.plan, Sweep.onState, discard_apply]
      cases (h.report e).run setting session <;> exact .head (List.suffix_cons _ _) rfl (.refl _ _)
    · simp only [if_neg horigin]
      exact .head (List.suffix_cons _ _) (step_passing horigin) (.refl _ _)
  · exact .head (List.suffix_cons _ _) rfl (.refl _ _)

/-- A handle deals with all its lines as its sweep does. -/
theorem leads_goOn (lines : List Line) (stack : List Frame) (w : Sweep Session (List Answer)) :
    Leads setting stack ((h.recording w).goOn lines stack w.state)
      (h.resume [] stack (Sweep.run (h.plan setting) lines w)) := by
  induction lines generalizing w with
  | nil => exact .refl _ _
  | cons line rest ih =>
    refine .trans (leads_line rules uses reports line rest stack w) ?_
    rw [Sweep.run, bind_apply]
    cases Sweep.step (h.plan setting) line w with
    | ok u w => exact ih w
    | error failure w => exact .refl _ _

end

/-- The machine does what a run of the routine does, on top of any stack. The frames that were there
before stay in their place until the routine ends. -/
theorem faithful (setting : Setting) (routine : Routine) : Faithful setting routine := by
  induction routine with
  | done answers => exact fun stack session => .refl _ _
  | raise failure => exact fun stack session => .head (List.suffix_refl _) rfl (.refl _ _)
  | act index action next ih =>
    intro stack session
    refine .head (List.suffix_refl _) rfl ?_
    simp only [step, run, bind_apply]
    cases Session.onScanner index (action.run setting) session with
    | ok answer session => exact ih answer stack session
    | error failure session => exact .refl _ _
  | parse index line rule next ihRule ihNext =>
    intro stack session
    refine .trans (leads_parse ihRule index line next stack session) ?_
    rw [run, bind_apply]
    cases Session.parse index line (rule.run setting) session with
    | ok answers session => exact ihNext answers stack session
    | error failure session => exact .refl _ _
  | handle index lines rule use report next ihRule ihUse ihReport ihNext =>
    intro stack session
    refine .head (List.suffix_refl _) rfl ?_
    simp only [step, run, bind_apply, Session.handle]
    cases session.scanner index with
    | error cause => exact .refl _ _
    | ok owner =>
      -- All the lines first, by the sweep of the handle, and then what comes after the handle.
      let h : Handling := { index, owner := owner.id, rule, use, report, next }
      refine .trans (leads_goOn (h := h) ihRule ihUse ihReport lines stack { state := session }) ?_
      have hplan : h.plan setting =
          Session.plan index owner.id (fun line => (rule line).run setting)
            (fun line answers => discard ((use line answers).run setting))
            (fun e => discard ((report e).run setting)) := rfl
      dsimp only
      rw [← hplan]
      cases Sweep.run (h.plan setting) lines { state := session } with
      | ok u w => exact ihNext _ stack w.state
      | error failure w => exact .refl _ _

/-! ## Handles know their scanner -/

/-- The handle belongs to the scanner at its index, of `count` scanners. -/
def Handling.Placed (count : Nat) (h : Handling) : Prop :=
  Place.ofIndex count h.index = .ok h.owner

/-- The frame is no part of a handle, or the handle belongs to the scanner at its index. -/
def Frame.Placed (count : Nat) : Frame → Prop
  | .parsing .. => True
  | .handling h .. | .consuming h .. | .reporting h .. => h.Placed count

/-- The scanners are numbered, and every handle belongs to the scanner at its index. -/
structure Config.Placed (count : Nat) (c : Config) : Prop where
  numbered : c.session.Numbered count
  frames : ∀ frame ∈ c.stack, frame.Placed count

section

variable {count : Nat} {stack : List Frame} {session : Session}

/-- After a computation on a scanner, handles belong to their scanners as before. -/
theorem placed_after {α : Type} {rule : Rule α} (owned : rule.Owned) (index : Int)
    (next : α → Routine) (numbered : session.Numbered count)
    (frames : ∀ frame ∈ stack, frame.Placed count) :
    (Config.after stack next (Session.onScanner index rule session)).Placed count := by
  have hnumbered := Session.numbered_onScanner owned index numbered
  cases h : Session.onScanner index rule session with
  | ok a session =>
    rw [h] at hnumbered
    exact ⟨hnumbered, frames⟩
  | error failure session =>
    rw [h] at hnumbered
    exact ⟨hnumbered, frames⟩

/-- A handle that goes on with its lines belongs to its scanner. -/
theorem placed_goOn {h : Handling} (placed : h.Placed count) (lines : List Line)
    (numbered : session.Numbered count) (frames : ∀ frame ∈ stack, frame.Placed count) :
    (h.goOn lines stack session).Placed count := by
  cases lines with
  | nil => exact ⟨numbered, frames⟩
  | cons line rest => exact ⟨numbered, List.forall_mem_cons.2 ⟨placed, frames⟩⟩

/-- Giving back answers moves no handle to another scanner. -/
theorem placed_giveBack (answers : List Answer) (numbered : session.Numbered count)
    (frames : ∀ frame ∈ stack, frame.Placed count) :
    (giveBack answers stack session).Placed count := by
  cases stack with
  | nil => exact ⟨numbered, frames⟩
  | cons frame stack =>
    obtain ⟨hframe, hstack⟩ := List.forall_mem_cons.1 frames
    cases frame with
    | parsing index next =>
      exact placed_after (Rule.owned_onCleanup none) index _ numbered hstack
    | handling h line rest => exact ⟨numbered, List.forall_mem_cons.2 ⟨hframe, hstack⟩⟩
    | consuming h line kept rest =>
      exact placed_goOn (h := h.keep line kept) hframe rest numbered hstack
    | reporting h rest => exact placed_goOn hframe rest numbered hstack

/-- Leaving frames for a failure moves no handle to another scanner. -/
theorem placed_unwind (failure : Failure) (numbered : session.Numbered count)
    (frames : ∀ frame ∈ stack, frame.Placed count) :
    (unwind failure stack session).Placed count := by
  cases stack with
  | nil => exact ⟨numbered, frames⟩
  | cons frame stack =>
    obtain ⟨hframe, hstack⟩ := List.forall_mem_cons.1 frames
    cases frame with
    | handling h line rest =>
      cases failure with
      | fault f => exact ⟨numbered, hstack⟩
      | scan e =>
        simp only [unwind]
        split
        · exact ⟨numbered, List.forall_mem_cons.2 ⟨hframe, hstack⟩⟩
        · exact ⟨numbered, hstack⟩
    | parsing | consuming | reporting => exact ⟨numbered, hstack⟩

/-- A step keeps the scanners numbered and the handles in their places. -/
theorem placed_step {c : Config} (placed : c.Placed count) : (step setting c).Placed count := by
  obtain ⟨focus, stack, session⟩ := c
  obtain ⟨numbered, frames⟩ := placed
  cases focus with
  | raising failure => exact placed_unwind failure numbered frames
  | running routine =>
    cases routine with
    | done answers => exact placed_giveBack answers numbered frames
    | raise failure => exact ⟨numbered, frames⟩
    | act index action next => exact placed_after (Session.owned_run action) index _ numbered frames
    | parse index line rule next =>
      exact placed_after (Rule.owned_reset line) index _ numbered
        (List.forall_mem_cons.2 ⟨trivial, frames⟩)
    | handle index lines rule use report next =>
      simp only [step]
      cases hscanner : session.scanner index with
      | error cause => exact ⟨numbered, frames⟩
      | ok owner =>
        refine placed_goOn ?_ lines numbered frames
        exact Session.Numbered.ofIndex_eq numbered hscanner

/-- Every handle belongs to the scanner at its index, after any number of steps. -/
theorem placed_steps {c : Config} (placed : c.Placed count) (n : Nat) :
    (steps setting n c).Placed count := by
  induction n generalizing c with
  | zero => exact placed
  | succ n ih => exact ih (placed_step placed)

/-- Before a program starts there are no handles, and the scanners are numbered. -/
theorem placed_start (program : Routine) (count : Nat) :
    (Config.start program count).Placed count :=
  ⟨Session.numbered_start count, fun _ h => absurd h List.not_mem_nil⟩

end

/-! ## The way of an error -/

/-- The frame is a line of a handle on the scanner at a place, of `count` scanners. -/
def Frame.IsHandleOf (count place : Nat) : Frame → Prop
  | .handling h _ _ => Place.ofIndex count h.index = .ok place
  | .parsing .. | .consuming .. | .reporting .. => False

section

variable {count place : Nat} {e : ScanError} {stack : List Frame} {session : Session}

/-- A frame catches an error exactly if it is of a handle on the scanner of the error. -/
theorem Frame.catches_iff {frame : Frame} (placed : frame.Placed count)
    (origin : e.origin = some place) : frame.Catches e ↔ frame.IsHandleOf count place := by
  cases frame with
  | handling h line rest =>
    have hplaced : Place.ofIndex count h.index = .ok h.owner := placed
    simp only [Frame.Catches, Frame.IsHandleOf, origin, hplaced, Option.some.injEq,
      Except.ok.injEq, eq_comm]
  | parsing | consuming | reporting => exact Iff.rfl

/-- There is an innermost frame that catches an error, or none does. -/
theorem exists_innermost (e : ScanError) (stack : List Frame) :
    (∃ inner h line rest outer, stack = inner ++ .handling h line rest :: outer ∧
      e.origin = some h.owner ∧ ∀ frame ∈ inner, ¬frame.Catches e) ∨
    ∀ frame ∈ stack, ¬frame.Catches e := by
  induction stack with
  | nil => exact .inr fun _ h => absurd h List.not_mem_nil
  | cons frame stack ih =>
    by_cases hcatches : frame.Catches e
    · cases frame with
      | handling h line rest =>
        exact .inl ⟨[], h, line, rest, stack, rfl, hcatches, fun _ h => absurd h List.not_mem_nil⟩
      | parsing | consuming | reporting => exact absurd hcatches id
    · obtain ⟨inner, h, line, rest, outer, rfl, hown, hinner⟩ | hnone := ih
      · exact .inl ⟨frame :: inner, h, line, rest, outer, rfl, hown,
          List.forall_mem_cons.2 ⟨hcatches, hinner⟩⟩
      · exact .inr (List.forall_mem_cons.2 ⟨hcatches, hnone⟩)

/-- An error leaves the frames that do not catch it one by one, and nothing else happens. When all
are left, nothing happens any more. -/
theorem steps_passing {m : Nat} (foreign : ∀ frame ∈ stack.take m, ¬frame.Catches e) :
    steps setting m ⟨.raising (.scan e), stack, session⟩ =
      ⟨.raising (.scan e), stack.drop m, session⟩ := by
  induction m generalizing stack with
  | zero => rfl
  | succ m ih =>
    cases stack with
    | nil => exact steps_fixed rfl (m + 1)
    | cons frame stack =>
      obtain ⟨hframe, hstack⟩ := List.forall_mem_cons.1 foreign
      rw [steps_succ, step_passing hframe]
      exact ih hstack

end

/-- An error is reported by a handle, once: it aborts what is nested in the handle, and nothing else
happens until the handle has it reported. The handle waits for that, with its frame in its place.
Then it goes on with the lines that are left, or fails as its report does. -/
structure Reported (setting : Setting) (c : Config) (e : ScanError) (inner : List Frame)
    (h : Handling) (rest : List Line) (outer : List Frame) : Prop where
  aborts : ∀ m ≤ inner.length, steps setting m c = { c with stack := c.stack.drop m }
  reports : steps setting (inner.length + 1) c =
    ⟨.running (h.report e), .reporting (h.note e) rest :: outer, c.session⟩
  goesOn : ∀ answers session, (h.report e).run setting c.session = .ok answers session →
    Leads setting (.reporting (h.note e) rest :: outer) (steps setting (inner.length + 1) c)
      ((h.note e).goOn rest outer session)
  fails : ∀ failure session, (h.report e).run setting c.session = .error failure session →
    Leads setting (.reporting (h.note e) rest :: outer) (steps setting (inner.length + 1) c)
      ⟨.raising failure, outer, session⟩

/-- An error that reaches a handle of its scanner, and no handle of it before, is reported there. -/
theorem reported {c : Config} {e : ScanError} {inner outer : List Frame} {h : Handling}
    {line : Line} {rest : List Line} (raised : c.focus = .raising (.scan e))
    (nested : c.stack = inner ++ .handling h line rest :: outer) (own : e.origin = some h.owner)
    (foreign : ∀ frame ∈ inner, ¬frame.Catches e) : Reported setting c e inner h rest outer := by
  obtain ⟨focus, stack, session⟩ := c
  obtain rfl : focus = _ := raised
  obtain rfl : stack = _ := nested
  have haborts {m : Nat} (hm : m ≤ inner.length) :
      steps setting m ⟨.raising (.scan e), inner ++ .handling h line rest :: outer, session⟩ =
        ⟨.raising (.scan e), (inner ++ .handling h line rest :: outer).drop m, session⟩ := by
    refine steps_passing fun frame hframe => foreign frame ?_
    rw [List.take_append_of_le_length hm] at hframe
    exact List.mem_of_mem_take hframe
  have hreports : steps setting (inner.length + 1)
      ⟨.raising (.scan e), inner ++ .handling h line rest :: outer, session⟩ =
        ⟨.running (h.report e), .reporting (h.note e) rest :: outer, session⟩ := by
    rw [steps_add, haborts (Nat.le_refl _), List.drop_left, steps_succ, step_own own, steps_zero]
  -- The report runs on top of the frame of its handle, which takes over when it ends.
  have hrun := faithful setting (h.report e) (.reporting (h.note e) rest :: outer) session
  refine ⟨fun m hm => haborts hm, hreports, ?_, ?_⟩
  · intro answers session' hanswers
    rw [hanswers] at hrun
    rw [hreports]
    exact hrun.trans (.head (List.suffix_refl _) rfl (.refl _ _))
  · intro failure session' hfailure
    rw [hfailure] at hrun
    rw [hreports]
    exact hrun.trans (.head (List.suffix_refl _) rfl (.refl _ _))

/-- An error that no frame catches leaves all frames, and nothing else happens. -/
theorem escapes {c : Config} {e : ScanError} (raised : c.focus = .raising (.scan e))
    (foreign : ∀ frame ∈ c.stack, ¬frame.Catches e) (m : Nat) :
    steps setting m c = { c with stack := c.stack.drop m } := by
  obtain ⟨focus, stack, session⟩ := c
  obtain rfl : focus = _ := raised
  exact steps_passing fun frame hframe => foreign frame (List.mem_of_mem_take hframe)

/-! ## Errors of a program -/

/-- Where the machine ends when it runs a program. -/
def Config.ending (setting : Setting) (program : Routine) (count : Nat) : Config :=
  .after [] .done (program.run setting (.start count))

/-- Wherever the machine is when it runs a program, it comes to the end of the program. -/
theorem exists_steps_ending (setting : Setting) (program : Routine) (count n : Nat) :
    ∃ k, steps setting k (steps setting n (.start program count)) =
      .ending setting program count := by
  obtain ⟨k, hk, -⟩ := faithful setting program [] (.start count)
  have hending : step setting (.ending setting program count) = .ending setting program count := by
    unfold Config.ending
    cases program.run setting (.start count) <;> rfl
  -- The end is fixed, so the `n` steps may as well come after the `k` steps that lead there.
  refine ⟨k, ?_⟩
  rw [← steps_add, Nat.add_comm, steps_add]
  exact (congrArg (steps setting n) hk).trans (steps_fixed hending n)

/-- A program whose machine is left with a failure and no frames fails so. -/
theorem run_of_steps {program : Routine} {count n : Nat} {failure : Failure} {session : Session}
    (h : steps setting n (.start program count) = ⟨.raising failure, [], session⟩) :
    program.run setting (.start count) = .error failure session := by
  obtain ⟨k, hk⟩ := exists_steps_ending setting program count n
  rw [h, steps_fixed rfl, Config.ending] at hk
  cases hrun : program.run setting (.start count) with
  | ok answers session =>
    rw [hrun] at hk
    cases hk
  | error failure session =>
    rw [hrun] at hk
    cases hk
    rfl

/-- Every error reaches the handle of its scanner and no other. Let a program for any number of
scanners be run, and let an error of the scanner at `place` be on its way at `c`, some step before
the end of the run. If the error is nested in a line of a handle on that scanner, then the innermost
of these handles has it reported: all that is nested in the handle is aborted with nothing else
happening, the report runs once, and if it returns, the handle goes on with its next line. If there
is no such handle, the error leaves all frames with nothing else happening, and the program fails
with it. -/
theorem error_reaches_own_handle (program : Routine) (count n place : Nat) (c : Config)
    (e : ScanError) (reached : steps setting n (.start program count) = c)
    (raised : c.focus = .raising (.scan e)) (origin : e.origin = some place) :
    (∃ k, steps setting k c = .ending setting program count) ∧
    ((∃ inner h line rest outer, c.stack = inner ++ .handling h line rest :: outer ∧
      Place.ofIndex count h.index = .ok place ∧
      (∀ frame ∈ inner, ¬frame.IsHandleOf count place) ∧
      Reported setting c e inner h rest outer) ∨
    ((∀ frame ∈ c.stack, ¬frame.IsHandleOf count place) ∧
      (∀ m, steps setting m c = { c with stack := c.stack.drop m }) ∧
      program.run setting (.start count) = .error (.scan e) c.session)) := by
  refine ⟨reached ▸ exists_steps_ending setting program count n, ?_⟩
  have hplaced : c.Placed count := reached ▸ placed_steps (placed_start program count) n
  -- Which frames catch the error is a matter of numbers; which handles are on its scanner, one of
  -- places. In a run these are the same.
  have hcatches := fun frame hframe => Frame.catches_iff (hplaced.frames frame hframe) origin
  obtain ⟨inner, h, line, rest, outer, hstack, hown, hinner⟩ | hnone := exists_innermost e c.stack
  · refine .inl ⟨inner, h, line, rest, outer, hstack, ?_, ?_, reported raised hstack hown hinner⟩
    · exact (hcatches (.handling h line rest) (by simp [hstack])).1 hown
    · intro frame hframe
      rw [← hcatches frame (by simp [hstack, hframe])]
      exact hinner frame hframe
  · have hescapes : ∀ m, steps setting m c = { c with stack := c.stack.drop m } :=
      escapes raised hnone
    refine .inr ⟨fun frame hframe => ?_, hescapes, ?_⟩
    · rw [← hcatches frame hframe]
      exact hnone frame hframe
    · apply run_of_steps (n := n + c.stack.length)
      rw [steps_add, reached, hescapes, List.drop_length, raised]

/-- An operation that complains, on a scanner without a hook, raises an error of the scanner. -/
theorem step_complaining {c : Config} {index : Int} {text : String} {next : Answer → Routine}
    {owner : Scanner} (focus : c.focus = .running (.act index (.error text []) next))
    (scanner : c.session.scanner index = .ok owner) (hook : owner.hook = none) :
    (step setting c).focus = .raising
        (.scan ⟨.said text, owner.state.errorColumn, owner.state.line, some owner.id⟩) ∧
      (step setting c).stack = c.stack := by
  obtain ⟨focus, stack, session⟩ := c
  cases focus
  have hcompose : Message.compose setting.room text [] = .ok text := rfl
  have hrun : Rule.complain setting (.said text) { owner with journal := session.journal } = _ :=
    Rule.complain_of_no_hook (α := Answer) (.said text) hook
  simp only [step, Session.onScanner, scanner, Session.Action.run, Rule.error, hcompose, hrun]
  exact ⟨rfl, rfl⟩

/-- Two scanners, with a handle on the second one in the rule of a handle on the first one. The rule
in the middle complains on the first scanner. -/
def crossed : Routine :=
  .handle 0 [['a'], ['b']]
    (fun _ => .handle 1 [['x'], ['y']] (fun _ => .act 0 (.error "bad" []) fun _ => .done [])
      (fun _ _ => .done []) (fun _ => .done []) fun _ => .done [])
    (fun _ _ => .done []) (fun _ => .done []) fun _ => .done []

/-- No terminals. -/
def bareSetting : Setting := { registry := {} }

/-- The complaint is nested in the inner handle, and reported by the outer one. -/
theorem error_reaches_outer_handle :
    (steps bareSetting 5 (.start crossed 2)).focus =
        .raising (.scan ⟨.said "bad", 1, ['a'], some 0⟩) ∧
      (∃ frame ∈ (steps bareSetting 5 (.start crossed 2)).stack, frame.IsHandleOf 2 1) ∧
      ∃ inner h line rest outer,
        (steps bareSetting 5 (.start crossed 2)).stack = inner ++ .handling h line rest :: outer ∧
        Place.ofIndex 2 h.index = .ok 0 ∧ (∀ frame ∈ inner, ¬frame.IsHandleOf 2 0) ∧
        Reported bareSetting (steps bareSetting 5 (.start crossed 2))
          ⟨.said "bad", 1, ['a'], some 0⟩ inner h rest outer := by
  obtain ⟨hfocus, hstack⟩ : (steps bareSetting 5 (.start crossed 2)).focus = _ ∧
      (steps bareSetting 5 (.start crossed 2)).stack =
        (steps bareSetting 4 (.start crossed 2)).stack :=
    step_complaining (c := steps bareSetting 4 (.start crossed 2)) rfl rfl rfl
  obtain ⟨-, hreported | ⟨hnone, -⟩⟩ :=
    error_reaches_own_handle crossed 2 5 0 _ _ rfl hfocus rfl
  · refine ⟨hfocus, ?_, hreported⟩
    rw [hstack]
    exact ⟨_, List.mem_of_getElem? (i := 1) rfl, rfl⟩
  · rw [hstack] at hnone
    exact absurd rfl (hnone _ (List.mem_of_getElem? (i := 3) rfl))

end LineScan.Routine
