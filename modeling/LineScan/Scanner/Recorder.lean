import LineScan.Scanner.Application

/-!
# Recording what becomes of hooks

A recorder is a scanner that keeps a history of its hook: when one is registered, when it is
withdrawn and why, when an error begins to unwind, and when a hook fires. Registrations are told
apart by their places in the history, so that registering the same hook twice makes two of them. The
hook of a recorder carries the place of its registration.

Everything here does what its counterpart does on a scanner, and writes the history besides.
-/

namespace LineScan

/-- Something that happens to the hook of a scanner. -/
inductive Hook.Event where
  | registered (hook : Hook)
  /-- The hook is withdrawn, and no other is registered. -/
  | withdrawn
  /-- The scanner is reset to the start of a line. -/
  | reset
  /-- The parse of a line starts. -/
  | started
  /-- The parse of a line ends well. -/
  | finished
  /-- An error begins to unwind. -/
  | unwinding
  /-- The hook of a registration starts to run. -/
  | fired (registration : Nat) (hook : Hook)

/-- An event, and the hook that is registered once it has happened. -/
structure Hook.Moment where
  event : Hook.Event
  left : Option Hook

open Hook (Event Moment)

/-- What happened to the hook of a scanner, in order. -/
abbrev Hook.History := List Moment

/-- A scanner that records what becomes of its hooks. -/
structure Recorder extends Bench where
  id : Nat := 0
  /-- The hook, and the place of its registration. -/
  slot : Option (Nat × Hook) := none
  history : Hook.History := []

namespace Recorder

/-- The scanner, without its history. -/
def scanner (r : Recorder) : Scanner where
  toBench := r.toBench
  id := r.id
  hook := r.slot.map Prod.snd

/-- Write an event down, with the hook that it leaves. -/
def note (r : Recorder) (event : Event) (slot : Option (Nat × Hook)) : Recorder :=
  { r with slot := slot, history := r.history ++ [⟨event, slot.map Prod.snd⟩] }

/-- Register a hook; the place of the registration is the next one of the history. -/
def register (r : Recorder) (hook : Hook) : Recorder :=
  r.note (.registered hook) (some (r.history.length, hook))

/-- Register a hook, or withdraw the one there is. -/
def onCleanup (r : Recorder) : Option Hook → Recorder
  | some hook => r.register hook
  | none => r.note .withdrawn none

/-- Go to the start of a line, because of an event. -/
def startLine (r : Recorder) (event : Event) (line : Line) : Recorder :=
  { r with state := .start line }.note event none

/-- Begin to unwind: remember the wording of the complaint. The hook is still there. -/
def beginUnwinding (r : Recorder) (c : Complaint) : Recorder :=
  { r with state := { r.state with errorMessage := some c.message } }.note .unwinding r.slot

/-- Withdraw the hook of a registration, which is about to run. -/
def fire (r : Recorder) (registration : Nat) (hook : Hook) : Recorder :=
  r.note (.fired registration hook) none

/-- The recorder of a scanner. A hook that the scanner has already counts as registered. -/
def start (s : Scanner) : Recorder :=
  let r : Recorder := { toBench := s.toBench, id := s.id }
  match s.hook with
  | none => r
  | some hook => r.register hook

/-- The size of the registered hook. -/
def slotSize (r : Recorder) : Nat := (r.slot.map fun slot => slot.2.size).getD 0

end Recorder

mutual

/-- Run a hook on a recorder. -/
def Hook.record (setting : Setting) (hook : Hook) (r : Recorder) :
    EStateM.Result Failure Recorder Unit :=
  match hook with
  | .done => .ok () r
  | .log label next => next.record setting { r with toBench := r.toBench.enter (.fired label) }
  | .register other next => next.record setting (r.register other)
  | .withdraw next => next.record setting (r.note .withdrawn none)
  | .reset line next => next.record setting (r.startLine .reset line)
  | .accept wanted next =>
    match Bench.accept setting wanted r.toBench with
    | .ok _ b => next.record setting { r with toBench := b }
    | .error (.complaint c) b => Recorder.unwind setting c { r with toBench := b }
    | .error (.fault f) b => .error (.fault f) { r with toBench := b }
  | .acceptAll wanted next =>
    match Bench.acceptAll setting wanted r.toBench with
    | .ok _ b => next.record setting { r with toBench := b }
    | .error (.complaint c) b => Recorder.unwind setting c { r with toBench := b }
    | .error (.fault f) b => .error (.fault f) { r with toBench := b }
  | .raise text => Recorder.unwind setting (.said text) r
termination_by 2 * (hook.size + r.slotSize)
decreasing_by
  all_goals simp_wf
  all_goals
    simp [Hook.size, Recorder.slotSize, Recorder.register, Recorder.startLine, Recorder.note] <;>
      omega

/-- Raise a complaint: begin to unwind, withdraw the hook and run it, then build the error from the
state that the hook leaves. -/
def Recorder.unwind (setting : Setting) (c : Complaint) (r : Recorder) :
    EStateM.Result Failure Recorder Unit :=
  match _h : r.slot with
  | none => .error (.scan ((r.beginUnwinding c).scanner.errorOf c)) (r.beginUnwinding c)
  | some (registration, hook) =>
    match hook.record setting ((r.beginUnwinding c).fire registration hook) with
    | .ok _ r => .error (.scan (r.scanner.errorOf c)) r
    | .error e r => .error e r
termination_by 2 * r.slotSize + 1
decreasing_by simp_wf; simp [Recorder.slotSize, Recorder.fire, Recorder.note, _h]

end

namespace Recorder

variable {α : Type}

/-- Raise a complaint. -/
def complain (setting : Setting) (c : Complaint) : EStateM Failure Recorder α := fun r =>
  match r.unwind setting c with
  | .ok _ r => .error (.scan (r.scanner.errorOf c)) r
  | .error e r => .error e r

/-- Raise a complaint that names a column, if that can be written. -/
def complainAt (setting : Setting) (column : Int) (c : Complaint) : EStateM Failure Recorder α :=
  fun r =>
    match r.state.line.write column with
    | .ok _ => complain setting c r
    | .error cause => .error (.fault (.oversize cause)) r

/-- Run work on the bench; a complaint unwinds. -/
def onBench (setting : Setting) (m : EStateM Abort Bench α) : EStateM Failure Recorder α := fun r =>
  match m r.toBench with
  | .ok a b => .ok a { r with toBench := b }
  | .error (.complaint c) b => complain setting c { r with toBench := b }
  | .error (.fault f) b => .error (.fault f) { r with toBench := b }

/-- Require what is wanted. -/
def expect (setting : Setting) (wanted : Wanted) (what : Option String) :
    EStateM Failure Recorder Unit := do
  let target ← onBench setting (Bench.coerce setting wanted)
  if ← onBench setting (Bench.attempt setting target) then
    pure ()
  else
    let column := (← get).state.errorColumn
    complainAt setting column (match what with
      | some text => .demanded text column
      | none => .expected target.label column)

/-- Parse a line. -/
def parse (line : Line) (rule : EStateM Failure Recorder α) : EStateM Failure Recorder α := do
  modify fun r => r.startLine .started line
  let result ← rule
  modify fun r => r.note .finished none
  pure result

end Recorder

/-- Make a call on a recorder. -/
def Call.record (setting : Setting) : Call → EStateM Failure Recorder Bool
  | .accept wanted => Recorder.onBench setting (Bench.accept setting wanted)
  | .acceptAll wanted => Recorder.onBench setting (Bench.acceptAll setting wanted)
  | .expect wanted what => do
    Recorder.expect setting wanted what
    pure true

/-- Make an operation on a recorder. -/
def Operation.record (setting : Setting) : Operation → EStateM Failure Recorder Bool
  | .reset line => do
    modify fun r => r.startLine .reset line
    pure true
  | .onCleanup hook => do
    modify fun r => r.onCleanup hook
    pure true
  | .call made => made.record setting
  | .error template args =>
    match Message.compose setting.room template args with
    | .ok text => Recorder.complain setting (.said text)
    | .error cause => throw (.fault (.template cause))

/-- Run an application on a recorder. -/
def Application.record (setting : Setting) : Application → EStateM Failure Recorder (List Bool)
  | .done answers => pure answers
  | .raise failure => throw failure
  | .operate operation next =>
    heeding (fun r => r.state.view) (operation.record setting) fun answer view =>
      (next answer view).record setting
  | .parse line rule next =>
    heeding (fun r => r.state.view) (Recorder.parse line (rule.record setting)) fun answers view =>
      (next answers view).record setting

end LineScan
