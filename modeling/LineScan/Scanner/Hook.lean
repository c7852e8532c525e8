import LineScan.Scanner.Attempt

/-!
# Cleanup hooks and unwinding

A scanner may have one cleanup hook. When an error is raised, the hook is withdrawn first and then
runs once, before the error is built. A hook is a finite program on its own scanner: it may log its
label, register another hook, reset the scanner, make attempts, or raise an error of its own. That
error replaces the one that was being raised, and unwinds in its turn, firing the hook that is
registered by then.

## Why firing ends

Every step of a running hook is spent, and a hook is withdrawn before it runs. So the size of what
is left to run, together with the size of the registered hook, goes down with each step: registering
a hook moves its size from the one to the other.
-/

namespace LineScan

/-- A cleanup hook: a finite program. -/
inductive Hook where
  | done
  /-- Log a label. -/
  | log (label : String) (next : Hook)
  /-- Register a hook on the scanner. -/
  | register (hook next : Hook)
  /-- Withdraw the hook of the scanner. -/
  | withdraw (next : Hook)
  /-- Reset the scanner to the start of a line. -/
  | reset (line : Line) (next : Hook)
  | accept (wanted : Wanted) (next : Hook)
  | acceptAll (wanted : List Wanted) (next : Hook)
  /-- Raise an error. -/
  | raise (text : String)

namespace Hook

/-- How many steps a hook has, those of the hooks it registers included. -/
def size : Hook → Nat
  | .done => 1
  | .log _ next => next.size + 1
  | .register hook next => hook.size + next.size + 1
  | .withdraw next => next.size + 1
  | .reset _ next => next.size + 1
  | .accept _ next => next.size + 1
  | .acceptAll _ next => next.size + 1
  | .raise _ => 1

/-- The label by which a hook is known: the one it logs first. -/
def label? : Hook → Option String
  | .log label _ => some label
  | _ => none

end Hook

/-- A failure of a rule. -/
inductive Failure where
  /-- An error about a line; the handler of its scanner catches it. -/
  | scan (error : ScanError)
  /-- A fault; no handler catches it. -/
  | fault (cause : Fault)

/-- A scanner: a bench, a hook, and a number that tells it from other scanners. -/
structure Scanner extends Bench where
  id : Nat := 0
  hook : Option Hook := none

namespace Scanner

instance : Inhabited Scanner := ⟨{}⟩

/-- The scanner at the start of a line. Every field of the state is set anew, and the hook is
withdrawn. -/
def startLine (s : Scanner) (line : Line) : Scanner :=
  { s with state := .start line, hook := none }

/-- Remember the wording of a complaint. -/
def noteMessage (s : Scanner) (c : Complaint) : Scanner :=
  { s with state := { s.state with errorMessage := some c.message } }

/-- A complaint as an error about the current line at the current column. -/
def errorOf (s : Scanner) (c : Complaint) : ScanError :=
  ⟨c, s.state.errorColumn, s.state.line, some s.id⟩

/-- The size of the registered hook. -/
def hookSize (s : Scanner) : Nat := (s.hook.map Hook.size).getD 0

end Scanner

mutual

/-- Run a hook on its scanner. -/
def Hook.run (setting : Setting) (hook : Hook) (s : Scanner) :
    EStateM.Result Failure Scanner Unit :=
  match hook with
  | .done => .ok () s
  | .log label next => next.run setting { s with toBench := s.toBench.enter (.fired label) }
  | .register other next => next.run setting { s with hook := some other }
  | .withdraw next => next.run setting { s with hook := none }
  | .reset line next => next.run setting (s.startLine line)
  | .accept wanted next =>
    match Bench.accept setting wanted s.toBench with
    | .ok _ b => next.run setting { s with toBench := b }
    | .error (.complaint c) b => Scanner.unwind setting c { s with toBench := b }
    | .error (.fault f) b => .error (.fault f) { s with toBench := b }
  | .acceptAll wanted next =>
    match Bench.acceptAll setting wanted s.toBench with
    | .ok _ b => next.run setting { s with toBench := b }
    | .error (.complaint c) b => Scanner.unwind setting c { s with toBench := b }
    | .error (.fault f) b => .error (.fault f) { s with toBench := b }
  | .raise text => Scanner.unwind setting (.said text) s
termination_by 2 * (hook.size + s.hookSize)
decreasing_by
  all_goals simp_wf
  all_goals simp [Hook.size, Scanner.hookSize, Scanner.startLine] <;> omega

/-- Raise a complaint: remember its wording, withdraw the hook and run it, then build the error from
the state that the hook leaves. -/
def Scanner.unwind (setting : Setting) (c : Complaint) (s : Scanner) :
    EStateM.Result Failure Scanner Unit :=
  match _h : s.hook with
  | none => .error (.scan ((s.noteMessage c).errorOf c)) (s.noteMessage c)
  | some hook =>
    match hook.run setting { s.noteMessage c with hook := none } with
    | .ok _ s => .error (.scan (s.errorOf c)) s
    | .error e s => .error e s
termination_by 2 * s.hookSize + 1
decreasing_by simp_wf; simp [Scanner.hookSize, _h]

end

end LineScan
