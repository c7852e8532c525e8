import LineScan.Proofs.Scanning
import LineScan.Scanner.Call

/-!
# What a call does

On a scanner without a hook a complaint becomes an error at once. So a call is its *work*, which is
what its attempts do to the bench, and then perhaps a complaint: one that a terminal raised, or that
of an expectation that was not met.

## Main statements

* `Call.run_apply`: a call is its work, and a complaint if there is one to be raised.
-/

namespace LineScan

/-- A throw leaves the state as it is. -/
@[simp]
theorem throw_apply {ε σ α : Type} (e : ε) (s : σ) : (throw e : EStateM ε σ α) s = .error e s := rfl

/-- Discarding an answer keeps the failure and the state. -/
@[simp]
theorem discard_apply {ε σ α : Type} (x : EStateM ε σ α) (s : σ) :
    (discard x : EStateM ε σ PUnit) s = match x s with
      | .ok _ s => .ok ⟨⟩ s
      | .error e s => .error e s := rfl

/-- A failure is one of a scanner: an error comes from the scanner, and a fault from anywhere. -/
def Failure.IsOf (id : Nat) : Failure → Prop
  | .scan e => e.origin = some id
  | .fault _ => True

/-- Two scan states are alike but for what is known of an attempt in progress and of the last
failure. -/
structure ScanState.Alike (s t : ScanState) : Prop where
  line_eq : s.line = t.line
  cursor_eq : s.cursor = t.cursor
  value_eq : s.value = t.value
  lastStart_eq : s.lastStart = t.lastStart
  lastLength_eq : s.lastLength = t.lastLength

/-- How a scanner without a hook ends when work on its bench does: a complaint is an error at the
current column. -/
def Scanner.conclude {α : Type} (s : Scanner) :
    EStateM.Result Abort Bench α → EStateM.Result Failure Scanner α
  | .ok a b => .ok a { s with toBench := b }
  | .error (.complaint c) b =>
    .error (.scan (({ s with toBench := b } : Scanner).errorOf c))
      (({ s with toBench := b } : Scanner).noteMessage c)
  | .error (.fault f) b => .error (.fault f) { s with toBench := b }

namespace Scanner

variable {α : Type} (s : Scanner) (r : EStateM.Result Abort Bench α)

/-- Concluding does not change whose scanner it is. -/
@[simp]
theorem conclude_id : (Result.state (s.conclude r)).id = s.id := by
  obtain ⟨_, _⟩ | ⟨_ | _, _⟩ := r <;> rfl

/-- Concluding keeps the hook. -/
@[simp]
theorem conclude_hook : (Result.state (s.conclude r)).hook = s.hook := by
  obtain ⟨_, _⟩ | ⟨_ | _, _⟩ := r <;> rfl

end Scanner

/-- Without a hook, work on the bench is all that is done, but for a complaint that is raised. -/
theorem Rule.onBench_apply {α : Type} {setting : Setting} {s : Scanner} (hook : s.hook = none)
    (m : EStateM Abort Bench α) : onBench setting m s = s.conclude (m s.toBench) := by
  unfold onBench
  cases m s.toBench with
  | ok a b => rfl
  | error e b =>
    cases e with
    | complaint c => exact complain_of_no_hook (s := { s with toBench := b }) c hook
    | fault f => rfl

namespace Call

variable {setting : Setting} {s : Scanner}

/-- The complaint of an expectation that is not met. -/
def refusal (target : Target) (what : Option String) (column : Int) : Complaint :=
  match what with
  | some text => .demanded text column
  | none => .expected target.label column

/-- Why an expectation gives up that is not met: for its complaint, or because the column of that
cannot be written. -/
def refuse (target : Target) (what : Option String) (state : ScanState) : Abort :=
  if state.line.Writes state.errorColumn then .complaint (refusal target what state.errorColumn)
  else .fault (.oversize .writing)

/-- The work of a call on the bench. -/
def work (setting : Setting) : Call → EStateM Abort Bench Bool
  | .accept wanted => Bench.accept setting wanted
  | .acceptAll wanted => Bench.acceptAll setting wanted
  | .expect wanted what => do
    let target ← Bench.coerce setting wanted
    if ← Bench.attempt setting target then pure true
    else throw (refuse target what (← get).state)

/-- An expectation is an attempt, and gives up if it is not met. -/
theorem work_expect (setting : Setting) (wanted : Wanted) (what : Option String) (b : Bench) :
    ∃ e, (expect wanted what).work setting b =
      match Bench.accept setting wanted b with
      | .ok false b' => .error e b'
      | r => r := by
  simp only [work, Bench.accept, bind_apply]
  cases Bench.coerce setting wanted b with
  | error e b' => exact ⟨e, rfl⟩
  | ok target b' =>
    dsimp only
    obtain ⟨_ | _, b''⟩ | ⟨e, b''⟩ := Bench.attempt setting target b'
    · exact ⟨_, rfl⟩
    · exact ⟨.fault .stopped, rfl⟩
    · exact ⟨e, rfl⟩

/-- A call on a scanner without a hook is its work. -/
theorem run_apply (call : Call) (hook : s.hook = none) :
    call.run setting s = s.conclude (call.work setting s.toBench) := by
  cases call with
  | accept wanted => exact Rule.onBench_apply hook _
  | acceptAll wanted => exact Rule.onBench_apply hook _
  | expect wanted what =>
    simp only [run, work, Rule.expect, Bench.coerce, bind_apply, Rule.onBench_apply hook]
    cases wanted.coerce setting.registry with
    | error f => rfl
    | ok target =>
      simp only [pure_apply, Scanner.conclude, Rule.expectTarget, Rule.acceptTarget, bind_apply,
        Rule.onBench_apply hook]
      obtain ⟨_ | _, b⟩ | ⟨c | f, b⟩ := Bench.attempt setting target s.toBench
      · simp only [Bool.false_eq_true, if_false, bind_apply, get_apply, throw_apply, refuse]
        by_cases hwrites : b.state.line.Writes b.state.errorColumn
        · rw [Rule.complainAt_of_writes (s := { s with toBench := b }) _ hwrites,
            Rule.complain_of_no_hook (s := { s with toBench := b }) _ hook, if_pos hwrites]
          cases what <;> rfl
        · rw [Rule.complainAt_of_not_writes (s := { s with toBench := b }) _ hwrites,
            if_neg hwrites]
      all_goals rfl

/-- A call on a scanner without a hook registers none. -/
theorem run_hook (call : Call) (setting : Setting) (hook : s.hook = none) :
    (Result.state (call.run setting s)).hook = none := by
  rw [call.run_apply hook, Scanner.conclude_hook, hook]

/-- A call does not change whose scanner it is. -/
theorem run_id (call : Call) (setting : Setting) (hook : s.hook = none) :
    (Result.state (call.run setting s)).id = s.id := by
  rw [call.run_apply hook, Scanner.conclude_id]

end Call

end LineScan
