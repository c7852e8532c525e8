import LineScan.Session.Script

/-!
# Running a script

The interpreter of scripts. A session shares one journal between its scanners, so the order of
events across scanners is kept.
-/

namespace LineScan

/-- Several scanners with one journal. -/
structure Session where
  scanners : List Scanner
  journal : Journal := {}

namespace Session

/-- A session of `count` scanners; the number of a scanner is its place. -/
def start (count : Nat) : Session where
  scanners := (List.range count).map fun id => { id := id }

/-- The scanner at an index; a negative one counts from the end. -/
def scanner (session : Session) (index : Int) : Except Misplaced Scanner :=
  Place.get session.scanners index

/-- Put a scanner back in its place and take over its journal. -/
def put (session : Session) (place : Nat) (s : Scanner) : Session where
  scanners := session.scanners.set place { s with journal := {} }
  journal := s.journal

/-- Run a rule on the scanner at an index. -/
def onScanner {α : Type} (index : Int) (rule : Rule α) : EStateM Failure Session α := fun session =>
  match session.scanner index with
  | .error cause => .error (.fault (.ofList cause)) session
  | .ok owner =>
    match rule { owner with journal := session.journal } with
    | .ok a s => .ok a (session.put owner.id s)
    | .error e s => .error e (session.put owner.id s)

/-! ## Operations on one scanner -/

/-- Build a target, or stop with a fault. -/
def build (setting : Setting) (m : Mention) : Rule Wanted :=
  match m.build setting.registry with
  | .ok wanted => pure wanted
  | .error f => Rule.fault f

/-- Build a list of targets. -/
def buildAll (setting : Setting) (ms : List Mention) : Rule (List Wanted) :=
  ms.mapM (build setting)

/-- Run a matcher outside any attempt. -/
def probe (setting : Setting) (m : Scan Match) : Rule Answer := do
  pure (.found (← Rule.onBench setting (Bench.scan m)))

/-- Accept the first target that matches; the answer is its place. -/
def chooseFrom (setting : Setting) : Nat → List Mention → Rule Answer
  | _, [] => pure .nothing
  | place, m :: rest => do
    let wanted ← build setting m
    if ← Rule.accept setting wanted then pure (.count place)
    else chooseFrom setting (place + 1) rest

/-- Accept a target at most `max` times; the answer is how often it matched. The target is built for
each attempt, so not at all when there is none. -/
def acceptMany (setting : Setting) (m : Mention) : (max : Nat) → (count : Nat) → Rule Answer
  | 0, count => pure (.count count)
  | max + 1, count => do
    let wanted ← build setting m
    if ← Rule.accept setting wanted then acceptMany setting m max (count + 1)
    else pure (.count count)

/-- The structural text of a bare value, or a fault. -/
def shownText (d : Datum) : Rule String :=
  match Fault.ofOversize d.quotedText with
  | .ok text => pure text
  | .error f => Rule.fault f

/-- How an attempt at something is described, or a fault if its place cannot be written. -/
def describedAt (described : String) (line : Line) (pos : Int) : Rule Answer :=
  match line.write pos with
  | .ok _ => pure (.text (Entry.attemptText described line pos))
  | .error cause => Rule.fault (.oversize cause)

/-- Run an operation on its scanner. -/
def Action.run (setting : Setting) : Action → Rule Answer
  | .reset line => do
    Rule.reset line
    pure .nothing
  | .accept m => do
    let wanted ← build setting m
    pure (.flag (← Rule.accept setting wanted))
  | .acceptAll ms => do
    let wanted ← buildAll setting ms
    pure (.flag (← Rule.acceptAll setting wanted))
  | .expect m what => do
    let wanted ← build setting m
    Rule.expect setting wanted what
    pure .nothing
  | .error template args => Rule.error setting template args
  | .onCleanup hook => do
    Rule.onCleanup hook
    pure .nothing
  | .value => do pure (.datum (← get).state.value)
  | .matched => do pure (.text (String.ofList (← get).state.matched))
  | .choose ms => chooseFrom setting 0 ms
  | .many m max => acceptMany setting m max 0
  | .assign assignment => do
    modify fun s => { s with state := assignment.apply s.state }
    pure .nothing
  | .scanChar wanted pos =>
    match wanted with
    | [c] => probe setting (Scan.char c pos)
    | _ => probe setting (Scan.noChar pos)
  | .scanLiteral wanted pos => probe setting (Scan.literal wanted pos)
  | .scanTerminal name pos =>
    match setting.registry.find? name with
    | some t => probe setting (Scan.terminal t pos)
    | none => Rule.fault (.unknownTerminal name)
  | .dispatch m => do
    match ← build setting m with
    | .target t => probe setting (Scan.dispatch t)
    | .bare d => Rule.fault (.notDispatchable (← shownText d))
  | .coerce m => do
    let wanted ← build setting m
    pure (.target (← Rule.onBench setting (Bench.coerce setting wanted)))
  | .label m => do
    match ← build setting m with
    | .target t => pure (.text t.label)
    | .bare d => Rule.fault (.unsupportedTarget d.kind)
  | .describe m line pos => do
    match ← build setting m with
    | .target t => describedAt t.describe line pos
    | .bare d => do describedAt ("scan " ++ (← shownText d)) line pos

/-! ## Scripts -/

/-- Parse a line on one scanner with a rule that may work on all of them. -/
def parse {α : Type} (index : Int) (line : Line) (rule : EStateM Failure Session α) :
    EStateM Failure Session α := do
  onScanner index (Rule.reset line)
  let result ← rule
  onScanner index (Rule.onCleanup none)
  pure result

/-- The plan of a sweep on one scanner: each line is parsed with its rule, `use` is given the
answers of a line that parses, and `report` an error of the scanner. All three may work on all
scanners. -/
def plan (index : Int) (owner : Nat) (rule : Line → EStateM Failure Session (List Answer))
    (use : Line → List Answer → EStateM Failure Session Unit)
    (report : ScanError → EStateM Failure Session Unit) :
    Sweep.Plan Session (List Answer) (List Answer) where
  owner := owner
  parse := fun line => parse index line (rule line)
  consume := Sweep.handOn use
  onError := fun e => Sweep.onState (report e)

/-- Log that an error was handled, and stop the sweep if that is asked for. -/
def logHandled (stop : Bool) : EStateM Failure Session Unit := do
  modify fun session => { session with journal := session.journal.push .handled }
  if stop then throw (.fault .stopped)

/-- Sweep over lines; whatever ends the sweep is part of the answer. -/
def sweep (index : Int) (lines : List Line) (rule : EStateM Failure Session (List Answer))
    (stop : Bool) : EStateM Failure Session Answer := fun session =>
  match session.scanner index with
  | .error cause => .error (.fault (.ofList cause)) session
  | .ok owner =>
    let plan := plan index owner.id (fun _ => rule) (fun _ _ => pure ()) fun _ => logHandled stop
    match Sweep.run plan lines { state := session } with
    | .ok _ w => .ok (.swept w.yielded.toList w.errors.toList none) w.state
    | .error e w => .ok (.swept w.yielded.toList w.errors.toList (some e)) w.state

mutual

/-- Run one operation. -/
def Op.run (setting : Setting) : Op → EStateM Failure Session Answer
  | .act index action => onScanner index (action.run setting)
  | .nest body => do pure (.list (← runAll setting body))
  | .parse index line rule => do pure (.list (← Session.parse index line (runAll setting rule)))
  | .sweep index lines rule stop => Session.sweep index lines (runAll setting rule) stop

/-- Run the operations of a script in order. -/
def runAll (setting : Setting) : List Op → EStateM Failure Session (List Answer)
  | [] => pure []
  | op :: rest => do
    let answer ← op.run setting
    let answers ← runAll setting rest
    pure (answer :: answers)

end

end Session

end LineScan
