import LineScan.Message.Template

/-!
# Faults

A *fault* is a failure that is not about the scanned line: a target that cannot be scanned for, a
terminal that does not exist, a position outside the line, a number that is too long. A fault is
never caught by a handler of scan errors.
-/

namespace LineScan

/-- Why a registry refuses an operation. -/
inductive RegistryError where
  /-- The registry is closed. -/
  | frozen (name : String)
  | emptyName
  | duplicate (name : String)
  /-- The terminal came without a scanning function. -/
  | noFunction (name : String)
  /-- A registry without terminals cannot be closed. -/
  | noTerminals
  deriving DecidableEq, Repr

/-- The wording of a registry error. -/
def RegistryError.message : RegistryError → String
  | .frozen name => s!"cannot register terminal {Text.quoted name}: registry is frozen"
  | .emptyName => "terminal name must not be empty"
  | .duplicate name => s!"terminal {Text.quoted name} already registered"
  | .noFunction name => s!"scanner for terminal {Text.quoted name} is not callable"
  | .noTerminals => "at least one terminal must be registered"

/-- A failure that is not about the scanned line. -/
inductive Fault where
  /-- A position too far before the start of a line. -/
  | outsideLine
  /-- No such entry in a list. -/
  | outsideList
  /-- A number that is no index of any line or list. -/
  | unaddressable
  | overlong (cause : Text.Overlong)
  /-- A value of this kind is no scan target. -/
  | unsupportedTarget (kind : String)
  /-- A character target was given by a text of another length than one. -/
  | notOneCharacter (text : String)
  /-- No terminal has that name. -/
  | unknownTerminal (name : String)
  /-- A value, shown by its structural text, was dispatched although it is no target. -/
  | notDispatchable (shown : String)
  | registry (cause : RegistryError)
  | template (cause : Message.TemplateError)
  | oversize (cause : Decimal.Oversize)
  /-- The function needs at least one argument. -/
  | noArguments (function : String)
  /-- A random number was to be drawn from zero up to a negative limit. -/
  | emptyRange (limit : Int)
  /-- A random number was to be drawn from a range of width zero. -/
  | zeroModulus
  /-- A handler asked to stop. -/
  | stopped
  deriving DecidableEq, Repr

/-- The longest structural text that `notDispatchable` shows in full. -/
def Fault.shownLimit : Nat := 100

/-- The wording of a fault. -/
def Fault.message : Fault → String
  | .outsideLine => "string index out of range"
  | .outsideList => "list index out of range"
  | .unaddressable => "cannot fit 'int' into an index-sized integer"
  | .overlong cause => cause.message
  | .unsupportedTarget kind => s!"unsupported scan target type: {kind}"
  | .notOneCharacter text =>
    s!"Char target needs exactly one character, got {Text.quoted text}"
  | .unknownTerminal name => Text.quoted name
  | .notDispatchable shown =>
    let cs := shown.toList
    let cut :=
      if cs.length > shownLimit then String.ofList (cs.take shownLimit) ++ "..." else shown
    s!"Expected code to be unreachable, but got: {cut}"
  | .registry cause => cause.message
  | .template cause => cause.message
  | .oversize cause => cause.message
  | .noArguments function => s!"{function}() arg is an empty sequence"
  | .emptyRange limit =>
    match Decimal.write (limit + 1) with
    | .ok width => s!"empty range for randrange() (0, {width}, {width})"
    | .error cause => cause.message
  | .zeroModulus => "integer modulo by zero"
  | .stopped => "stopped"

/-- The fault of an index that leads nowhere in a line. -/
def Fault.ofLine : Misplaced → Fault
  | .outside => .outsideLine
  | .unaddressable => .unaddressable

/-- The fault of an index that leads nowhere in a list. -/
def Fault.ofList : Misplaced → Fault
  | .outside => .outsideList
  | .unaddressable => .unaddressable

/-- Turn a failed decimal conversion into a fault. -/
def Fault.ofOversize {α : Type} : Except Decimal.Oversize α → Except Fault α :=
  Except.mapError .oversize

end LineScan
