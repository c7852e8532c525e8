import LineScan.Scan.Registry

/-!
# Targets

What can be scanned for: a literal text, a single character, or a terminal. An application may also
name a target by a bare value: a text stands for itself as a literal, an integer for the terminal
with that id, and no other value is a target.
-/

namespace LineScan

/-- What can be scanned for. -/
inductive Target where
  /-- A text, to be found verbatim and not inside a longer word or number. -/
  | literal (text : Line)
  /-- A single character; NUL stands for the end of the line. -/
  | char (c : Char)
  | terminal (t : Terminal)

/-- The end of the line. -/
def Target.endOfLine : Target := .char Line.nul

/-- A target as an application names it. -/
inductive Wanted where
  | target (t : Target)
  | bare (d : Datum)

/-- The target that is meant. -/
def Wanted.coerce (registry : Registry) : Wanted → Except Fault Target
  | .target t => .ok t
  | .bare (.int n) =>
    match registry.lookup n with
    | .ok t => .ok (.terminal t)
    | .error cause => .error (.ofList cause)
  | .bare (.text s) => .ok (.literal s.toList)
  | .bare d => .error (.unsupportedTarget d.kind)

namespace Target

/-- How a target is called in a message about what was expected. -/
def label : Target → String
  | .literal text => String.ofList (Text.quotationMark :: text ++ [Text.quotationMark])
  | .char c =>
    if Text.isPrintable c then String.ofList [Text.apostrophe, c, Text.apostrophe]
    else String.ofList (Text.hex 1 c.toNat)
  | .terminal t => t.label

/-- How a target is described in a trace. -/
def describe : Target → String
  | .literal text => "scan_literal " ++ (Target.literal text).label
  | .char c =>
    let code := String.ofList (Text.hex 2 c.toNat)
    s!"scan_char {Text.quoted (String.singleton c)} 0x{code}"
  | .terminal t => s!"scan_term {t.name}"

end Target

end LineScan
