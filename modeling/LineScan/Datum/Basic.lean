import LineScan.Datum.Calendar
import LineScan.Decimal.Layout
import LineScan.Text.Quoted

/-!
# Dynamic values

A scanned value, an argument of a message and an entry of a configuration file can be of any kind.
`Datum` is the one type for all of them. A datum has two texts: the *plain* one, in which a text
stands for itself, and the *structural* one, in which it is quoted; the members of a list or a table
are always shown structurally.
-/

namespace LineScan

/-- A value of any kind. -/
inductive Datum where
  | none
  | bool (b : Bool)
  | int (n : Int)
  | float (x : Float)
  | text (s : String)
  | list (items : List Datum)
  | table (entries : List (String × Datum))
  | date (d : Date)
  | time (t : TimeOfDay)
  | dateTime (d : Date) (t : TimeOfDay) (offset : Option Int)

namespace Datum

instance : Inhabited Datum := ⟨.none⟩

/-- The name of a datum's kind, as messages give it. -/
def kind : Datum → String
  | .none => "NoneType"
  | .bool _ => "bool"
  | .int _ => "int"
  | .float _ => "float"
  | .text _ => "str"
  | .list _ => "list"
  | .table _ => "dict"
  | .date _ => "datetime.date"
  | .time _ => "datetime.time"
  | .dateTime .. => "datetime.datetime"

/-- The text of a truth value. -/
def boolText (b : Bool) : String := if b then "True" else "False"

mutual

/-- How many lists and tables are nested in each other. -/
def depth : Datum → Nat
  | .list items => depthItems items + 1
  | .table entries => depthEntries entries + 1
  | _ => 0

/-- The depth of the deepest item of a list. -/
def depthItems : List Datum → Nat
  | [] => 0
  | d :: rest => max (depth d) (depthItems rest)

/-- The depth of the deepest value of a table. -/
def depthEntries : List (String × Datum) → Nat
  | [] => 0
  | (_, d) :: rest => max (depth d) (depthEntries rest)

end

/-- Between texts, a comma and a blank. -/
def commaJoin (texts : List String) : String := String.intercalate ", " texts

mutual

/-- The structural text, where `quote` says how a text is quoted. Integers that are too long have
none. -/
def structural (quote : String → String) : Datum → Except Decimal.Oversize String
  | .none => pure "None"
  | .bool b => pure (boolText b)
  | .int n => Decimal.write n
  | .float x => pure (Decimal.floatText x)
  | .text s => pure (quote s)
  | .list items => do
    let texts ← structuralItems quote items
    pure ("[" ++ commaJoin texts ++ "]")
  | .table entries => do
    let texts ← structuralEntries quote entries
    pure ("\x7b" ++ commaJoin texts ++ "\x7d")
  | .date d => pure s!"datetime.date({d.parts})"
  | .time t => pure s!"datetime.time({t.parts})"
  | .dateTime d t offset =>
    let zone := match offset with
      | .none => ""
      | .some minutes => s!", tzinfo={offsetParts minutes}"
    pure s!"datetime.datetime({d.parts}, {t.parts}{zone})"

/-- The structural texts of the items of a list. -/
def structuralItems (quote : String → String) :
    List Datum → Except Decimal.Oversize (List String)
  | [] => pure []
  | d :: rest => do
    let first ← structural quote d
    let others ← structuralItems quote rest
    pure (first :: others)

/-- The structural texts of the entries of a table, each a quoted key, a colon and the value. -/
def structuralEntries (quote : String → String) :
    List (String × Datum) → Except Decimal.Oversize (List String)
  | [] => pure []
  | (key, d) :: rest => do
    let first ← structural quote d
    let others ← structuralEntries quote rest
    pure ((quote key ++ ": " ++ first) :: others)

end

/-- The structural text, every visible character standing for itself. -/
def quotedText (d : Datum) : Except Decimal.Oversize String := structural Text.quoted d

/-- The structural text in ASCII. -/
def quotedAsciiText (d : Datum) : Except Decimal.Oversize String := structural Text.quotedAscii d

/-- The plain text: texts and calendar values stand for themselves, all else is structural. -/
def plainText : Datum → Except Decimal.Oversize String
  | .text s => pure s
  | .date d => pure d.text
  | .time t => pure t.text
  | .dateTime d t offset =>
    let zone := match offset with
      | .none => ""
      | .some minutes => offsetText minutes
    pure s!"{d.text} {t.text}{zone}"
  | d => quotedText d

end Datum

end LineScan
