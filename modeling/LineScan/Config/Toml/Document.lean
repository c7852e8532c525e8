import LineScan.Config.Toml.Table

/-!
# TOML documents

A document is a sequence of statements, one on a line: a header in brackets, or a key with a value.
Values nest, through arrays and inline tables. Every step of the readers below takes at least one
character, so the length of the text bounds their number.

How deep values may nest is up to the stack of calls on which they are read, see `Stack`.
-/

namespace LineScan.Toml

/-! ## Comments and keys -/

/-- Skip a comment at the front of a text, up to the end of the line. -/
def skipComment : List Char → Except Error (List Char)
  | '#' :: rest =>
    let body := rest.takeWhile (· != '\n')
    if body.any (isForbidden false) then malformed else .ok (rest.drop body.length)
  | text => .ok text

/-- Skip blanks, breaks and comments between the parts of an array; `fuel` bounds the comments. -/
def skipFiller : Nat → List Char → Except Error (List Char)
  | 0, text => .ok text
  | fuel + 1, text =>
    match text.dropWhile isSpaceOrBreak with
    | '#' :: rest => do
      let rest ← skipComment ('#' :: rest)
      skipFiller fuel rest
    | rest => .ok rest

/-- The characters of a bare key. -/
def isBare (c : Char) : Bool := c.isAlphanum || c == '-' || c == '_'

/-- One name of a dotted key. -/
def readName : Reader String := fun text =>
  match text with
  | [] => malformed
  | c :: rest =>
    if isBare c then
      .ok (String.ofList (text.takeWhile isBare), text.dropWhile isBare)
    else if c == Text.apostrophe then
      (readLiteral rest).map fun (body, rest) => (String.ofList body, rest)
    else if c == Text.quotationMark then
      (readBasic false (rest.length + 1) [] rest).map fun (body, rest) => (String.ofList body, rest)
    else malformed

/-- A dotted key, and the blanks after it; `fuel` bounds the number of names. -/
def readKey : Nat → Reader Key
  | 0, _ => malformed
  | fuel + 1, text => do
    let (name, rest) ← readName text
    match rest.dropWhile isSpace with
    | '.' :: rest => do
      let (key, rest) ← readKey fuel (rest.dropWhile isSpace)
      pure (name :: key, rest)
    | rest => pure ([name], rest)

/-- A dotted key, an equals sign, and the blanks around them. -/
def readKeyAndEquals (text : List Char) : Except Error (Key × List Char) := do
  let (key, rest) ← readKey text.length text
  match rest with
  | '=' :: rest => pure (key, rest.dropWhile isSpace)
  | _ => malformed

/-! ## Values -/

/-- A stack of calls. Each call that is open takes up some of it, and how many there is room for is
up to the machine. -/
structure Stack where
  /-- While so many calls are open for the arrays and tables around it, there is room for the calls
  that it takes to read the value at the front of a text, but for the values within that. -/
  reads (calls : Nat) (text : List Char) : Bool
  /-- There is room for the calls that it takes to write a value as a text. -/
  writes (d : Datum) : Bool

namespace Stack

/-- The calls that may be open at once, unless another limit is set. -/
def defaultRoom : Nat := 1000

/-- A stack with room for so many calls, of which what is not nested takes none. -/
def bounded (room : Nat) : Stack where
  reads calls _ := calls ≤ room
  writes d := d.depth ≤ room

/-- The items of an array are read within two calls, for the value and for the array. -/
def arrayCalls : Nat := 2

/-- The values of an inline table are read within three, for the value, the table and the entry. -/
def tableCalls : Nat := 3

end Stack

mutual

/-- A value, within so many calls. -/
def readValue (stack : Stack) : Nat → (calls : Nat) → Reader Datum
  | 0, _, _ => malformed
  | fuel + 1, calls, text =>
    if stack.reads calls text then
      match text with
      | '[' :: rest => do
        let rest ← skipFiller rest.length rest
        match rest with
        | ']' :: rest => pure (.list [], rest)
        | rest => do
          let (items, rest) ← readItems stack fuel (calls + Stack.arrayCalls) rest
          pure (.list items, rest)
      | '\x7b' :: rest =>
        match rest.dropWhile isSpace with
        | '\x7d' :: rest => pure (.table [], rest)
        | rest => do
          let (entries, rest) ← readEntries stack fuel (calls + Stack.tableCalls) [] [] rest
          pure (.table entries, rest)
      | text => readScalar text
    else .error .tooDeep

/-- The items of an array, at least one, up to its closing bracket. A comma may stand before the
bracket. -/
def readItems (stack : Stack) : Nat → (calls : Nat) → Reader (List Datum)
  | 0, _, _ => malformed
  | fuel + 1, calls, text => do
    let (first, rest) ← readValue stack fuel calls text
    let rest ← skipFiller rest.length rest
    match rest with
    | ']' :: rest => pure ([first], rest)
    | ',' :: rest => do
      let rest ← skipFiller rest.length rest
      match rest with
      | ']' :: rest => pure ([first], rest)
      | rest => do
        let (others, rest) ← readItems stack fuel calls rest
        pure (first :: others, rest)
    | _ => malformed

/-- The entries of an inline table, at least one more, up to its closing brace. No comma stands
before the brace. -/
def readEntries (stack : Stack) : Nat → (calls : Nat) → Closed → Table → Reader Table
  | 0, _, _, _, _ => malformed
  | fuel + 1, calls, closed, table, text => do
    let (key, rest) ← readKeyAndEquals text
    let (value, rest) ← readValue stack fuel calls rest
    let table ← table.enterInline closed key value
    match rest.dropWhile isSpace with
    | '\x7d' :: rest => pure (table, rest)
    | ',' :: rest =>
      let closed := if isContainer value then key :: closed else closed
      readEntries stack fuel calls closed table (rest.dropWhile isSpace)
    | _ => malformed

end

/-! ## Statements -/

/-- A header that declares a table, from just after its bracket. -/
def readTableHeader (d : Draft) (text : List Char) : Except Error (Draft × List Char) := do
  let (key, rest) ← readKey text.length (text.dropWhile isSpace)
  let d ← d.settle.openTable key
  match rest with
  | ']' :: rest => pure (d, rest)
  | _ => malformed

/-- A header that appends a table to an array, from just after its two brackets. -/
def readArrayHeader (d : Draft) (text : List Char) : Except Error (Draft × List Char) := do
  let (key, rest) ← readKey text.length (text.dropWhile isSpace)
  let d ← d.settle.openArrayTable key
  match rest with
  | ']' :: ']' :: rest => pure (d, rest)
  | _ => malformed

/-- A key with its value. -/
def readEntry (stack : Stack) (d : Draft) (text : List Char) :
    Except Error (Draft × List Char) := do
  let (key, rest) ← readKeyAndEquals text
  let (value, rest) ← readValue stack (rest.length + 1) 0 rest
  let d ← d.enter key value
  pure (d, rest)

/-- One statement, or none on an empty line. -/
def readStatement (stack : Stack) (d : Draft) (text : List Char) :
    Except Error (Draft × List Char) :=
  match text with
  | [] => pure (d, [])
  | '\n' :: _ => pure (d, text)
  | '#' :: _ => pure (d, text)
  | '[' :: '[' :: rest => readArrayHeader d rest
  | '[' :: rest => readTableHeader d rest
  | text => readEntry stack d text

/-- The end of a statement: blanks and a comment, then a break or the end of the document. -/
def finishLine (text : List Char) : Except Error (List Char) := do
  let rest ← skipComment (text.dropWhile isSpace)
  match rest with
  | [] => pure []
  | '\n' :: rest => pure rest
  | _ => malformed

/-- All statements; `fuel` bounds their number. -/
def readStatements (stack : Stack) : Nat → Draft → List Char → Except Error Draft
  | 0, d, _ => pure d
  | _, d, [] => pure d
  | fuel + 1, d, text => do
    let (d, rest) ← readStatement stack d (text.dropWhile isSpace)
    let rest ← finishLine rest
    readStatements stack fuel d rest

/-- Read a carriage return before a line feed as part of the break. -/
def dropReturns : List Char → List Char
  | '\r' :: '\n' :: rest => '\n' :: dropReturns rest
  | c :: rest => c :: dropReturns rest
  | [] => []

/-- Read a document. -/
def parse (stack : Stack) (text : List Char) : Except Error Table := do
  let text := dropReturns text
  let d ← readStatements stack (text.length + 1) {} text
  pure d.root

end LineScan.Toml
