import SlotBooking.Json.Basic
import SlotBooking.Text.Digit

/-!
# Reading JSON

`Json.read` accepts one document between blanks and nothing else. Beyond the standard grammar the
names `NaN`, `Infinity` and `-Infinity` are numbers; a number with a fraction or an exponent is
rounded once to binary64; an integer may have up to 4300 digits; and an escaped surrogate is a
symbol of its own unless the other half of its pair is escaped right after it.

Every function takes the symbols that are left and returns what it read with the rest, or the first
fault that it met.
-/

namespace SlotBooking.Json

/-- Something that holds further documents. -/
inductive Container where
  | array | object
deriving DecidableEq, Repr

/-- Why no document could be read. -/
inductive Fault where
  /-- The bytes are not text in their encoding. -/
  | encoding
  /-- The text does not follow the grammar. -/
  | malformed
  /-- An integer has more digits than are read. -/
  | integerLength
  /-- A container stands deeper within others than is read. -/
  | nesting (c : Container)
deriving DecidableEq

/-- The greatest number of digits of an integer. -/
def maxDigits : Nat := 4300

namespace Reader

/-- Space, tab, line feed and carriage return. -/
def isBlank (s : Symbol) : Bool :=
  s = .char ' ' || s = .char '\t' || s = .char '\n' || s = .char '\r'

/-- The symbols from the first one on that is not blank. -/
def skipBlanks (ss : List Symbol) : List Symbol := ss.dropWhile isBlank

/-- The number that four hexadecimal digits write. -/
def hexNumber? : List Symbol → Option Nat
  | [.char a, .char b, .char c, .char d] => do
    return (((← Text.hexValue? a) * 16 + (← Text.hexValue? b)) * 16 + (← Text.hexValue? c)) * 16 +
      (← Text.hexValue? d)
  | _ => none

/-- The character of an escape of one letter. -/
def ofLetter? : Char → Option Char
  | '"' => some '"'
  | '\\' => some '\\'
  | '/' => some '/'
  | 'b' => some '\x08'
  | 'f' => some '\x0c'
  | 'n' => some '\n'
  | 'r' => some '\r'
  | 't' => some '\t'
  | _ => none

/-- The rest of a string whose opening mark has been read; `done` holds its symbols so far, the last
one first. -/
def string (done : List Symbol) : List Symbol → Except Fault (Text × List Symbol)
  | [] => .error .malformed
  | .char '"' :: rest => .ok (⟨done.reverse⟩, rest)
  | .char '\\' :: .char 'u' :: a :: b :: c :: d ::
      .char '\\' :: .char 'u' :: e :: f :: g :: h :: rest =>
    match hexNumber? [a, b, c, d] with
    | none => .error .malformed
    | some high =>
      match (hexNumber? [e, f, g, h]).bind (Symbol.ofPair? high) with
      | some x => string (.char x :: done) rest
      | none =>
        match Symbol.ofCode? high with
        | some s => string (s :: done) (.char '\\' :: .char 'u' :: e :: f :: g :: h :: rest)
        | none => .error .malformed
  | .char '\\' :: .char 'u' :: a :: b :: c :: d :: rest =>
    match (hexNumber? [a, b, c, d]).bind Symbol.ofCode? with
    | some s => string (s :: done) rest
    | none => .error .malformed
  | .char '\\' :: .char c :: rest =>
    match ofLetter? c with
    | some x => string (.char x :: done) rest
    | none => .error .malformed
  | s :: rest => if s.code < 0x20 then .error .malformed else string (s :: done) rest

/-- The value of an ASCII digit. -/
def digit? : Symbol → Option Nat
  | .char c => if c.isDigit then some (c.toNat - 48) else none
  | .lone _ => none

/-- The number that digits write. -/
def natural (digits : List Nat) : Nat := digits.foldl (fun n d => 10 * n + d) 0

/-- A run of ASCII digits and what follows it. -/
def digits (ss : List Symbol) : List Nat × List Symbol :=
  ((ss.takeWhile fun s => (digit? s).isSome).filterMap digit?,
    ss.dropWhile fun s => (digit? s).isSome)

/-- The digits of a fraction, if a point and at least one digit are next. -/
def fraction (ss : List Symbol) : List Nat × List Symbol :=
  match ss with
  | .char '.' :: rest =>
    match digits rest with
    | ([], _) => ([], ss)
    | (ds, rest) => (ds, rest)
  | _ => ([], ss)

/-- An exponent, if its mark and at least one digit are next. -/
def exponent? (ss : List Symbol) : Option (Int × List Symbol) :=
  match ss with
  | .char c :: rest =>
    if c = 'e' ∨ c = 'E' then
      let (negative, rest) := match rest with
        | .char '-' :: rest => (true, rest)
        | .char '+' :: rest => (false, rest)
        | rest => (false, rest)
      match digits rest with
      | ([], _) => none
      | (ds, rest) => some (if negative then -(natural ds : Int) else natural ds, rest)
    else none
  | _ => none

/-- A number after its sign. A leading zero stands alone. -/
def number (negative : Bool) (ss : List Symbol) : Except Fault (Json × List Symbol) :=
  let (whole, rest) := match ss with
    | .char '0' :: rest => ([0], rest)
    | ss => digits ss
  match whole with
  | [] => .error .malformed
  | whole =>
    let (ds, rest) := fraction rest
    match ds, exponent? rest with
    | [], none =>
      if whole.length ≤ maxDigits then
        .ok (int (if negative then -(natural whole : Int) else natural whole), rest)
      else .error .integerLength
    | ds, none => .ok (float (.ofDecimal negative (natural (whole ++ ds)) (-ds.length)), rest)
    | ds, some (e, rest) =>
      .ok (float (.ofDecimal negative (natural (whole ++ ds)) (e - ds.length)), rest)

/-- A name that stands for a document. -/
def name (word : String) (j : Json) (ss : List Symbol) : Except Fault (Json × List Symbol) :=
  let symbols := (Text.ofString word).symbols
  if symbols.isPrefixOf ss then .ok (j, ss.drop symbols.length) else .error .malformed

/-- A name or a number. -/
def scalar (ss : List Symbol) : Except Fault (Json × List Symbol) :=
  match ss with
  | .char 'n' :: _ => name "null" null ss
  | .char 't' :: _ => name "true" (bool true) ss
  | .char 'f' :: _ => name "false" (bool false) ss
  | .char 'N' :: _ => name "NaN" (float .nan) ss
  | .char 'I' :: _ => name "Infinity" (float (.infinity false)) ss
  | .char '-' :: .char 'I' :: _ => name "-Infinity" (float (.infinity true)) ss
  | .char '-' :: rest => number true rest
  | ss => number false ss

mutual

/-- One document, in which at most `depth` containers stand within each other. Every call below it
has read at least one symbol more, so the length of the text is fuel enough. -/
def value : (fuel depth : Nat) → List Symbol → Except Fault (Json × List Symbol)
  | 0, _, _ => .error .malformed
  | fuel + 1, depth, ss =>
    match skipBlanks ss with
    | .char '{' :: rest =>
      match depth with
      | 0 => .error (.nesting .object)
      | depth + 1 =>
        match skipBlanks rest with
        | .char '}' :: rest => .ok (obj [], rest)
        | rest => members fuel depth [] rest
    | .char '[' :: rest =>
      match depth with
      | 0 => .error (.nesting .array)
      | depth + 1 =>
        match skipBlanks rest with
        | .char ']' :: rest => .ok (arr [], rest)
        | rest => items fuel depth [] rest
    | .char '"' :: rest => (string [] rest).map fun (t, rest) => (str t, rest)
    | ss => scalar ss

/-- The members of an object from a name on; `done` holds the ones before, the last one first. -/
def members : (fuel depth : Nat) → (done : List (Text × Json)) → List Symbol →
    Except Fault (Json × List Symbol)
  | 0, _, _, _ => .error .malformed
  | fuel + 1, depth, done, ss =>
    match skipBlanks ss with
    | .char '"' :: rest => do
      let (name, rest) ← string [] rest
      match skipBlanks rest with
      | .char ':' :: rest =>
        let (value, rest) ← value fuel depth rest
        match skipBlanks rest with
        | .char ',' :: rest => members fuel depth ((name, value) :: done) rest
        | .char '}' :: rest => .ok (obj ((name, value) :: done).reverse, rest)
        | _ => .error .malformed
      | _ => .error .malformed
    | _ => .error .malformed

/-- The items of an array from one on; `done` holds the ones before, the last one first. -/
def items : (fuel depth : Nat) → (done : List Json) → List Symbol →
    Except Fault (Json × List Symbol)
  | 0, _, _, _ => .error .malformed
  | fuel + 1, depth, done, ss => do
    let (item, rest) ← value fuel depth ss
    match skipBlanks rest with
    | .char ',' :: rest => items fuel depth (item :: done) rest
    | .char ']' :: rest => .ok (arr (item :: done).reverse, rest)
    | _ => .error .malformed

end

end Reader

/-- The document that a text writes, in which at most `depth` containers stand within each other. -/
def read (depth : Nat) (t : Text) : Except Fault Json := do
  let (j, rest) ← Reader.value (t.symbols.length + 1) depth t.symbols
  if (Reader.skipBlanks rest).isEmpty then .ok j else .error .malformed

/-- The document that a string writes, however deep it is. -/
def ofString? (s : String) : Option Json := (read s.length (.ofString s)).toOption

end SlotBooking.Json
