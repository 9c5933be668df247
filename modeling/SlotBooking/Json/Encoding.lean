import SlotBooking.Json.Reader

/-!
# Bodies of messages

The body of a message is a sequence of bytes. A JSON text opens with two ASCII characters, so that
the zeros among the first four bytes tell whether it is in UTF-8, UTF-16 or UTF-32 and in which
order the bytes of a unit are. Surrogates that are not half of a pair are symbols of their own.

* `Encoding.ofBytes`: the encoding that the first bytes tell.
* `Encoding.decode?`: the text that bytes are in an encoding.
* `readBody`: the document of a body.
-/

namespace SlotBooking.Json

/-- The order of the bytes of a unit. -/
inductive ByteOrder where
  | bigEndian | littleEndian
deriving DecidableEq, Repr

/-- An encoding of texts. -/
inductive Encoding where
  | utf8
  | utf16 (o : ByteOrder)
  | utf32 (o : ByteOrder)
deriving DecidableEq, Repr

namespace Encoding

/-- The encoding that the first bytes of a JSON text tell. -/
def ofBytes : List Nat → Encoding
  | a :: b :: c :: d :: _ =>
    if a = 0 then if b = 0 then utf32 .bigEndian else utf16 .bigEndian
    else if b = 0 then if c = 0 ∧ d = 0 then utf32 .littleEndian else utf16 .littleEndian
    else utf8
  | [a, b] =>
    if a = 0 then utf16 .bigEndian else if b = 0 then utf16 .littleEndian else utf8
  | _ => utf8

/-- The number that the bytes of a unit write. -/
def unit (o : ByteOrder) (bytes : List Nat) : Nat :=
  (match o with
    | .bigEndian => bytes
    | .littleEndian => bytes.reverse).foldl (fun n b => 256 * n + b) 0

/-- The units of two bytes. -/
def units16? (o : ByteOrder) : List Nat → Option (List Nat)
  | [] => some []
  | a :: b :: rest => (units16? o rest).map (unit o [a, b] :: ·)
  | _ => none

/-- The units of four bytes. -/
def units32? (o : ByteOrder) : List Nat → Option (List Nat)
  | [] => some []
  | a :: b :: c :: d :: rest => (units32? o rest).map (unit o [a, b, c, d] :: ·)
  | _ => none

/-- The symbols of units of UTF-16, in which a pair of surrogates is one character. -/
def joinPairs? : List Nat → Option (List Symbol)
  | [] => some []
  | [u] => (Symbol.ofCode? u).map ([·])
  | u :: v :: rest =>
    match Symbol.ofPair? u v with
    | some c => (joinPairs? rest).map (.char c :: ·)
    | none => do return (← Symbol.ofCode? u) :: (← joinPairs? (v :: rest))

/-- The text that bytes are. A mark of the byte order at the beginning of UTF-8 is not part of it.
-/
def decode? (e : Encoding) (bytes : List Nat) : Option Text :=
  match e with
  | utf8 =>
    (String.fromUTF8? (bytes.map UInt8.ofNat).toByteArray).map fun s =>
      .ofString (s.dropPrefix '\uFEFF').toString
  | utf16 o => do return ⟨← joinPairs? (← units16? o bytes)⟩
  | utf32 o => do return ⟨← (← units32? o bytes).mapM Symbol.ofCode?⟩

end Encoding

/-- The document of a body, in which at most `depth` containers stand within each other. -/
def readBody (depth : Nat) (body : String) : Except Fault Json :=
  let bytes := body.toUTF8.toList.map UInt8.toNat
  match (Encoding.ofBytes bytes).decode? bytes with
  | some t => read depth t
  | none => .error .encoding

end SlotBooking.Json
