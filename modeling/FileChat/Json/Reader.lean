import FileChat.Json.Numeral
import FileChat.Json.Fault
import FileChat.Text.Digit

/-!
# Reading JSON

The reader is a pushdown machine: one step a character, a stack of the containers that are open, and
a phase that says what may come next. A number has no end mark of its own, so the character after it
both ends it and is read as a separator.

A strict reader stops at a number beyond the range, at half a surrogate pair and at more than 127
containers inside one another; a lenient one reads on and leaves an unreadable value in the place.
-/

namespace FileChat.Json

/-- A container that is open, its items or members in reverse. -/
inductive Frame where
  | array (items : List Value)
  | object (members : List (String × Value)) (key : String) (legible : Bool)

/-- Where in a numeral the reader stands. -/
inductive NumeralPhase where
  | sign
  | zero
  | whole
  | point
  | fraction
  | mark
  | exponentSign
  | exponent

/-- Where in an escape the reader stands. A leading surrogate waits for its other half. -/
inductive Escape where
  | none
  | opened
  | hex (digits value : Nat) (lead : Option Nat)
  | lead (surrogate : Nat)
  | leadOpened (surrogate : Nat)

/-- A string that is being read, its characters in reverse. -/
structure Scan where
  key : Bool
  text : List Char
  legible : Bool
  escape : Escape

/-- Which closing mark a place for a value admits. -/
inductive ValueSlot where
  | only
  | first
  | next

inductive Phase where
  | value (slot : ValueSlot)
  | key (first : Bool)
  | colon
  | separator
  | literal (rest : List Char) (v : Value)
  | number (n : Numeral) (phase : NumeralPhase)
  | string (s : Scan)
  | finished (v : Value)

structure Reader where
  frames : List Frame
  phase : Phase

namespace Reader

def start : Reader := ⟨[], .value .only⟩

/-- A stop: its cause, and how many bytes beyond those of the characters read it points. -/
abbrev Stop := Cause × Nat

def isBlank (c : Char) : Bool := c == ' ' || c == '\n' || c == '\t' || c == '\r'

/-- The containers that may stand inside one another. -/
def maxDepth : Nat := 127

/-- Puts a complete value where it belongs. -/
def deliver (frames : List Frame) (v : Value) : Reader :=
  match frames with
  | [] => ⟨[], .finished v⟩
  | .array items :: fs => ⟨.array (v :: items) :: fs, .separator⟩
  | .object members key legible :: fs =>
    ⟨.object ((key, v) :: members) key legible :: fs, .separator⟩

/-- Closes the innermost container. -/
def close : List Frame → Reader
  | [] => start
  | .array items :: fs => deliver fs (.array items.reverse)
  | .object members _ legible :: fs =>
    deliver fs (if legible then .object members.reverse else .unreadable)

/-- Opens a container, unless a strict reader has too many open. -/
def openFrame (strict : Bool) (frames : List Frame) (frame : Frame) (phase : Phase) :
    Except Stop Reader :=
  if strict && maxDepth ≤ frames.length then .error (.tooDeep, 1)
  else .ok ⟨frame :: frames, phase⟩

def startString (key : Bool) : Phase := .string ⟨key, [], true, .none⟩

def digit (c : Char) : Nat := c.toNat - '0'.toNat

/-- The first character of a value. -/
def beginValue (strict : Bool) (frames : List Frame) (c : Char) : Except Stop Reader :=
  if c = '"' then .ok ⟨frames, startString false⟩
  else if c = '[' then openFrame strict frames (.array []) (.value .first)
  else if c = '\x7b' then openFrame strict frames (.object [] "" true) (.key true)
  else if c = 'n' then .ok ⟨frames, .literal ['u', 'l', 'l'] .null⟩
  else if c = 't' then .ok ⟨frames, .literal ['r', 'u', 'e'] (.bool true)⟩
  else if c = 'f' then .ok ⟨frames, .literal ['a', 'l', 's', 'e'] (.bool false)⟩
  else if c = '-' then .ok ⟨frames, .number (Numeral.start true) .sign⟩
  else if c = '0' then .ok ⟨frames, .number (Numeral.start false) .zero⟩
  else if c.isDigit then
    .ok ⟨frames, .number ((Numeral.start false).wholeDigit (digit c)) .whole⟩
  else .error (.expectedValue, 1)

/-- A character where a value may begin. -/
def stepValue (strict : Bool) (frames : List Frame) (slot : ValueSlot) (c : Char) :
    Except Stop Reader :=
  if isBlank c then .ok ⟨frames, .value slot⟩
  else
    match slot with
    | .only => beginValue strict frames c
    | .first => if c = ']' then .ok (close frames) else beginValue strict frames c
    | .next => if c = ']' then .error (.trailingComma, 1) else beginValue strict frames c

/-- A character where a key may begin. -/
def stepKey (frames : List Frame) (first : Bool) (c : Char) : Except Stop Reader :=
  if isBlank c then .ok ⟨frames, .key first⟩
  else if c = '"' then .ok ⟨frames, startString true⟩
  else if c = '\x7d' then if first then .ok (close frames) else .error (.trailingComma, 1)
  else .error (.keyNotString, 1)

/-- A character after a complete value. -/
def stepSeparator (frames : List Frame) (c : Char) : Except Stop Reader :=
  if isBlank c then .ok ⟨frames, .separator⟩
  else
    match frames with
    | [] => .error (.trailingCharacters, 1)
    | .array _ :: _ =>
      if c = ']' then .ok (close frames)
      else if c = ',' then .ok ⟨frames, .value .next⟩
      else .error (.expectedListEnd, 1)
    | .object .. :: _ =>
      if c = '\x7d' then .ok (close frames)
      else if c = ',' then .ok ⟨frames, .key false⟩
      else .error (.expectedObjectEnd, 1)

/-- A character after the value that the whole text is. -/
def stepFinished (v : Value) (c : Char) : Except Stop Reader :=
  if isBlank c then .ok ⟨[], .finished v⟩ else .error (.trailingCharacters, 1)

/-- A character after a value, wherever the value belongs. -/
def stepAfter (r : Reader) (c : Char) : Except Stop Reader :=
  match r.phase with
  | .finished v => stepFinished v c
  | _ => stepSeparator r.frames c

/-- The value of a numeral that has ended. -/
def numeralValue (strict : Bool) (n : Numeral) : Except Stop Value :=
  match n.value? with
  | some v => .ok v
  | none => if strict then .error (.numberOutOfRange, 0) else .ok .unreadable

/-- The character after a numeral. -/
def endNumeral (strict : Bool) (frames : List Frame) (n : Numeral) (c : Char) :
    Except Stop Reader :=
  match numeralValue strict n with
  | .ok v => stepAfter (deliver frames v) c
  | .error stop => .error stop

/-- A further digit of an exponent. -/
def exponentDigit (strict : Bool) (frames : List Frame) (n : Numeral) (c : Char) :
    Except Stop Reader :=
  let n := n.exponentDigit (digit c)
  if strict && n.beyond then .error (.numberOutOfRange, 1)
  else .ok ⟨frames, .number n .exponent⟩

/-- A character in a numeral, or the one after it. -/
def stepNumeral (strict : Bool) (frames : List Frame) (n : Numeral) (phase : NumeralPhase)
    (c : Char) : Except Stop Reader :=
  let toPoint : Except Stop Reader := .ok ⟨frames, .number n.point .point⟩
  let toMark : Except Stop Reader := .ok ⟨frames, .number n.mark .mark⟩
  match phase with
  | .sign =>
    if c = '0' then .ok ⟨frames, .number n .zero⟩
    else if c.isDigit then .ok ⟨frames, .number (n.wholeDigit (digit c)) .whole⟩
    else .error (.invalidNumber, 1)
  | .zero =>
    if c.isDigit then .error (.invalidNumber, 1)
    else if c = '.' then toPoint
    else if c = 'e' ∨ c = 'E' then toMark
    else endNumeral strict frames n c
  | .whole =>
    if c.isDigit then .ok ⟨frames, .number (n.wholeDigit (digit c)) .whole⟩
    else if c = '.' then toPoint
    else if c = 'e' ∨ c = 'E' then toMark
    else endNumeral strict frames n c
  | .point =>
    if c.isDigit then .ok ⟨frames, .number (n.fractionDigit (digit c)) .fraction⟩
    else .error (.invalidNumber, 1)
  | .fraction =>
    if c.isDigit then .ok ⟨frames, .number (n.fractionDigit (digit c)) .fraction⟩
    else if c = 'e' ∨ c = 'E' then toMark
    else endNumeral strict frames n c
  | .mark =>
    if c = '-' then .ok ⟨frames, .number { n with exponentNegative := true } .exponentSign⟩
    else if c = '+' then .ok ⟨frames, .number n .exponentSign⟩
    else if c.isDigit then exponentDigit strict frames n c
    else .error (.invalidNumber, 1)
  | .exponentSign =>
    if c.isDigit then exponentDigit strict frames n c else .error (.invalidNumber, 1)
  | .exponent =>
    if c.isDigit then exponentDigit strict frames n c else endNumeral strict frames n c

def isLeadSurrogate (n : Nat) : Bool := 0xD800 ≤ n && n ≤ 0xDBFF

def isTrailSurrogate (n : Nat) : Bool := 0xDC00 ≤ n && n ≤ 0xDFFF

/-- The character that a one-letter escape stands for. -/
def escaped? (c : Char) : Option Char :=
  if c = '"' ∨ c = '\\' ∨ c = '/' then some c
  else if c = 'b' then some '\x08'
  else if c = 'f' then some '\x0c'
  else if c = 'n' then some '\n'
  else if c = 'r' then some '\r'
  else if c = 't' then some '\t'
  else none

namespace Scan

def push (s : Scan) (c : Char) : Scan := { s with text := c :: s.text, escape := .none }

/-- Half a surrogate pair: a stop for a strict reader, and an illegible string for a lenient one. -/
def illegible (s : Scan) : Scan := { s with legible := false, escape := .none }

end Scan

/-- The end of four hexadecimal digits. -/
def endHex (strict : Bool) (s : Scan) (n : Nat) (lead : Option Nat) : Except Stop Scan :=
  match lead with
  | some high =>
    if isTrailSurrogate n then
      .ok (Scan.push s (Char.ofNat ((high - 0xD800) * 0x400 + (n - 0xDC00) + 0x10000)))
    else if strict then .error (.loneSurrogate, 1)
    else .ok (Scan.illegible s)
  | none =>
    if isTrailSurrogate n then
      if strict then .error (.loneSurrogate, 1) else .ok (Scan.illegible s)
    else if isLeadSurrogate n then .ok { s with escape := .lead n }
    else .ok (Scan.push s (Char.ofNat n))

/-- The bytes of some characters. -/
def byteCount (cs : List Char) : Nat := cs.foldr (fun c n => c.utf8Size + n) 0

/-- The stop at a character that is no hexadecimal digit: the escape takes four bytes before it is
judged, and with fewer bytes left the string has no end. -/
def hexStop (digits : Nat) (rest : List Char) : Stop :=
  let left := byteCount rest
  if left < 4 - digits then (.endInString, left) else (.invalidEscape, 4 - digits)

/-- The letter after a backslash. -/
def stepEscape (s : Scan) (c : Char) : Except Stop Scan :=
  if c = 'u' then .ok { s with escape := .hex 0 0 none }
  else
    match escaped? c with
    | some e => .ok (Scan.push s e)
    | none => .error (.invalidEscape, 1)

/-- A character of a string, outside escapes; `none` at the closing quote. -/
def stepText (s : Scan) (c : Char) : Except Stop (Option Scan) :=
  if c = '"' then .ok none
  else if c = '\\' then .ok (some { s with escape := .opened })
  else if c.toNat < 0x20 then .error (.controlCharacter, 1)
  else .ok (some (Scan.push s c))

/-- A character of a string; `none` at the closing quote. The text from that character on is given
because a broken hexadecimal escape looks ahead. -/
def stepScan (strict : Bool) (s : Scan) (c : Char) (rest : List Char) :
    Except Stop (Option Scan) :=
  match s.escape with
  | .none => stepText s c
  | .opened => (stepEscape s c).map some
  | .hex digits value lead =>
    match Text.digit? c with
    | some d =>
      if digits = 3 then (endHex strict s (value * 16 + d) lead).map some
      else .ok (some { s with escape := .hex (digits + 1) (value * 16 + d) lead })
    | none => .error (hexStop digits (c :: rest))
  | .lead high =>
    if c = '\\' then .ok (some { s with escape := .leadOpened high })
    else if strict then .error (.endInHexEscape, 1)
    else stepText (Scan.illegible s) c
  | .leadOpened high =>
    if c = 'u' then .ok (some { s with escape := .hex 0 0 (some high) })
    else if strict then .error (.endInHexEscape, 1)
    else (stepEscape (Scan.illegible s) c).map some

/-- Puts a complete string where it belongs. -/
def endString (frames : List Frame) (s : Scan) : Reader :=
  let text := String.ofList s.text.reverse
  if s.key then
    match frames with
    | .object members _ legible :: fs => ⟨.object members text (legible && s.legible) :: fs, .colon⟩
    | _ => ⟨frames, .colon⟩
  else deliver frames (if s.legible then .string text else .unreadable)

/-- One character; `rest` is the text after it. -/
def step (strict : Bool) (r : Reader) (c : Char) (rest : List Char) : Except Stop Reader :=
  match r.phase with
  | .value slot => stepValue strict r.frames slot c
  | .key first => stepKey r.frames first c
  | .colon =>
    if isBlank c then .ok r
    else if c = ':' then .ok ⟨r.frames, .value .only⟩
    else .error (.expectedColon, 1)
  | .separator => stepSeparator r.frames c
  | .literal [] v => stepAfter (deliver r.frames v) c
  | .literal [e] v => if c = e then .ok (deliver r.frames v) else .error (.expectedIdent, 1)
  | .literal (e :: es) v =>
    if c = e then .ok ⟨r.frames, .literal es v⟩ else .error (.expectedIdent, 1)
  | .number n phase => stepNumeral strict r.frames n phase c
  | .string s =>
    match stepScan strict s c rest with
    | .ok (some s) => .ok ⟨r.frames, .string s⟩
    | .ok none => .ok (endString r.frames s)
    | .error stop => .error stop
  | .finished v => stepFinished v c

/-- The cause of a text that ends inside a container or before a value. -/
def endCause : List Frame → Cause
  | .array _ :: _ => .endInList
  | .object .. :: _ => .endInObject
  | [] => .endInValue

/-- The end of the text. -/
def finish (strict : Bool) (r : Reader) : Except Stop Value :=
  match r.phase with
  | .finished v => .ok v
  | .value .first => .error (.endInList, 0)
  | .value _ => .error (.endInValue, 0)
  | .key first => .error (if first then .endInObject else .endInValue, 0)
  | .colon => .error (.endInObject, 0)
  | .separator => .error (endCause r.frames, 0)
  | .literal .. => .error (.endInValue, 0)
  | .string _ => .error (.endInString, 0)
  | .number n phase =>
    match phase with
    | .zero | .whole | .fraction | .exponent =>
      match numeralValue strict n with
      | .error stop => .error stop
      | .ok v =>
        match r.frames with
        | [] => .ok v
        | frames => .error (endCause frames, 0)
    | _ => .error (.endInValue, 0)

/-- Reads the rest of a text; a stop carries the text that was left. -/
def run (strict : Bool) (r : Reader) : List Char → Except (Stop × List Char) Value
  | [] =>
    match r.finish strict with
    | .ok v => .ok v
    | .error stop => .error (stop, [])
  | c :: cs =>
    match r.step strict c cs with
    | .ok r => run strict r cs
    | .error stop => .error (stop, c :: cs)

end Reader

/-- The line, counted from one, and the bytes read of it, after the first `n` bytes of a text. -/
def place (bytes : List UInt8) (n : Nat) : Nat × Nat :=
  (bytes.take n).foldl
    (fun (p : Nat × Nat) (b : UInt8) => if b = 10 then (p.1 + 1, 0) else (p.1, p.2 + 1)) (1, 0)

/-- Reads a text strictly: a value, or the first fault. -/
def Value.ofText (text : String) : Except Fault Value :=
  match Reader.start.run true text.toList with
  | .ok v => .ok v
  | .error ((cause, beyond), left) =>
    let unread := Reader.byteCount left
    let (line, column) := place text.toUTF8.toList (text.utf8ByteSize - unread + beyond)
    .error ⟨cause, line, column⟩

/-- Reads a text leniently: what a reader of records needs, who skips what it does not know. -/
def Value.ofText? (text : String) : Option Value :=
  match Reader.start.run false text.toList with
  | .ok v => some v
  | .error _ => none

end FileChat.Json
