import Scad.Decimal.Digits

/-!
# JSON tokens

Text is cut into tokens by a machine that reads one character at a time. The
first character that no token can go on with leaves a `junk` token, and nothing
is read after it; so the tokens of a faulty text are those before the fault.

A string token has no content if it holds half of a surrogate pair: the token
is well formed, but there is no text that it stands for. A number token says
whether the number is within the range of a 64-bit floating-point number.
-/

namespace Scad.Json

open Decimal (Digits isDigit isExponentMark)

inductive Token where
  | openBrace
  | closeBrace
  | openBracket
  | closeBracket
  | colon
  | comma
  | string (content : Option String)
  | number (inRange : Bool)
  | bool (b : Bool)
  | null
  | junk
deriving DecidableEq, Repr

/-! ## The machine -/

/-- Where the machine is within a number. -/
inductive NumberPart where
  | sign
  | zero
  | whole
  | point
  | places
  | mark
  | exponentSign
  | exponent
deriving DecidableEq, Repr

/-- The text of a string so far, last character first, or nothing if it has
none; `high` is the first half of a surrogate pair that waits for the second. -/
structure Content where
  reversed : Option (List Char)
  high : Option Nat
deriving DecidableEq, Repr

namespace Content

def empty : Content := ⟨some [], none⟩

def push (s : Content) (c : Char) : Content :=
  match s.high with
  | none => ⟨s.reversed.map (c :: ·), none⟩
  | some _ => ⟨none, none⟩

/-- Adds a 16-bit unit, which may be half of a pair. -/
def pushUnit (s : Content) (unit : Nat) : Content :=
  let isHigh := 0xD800 ≤ unit && unit ≤ 0xDBFF
  let isLow := 0xDC00 ≤ unit && unit ≤ 0xDFFF
  match s.high with
  | none =>
      if isHigh then ⟨s.reversed, some unit⟩
      else if isLow then ⟨none, none⟩
      else ⟨s.reversed.map (Char.ofNat unit :: ·), none⟩
  | some high =>
      if isLow then
        let code := 0x10000 + (high - 0xD800) * 0x400 + (unit - 0xDC00)
        ⟨s.reversed.map (Char.ofNat code :: ·), none⟩
      else ⟨none, none⟩

def finish (s : Content) : Option String :=
  match s.high with
  | none => s.reversed.map fun l => String.ofList l.reverse
  | some _ => none

end Content

inductive Mode where
  | between
  | word (rest : List Char) (token : Token)
  | number (part : NumberPart) (reversed : List Char)
  | string (content : Content)
  | escape (content : Content)
  /-- Some hexadecimal digits of a unit are still to come. -/
  | unit (content : Content) (missing value : Nat)
  | stuck
deriving DecidableEq, Repr

def isSpace (c : Char) : Bool := c == ' ' || c == '\n' || c == '\t' || c == '\r'

def hexValue? (c : Char) : Option Nat :=
  if '0' ≤ c && c ≤ '9' then some (c.toNat - '0'.toNat)
  else if 'a' ≤ c && c ≤ 'f' then some (c.toNat - 'a'.toNat + 10)
  else if 'A' ≤ c && c ≤ 'F' then some (c.toNat - 'A'.toNat + 10)
  else none

/-- What a character behind a backslash stands for. -/
def unescape? (c : Char) : Option Char :=
  match c with
  | '"' => some '"'
  | '\\' => some '\\'
  | '/' => some '/'
  | 'b' => some '\x08'
  | 'f' => some '\x0c'
  | 'n' => some '\n'
  | 'r' => some '\r'
  | 't' => some '\t'
  | _ => none

/-- A token begins. -/
def start (c : Char) : List Token × Mode :=
  match c with
  | '{' => ([.openBrace], .between)
  | '}' => ([.closeBrace], .between)
  | '[' => ([.openBracket], .between)
  | ']' => ([.closeBracket], .between)
  | ':' => ([.colon], .between)
  | ',' => ([.comma], .between)
  | '"' => ([], .string .empty)
  | 'n' => ([], .word ['u', 'l', 'l'] .null)
  | 't' => ([], .word ['r', 'u', 'e'] (.bool true))
  | 'f' => ([], .word ['a', 'l', 's', 'e'] (.bool false))
  | '-' => ([], .number .sign ['-'])
  | '0' => ([], .number .zero ['0'])
  | c =>
      if isSpace c then ([], .between)
      else if isDigit c then ([], .number .whole [c])
      else ([.junk], .stuck)

/-- Where a number goes on with a character; nothing if the character is not
part of it. -/
def NumberPart.next (part : NumberPart) (c : Char) : Option NumberPart :=
  match part with
  | .sign => if c == '0' then some .zero else if isDigit c then some .whole else none
  | .zero => if c == '.' then some .point else if isExponentMark c then some .mark else none
  | .whole =>
      if isDigit c then some .whole
      else if c == '.' then some .point
      else if isExponentMark c then some .mark
      else none
  | .point => if isDigit c then some .places else none
  | .places => if isDigit c then some .places else if isExponentMark c then some .mark else none
  | .mark =>
      if c == '+' || c == '-' then some .exponentSign
      else if isDigit c then some .exponent
      else none
  | .exponentSign => if isDigit c then some .exponent else none
  | .exponent => if isDigit c then some .exponent else none

/-- A number may end here. -/
def NumberPart.mayEnd : NumberPart → Bool
  | .zero => true
  | .whole => true
  | .places => true
  | .exponent => true
  | _ => false

def numberToken (reversed : List Char) : Token :=
  .number !(Digits.ofText reversed.reverse).overflows

/-- A number ends before a character. No digit may follow a leading zero. -/
def endNumber (part : NumberPart) (reversed : List Char) (c : Char) : List Token × Mode :=
  if part.mayEnd && !(part == .zero && isDigit c) then
    let (tokens, mode) := start c
    (numberToken reversed :: tokens, mode)
  else ([.junk], .stuck)

def step (mode : Mode) (c : Char) : List Token × Mode :=
  match mode with
  | .between => start c
  | .word [] token =>
      let (tokens, mode) := start c
      (token :: tokens, mode)
  | .word (expected :: rest) token =>
      if c = expected then
        match rest with
        | [] => ([token], .between)
        | rest => ([], .word rest token)
      else ([.junk], .stuck)
  | .number part reversed =>
      match part.next c with
      | some part => ([], .number part (c :: reversed))
      | none => endNumber part reversed c
  | .string content =>
      if c = '"' then ([.string content.finish], .between)
      else if c = '\\' then ([], .escape content)
      else if c.toNat < 0x20 then ([.junk], .stuck)
      else ([], .string (content.push c))
  | .escape content =>
      if c = 'u' then ([], .unit content 4 0)
      else
        match unescape? c with
        | some c => ([], .string (content.push c))
        | none => ([.junk], .stuck)
  | .unit content missing value =>
      match hexValue? c with
      | none => ([.junk], .stuck)
      | some digit =>
          let value := value * 16 + digit
          if missing ≤ 1 then ([], .string (content.pushUnit value))
          else ([], .unit content (missing - 1) value)
  | .stuck => ([], .stuck)

/-- What is left when the text ends. -/
def finish (mode : Mode) : List Token :=
  match mode with
  | .between => []
  | .stuck => []
  | .number part reversed => if part.mayEnd then [numberToken reversed] else [.junk]
  | _ => [.junk]

def tokensFrom (mode : Mode) : List Char → List Token
  | [] => finish mode
  | c :: rest =>
      let (tokens, mode) := step mode c
      tokens ++ tokensFrom mode rest

def tokens (s : String) : List Token := tokensFrom .between s.toList

end Scad.Json
