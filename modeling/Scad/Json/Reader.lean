import Scad.Json.Token

/-!
# Reading JSON

A value is read from tokens from left to right, and the first fault decides:
either the text is not JSON, or it is JSON of another shape than the one that
is read. A reader answers with what it has read and the tokens after it.
-/

namespace Scad.Json

inductive ReadFault where
  | notJson
  | wrongShape
  | missingField (name : String)
  | duplicateField (name : String)
  /-- A value of the right shape that is refused for what it says. -/
  | refused (message : String)
deriving DecidableEq, Repr

def ReadFault.message? : ReadFault → Option String
  | .notJson => none
  | .wrongShape => none
  | .missingField name => some ("missing field `" ++ name ++ "`")
  | .duplicateField name => some ("duplicate field `" ++ name ++ "`")
  | .refused message => some message

abbrev Reader (α : Type) := List Token → Except ReadFault (α × List Token)

variable {α σ : Type}

/-- The fault of tokens that do not begin with the value asked for. -/
def unexpected : List Token → ReadFault
  | .openBrace :: _ => .wrongShape
  | .openBracket :: _ => .wrongShape
  | .string (some _) :: _ => .wrongShape
  | .number true :: _ => .wrongShape
  | .bool _ :: _ => .wrongShape
  | .null :: _ => .wrongShape
  | _ => .notJson

def readString : Reader String
  | .string (some s) :: rest => .ok (s, rest)
  | tokens => .error (unexpected tokens)

/-- The value of a member, behind its colon. -/
def behindColon (value : Reader α) : Reader α
  | .colon :: rest => value rest
  | _ => .error .notJson

/-! ## Objects and arrays -/

/-- The members of an object, taken one by one into a state. `member` gets the
key and the tokens behind it; a key without content has none. -/
def membersFrom (member : Option String → σ → Reader σ) :
    Nat → Bool → σ → Reader σ
  | 0, _, _ => fun _ => .error .notJson
  | fuel + 1, isFirst, state => fun tokens =>
      match isFirst, tokens with
      | _, .closeBrace :: rest => .ok (state, rest)
      | true, .string key :: rest => do
          let (state, rest) ← member key state rest
          membersFrom member fuel false state rest
      | false, .comma :: .string key :: rest => do
          let (state, rest) ← member key state rest
          membersFrom member fuel false state rest
      | _, _ => .error .notJson

/-- The members of an object behind its brace. Each takes a token, so the
number of tokens bounds the number of members. -/
def members (member : Option String → σ → Reader σ) (state : σ) : Reader σ :=
  fun tokens => membersFrom member (tokens.length + 1) true state tokens

/-- Behind the bracket of an array or behind an item: the tokens of the next
item, or those behind the array. -/
def nextItem (isFirst : Bool) : List Token → Except ReadFault (Bool × List Token)
  | .closeBracket :: rest => .ok (false, rest)
  | tokens =>
      if isFirst then .ok (true, tokens)
      else
        match tokens with
        | .comma :: .closeBracket :: _ => .error .notJson
        | .comma :: rest => .ok (true, rest)
        | _ => .error .notJson

def itemsFrom (item : Reader α) : Nat → Bool → Reader (List α)
  | 0, _ => fun _ => .error .notJson
  | fuel + 1, isFirst => fun tokens => do
      let (more, rest) ← nextItem isFirst tokens
      if more then
        let (value, rest) ← item rest
        let (values, rest) ← itemsFrom item fuel false rest
        return (value :: values, rest)
      else return ([], rest)

/-- The items of an array behind its bracket. -/
def items (item : Reader α) : Reader (List α) :=
  fun tokens => itemsFrom item (tokens.length + 1) true tokens

/-! ## Values that are passed over -/

/-- Passes over one value of any shape. -/
def skipFrom : Nat → Reader Unit
  | 0 => fun _ => .error .notJson
  | fuel + 1 => fun tokens =>
      match tokens with
      | .string _ :: rest => .ok ((), rest)
      | .number _ :: rest => .ok ((), rest)
      | .bool _ :: rest => .ok ((), rest)
      | .null :: rest => .ok ((), rest)
      | .openBrace :: rest => members (fun _ _ => behindColon (skipFrom fuel)) () rest
      | .openBracket :: rest => do
          let (_, rest) ← items (skipFrom fuel) rest
          return ((), rest)
      | _ => .error .notJson

def skip : Reader Unit := fun tokens => skipFrom (tokens.length + 1) tokens

/-! ## Whole texts -/

/-- Reads a text that holds one value and nothing else. -/
def readAll (value : Reader α) (s : String) : Except ReadFault α := do
  let (result, rest) ← value (tokens s)
  if rest.isEmpty then return result else .error .notJson

end Scad.Json
