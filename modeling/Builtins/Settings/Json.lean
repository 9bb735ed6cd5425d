import Builtins.Text.Digits

/-!
# JSON text

The tokens of JSON text and its grammar, without numbers as numbers: settings hold none.

* `JsonToken` is a token; `jsonTokens?` cuts a text into tokens.
* `skipValue?` passes over one value of any depth.
* `jsonQuoted` writes a string.
-/

namespace Builtins

/-- A token of JSON text. A string with an unpaired surrogate among its escapes has no text. -/
inductive JsonToken where
  | openBrace
  | closeBrace
  | openBracket
  | closeBracket
  | colon
  | comma
  | null
  | boolean (b : Bool)
  | number
  | string (text : Option String)
deriving DecidableEq, Repr

def isJsonBlank (c : Char) : Bool := c == ' ' || c == '\t' || c == '\n' || c == '\r'

def hexUnit? (a b c d : Char) : Option Nat := ofDigits? 16 [a, b, c, d]

/-- The character of an escape that is not a unit. -/
def shortEscape? (c : Char) : Option Char :=
  if c = '"' ∨ c = '\\' ∨ c = '/' then some c
  else if c = 'b' then some '\x08'
  else if c = 'f' then some '\x0c'
  else if c = 'n' then some '\n'
  else if c = 'r' then some '\r'
  else if c = 't' then some '\t'
  else none

/-- A part of a string: a character, or a 16-bit unit that is a surrogate. -/
inductive StringPart where
  | char (c : Char)
  | surrogate (unit : Nat)
deriving DecidableEq, Repr

/-- The part that a unit stands for. -/
def StringPart.ofUnit (unit : Nat) : StringPart :=
  if 0xD800 ≤ unit ∧ unit < 0xE000 then .surrogate unit else .char (Char.ofNat unit)

/-- The characters of a string, if every surrogate belongs to a pair. -/
def joinParts? : List StringPart → Option (List Char)
  | [] => some []
  | .char c :: rest => (joinParts? rest).map (c :: ·)
  | .surrogate high :: .surrogate low :: rest =>
    if high < 0xDC00 ∧ 0xDC00 ≤ low then
      (joinParts? rest).map
        (Char.ofNat (0x10000 + (high - 0xD800) * 0x400 + (low - 0xDC00)) :: ·)
    else none
  | .surrogate _ :: _ => none

/-- Where the tokenizer stands. Runs hold the latest part first. -/
inductive JsonMode where
  | between
  /-- In a word of letters. -/
  | word (run : List Char)
  /-- In a number. -/
  | digits (run : List Char)
  | string (run : List StringPart)
  /-- After a backslash in a string. -/
  | escape (run : List StringPart)
  /-- In the digits of a unit. -/
  | unit (run : List StringPart) (digits : List Char)
deriving DecidableEq, Repr

def wordToken? (w : String) : Option JsonToken :=
  if w = "null" then some .null
  else if w = "true" then some (.boolean true)
  else if w = "false" then some (.boolean false)
  else none

def dropDigits? (cs : List Char) : Option (List Char) :=
  match cs with
  | c :: rest => if c.isDigit then some (rest.dropWhile Char.isDigit) else none
  | [] => none

/-- Whether the characters form a number: no superfluous zero before it, and a digit after a sign,
a point or an exponent mark. -/
def isJsonNumber (cs : List Char) : Bool :=
  let unsigned := match cs with
    | '-' :: rest => rest
    | _ => cs
  let whole := match unsigned with
    | '0' :: rest => some rest
    | _ => dropDigits? unsigned
  let fraction := whole.bind fun
    | '.' :: rest => dropDigits? rest
    | rest => some rest
  let exponent := fraction.bind fun
    | c :: rest =>
      if c = 'e' ∨ c = 'E' then
        match rest with
        | s :: more => if s = '+' ∨ s = '-' then dropDigits? more else dropDigits? rest
        | [] => none
      else some (c :: rest)
    | [] => some []
  exponent == some []

def isNumberChar (c : Char) : Bool :=
  c.isDigit || c == '-' || c == '+' || c == '.' || c == 'e' || c == 'E'

def markToken? (c : Char) : Option JsonToken :=
  if c = '{' then some .openBrace
  else if c = '}' then some .closeBrace
  else if c = '[' then some .openBracket
  else if c = ']' then some .closeBracket
  else if c = ':' then some .colon
  else if c = ',' then some .comma
  else none

/-- The token of a finished word or number. -/
def JsonMode.pending? : JsonMode → Option (List JsonToken)
  | between => some []
  | word run => (wordToken? (String.ofList run.reverse)).map ([·])
  | digits run => if isJsonNumber run.reverse then some [.number] else none
  | _ => none

/-- Reads a character between tokens. -/
def openToken? (c : Char) : Option (JsonMode × List JsonToken) :=
  if isJsonBlank c then some (.between, [])
  else if c = '"' then some (.string [], [])
  else if c = '-' ∨ c.isDigit then some (.digits [c], [])
  else if c.isAlpha then some (.word [c], [])
  else (markToken? c).map fun t => (.between, [t])

/-- Reads a character after a finished word or number: the tokens are given with the latest
first. -/
def JsonMode.reopen? (m : JsonMode) (c : Char) : Option (JsonMode × List JsonToken) := do
  let done ← m.pending?
  let (next, tokens) ← openToken? c
  return (next, tokens ++ done)

/-- Reads one character: the next mode, and the tokens it completes with the latest first. -/
def JsonMode.step? : JsonMode → Char → Option (JsonMode × List JsonToken)
  | between, c => openToken? c
  | word run, c => if c.isAlpha then some (word (c :: run), []) else (word run).reopen? c
  | digits run, c =>
    if isNumberChar c then some (digits (c :: run), []) else (digits run).reopen? c
  | string run, c =>
    if c = '"' then some (between, [.string ((joinParts? run.reverse).map String.ofList)])
    else if c = '\\' then some (escape run, [])
    else if c.toNat < 0x20 then none
    else some (string (.char c :: run), [])
  | escape run, c =>
    if c = 'u' then some (unit run [], [])
    else (shortEscape? c).map fun x => (string (.char x :: run), [])
  | unit run [c₃, c₂, c₁], c₄ =>
    (hexUnit? c₁ c₂ c₃ c₄).map fun n => (string (.ofUnit n :: run), [])
  | unit run ds, c => some (unit run (c :: ds), [])

/-- The tokens of a text that follows the tokens `done`, given with the latest first. -/
def jsonTokensFrom? (mode : JsonMode) (done : List JsonToken) :
    List Char → Option (List JsonToken)
  | [] => mode.pending?.map fun last => (last ++ done).reverse
  | c :: rest =>
    match mode.step? c with
    | some (next, tokens) => jsonTokensFrom? next (tokens ++ done) rest
    | none => none

def jsonTokens? (s : String) : Option (List JsonToken) := jsonTokensFrom? .between [] s.toList

/-- What a list of tokens has to go on with, inside the open arrays and objects. -/
inductive JsonWant where
  /-- A value. -/
  | value
  /-- A value, or the end of the array that has just begun. -/
  | firstItem
  /-- A key, or the end of the object that has just begun. -/
  | firstKey
  /-- A key. -/
  | key
  /-- The colon after a key. -/
  | colon
  /-- A comma, or the end of the innermost array or object. -/
  | next
deriving DecidableEq, Repr

/-- Passes over the rest of a value. The list tells for each open array (`false`) or object (`true`)
which it is, the innermost first. -/
def skipFrom? (isObject : List Bool) (want : JsonWant) : List JsonToken → Option (List JsonToken)
  | [] => none
  | t :: rest =>
    let close (isObject : List Bool) : Option (List JsonToken) :=
      match isObject.tail with
      | [] => some rest
      | outer => skipFrom? outer .next rest
    let value : Option (List JsonToken) :=
      match t with
      | .null | .boolean _ | .number | .string _ =>
        if isObject.isEmpty then some rest else skipFrom? isObject .next rest
      | .openBracket => skipFrom? (false :: isObject) .firstItem rest
      | .openBrace => skipFrom? (true :: isObject) .firstKey rest
      | _ => none
    match want, t with
    | .value, _ => value
    | .firstItem, .closeBracket => close isObject
    | .firstItem, _ => value
    | .firstKey, .closeBrace => close isObject
    | .firstKey, .string _ => skipFrom? isObject .colon rest
    | .key, .string _ => skipFrom? isObject .colon rest
    | .colon, .colon => skipFrom? isObject .value rest
    | .next, .comma =>
      skipFrom? isObject (if isObject.head? == some true then .key else .value) rest
    | .next, .closeBracket => if isObject.head? == some false then close isObject else none
    | .next, .closeBrace => if isObject.head? == some true then close isObject else none
    | _, _ => none

theorem length_lt_of_skipFrom? {isObject : List Bool} {want : JsonWant}
    {tokens rest : List JsonToken} (h : skipFrom? isObject want tokens = some rest) :
    rest.length < tokens.length := by
  induction tokens generalizing isObject want rest with
  | nil => simp [skipFrom?] at h
  | cons t tokens ih =>
    have hle {o : List Bool} {w : JsonWant} (h : skipFrom? o w tokens = some rest) :
        rest.length < tokens.length + 1 := by have := ih h; omega
    have hdone (h : some tokens = some rest) : rest.length < tokens.length + 1 := by
      cases h; omega
    rw [skipFrom?.eq_def] at h
    grind

def skipValue? (tokens : List JsonToken) : Option (List JsonToken) := skipFrom? [] .value tokens

/-- A hexadecimal digit below sixteen, in small letters. -/
def smallHexDigit (n : Nat) : Char := if n < 10 then Char.ofNat (48 + n) else Char.ofNat (87 + n)

/-- The form of a character in a JSON string. -/
def jsonEscape (c : Char) : List Char :=
  if c = '"' then ['\\', '"']
  else if c = '\\' then ['\\', '\\']
  else if c = '\x08' then ['\\', 'b']
  else if c = '\x0c' then ['\\', 'f']
  else if c = '\n' then ['\\', 'n']
  else if c = '\r' then ['\\', 'r']
  else if c = '\t' then ['\\', 't']
  else if c.toNat < 0x20 then
    ['\\', 'u', '0', '0', smallHexDigit (c.toNat / 16), smallHexDigit (c.toNat % 16)]
  else [c]

def jsonQuoted (s : String) : String :=
  String.ofList ('"' :: s.toList.flatMap jsonEscape ++ ['"'])

end Builtins
