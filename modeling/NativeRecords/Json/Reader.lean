/-
# NativeRecords.Json.Reader -- reading JSON text

Reading has two passes, each a fold with a step that may refuse. The first cuts the text into
tokens; the second builds the value, with the arrays and objects still open kept on a stack. The
grammar is strict, with three additions: the words `NaN`, `Infinity` and `-Infinity` are
floating-point numbers. A number without a point and without an exponent is an integer of any
size.
-/
import NativeRecords.Json.Basic

namespace NativeRecords.Json

/-! ## Numbers -/

/-- The decimal value of digits, or nothing if one of the characters is no digit. -/
def digitsValue? (cs : List Char) : Option Nat :=
  cs.foldlM (fun n c => if c.isDigit then some (10 * n + (c.toNat - '0'.toNat)) else none) 0

/-- The digits before the point: `0` alone, or digits that do not start with `0`. -/
def wholeValue? : List Char → Option Nat
  | [] => none
  | ['0'] => some 0
  | '0' :: _ => none
  | cs => digitsValue? cs

/-- The digits after the point, of which there is at least one. -/
def fractionValue? (cs : List Char) : Option Nat :=
  if cs.isEmpty then none else digitsValue? cs

/-- The exponent behind its mark: an optional sign and at least one digit. -/
def exponentValue? : List Char → Option Int
  | '+' :: cs => (fractionValue? cs).map fun n => (n : Int)
  | '-' :: cs => (fractionValue? cs).map fun n => -(n : Int)
  | cs => (fractionValue? cs).map fun n => (n : Int)

/-- Whether `c` marks an exponent. -/
def isExponentMark (c : Char) : Bool := c = 'e' || c = 'E'

/-- A number without its sign. -/
def unsigned? (negative : Bool) (cs : List Char) : Option Json :=
  let mantissa := cs.takeWhile fun c => !isExponentMark c
  let exponent := cs.dropWhile fun c => !isExponentMark c
  let whole := mantissa.takeWhile (· ≠ '.')
  let fraction := mantissa.dropWhile (· ≠ '.')
  match wholeValue? whole, fraction, exponent with
  | none, _, _ => none
  | some n, [], [] => some (.int (Binary64.signed negative n))
  | some n, point, mark =>
    let places := point.drop 1
    let part := if point.isEmpty then some 0 else fractionValue? places
    let power := if mark.isEmpty then some 0 else exponentValue? (mark.drop 1)
    match part, power with
    | some p, some e =>
      some (.float (Binary64.ofDecimal negative (n * tenPow places.length + p) (e - places.length)))
    | _, _ => none

/-- The value of a bare word: a constant or a number. -/
def bareValue? (word : List Char) : Option Json :=
  if word = "null".toList then some .null
  else if word = "true".toList then some (.bool true)
  else if word = "false".toList then some (.bool false)
  else if word = "NaN".toList then some (.float .nan)
  else if word = "Infinity".toList then some (.float (.infinite false))
  else if word = "-Infinity".toList then some (.float (.infinite true))
  else
    match word with
    | '-' :: cs => unsigned? true cs
    | cs => unsigned? false cs

/-! ## Strings -/

/-- The value of a hexadecimal digit. -/
def hexValue? (c : Char) : Option Nat :=
  if '0' ≤ c && c ≤ '9' then some (c.toNat - '0'.toNat)
  else if 'a' ≤ c && c ≤ 'f' then some (c.toNat - 'a'.toNat + 10)
  else if 'A' ≤ c && c ≤ 'F' then some (c.toNat - 'A'.toNat + 10)
  else none

/-- What the letter behind a backslash stands for. -/
def escaped? : Char → Option Nat
  | '"' => some 0x22
  | '\\' => some 0x5C
  | '/' => some 0x2F
  | 'b' => some 0x08
  | 'f' => some 0x0C
  | 'n' => some 0x0A
  | 'r' => some 0x0D
  | 't' => some 0x09
  | _ => none

/-- Whether `n` is the first half of a character written as two units. -/
def isHighUnit (n : Nat) : Bool := 0xD800 ≤ n && n ≤ 0xDBFF

/-- Whether `n` is the second half of a character written as two units. -/
def isLowUnit (n : Nat) : Bool := 0xDC00 ≤ n && n ≤ 0xDFFF

/-- The character of a unit that stands alone; a half is the replacement character. -/
def unitChar (n : Nat) : Char :=
  if isHighUnit n || isLowUnit n then Char.ofNat 0xFFFD else Char.ofNat n

/-- The characters that units stand for: a first half and the second half behind it are one
character. -/
def joinUnits : List Nat → List Char
  | [] => []
  | high :: low :: rest =>
    if isHighUnit high && isLowUnit low then
      Char.ofNat (0x10000 + (high - 0xD800) * 0x400 + (low - 0xDC00)) :: joinUnits rest
    else unitChar high :: joinUnits (low :: rest)
  | [n] => [unitChar n]

/-! ## Tokens -/

/-- A token of JSON text. -/
inductive Token where
  | openArray
  | closeArray
  | openObject
  | closeObject
  | colon
  | comma
  | text (s : String)
  | bare (value : Json)

/-- What the lexer is inside of. Units and characters are collected with the last one first. -/
inductive Inside where
  | nothing
  | word (chars : List Char)
  | quotes (units : List Nat)
  | escape (units : List Nat)
  | hex (units : List Nat) (value count : Nat)

/-- The lexer between two characters: where it is, and the tokens so far, the last one first. -/
structure Lexer where
  inside : Inside := .nothing
  tokens : List Token := []

/-- White space between tokens. -/
def isSpace (c : Char) : Bool := c = ' ' || c = '\t' || c = '\n' || c = '\r'

/-- The token of a punctuation mark. -/
def punctuation? : Char → Option Token
  | '[' => some .openArray
  | ']' => some .closeArray
  | '\x7b' => some .openObject
  | '\x7d' => some .closeObject
  | ':' => some .colon
  | ',' => some .comma
  | _ => none

/-- Reads a character that no token is open before. -/
def Lexer.fresh (tokens : List Token) (c : Char) : Lexer :=
  if isSpace c then ⟨.nothing, tokens⟩
  else if c = '"' then ⟨.quotes [], tokens⟩
  else
    match punctuation? c with
    | some token => ⟨.nothing, token :: tokens⟩
    | none => ⟨.word [c], tokens⟩

/-- Whether `c` ends a bare word. -/
def endsWord (c : Char) : Bool := isSpace c || c = '"' || (punctuation? c).isSome

/-- Reads one character. -/
def Lexer.step (lexer : Lexer) (c : Char) : Option Lexer :=
  let tokens := lexer.tokens
  match lexer.inside with
  | .nothing => some (Lexer.fresh tokens c)
  | .word chars =>
    if endsWord c then
      (bareValue? chars.reverse).map fun value => Lexer.fresh (.bare value :: tokens) c
    else some ⟨.word (c :: chars), tokens⟩
  | .quotes units =>
    if c = '"' then some ⟨.nothing, .text (String.ofList (joinUnits units.reverse)) :: tokens⟩
    else if c = '\\' then some ⟨.escape units, tokens⟩
    else if c.toNat < 0x20 then none
    else some ⟨.quotes (c.toNat :: units), tokens⟩
  | .escape units =>
    if c = 'u' then some ⟨.hex units 0 0, tokens⟩
    else (escaped? c).map fun n => ⟨.quotes (n :: units), tokens⟩
  | .hex units value count =>
    (hexValue? c).map fun digit =>
      let value := 16 * value + digit
      if count = 3 then ⟨.quotes (value :: units), tokens⟩ else ⟨.hex units value (count + 1), tokens⟩

/-- The tokens of a whole text, if no token is left open at its end. -/
def Lexer.finish (lexer : Lexer) : Option (List Token) :=
  match lexer.inside with
  | .nothing => some lexer.tokens.reverse
  | .word chars => (bareValue? chars.reverse).map fun value => (.bare value :: lexer.tokens).reverse
  | _ => none

/-- Cuts a text into tokens. -/
def tokens? (cs : List Char) : Option (List Token) :=
  (cs.foldlM Lexer.step ({} : Lexer)).bind Lexer.finish

/-! ## Values -/

/-- An array or object whose end has not been read. The items of an array are collected with the
last one first; an object also keeps the name whose value is awaited. -/
inductive Frame where
  | array (items : List Json)
  | object (fields : List (String × Json)) (name : String)

/-- What may come next. -/
inductive Expecting where
  | value
  | itemOrClose
  | nameOrClose
  | name
  | colon
  | separator

/-- The builder between two tokens: what is open, the innermost first; what may come next; and the
whole value once it is complete. -/
structure Builder where
  frames : List Frame := []
  expecting : Expecting := .value
  whole : Option Json := none

/-- Takes in a complete value at the place where it stands. -/
def Builder.deliver (frames : List Frame) (value : Json) : Builder :=
  match frames with
  | [] => ⟨[], .separator, some value⟩
  | .array items :: outer => ⟨.array (value :: items) :: outer, .separator, none⟩
  | .object fields name :: outer =>
    ⟨.object (putField name value fields) name :: outer, .separator, none⟩

/-- Starts a value with its first token. -/
def Builder.start (frames : List Frame) : Token → Option Builder
  | .openArray => some ⟨.array [] :: frames, .itemOrClose, none⟩
  | .openObject => some ⟨.object [] "" :: frames, .nameOrClose, none⟩
  | .text s => some (Builder.deliver frames (.str s))
  | .bare value => some (Builder.deliver frames value)
  | _ => none

/-- Takes in one token. -/
def Builder.step (builder : Builder) (token : Token) : Option Builder :=
  match builder.expecting, builder.frames, token with
  | .value, frames, token => Builder.start frames token
  | .itemOrClose, .array items :: outer, .closeArray =>
    some (Builder.deliver outer (.arr items.reverse))
  | .itemOrClose, frames, token => Builder.start frames token
  | .nameOrClose, .object fields _ :: outer, .closeObject =>
    some (Builder.deliver outer (.obj fields))
  | .nameOrClose, .object fields _ :: outer, .text name =>
    some ⟨.object fields name :: outer, .colon, none⟩
  | .name, .object fields _ :: outer, .text name =>
    some ⟨.object fields name :: outer, .colon, none⟩
  | .colon, frames, .colon => some ⟨frames, .value, none⟩
  | .separator, .array items :: outer, .closeArray =>
    some (Builder.deliver outer (.arr items.reverse))
  | .separator, .array items :: outer, .comma => some ⟨.array items :: outer, .value, none⟩
  | .separator, .object fields _ :: outer, .closeObject =>
    some (Builder.deliver outer (.obj fields))
  | .separator, .object fields name :: outer, .comma =>
    some ⟨.object fields name :: outer, .name, none⟩
  | _, _, _ => none

/-- Reads JSON text; nothing, if the text is not one JSON value. A number may have any number of
digits. An escape for half a surrogate pair that stands without the other half is read as U+FFFD,
since no character of a `String` stands for it; two texts that differ in such halves alone are read
alike. -/
def read? (text : String) : Option Json :=
  ((tokens? text.toList).bind fun tokens => tokens.foldlM Builder.step ({} : Builder)).bind
    Builder.whole

end NativeRecords.Json
