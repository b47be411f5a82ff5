import Formula.Error.Basic
import Formula.Text.Digit
import Formula.Text.Letter
import Formula.Token.Basic

/-!
# Formula.Token.Scan

Reading tokens off a source text. `read` looks at what stands at the head of the text and decides
by the first rule that applies; what it reads depends on what came before in one point only,
whether that was the end of an operand. `scan` repeats it to the end of the text or to the first
character that starts no token.
-/

namespace Formula

/-- Characters that separate tokens and are skipped. -/
def isLayout (c : Char) : Bool :=
  c = ' ' || c = '\t' || c = '\n'

/-- Characters that continue an identifier. -/
def isNamePart (c : Char) : Bool :=
  Text.isLetter c || Text.isNumeric c || c = '_'

/-- Characters that continue the name of a variable. -/
def isVariablePart (c : Char) : Bool :=
  isNamePart c || c = '.'

def isNumberPart (c : Char) : Bool :=
  Text.isDigit c || c = '.'

/-- What stands at the head of a text: a skipped character, a token and how many characters it
has after the first, or nothing that is a token. -/
inductive Reading where
  | skip
  | token (lexeme : Lexeme) (extra : Nat)
  | fault (cause : SyntaxFault)

/-- The number that digits of any script and at most one point denote; `places` counts the digits
after the point. -/
def readDigits (digits : Nat) (places : Option Nat) : List Char → Option Decimal
  | [] => some ⟨digits, -((places.getD 0 : Nat) : Int)⟩
  | c :: rest =>
    if c = '.' then
      match places with
      | none => readDigits digits (some 0) rest
      | some _ => none
    else
      match Text.decimalValue? c with
      | some d => readDigits (digits * 10 + d) (places.map (· + 1)) rest
      | none => none

/-- The double that a number's text denotes, with an optional minus in front. -/
def numberOf? : List Char → Option Double
  | [] => none
  | c :: rest =>
    if c = '-' then (readDigits 0 none rest).map (Decimal.toDouble true)
    else (readDigits 0 none (c :: rest)).map (Decimal.toDouble false)

def readNumber (c : Char) (rest : List Char) : Reading :=
  let tail := rest.takeWhile isNumberPart
  match numberOf? (c :: tail) with
  | some x => .token (.number x) tail.length
  | none => .fault (.invalidNumber (String.ofList (c :: tail)))

/-- The name goes on through letters, numbers, underscores and points, and a point may only
separate parts of it. -/
def readVariable (c : Char) (rest : List Char) : Reading :=
  match rest with
  | [] => .fault .variableStart
  | first :: _ =>
    if isNamePart first then
      let tail := rest.takeWhile isVariablePart
      if tail.getLast? = some '.' then .fault .variableEnd
      else .token (.var (String.ofList (c :: tail))) tail.length
    else .fault .variableStart

/-- A text ends at the next quote; there are no escapes. -/
def readString (rest : List Char) : Reading :=
  let body := rest.takeWhile (· ≠ '\'')
  if body.length = rest.length then .fault .unterminatedString
  else .token (.string (String.ofList body)) (body.length + 1)

def readIdentifier (c : Char) (rest : List Char) : Reading :=
  let tail := rest.takeWhile isNamePart
  .token (.identifier (String.ofList (c :: tail))) tail.length

def punctuation? : Char → Option Lexeme
  | '(' => some .lparen
  | ')' => some .rparen
  | ',' => some .comma
  | '[' => some .lbracket
  | ']' => some .rbracket
  | _ => none

def doubleOperator? : Char → Char → Option Operator
  | '=', '=' => some .equal
  | '!', '=' => some .notEqual
  | '&', '&' => some .and
  | '|', '|' => some .or
  | '>', '=' => some .greaterOrEqual
  | '<', '=' => some .lessOrEqual
  | _, _ => none

def singleOperator? : Char → Option Operator
  | '+' => some .plus
  | '-' => some .minus
  | '*' => some .multiply
  | '/' => some .divide
  | '%' => some .modulo
  | '|' => some .bitwiseOr
  | '&' => some .bitwiseAnd
  | '>' => some .greater
  | '<' => some .less
  | '!' => some .not
  | _ => none

/-- The longest operator at the head of a text, and how many characters it has after the first. -/
def operatorAt? (c : Char) (rest : List Char) : Option (Operator × Nat) :=
  match rest.head?.bind (doubleOperator? c) with
  | some op => some (op, 1)
  | none => (singleOperator? c).map fun op => (op, 0)

def startsWithDigit : List Char → Bool
  | [] => false
  | c :: _ => Text.isDigit c

def trueWord : List Char := ['t', 'r', 'u', 'e']

def falseWord : List Char := ['f', 'a', 'l', 's', 'e']

/-- The truth values win over identifiers, and a minus before a digit belongs to the number unless
an operand stands before it. -/
def read (afterOperand : Bool) (c : Char) (rest : List Char) : Reading :=
  if isLayout c then .skip
  else if trueWord.isPrefixOf (c :: rest) then .token (.boolean true) 3
  else if falseWord.isPrefixOf (c :: rest) then .token (.boolean false) 4
  else if c = '#' || c = '$' then readVariable c rest
  else if c = '\'' then readString rest
  else if Text.isDigit c || (c = '-' && !afterOperand && startsWithDigit rest) then
    readNumber c rest
  else
    match punctuation? c with
    | some lexeme => .token lexeme 0
    | none =>
      match operatorAt? c rest with
      | some (op, extra) => .token (.operator op) extra
      | none =>
        if Text.isLetter c then readIdentifier c rest
        else .fault (.unexpectedCharacter c)

/-- The tokens read, and where and why reading stopped if it did not reach the end. -/
structure Scan where
  tokens : List Token
  failure : Option (SyntaxFault × Nat)
deriving DecidableEq

/-- Reads the text from `position` on. -/
def scanFrom (position : Nat) (afterOperand : Bool) : List Char → Scan
  | [] => ⟨[], none⟩
  | c :: rest =>
    match read afterOperand c rest with
    | .skip => scanFrom (position + 1) afterOperand rest
    | .token lexeme extra =>
      let following := scanFrom (position + 1 + extra) lexeme.kind.endsOperand (rest.drop extra)
      ⟨⟨lexeme, position, String.ofList (c :: rest.take extra)⟩ :: following.tokens,
        following.failure⟩
    | .fault cause => ⟨[], some (cause, position)⟩
termination_by cs => cs.length
decreasing_by
  · simp
  · simp only [List.length_cons, List.length_drop]; omega

def scan (source : String) : Scan :=
  scanFrom 0 false source.toList

/-- The tokens of a source text, or the first fault with its place. -/
def tokenize (source : String) : Except Error (List Token) :=
  match (scan source).failure with
  | none => .ok (scan source).tokens
  | some (cause, position) => .error (.parse cause (some ⟨source, position⟩))

end Formula
