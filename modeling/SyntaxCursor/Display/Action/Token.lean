import SyntaxCursor.Number.Integer
import SyntaxCursor.Text.Quoted
import SyntaxCursor.Text.WordChar

/-!
# Tokens of literals

The parameters of an action are a literal: numbers, texts, constants, and brackets with more of
them. They stand in a tag, and so there are no square brackets in them. This module cuts the
literal into tokens. Every closing bracket has to match the last one that was opened, and no
text or numeral may be left unfinished.
-/
namespace SyntaxCursor.Display.Action

inductive TextKind where
  | plain
  | bytes
  /-- A text with expressions in it. -/
  | template
  deriving DecidableEq, Repr

inductive Token where
  | word (cs : List Char)
  | number (imaginary : Bool)
  | text (kind : TextKind)
  | mark (cs : List Char)
  /-- The end of a line, outside of all brackets. -/
  | lineEnd
  /-- A backslash that does not stand at the end of a line. Nothing behind it is read. -/
  | backslash
  deriving DecidableEq, Repr

inductive NumeralKind where
  | decimal | hexadecimal | octal | binary | imaginary
  deriving DecidableEq, Repr

def NumeralKind.name : NumeralKind → String
  | decimal => "decimal"
  | hexadecimal => "hexadecimal"
  | octal => "octal"
  | binary => "binary"
  | imaginary => "imaginary"

inductive LiteralError where
  /-- A token that cannot stand where it does. -/
  | misplaced
  /-- Two values stand side by side in brackets. -/
  | missingComma
  /-- A name in brackets with an equals sign behind it. -/
  | assignment
  /-- A number or a text in brackets with an equals sign behind it. -/
  | literalAssignment
  /-- A single item in brackets behind one star, or behind two. -/
  | starred (double : Bool)
  /-- A statement that was made a function. -/
  | statement (name : List Char)
  | missingColon
  | missingValue
  | mixedTexts
  | unmatched (closing : Char)
  | mismatch (closing opening : Char)
  | neverClosed (opening : Char)
  | unterminated (triple : Bool) (line : Nat)
  | continuation
  | badChar (c : Char)
  | badNumeral (kind : NumeralKind)
  | badDigit (kind : NumeralKind) (digit : Char)
  | leadingZeros
  deriving DecidableEq, Repr

/-- A code point in capital hexadecimal digits. -/
def codePoint (c : Char) : String :=
  "U+" ++ String.ofList ((Text.hexDigits 4 c.toNat).map Char.toUpper)

def LiteralError.message : LiteralError → String
  | misplaced => "invalid syntax"
  | missingComma => "invalid syntax. Perhaps you forgot a comma?"
  | assignment => "invalid syntax. Maybe you meant \x27==\x27 or \x27:=\x27 instead of \x27=\x27?"
  | literalAssignment =>
    "cannot assign to literal here. Maybe you meant \x27==\x27 instead of \x27=\x27?"
  | starred double =>
    "cannot use " ++ (if double then "double " else "") ++ "starred expression here"
  | statement name =>
    let name := String.ofList name
    "Missing parentheses in call to \x27" ++ name ++ "\x27. Did you mean " ++ name ++ "(...)?"
  | missingColon => "\x27:\x27 expected after dictionary key"
  | missingValue => "expression expected after dictionary key and \x27:\x27"
  | mixedTexts => "cannot mix bytes and nonbytes literals"
  | unmatched closing => "unmatched \x27" ++ closing.toString ++ "\x27"
  | mismatch closing opening =>
    "closing parenthesis \x27" ++ closing.toString ++
      "\x27 does not match opening parenthesis \x27" ++ opening.toString ++ "\x27"
  | neverClosed opening => "\x27" ++ opening.toString ++ "\x27 was never closed"
  | unterminated triple line =>
    "unterminated " ++ (if triple then "triple-quoted " else "") ++
      "string literal (detected at line " ++ Number.integerText line ++ ")"
  | continuation => "unexpected character after line continuation character"
  | badChar c =>
    if Text.isPrintable c then
      "invalid character \x27" ++ c.toString ++ "\x27 (" ++ codePoint c ++ ")"
    else "invalid non-printable character " ++ codePoint c
  | badNumeral kind => "invalid " ++ kind.name ++ " literal"
  | badDigit kind digit =>
    "invalid digit \x27" ++ digit.toString ++ "\x27 in " ++ kind.name ++ " literal"
  | leadingZeros =>
    "leading zeros in decimal integer literals are not permitted; " ++
      "use an 0o prefix for octal integers"

/-- Whether a character is taken to a name before it is known whether it can be part of one. -/
def isTaken (c : Char) : Bool := c.isAlphanum || c == '_' || 0x80 ≤ c.toNat

/-- The text behind digits with property `p`, between which single underscores may stand, or the
text where there is no digit although there should be one. -/
def afterDigits (p : Char → Bool) (started : Bool) : List Char → Except (List Char) (List Char)
  | [] => if started then .ok [] else .error []
  | '_' :: c :: cs => if p c then afterDigits p true cs else .error (c :: cs)
  | c :: cs =>
    if p c then afterDigits p true cs
    else if started && c != '_' then .ok (c :: cs)
    else .error (c :: cs)

/-- Whether a text begins with a word that may follow a numeral at once. -/
def beginsKeyword (cs : List Char) : Bool :=
  (["if", "in", "is"].any fun w => w.toList.isPrefixOf cs) ||
    ["and", "else", "for", "or", "not"].any fun w =>
      w.toList.isPrefixOf cs && !((cs.drop w.length).head?.any isTaken)

/-- The text behind a numeral, which must not go on with a letter or a digit. -/
def endNumeral (kind : NumeralKind) (cs : List Char) : Except LiteralError (List Char) :=
  if !beginsKeyword cs && cs.head?.any fun c => c.isAlphanum || c == '_' then
    .error (.badNumeral kind)
  else .ok cs

/-- The text behind more digits in base ten. -/
def moreDigits (cs : List Char) : Except LiteralError (List Char) :=
  (afterDigits Char.isDigit true cs).mapError fun _ => .badNumeral .decimal

/-- The rest of a numeral with a base mark, behind the mark. -/
def markedNumeral (kind : NumeralKind) (base : Nat) (cs : List Char) :
    Except LiteralError (List Char) :=
  match afterDigits (fun c => (Number.digitIn? base c).isSome) false cs with
  | .ok rest =>
    match rest.head?.filter Char.isDigit with
    | some c => .error (.badDigit kind c)
    | none => endNumeral kind rest
  | .error rest =>
    match rest.head?.filter Char.isDigit with
    | some c => .error (.badDigit kind c)
    | none => .error (.badNumeral kind)

/-- The rest of a numeral in base ten behind its exponent. -/
def numeralSuffix : List Char → Except LiteralError (Bool × List Char)
  | 'j' :: cs => (endNumeral .imaginary cs).map (true, ·)
  | 'J' :: cs => (endNumeral .imaginary cs).map (true, ·)
  | cs => (endNumeral .decimal cs).map (false, ·)

/-- The rest of a numeral in base ten behind its digits. -/
def numeralExponent : List Char → Except LiteralError (Bool × List Char)
  | [] => .ok (false, [])
  | c :: cs =>
    if c == 'e' || c == 'E' then
      match cs with
      | d :: more =>
        if d == '+' || d == '-' then
          if more.head?.any Char.isDigit then do numeralSuffix (← moreDigits more)
          else .error (.badNumeral .decimal)
        else if d.isDigit then do numeralSuffix (← moreDigits more)
        else (endNumeral .decimal (c :: cs)).map (false, ·)
      | [] => .error (.badNumeral .decimal)
    else numeralSuffix (c :: cs)

/-- The rest of a numeral behind its point. -/
def numeralFraction (cs : List Char) : Except LiteralError (Bool × List Char) := do
  numeralExponent (← if cs.head?.any Char.isDigit then moreDigits cs else pure cs)

/-- A numeral that begins with a digit: whether it is imaginary, and the text behind it. -/
def numeral : List Char → Except LiteralError (Bool × List Char)
  | '0' :: 'x' :: cs => (markedNumeral .hexadecimal 16 cs).map (false, ·)
  | '0' :: 'X' :: cs => (markedNumeral .hexadecimal 16 cs).map (false, ·)
  | '0' :: 'o' :: cs => (markedNumeral .octal 8 cs).map (false, ·)
  | '0' :: 'O' :: cs => (markedNumeral .octal 8 cs).map (false, ·)
  | '0' :: 'b' :: cs => (markedNumeral .binary 2 cs).map (false, ·)
  | '0' :: 'B' :: cs => (markedNumeral .binary 2 cs).map (false, ·)
  | cs => do
    let rest ← moreDigits cs
    let digits := (cs.take (cs.length - rest.length)).filter Char.isDigit
    match rest with
    | '.' :: more => numeralFraction more
    | _ =>
      let isWhole := !(rest.head?.any fun c => ['e', 'E', 'j', 'J'].contains c)
      if isWhole && digits.head? == some '0' && digits.any (· != '0') then .error .leadingZeros
      else numeralExponent rest

/-- The rest behind a text whose opening quotation marks have been read. -/
def textEnd (quote : Char) (triple : Bool) : List Char → Option (List Char)
  | [] => none
  | [c] => if c == quote && !triple then some [] else none
  | c :: d :: cs =>
    if c == '\\' then textEnd quote triple cs
    else if c == quote then
      if !triple then some (d :: cs)
      else if d == quote && cs.head? == some quote then some cs.tail
      else textEnd quote triple (d :: cs)
    else if c == '\n' && !triple then none
    else textEnd quote triple (d :: cs)

/-- The rest behind a text that begins with a quotation mark. -/
def text (line : Nat) (quote : Char) (cs : List Char) : Except LiteralError (List Char) :=
  let triple := cs.take 2 == [quote, quote]
  let inside := if triple then cs.drop 2 else cs
  match textEnd quote triple inside with
  | some rest => .ok rest
  | none => .error (.unterminated triple (if triple then line + inside.count '\n' else line))

/-- The kind of text for the letters before its quotation mark. -/
def textKind? (letters : List Char) : Option TextKind :=
  let letters := String.ofList (letters.map Char.toLower)
  if ["", "u", "r"].contains letters then some .plain
  else if ["b", "br", "rb"].contains letters then some .bytes
  else if ["f", "fr", "rf"].contains letters then some .template
  else none

/-- The first character that cannot stand where it does in a word. -/
def badWordChar? (cs : List Char) : Option Char :=
  match cs.head?.filter fun c => 0x80 ≤ c.toNat && (Text.decimalValue? c).isSome with
  | some c => some c
  | none => cs.find? fun c => !Text.isNameChar c

/-- The marks of more than one character, the longest first. -/
def longMarks : List String :=
  ["**=", "//=", ">>=", "<<=", "...", "!=", "%=", "&=", "**", "*=", "+=", "-=", "->", "//", "/=",
   ":=", "<<", "<=", "<>", "==", ">=", ">>", "@=", "^=", "|="]

/-- The mark that a text begins with, and the text behind it. -/
def mark (c : Char) (cs : List Char) : Except LiteralError (Token × List Char) :=
  match longMarks.find? (·.toList.isPrefixOf (c :: cs)) with
  | some m => .ok (.mark m.toList, cs.drop (m.length - 1))
  | none => if Text.isPrintable c then .ok (.mark [c], cs) else .error (.badChar c)

/-- The token that a text begins with, and the text behind it. -/
def token (line : Nat) (c : Char) (cs : List Char) : Except LiteralError (Token × List Char) :=
  if c.isDigit then (numeral (c :: cs)).map fun (imaginary, rest) => (.number imaginary, rest)
  else if c == '.' && cs.head?.any Char.isDigit then
    (numeralFraction cs).map fun (imaginary, rest) => (.number imaginary, rest)
  else
    let letters := (c :: cs).takeWhile isTaken
    match (c :: cs).dropWhile isTaken with
    | quote :: rest =>
      match (textKind? letters).filter fun _ => quote == '\x27' || quote == '\x22' with
      | some kind => (text line quote rest).map (.text kind, ·)
      | none => if letters.isEmpty then mark c cs else word letters (quote :: rest)
    | [] => word letters []
where
  /-- A word with the text behind it. -/
  word (letters rest : List Char) : Except LiteralError (Token × List Char) :=
    match badWordChar? letters with
    | some c => .error (.badChar c)
    | none => .ok (.word letters, rest)

/-- The bracket that closes what another one opens. -/
def closing? (c : Char) : Option Char :=
  if c == '(' then some ')'
  else if c == '\x7b' then some '\x7d'
  else none

/-- Follow the brackets over one mark; `opened` holds those that are open, the latest first. -/
def followBracket (opened : List Char) (cs : List Char) : Except LiteralError (List Char) :=
  match cs with
  | [c] =>
    if (closing? c).isSome then .ok (c :: opened)
    else if (c == ')' || c == '\x7d') then
      match opened with
      | [] => .error (.unmatched c)
      | o :: opened => if closing? o == some c then .ok opened else .error (.mismatch c o)
    else .ok opened
  | _ => .ok opened

/-- The tokens of a text that begins in a line with brackets open. At most `fuel` characters
are read. -/
def tokensFrom (fuel line : Nat) (opened : List Char) (cs : List Char) :
    Except LiteralError (List Token) :=
  match fuel, cs with
  | 0, _ => .ok []
  | _, [] => .ok []
  | fuel + 1, c :: cs =>
    if c == ' ' || c == '\t' || c == '\x0c' then tokensFrom fuel line opened cs
    else if c == '\n' || c == '\r' then
      let rest := tokensFrom fuel (line + 1) opened cs
      if opened.isEmpty then rest.map (.lineEnd :: ·) else rest
    else if c == '#' then tokensFrom fuel line opened (cs.dropWhile (· != '\n'))
    else if c == '\\' then
      if cs.head? == some '\n' then tokensFrom fuel (line + 1) opened cs.tail
      else .ok [.backslash]
    else do
      let (t, rest) ← token line c cs
      let opened ← match t with
        | .mark m => followBracket opened m
        | _ => pure opened
      return t :: (← tokensFrom fuel line opened rest)

def tokens (cs : List Char) : Except LiteralError (List Token) :=
  tokensFrom cs.length 1 [] cs

end SyntaxCursor.Display.Action
