import SyntaxCursor.Display.Action.Token

/-!
# Reading literals

Tokens are read as expressions, but only literals have a meaning: numbers with a sign, a sum of
a real and an imaginary number, texts, constants, and tuples, sets and dictionaries of literals.
What is no expression at all is told apart from an expression without a meaning, and neither a
set nor a dictionary can be an element of a set or a key.
-/
namespace SyntaxCursor.Display.Action

inductive Fault where
  | notLiteral
  /-- A key of this type. -/
  | unhashable (type : String)
  deriving DecidableEq, Repr

def Fault.message : Fault → String
  | notLiteral => "malformed node or string"
  | unhashable type => "unhashable type: \x27" ++ type ++ "\x27"

/-- What matters about the form of an expression. -/
inductive Form where
  | name (cs : List Char)
  | number (imaginary : Bool)
  /-- A number behind a sign. -/
  | signed (imaginary : Bool)
  | text
  | other
  deriving DecidableEq, Repr

/-- What is known of an expression. -/
structure Meaning where
  form : Form := .other
  /-- The type of it, or of a part of it, that cannot be a key. -/
  mutable : Option String := none
  /-- The first thing in it that has no meaning. -/
  fault : Option Fault := none
  deriving DecidableEq, Repr, Inhabited

namespace Meaning

def meaningless : Meaning := { fault := some .notLiteral }

def tuple (items : List Meaning) : Meaning :=
  { mutable := items.findSome? (·.mutable), fault := items.findSome? (·.fault) }

/-- What is wrong with an expression as a key. -/
def keyFault (m : Meaning) : Option Fault := m.fault <|> m.mutable.map .unhashable

def set (items : List Meaning) : Meaning :=
  { mutable := some "set", fault := items.findSome? keyFault }

def dictionary (items : List (Meaning × Meaning)) : Meaning :=
  { mutable := some "dict",
    fault := items.findSome? fun (k, v) => k.fault <|> v.fault <|> k.keyFault }

def negated (m : Meaning) : Meaning :=
  match m.form with
  | .number imaginary => { form := .signed imaginary }
  | _ => meaningless

/-- Two expressions with an operator between them. -/
def combined (operator : List Char) (l r : Meaning) : Meaning :=
  let isReal := l.form == .number false || l.form == .signed false
  if isReal && r.form == .number true && (operator == ['+'] || operator == ['-']) then {}
  else meaningless

/-- A called expression. Only the empty set is written with a call. -/
def called (m : Meaning) (isEmpty : Bool) : Meaning :=
  if m.form == .name "set".toList && isEmpty then set [] else meaningless

end Meaning

/-- Words that are no names. -/
def reserved : List String :=
  ["False", "None", "True", "and", "as", "assert", "async", "await", "break", "class", "continue",
   "def", "del", "elif", "else", "except", "finally", "for", "from", "global", "if", "import",
   "in", "is", "lambda", "nonlocal", "not", "or", "pass", "raise", "return", "try", "while",
   "with", "yield"]

def binaryMarks : List String :=
  ["+", "-", "*", "/", "//", "%", "@", "<<", ">>", "&", "|", "^", "**", "<", ">", "<=", ">=", "==",
   "!="]

/-- The operator that tokens begin with, and the tokens behind it. -/
def operator? : List Token → Option (List Char × List Token)
  | .mark m :: ts => if binaryMarks.contains (String.ofList m) then some (m, ts) else none
  | .word w :: ts =>
    match String.ofList w, ts with
    | "not", .word v :: rest => if v == "in".toList then some (w, rest) else none
    | "is", .word v :: rest => if v == "not".toList then some (w, rest) else some (w, ts)
    | "and", _ => some (w, ts)
    | "or", _ => some (w, ts)
    | "in", _ => some (w, ts)
    | "is", _ => some (w, ts)
    | _, _ => none
  | _ => none

/-- Whether a token is a mark of one character. -/
def isMark (c : Char) (t : Token) : Bool := t == .mark [c]

/-- The error at the end of the tokens, where a bracket may be open. -/
def endError (within : Option Char) : LiteralError :=
  match within with
  | some c => .neverClosed c
  | none => .misplaced

/-- The kind of several texts that stand side by side. -/
def joinedText (first : TextKind) : List Token → Except LiteralError (TextKind × List Token)
  | .text k :: ts =>
    if (first == .bytes) != (k == .bytes) then .error .mixedTexts
    else joinedText (if k == .template then k else first) ts
  | ts => .ok (first, ts)

/-- Whether an expression that begins with these tokens is a name alone, behind which no value is
missed a comma for: a name before a text, or one that is a word in some places. -/
def hidesComma : List Token → Bool
  | .word _ :: .text _ :: _ => true
  | .word w :: _ => ["_", "case", "match"].contains (String.ofList w)
  | _ => false

/-- The error for a name, a number or a text in brackets with an equals sign behind it. -/
def assignmentError? : Form → Option LiteralError
  | .name _ => some .assignment
  | .number _ => some .literalAssignment
  | .text => some .literalAssignment
  | _ => none

/-- Names of functions that were statements once. -/
def isStatement (name : List Char) : Bool := ["print", "exec"].contains (String.ofList name)

/-- The error for two values side by side. Outside of brackets nobody would have meant a comma. -/
def adjacentError (within : Option Char) : LiteralError :=
  if within.isSome then .missingComma else .misplaced

/-- Whether all that is left is a word that begins the rest of an expression. -/
def endsEarly : List Token → Bool
  | [.word w] => ["for", "if"].contains (String.ofList w)
  | _ => false

mutual

/-- Read a value with what is called or selected behind it. -/
def operand (fuel : Nat) (within : Option Char) (ts : List Token) :
    Except LiteralError (Meaning × List Token) :=
  match fuel, ts with
  | 0, _ => .error .misplaced
  | _, [] => .error (endError within)
  | fuel + 1, .number imaginary :: ts => trailers fuel within { form := .number imaginary } ts
  | fuel + 1, .text k :: ts => do
    let (k, ts) ← joinedText k ts
    trailers fuel within (if k == .template then .meaningless else { form := .text }) ts
  | fuel + 1, .word w :: ts =>
    if ["None", "True", "False"].contains (String.ofList w) then trailers fuel within {} ts
    else if w == "not".toList then
      (operand fuel within ts).map fun (_, rest) => (.meaningless, rest)
    else if reserved.contains (String.ofList w) then .error .misplaced
    else trailers fuel within { form := .name w, fault := some .notLiteral } ts
  | fuel + 1, .mark m :: ts =>
    if m == "...".toList then trailers fuel within {} ts
    else if m == ['-'] || m == ['+'] then
      (operand fuel within ts).map fun (v, rest) => (v.negated, rest)
    else if m == ['~'] then
      (operand fuel within ts).map fun (_, rest) => (.meaningless, rest)
    else if m == ['('] then
      match ts with
      | .mark ['*', '*'] :: ts => do
        let (_, rest) ← chain fuel (some '(') ts
        throw (if rest.head?.any (isMark ')') then .starred true else .misplaced)
      | _ => do
        let (items, isTuple, rest) ← listItems fuel '(' ')' ts
        match items, isTuple with
        | [v], false =>
          if ts.head?.any (isMark '*') then throw (.starred false)
          else trailers fuel within v rest
        | _, _ => trailers fuel within (.tuple items) rest
    else if m == ['\x7b'] then do
      let (v, rest) ← braces fuel ts
      trailers fuel within v rest
    else .error .misplaced
  | _ + 1, .lineEnd :: _ => .error .misplaced
  | _ + 1, .backslash :: _ => .error .continuation

/-- Read what is called or selected behind a value. -/
def trailers (fuel : Nat) (within : Option Char) (v : Meaning) (ts : List Token) :
    Except LiteralError (Meaning × List Token) :=
  match fuel, ts with
  | 0, _ => .error .misplaced
  | fuel + 1, .mark ['('] :: ts => do
    let rest ← arguments fuel ts
    trailers fuel within (v.called (ts.head?.any (isMark ')'))) rest
  | fuel + 1, .mark ['.'] :: .word _ :: ts => trailers fuel within .meaningless ts
  | _ + 1, [.mark ['.']] => .error (endError within)
  | _ + 1, .mark ['.'] :: _ => .error .misplaced
  | _ + 1, .backslash :: _ => .error .continuation
  | _ + 1, ts => .ok (v, ts)

def chain (fuel : Nat) (within : Option Char) (ts : List Token) :
    Except LiteralError (Meaning × List Token) :=
  match fuel with
  | 0 => .error .misplaced
  | fuel + 1 => do
    let (v, rest) ← operand fuel within ts
    chainFrom fuel within v rest

/-- Read more operators and values behind a value. -/
def chainFrom (fuel : Nat) (within : Option Char) (v : Meaning) (ts : List Token) :
    Except LiteralError (Meaning × List Token) :=
  match fuel, operator? ts with
  | 0, _ => .error .misplaced
  | _ + 1, none => .ok (v, ts)
  | fuel + 1, some (op, ts) => do
    let (r, rest) ← operand fuel within ts
    chainFrom fuel within (v.combined op r) rest

/-- The error for an expression, whose tokens begin at `start`, with other tokens behind it that
cannot stand there. -/
def errorBehind (fuel : Nat) (within : Option Char) (start : List Token) (v : Meaning)
    (ts : List Token) : LiteralError :=
  match fuel, ts with
  | 0, _ => .misplaced
  | _, [] => endError within
  | fuel + 1, .mark ['='] :: ts =>
    match assignmentError? v.form, within with
    | some e, some _ =>
      match chain fuel within ts with
      | .ok (_, .mark ['='] :: _) => .misplaced
      | .ok (_, []) => endError within
      | .ok _ => e
      | .error (.neverClosed c) => .neverClosed c
      | .error _ => .misplaced
    | _, _ => .misplaced
  | fuel + 1, ts =>
    if hidesComma start then .misplaced
    else
      match operand fuel within ts, v.form with
      | .error .misplaced, _ => if endsEarly ts then endError within else .misplaced
      | .error .missingComma, .name _ => .missingComma
      | .error .missingComma, _ => adjacentError within
      | .error e, _ => e
      | .ok (r, rest), form =>
        match chainFrom fuel within r rest, form with
        | .error (.neverClosed c), _ => .neverClosed c
        | .ok (_, []), .name w => if isStatement w then .statement w else endError within
        | .ok (_, []), _ => endError within
        | .ok (r, next), .name w =>
          if isStatement w then
            match errorBehind fuel within ts r next with
            | .missingComma => .missingComma
            | _ => .statement w
          else adjacentError within
        | _, _ => adjacentError within

/-- Read expressions with commas between them up to the bracket that closes them. The second
result tells whether there is a comma or nothing at all. -/
def listItems (fuel : Nat) (opening closing : Char) (ts : List Token) :
    Except LiteralError (List Meaning × Bool × List Token) :=
  match fuel with
  | 0 => .error .misplaced
  | fuel + 1 =>
    if ts.head?.any (isMark closing) then .ok ([], true, ts.tail)
    else do
      let isStarred := ts.head?.any (isMark '*')
      let (v, rest) ← chain fuel (some opening) (if isStarred then ts.tail else ts)
      let v := if isStarred then .meaningless else v
      match rest with
      | .mark [','] :: rest =>
        let (vs, _, rest) ← listItems fuel opening closing rest
        return (v :: vs, true, rest)
      | _ =>
        if rest.head?.any (isMark closing) then return ([v], false, rest.tail)
        else throw (errorBehind fuel (some opening) ts v rest)

/-- Read the arguments of a call up to the bracket that closes them. -/
def arguments (fuel : Nat) (ts : List Token) : Except LiteralError (List Token) :=
  match fuel with
  | 0 => .error .misplaced
  | fuel + 1 =>
    if ts.head?.any (isMark ')') then .ok ts.tail
    else do
      let ts := match ts with
        | .word _ :: .mark ['='] :: ts => ts
        | .mark ['*'] :: ts => ts
        | .mark ['*', '*'] :: ts => ts
        | ts => ts
      let (v, rest) ← chain fuel (some '(') ts
      match rest with
      | .mark [','] :: rest => arguments fuel rest
      | _ =>
        if rest.head?.any (isMark ')') then return rest.tail
        else throw (errorBehind fuel (some '(') ts v rest)

/-- Read a set or a dictionary behind its opening brace. -/
def braces (fuel : Nat) (ts : List Token) : Except LiteralError (Meaning × List Token) :=
  match fuel with
  | 0 => .error .misplaced
  | fuel + 1 =>
    if ts.head?.any (isMark '\x7d') then .ok (.dictionary [], ts.tail)
    else do
      let (v, rest) ← chain fuel (some '\x7b') ts
      match rest with
      | .mark [':'] :: _ =>
        let (items, rest) ← pairs fuel ts
        return (.dictionary items, rest)
      | .mark [','] :: rest =>
        let (vs, _, rest) ← listItems fuel '\x7b' '\x7d' rest
        return (.set (v :: vs), rest)
      | _ =>
        if rest.head?.any (isMark '\x7d') then return (.set [v], rest.tail)
        else throw (errorBehind fuel (some '\x7b') ts v rest)

/-- Read the pairs of a dictionary up to its closing brace. -/
def pairs (fuel : Nat) (ts : List Token) :
    Except LiteralError (List (Meaning × Meaning) × List Token) :=
  match fuel with
  | 0 => .error .misplaced
  | fuel + 1 =>
    if ts.head?.any (isMark '\x7d') then .ok ([], ts.tail)
    else do
      let (k, rest) ← chain fuel (some '\x7b') ts
      match rest with
      | .mark [':'] :: valueStart =>
        if valueStart.head?.any fun t => isMark '\x7d' t || isMark ',' t then throw .missingValue
        else
          let (v, rest) ← chain fuel (some '\x7b') valueStart
          match rest with
          | .mark [','] :: rest =>
            let (items, rest) ← pairs fuel rest
            return ((k, v) :: items, rest)
          | _ =>
            if rest.head?.any (isMark '\x7d') then return ([(k, v)], rest.tail)
            else throw (errorBehind fuel (some '\x7b') valueStart v rest)
      | [] => throw (.neverClosed '\x7b')
      | _ => throw .missingColon

end

/-- Read expressions with commas between them up to the end. The second result tells whether
there is a comma. -/
def expressions (fuel : Nat) (ts : List Token) : Except LiteralError (List Meaning × Bool) :=
  match fuel with
  | 0 => .error .misplaced
  | fuel + 1 => do
    let (v, rest) ← chain fuel none ts
    match rest with
    | .mark [','] :: rest =>
      if rest.all (· == .lineEnd) then return ([v], true)
      else
        let (vs, _) ← expressions fuel rest
        return (v :: vs, true)
    | _ =>
      if rest.all (· == .lineEnd) then return ([v], false)
      else throw (errorBehind fuel none ts v rest)

def literal (cs : List Char) : Except LiteralError Meaning := do
  let ts ← tokens cs
  let (items, isTuple) ← expressions (4 * ts.length + 4) ts
  return match items, isTuple with
    | [v], false => v
    | _, _ => .tuple items

end SyntaxCursor.Display.Action
