import SyntaxCursor.Display.Action.Literal

/-!
# Parameters of actions

A tag whose name begins with an at sign attaches an action to a text. Its parameters are the
name of a handler, the arguments of a call in brackets, both, or any other literal. They are
read when the tag is closed, and a text that cannot be read then refuses the markup.
-/
namespace SyntaxCursor.Display.Action

inductive ParameterError where
  /-- Part of the parameters is no expression. -/
  | illFormed (part parameters : List Char) (e : LiteralError)
  | meaningless (parameters : List Char) (e : Fault)
  /-- The parameters hold the null character. -/
  | null (parameters : List Char)
  deriving DecidableEq, Repr

def ParameterError.message : ParameterError → String
  | illFormed part parameters e =>
    "error parsing " ++ String.ofList (Text.quoted part) ++ " in " ++
      String.ofList (Text.quoted parameters) ++ "; " ++ e.message
  | meaningless parameters e =>
    "error parsing " ++ String.ofList (Text.quoted parameters) ++ "; " ++ e.message
  | null parameters =>
    "error parsing " ++ String.ofList (Text.quoted parameters) ++
      "; source code string cannot contain null bytes"

/-- The part of parameters that is a literal: what stands in the brackets behind the name of a
handler, together with them, or everything if there is no call. -/
def literalPart (parameters : List Char) : List Char :=
  let cs := Text.trimBy Text.isBlank parameters
  let call := cs.dropWhile fun c => Text.isWordChar c || c == '.'
  if call.isEmpty then "()".toList
  else if call.head? == some '(' && call.getLast? == some ')' && !call.contains '\n' then call
  else cs

def check (parameters : List Char) : Except ParameterError Unit :=
  let part := literalPart parameters
  if part.contains '\x00' then .error (.null parameters)
  else
    match literal part with
    | .error e => .error (.illFormed part parameters e)
    | .ok v =>
      match v.fault with
      | some e => .error (.meaningless parameters e)
      | none => .ok ()

end SyntaxCursor.Display.Action
