/-!
Command line tokens as they read in flag position.
-/

namespace Handover

inductive Token.Shape where
  | terminator
  /-- Two dashes and a name, with what follows the first equals sign. -/
  | long (name : String) (attached : Option String)
  | short (letters : List Char)
  | data
  deriving DecidableEq

namespace Token

def shape (token : String) : Shape :=
  match token.toList with
  | ['-', '-'] => .terminator
  | '-' :: '-' :: cs =>
    .long (String.ofList ('-' :: '-' :: cs.takeWhile (· != '=')))
      (match cs.dropWhile (· != '=') with
        | [] => none
        | _ :: value => some (String.ofList value))
  | '-' :: c :: cs => .short (c :: cs)
  | _ => .data

def isLong (token : String) : Bool :=
  match shape token with
  | .long .. => true
  | _ => false

def isShort (token : String) : Bool :=
  match shape token with
  | .short _ => true
  | _ => false

def isCluster (token : String) : Bool :=
  match shape token with
  | .short letters => letters.all Char.isAlpha
  | _ => false

end Token

end Handover
