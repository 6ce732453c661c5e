import Handover.Failure
import Handover.Flag.Basic
import Handover.Token

/-!
Respelling: the tokens of a legacy command line, read from left to right, become those of the
current tool. Each token is read by itself. What it comes to is a block of words, and at most one
following token is taken up as a value. The result is the concatenation of the blocks.
-/

namespace Handover

/-- The words that stand for one token, and the warnings that go with them. -/
structure Block where
  words : List String
  warnings : List String := []
  deriving DecidableEq

namespace Block

def verbatim (token : String) : Block := { words := [token] }

instance : Append Block where
  append first second := ⟨first.words ++ second.words, first.warnings ++ second.warnings⟩

@[simp] theorem words_append (first second : Block) :
    (first ++ second).words = first.words ++ second.words := rfl

@[simp] theorem warnings_append (first second : Block) :
    (first ++ second).warnings = first.warnings ++ second.warnings := rfl

end Block

inductive Obstacle where
  | unsupported (flag : Flag)
  | valueRefused (program : String) (flag : Flag) (token : String)
  | valueMissing (program : String) (flag : Flag)
  | breakdown (breakdown : Breakdown)
  deriving DecidableEq

namespace Obstacle

def trouble : Obstacle → Trouble
  | .unsupported flag => .failure {
      kind := .unsupported
      message := "ERROR: legacy flag '" ++ flag.legacy ++ "' is not supported: " ++
        (Text.nonempty? flag.warning).getD "it has no equivalent in ztc" }
  | .valueRefused program flag token => .failure {
      kind := .malformed
      message := "ERROR: legacy flag '" ++ flag.legacy ++ "' does not take a value (received '" ++
        token ++ "').\n\nPass the flag on its own:\n  " ++ program ++ " " ++ flag.legacy }
  | .valueMissing program flag => .failure {
      kind := .malformed
      message := "ERROR: legacy flag '" ++ flag.legacy ++ "' expects a value but none was given." ++
        "\n\nPass the value as the next argument, for example:\n  " ++ program ++ " " ++
        flag.legacy ++ " <value>" }
  | .breakdown cause => .breakdown cause

end Obstacle

namespace Flag

def accept (flag : Flag) : Except Obstacle Block :=
  if flag.fidelity = .unsupported then .error (.unsupported flag)
  else .ok { words := [flag.spelling], warnings := flag.warnings }

def acceptAll : List Flag → Except Obstacle Block
  | [] => .ok { words := [] }
  | flag :: rest =>
    match flag.accept with
    | .error obstacle => .error obstacle
    | .ok block => (acceptAll rest).map (block ++ ·)

end Flag

inductive Reading where
  | stop
  | whole (block : Block)
  | awaiting (block : Block) (flag : Flag)
  deriving DecidableEq

/-- A short token spread out into its flags: those without a value, then possibly one with a value
and the characters after it. -/
structure Expansion where
  plain : List Flag
  valued : Option (Flag × List Char)

namespace FlagTable

/-- Spreads letters out into flags, up to the first that takes a value. There is no expansion if a
letter before that is unknown. -/
def expand? (table : FlagTable) : List Char → Option Expansion
  | [] => some ⟨[], none⟩
  | c :: rest =>
    match table.letter? c with
    | none => none
    | some flag =>
      if flag.takesValue then some ⟨[], some (flag, rest)⟩
      else (expand? table rest).map fun e => { e with plain := flag :: e.plain }

/-- The letters up to the first that takes a value, its flag, and the characters after it. -/
def splitAtValue? (table : FlagTable) : List Char → Option (List Char × Flag × List Char)
  | [] => none
  | c :: rest =>
    match (table.letter? c).filter (·.takesValue) with
    | some flag => some ([c], flag, rest)
    | none => (splitAtValue? table rest).map fun (head, flag, tail) => (c :: head, flag, tail)

end FlagTable

def renameCluster (renames : List (String × String)) (token : String) : Except Breakdown String :=
  if Token.isCluster token then
    .ok (String.ofList ('-' :: (token.toList.drop 1).flatMap fun c =>
      ((renames.lookup (String.ofList [c])).getD (String.ofList [c])).toList))
  else .error (.notACluster token)

structure Dialect where
  flags : FlagTable
  renames : List (String × String) := []
  program : String := "ztc"

namespace Dialect

def readFlag (flag : Flag) : Except Obstacle Reading :=
  flag.accept.map fun block => if flag.takesValue then .awaiting block flag else .whole block

def readExpansion (expansion : Expansion) : Except Obstacle Reading :=
  match Flag.acceptAll expansion.plain with
  | .error obstacle => .error obstacle
  | .ok block =>
    match expansion.valued with
    | none => .ok (.whole block)
    | some (flag, attached) => flag.accept.map fun last =>
      if attached.isEmpty then .awaiting (block ++ last) flag
      else .whole (block ++ last ++ .verbatim (String.ofList attached))

/-- Renames a cluster up to the first flag that takes a value. What follows that flag is the value
and is split off unchanged. -/
def readRenamed (d : Dialect) (letters : List Char) : Except Obstacle Reading :=
  let renamed (letters : List Char) : Except Obstacle Block :=
    match renameCluster d.renames (String.ofList ('-' :: letters)) with
    | .ok word => .ok (.verbatim word)
    | .error breakdown => .error (.breakdown breakdown)
  match d.flags.splitAtValue? letters with
  | none => (renamed letters).map .whole
  | some (head, flag, attached) => (renamed head).map fun block =>
    if attached.isEmpty then .awaiting block flag
    else .whole (block ++ .verbatim (String.ofList attached))

def readLong (d : Dialect) (token name : String) (attached : Option String) :
    Except Obstacle Reading :=
  match d.flags.get? name, attached with
  | none, _ => .ok (.whole (.verbatim token))
  | some flag, none => readFlag flag
  | some flag, some value =>
    if flag.takesValue then
      flag.accept.map fun block =>
        .whole { block with words := [flag.spelling ++ "=" ++ value] }
    else .error (.valueRefused d.program flag token)

def readShort (d : Dialect) (token : String) (letters : List Char) : Except Obstacle Reading :=
  match d.flags.get? token with
  | some flag => readFlag flag
  | none =>
    if !d.renames.isEmpty && Token.isCluster token then d.readRenamed letters
    else match d.flags.expand? letters with
      | some expansion => readExpansion expansion
      | none => .ok (.whole (.verbatim token))

def read (d : Dialect) (token : String) : Except Obstacle Reading :=
  match Token.shape token with
  | .terminator => .ok .stop
  | .long name attached => d.readLong token name attached
  | .short letters => d.readShort token letters
  | .data => .ok (.whole (.verbatim token))

def blocks (d : Dialect) : List String → Except Obstacle (List Block)
  | [] => .ok []
  | token :: rest =>
    match d.read token with
    | .error obstacle => .error obstacle
    | .ok .stop => .ok ((token :: rest).map .verbatim)
    | .ok (.whole block) => (d.blocks rest).map (block :: ·)
    | .ok (.awaiting block flag) =>
      match rest with
      | [] => .error (.valueMissing d.program flag)
      | value :: rest => (d.blocks rest).map fun blocks => block :: .verbatim value :: blocks

end Dialect

structure Respelling where
  args : List String
  warnings : List String
  deriving DecidableEq

def Respelling.ofBlocks (blocks : List Block) : Respelling :=
  ⟨blocks.flatMap Block.words, (blocks.flatMap Block.warnings).eraseDups⟩

def Dialect.respell (d : Dialect) (tokens : List String) : Except Obstacle Respelling :=
  (d.blocks tokens).map Respelling.ofBlocks

end Handover
