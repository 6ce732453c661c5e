import Handover.Proofs.Respelling.Walk

/-!
All that comes of a command line as one block. Where a block ends says nothing about the words and
the warnings, so command lines that come to the same block are respelled alike, and a token adds its
block to that of the tokens behind it.
-/

namespace Handover

namespace Block

def empty : Block := { words := [] }

def merge (blocks : List Block) : Block := blocks.foldr (· ++ ·) empty

@[simp] theorem empty_append (block : Block) : empty ++ block = block := rfl

theorem append_assoc (first second third : Block) :
    first ++ second ++ third = first ++ (second ++ third) := by
  change Block.mk (_ ++ _ ++ _) (_ ++ _ ++ _) = Block.mk (_ ++ (_ ++ _)) (_ ++ (_ ++ _))
  rw [List.append_assoc, List.append_assoc]

theorem words_merge (blocks : List Block) : (merge blocks).words = blocks.flatMap words := by
  induction blocks with
  | nil => rfl
  | cons block rest ih =>
    rw [List.flatMap_cons, ← ih]
    rfl

theorem warnings_merge (blocks : List Block) :
    (merge blocks).warnings = blocks.flatMap warnings := by
  induction blocks with
  | nil => rfl
  | cons block rest ih =>
    rw [List.flatMap_cons, ← ih]
    rfl

end Block

namespace Respelling

def ofBlock (block : Block) : Respelling := ⟨block.words, block.warnings.eraseDups⟩

def prepend (words : List String) (r : Respelling) : Respelling := ⟨words ++ r.args, r.warnings⟩

theorem ofBlocks_eq (blocks : List Block) : ofBlocks blocks = ofBlock (.merge blocks) := by
  rw [ofBlocks, ofBlock, Block.words_merge, Block.warnings_merge]

theorem ofBlock_append {block : Block} (silent : block.warnings = []) (others : Block) :
    ofBlock (block ++ others) = prepend block.words (ofBlock others) := by
  rw [ofBlock, Block.words_append, Block.warnings_append, silent, List.nil_append]
  rfl

end Respelling

def Reading.behind (block : Block) : Reading → Reading
  | .stop => .stop
  | .whole own => .whole (block ++ own)
  | .awaiting own flag => .awaiting (block ++ own) flag

namespace Dialect

variable {d : Dialect} {token value : String} {block : Block} {flag : Flag} {reading : Reading}
  {xs ys : List String}

/-- What the tokens come to as one block. -/
def gather (d : Dialect) (tokens : List String) : Except Obstacle Block :=
  (d.blocks tokens).map .merge

def gatherFrom (d : Dialect) (rest : List String) : Reading → Except Obstacle Block
  | .stop => .ok (.merge (("--" :: rest).map .verbatim))
  | .whole block => (d.gather rest).map (block ++ ·)
  | .awaiting block flag =>
    match rest with
    | [] => .error (.valueMissing d.program flag)
    | value :: rest => (d.gather rest).map fun others => block ++ (.verbatim value ++ others)

theorem respell_eq (d : Dialect) (tokens : List String) :
    d.respell tokens = (d.gather tokens).map .ofBlock := by
  rw [respell, gather]
  cases d.blocks tokens with
  | error obstacle => rfl
  | ok blocks => exact congrArg Except.ok (Respelling.ofBlocks_eq blocks)

theorem gather_cons (d : Dialect) (token : String) (rest : List String) :
    d.gather (token :: rest) = (d.read token).bind (d.gatherFrom rest) := by
  rw [gather, blocks]
  cases read : d.read token with
  | error obstacle => rfl
  | ok reading =>
    cases reading with
    | stop =>
      rw [eq_terminator_of_read_stop read]
      rfl
    | whole block =>
      simp only [Except.bind, gatherFrom, gather]
      cases d.blocks rest <;> rfl
    | awaiting block flag =>
      cases rest with
      | nil => rfl
      | cons value rest =>
        simp only [Except.bind, gatherFrom, gather]
        cases d.blocks rest <;> rfl

theorem gatherFrom_behind (leads : reading ≠ .stop) (block : Block) :
    d.gatherFrom ys (reading.behind block) = (d.gatherFrom ys reading).map (block ++ ·) := by
  cases reading with
  | stop => exact absurd rfl leads
  | whole own =>
    simp only [Reading.behind, gatherFrom]
    cases d.gather ys with
    | error obstacle => rfl
    | ok others => exact congrArg Except.ok (Block.append_assoc block own others)
  | awaiting own flag =>
    cases ys with
    | nil => rfl
    | cons value rest =>
      simp only [Reading.behind, gatherFrom]
      cases d.gather rest with
      | error obstacle => rfl
      | ok others => exact congrArg Except.ok (Block.append_assoc block own _)

theorem gatherFrom_value (block : Block) (flag : Flag) (value : String) :
    d.gatherFrom (value :: ys) (.awaiting block flag) =
      d.gatherFrom ys (.whole (block ++ .verbatim value)) := by
  simp only [gatherFrom]
  cases d.gather ys with
  | error obstacle => rfl
  | ok others => exact congrArg Except.ok (Block.append_assoc block (.verbatim value) others).symm

theorem respell_of_whole (silent : block.warnings = [])
    (gathered : d.gather xs = d.gatherFrom ys (.whole block)) :
    d.respell xs = (d.respell ys).map (.prepend block.words) := by
  rw [respell_eq, respell_eq, gathered, gatherFrom]
  cases d.gather ys with
  | error obstacle => rfl
  | ok others => exact congrArg Except.ok (Respelling.ofBlock_append silent others)

theorem respell_cons_of_whole (silent : block.warnings = [])
    (read : d.read token = .ok (.whole block)) (ys : List String) :
    d.respell (token :: ys) = (d.respell ys).map (.prepend block.words) := by
  refine respell_of_whole silent ?_
  rw [gather_cons, read]
  rfl

theorem respell_cons_of_awaiting (silent : block.warnings = [])
    (read : d.read token = .ok (.awaiting block flag)) (value : String) (ys : List String) :
    d.respell (token :: value :: ys) = (d.respell ys).map (.prepend (block.words ++ [value])) := by
  have both : (block ++ .verbatim value).warnings = [] := by simp [silent, Block.verbatim]
  have gathered : d.gather (token :: value :: ys) =
      d.gatherFrom ys (.whole (block ++ .verbatim value)) := by
    rw [gather_cons, read, ← gatherFrom_value block flag value]
    rfl
  exact respell_of_whole both gathered

theorem respell_of_awaiting (read : d.read token = .ok (.awaiting block flag)) :
    d.respell [token] = .error (.valueMissing d.program flag) := by
  rw [respell_eq, gather_cons, read]
  rfl

end Dialect

end Handover
