import Handover.Proofs.Respelling.Walk
import Handover.Verdict

/-!
Respelling one command line behind another. Up to a separator in flag position the two are respelled
independently, except that the second repeats no warning of the first. Behind a separator everything
is data.
-/

namespace Handover

theorem eraseDups_filter {α : Type} [BEq α] [LawfulBEq α] (p : α → Bool) :
    (xs : List α) → (xs.filter p).eraseDups = xs.eraseDups.filter p
  | [] => rfl
  | x :: rest => by
    have inner := eraseDups_filter p (rest.filter fun y => !y == x)
    rw [List.filter_filter] at inner
    rw [List.eraseDups_cons]
    cases kept : p x with
    | true =>
      rw [List.filter_cons_of_pos kept, List.filter_cons_of_pos kept, List.eraseDups_cons, ← inner,
        List.filter_filter]
      simp only [Bool.and_comm]
    | false =>
      -- a head that is dropped has no repetitions among what is kept
      have same : rest.filter p = rest.filter fun y => p y && !y == x := by
        refine List.filter_congr fun y _ => ?_
        by_cases equal : y = x
        · simp [equal, kept]
        · simp [equal]
      rw [List.filter_cons_of_neg (by simp [kept]), List.filter_cons_of_neg (by simp [kept]), same,
        inner]
termination_by xs => xs.length
decreasing_by
  have shorter := List.length_filter_le (fun y => !y == x) rest
  simp only [List.length_cons]
  omega

namespace Respelling

/-- One respelling behind another, without the warnings that have already been given. -/
def followedBy (first second : Respelling) : Respelling :=
  ⟨first.args ++ second.args, first.warnings ++ second.warnings.filter (· ∉ first.warnings)⟩

theorem ofBlocks_append (first second : List Block) :
    ofBlocks (first ++ second) = (ofBlocks first).followedBy (ofBlocks second) := by
  have given (warning : String) :
      (!(first.flatMap Block.warnings).elem warning) =
        decide (warning ∉ (first.flatMap Block.warnings).eraseDups) := by
    rw [List.elem_eq_mem, decide_not, decide_eq_decide.mpr List.mem_eraseDups]
  simp only [ofBlocks, followedBy, List.flatMap_append, List.eraseDups_append, List.removeAll,
    eraseDups_filter, given]
  rfl

theorem mem_warnings_followedBy {first second : Respelling} {warning : String} :
    warning ∈ (first.followedBy second).warnings ↔
      warning ∈ first.warnings ∨ warning ∈ second.warnings := by
  by_cases given : warning ∈ first.warnings
  · simp [followedBy, given]
  · simp [followedBy, given]

theorem ofBlocks_append_verbatim (first : List Block) (data : List String) :
    ofBlocks (first ++ data.map .verbatim) =
      ⟨(ofBlocks first).args ++ data, (ofBlocks first).warnings⟩ := by
  simp only [ofBlocks, List.flatMap_append, Block.words_verbatim, Block.warnings_verbatim,
    List.append_nil]

end Respelling

namespace Dialect

variable {d : Dialect} {xs : List String} {roles : List Token.Role} {blocks : List Block}

theorem blocks_append_of_open (walk : d.Walk xs roles blocks)
    (unended : Token.Role.terminator ∉ roles) (ys : List String) :
    d.blocks (xs ++ ys) = (d.blocks ys).map (blocks ++ ·) := by
  induction walk with
  | nil =>
    rw [List.nil_append]
    cases d.blocks ys <;> rfl
  | stop rest => simp at unended
  | whole read some_word tail ih =>
    rw [List.cons_append, Dialect.blocks, read]
    simp only [ih (List.not_mem_of_not_mem_cons unended)]
    cases d.blocks ys <;> rfl
  | awaiting read some_word tail ih =>
    have later := List.not_mem_of_not_mem_cons (List.not_mem_of_not_mem_cons unended)
    rw [List.cons_append, List.cons_append, Dialect.blocks, read]
    simp only [ih later]
    cases d.blocks ys <;> rfl

theorem blocks_append_of_ended (walk : d.Walk xs roles blocks)
    (ended : Token.Role.terminator ∈ roles) (ys : List String) :
    d.blocks (xs ++ ys) = .ok (blocks ++ ys.map .verbatim) := by
  induction walk with
  | nil => cases ended
  | stop rest => rw [List.cons_append, Dialect.blocks, read_terminator]; simp
  | whole read some_word tail ih =>
    have later := (List.mem_cons.mp ended).resolve_left (by decide)
    rw [List.cons_append, Dialect.blocks, read]
    simp only [ih later]
    rfl
  | awaiting read some_word tail ih =>
    have behind := (List.mem_cons.mp ended).resolve_left (by decide)
    have later := (List.mem_cons.mp behind).resolve_left (by decide)
    rw [List.cons_append, List.cons_append, Dialect.blocks, read]
    simp only [ih later]
    rfl

theorem respell_append_of_open {r : Respelling} (respelled : d.respell xs = .ok r)
    (unended : Token.Role.terminator ∉ d.roles xs) (ys : List String) :
    d.respell (xs ++ ys) = (d.respell ys).map r.followedBy := by
  obtain ⟨blocks, read, rfl⟩ := map_eq_ok_iff.mp respelled
  rw [respell, blocks_append_of_open (walk_of_blocks read) unended, respell]
  cases d.blocks ys with
  | error obstacle => rfl
  | ok others => simp only [Except.map, Respelling.ofBlocks_append]

theorem respell_separated {r : Respelling} (respelled : d.respell xs = .ok r)
    (unended : Token.Role.terminator ∉ d.roles xs) (ys : List String) :
    d.respell (xs ++ "--" :: ys) = .ok ⟨r.args ++ "--" :: ys, r.warnings⟩ := by
  obtain ⟨blocks, read, rfl⟩ := map_eq_ok_iff.mp respelled
  have stopped : d.blocks ("--" :: ys) = .ok (("--" :: ys).map .verbatim) := by
    rw [Dialect.blocks, read_terminator]
  have whole : d.blocks (xs ++ "--" :: ys) = .ok (blocks ++ ("--" :: ys).map .verbatim) := by
    rw [blocks_append_of_open (walk_of_blocks read) unended, stopped]
    rfl
  rw [respell, whole]
  exact congrArg Except.ok (Respelling.ofBlocks_append_verbatim blocks ("--" :: ys))

/-- What follows is respelled as if it stood alone, down to the obstacle that it may meet. Behind a
separator that ends the flags it is copied, whatever it is. -/
theorem respell_append {r : Respelling} (respelled : d.respell xs = .ok r) (ys : List String) :
    (.terminator ∉ d.roles xs →
      d.respell (xs ++ ys) = (d.respell ys).map r.followedBy ∧
      d.respell (xs ++ ["--"] ++ ys) = .ok ⟨r.args ++ ["--"] ++ ys, r.warnings⟩) ∧
    (.terminator ∈ d.roles xs → d.respell (xs ++ ys) = .ok ⟨r.args ++ ys, r.warnings⟩) := by
  obtain ⟨blocks, read, rfl⟩ := map_eq_ok_iff.mp respelled
  have walk := walk_of_blocks read
  refine ⟨fun unended => ⟨?_, ?_⟩, fun ended => ?_⟩
  · exact respell_append_of_open respelled unended ys
  · have stopped : d.blocks (["--"] ++ ys) = .ok ((["--"] ++ ys).map .verbatim) := by
      rw [List.singleton_append, Dialect.blocks, read_terminator]
    rw [respell, List.append_assoc, blocks_append_of_open walk unended, stopped]
    simp only [Except.map, Respelling.ofBlocks_append_verbatim, List.append_assoc]
  · rw [respell, blocks_append_of_ended walk ended]
    simp only [Except.map, Respelling.ofBlocks_append_verbatim]

theorem respell_append_scan :
    Command.scan.dialect.respell (["--dump", "-l", "--"] ++ ["-d"]) =
        .ok ⟨["--dry-run", "--limit", "--", "--dry-run"], [dumpWarning]⟩ ∧
      Command.scan.dialect.respell (["--dump", "-l", "--"] ++ ["--"] ++ ["-c"]) =
        .ok ⟨["--dry-run", "--limit", "--", "--", "-c"], [dumpWarning]⟩ ∧
      Command.scan.dialect.respell (["--dump", "--"] ++ ["-c"]) =
        .ok ⟨["--dry-run", "--", "-c"], [dumpWarning]⟩ := by
  have valued : Command.scan.dialect.respell ["--dump", "-l", "--"] =
      .ok ⟨["--dry-run", "--limit", "--"], [dumpWarning]⟩ := rfl
  have unended : Token.Role.terminator ∉ Command.scan.dialect.roles ["--dump", "-l", "--"] := by
    decide
  have stopped : Command.scan.dialect.respell ["--dump", "--"] =
      .ok ⟨["--dry-run", "--"], [dumpWarning]⟩ := rfl
  have ended : Token.Role.terminator ∈ Command.scan.dialect.roles ["--dump", "--"] := by decide
  exact ⟨((respell_append valued ["-d"]).1 unended).1, ((respell_append valued ["-c"]).1 unended).2,
    (respell_append stopped ["-c"]).2 ended⟩

end Dialect

end Handover
