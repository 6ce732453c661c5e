import Handover.Proofs.Respelling.Walk
import Handover.Verdict

/-!
A respelling is faithful: each token of the command line is answered by words of its own, in the
order of the tokens. Values, data, whatever stands beyond the separator, and flags that the table
does not list are answered by themselves.
-/

namespace Handover.Dialect

/-- What is known about the words that stand for a token in its role. What stands for a flag is
settled by the flag alone, or by the flag and its value. -/
structure StandsFor (d : Dialect) (token : String) (role : Token.Role) (words : List String) :
    Prop where
  some_word : words ≠ []
  verbatim : role ≠ .leading ∨ d.Untouched token → words = [token]
  alone : role = .leading → d.awaits token = false →
    ∃ warnings, d.respell [token] = .ok ⟨words, warnings⟩
  with_value : role = .leading → d.awaits token = true → ∀ value : String,
    ∃ warnings, d.respell [token, value] = .ok ⟨words ++ [value], warnings⟩

/-- The arguments are one block of words after the other, one for each token. -/
def Faithful (d : Dialect) (tokens args : List String) : Prop :=
  ∃ blocks : List (List String), blocks.flatten = args ∧ blocks.length = tokens.length ∧
    ∀ (i : Nat) (token : String) (role : Token.Role) (words : List String),
      tokens[i]? = some token → (d.roles tokens)[i]? = some role → blocks[i]? = some words →
        d.StandsFor token role words

variable {d : Dialect} {token value : String} {block : Block} {role : Token.Role}

theorem standsFor_self (other : role ≠ .leading) : d.StandsFor token role [token] where
  some_word := List.cons_ne_nil _ _
  verbatim _ := rfl
  alone leading := absurd leading other
  with_value leading := absurd leading other

theorem standsFor_of_read_whole (read : d.read token = .ok (.whole block)) :
    d.StandsFor token .leading block.words := by
  obtain ⟨-, alone, some_word⟩ := fits_of_read_whole read
  refine ⟨some_word, fun standing => ?_, fun _ _ => ?_, fun _ awaiting => ?_⟩
  · have untouched := standing.resolve_left fun other => other rfl
    rw [read_of_untouched untouched] at read
    cases read
    rfl
  · simp [respell, blocks, read, Except.map, Respelling.ofBlocks]
  · rw [alone] at awaiting
    cases awaiting

theorem standsFor_of_read_awaiting {flag : Flag}
    (read : d.read token = .ok (.awaiting block flag)) :
    d.StandsFor token .leading block.words := by
  obtain ⟨-, waits, some_word⟩ := fits_of_read_awaiting read
  refine ⟨some_word, fun standing => ?_, fun _ alone => ?_, fun _ _ value => ?_⟩
  · have untouched := standing.resolve_left fun other => other rfl
    rw [read_of_untouched untouched] at read
    cases read
  · rw [alone] at waits
    cases waits
  · simp [respell, blocks, read, Except.map, Respelling.ofBlocks, Block.verbatim]

theorem standsFor_of_walk {tokens : List String} {roles : List Token.Role} {blocks : List Block}
    (walk : d.Walk tokens roles blocks) (i : Nat) {block : Block}
    (at_token : tokens[i]? = some token) (at_role : roles[i]? = some role)
    (at_block : blocks[i]? = some block) :
    d.StandsFor token role block.words := by
  induction walk generalizing i with
  | nil => simp at at_token
  | stop rest =>
    rw [List.getElem?_map, at_token] at at_block
    cases at_block
    cases i with
    | zero =>
      cases at_role
      exact standsFor_self (by decide)
    | succ i =>
      simp only [List.getElem?_cons_succ, List.getElem?_map, Option.map_eq_some_iff] at at_role
      obtain ⟨-, -, rfl⟩ := at_role
      exact standsFor_self (by decide)
  | whole read some_word tail ih =>
    cases i with
    | zero =>
      cases at_token
      cases at_role
      cases at_block
      exact standsFor_of_read_whole read
    | succ i => exact ih i at_token at_role at_block
  | awaiting read some_word tail ih =>
    match i with
    | 0 =>
      cases at_token
      cases at_role
      cases at_block
      exact standsFor_of_read_awaiting read
    | 1 =>
      cases at_token
      cases at_role
      cases at_block
      exact standsFor_self (by decide)
    | i + 2 => exact ih i at_token at_role at_block

theorem length_of_walk {tokens : List String} {roles : List Token.Role} {blocks : List Block}
    (walk : d.Walk tokens roles blocks) : blocks.length = tokens.length := by
  induction walk with
  | nil => rfl
  | stop rest => simp
  | whole _ _ _ ih => simp [ih]
  | awaiting _ _ _ ih => simp [ih]

/-- No token is lost, made up, changed in passing or moved. -/
theorem respell_faithful {tokens : List String} {r : Respelling}
    (respelled : d.respell tokens = .ok r) : d.Faithful tokens r.args := by
  obtain ⟨blocks, read, rfl⟩ := map_eq_ok_iff.mp respelled
  have walk := walk_of_blocks read
  refine ⟨blocks.map Block.words, ?_, ?_, ?_⟩
  · rw [Respelling.ofBlocks, List.flatMap_def]
  · rw [List.length_map, length_of_walk walk]
  · intro i token role words at_token at_role at_words
    rw [List.getElem?_map, Option.map_eq_some_iff] at at_words
    obtain ⟨block, at_block, rfl⟩ := at_words
    exact standsFor_of_walk walk i at_token at_role at_block

theorem respell_faithful_scan :
    Command.scan.dialect.respell ["-nl", "--", "-dx", "-d", "--limit=5", "-", "--", "-d"] =
        .ok ⟨["--nopush", "--limit", "--", "-dx", "--dry-run", "--limit=5", "-", "--", "-d"],
          [dumpWarning]⟩ ∧
      Command.scan.dialect.Faithful ["-nl", "--", "-dx", "-d", "--limit=5", "-", "--", "-d"]
        ["--nopush", "--limit", "--", "-dx", "--dry-run", "--limit=5", "-", "--", "-d"] := by
  have respelled : Command.scan.dialect.respell
      ["-nl", "--", "-dx", "-d", "--limit=5", "-", "--", "-d"] =
        .ok ⟨["--nopush", "--limit", "--", "-dx", "--dry-run", "--limit=5", "-", "--", "-d"],
          [dumpWarning]⟩ := by
    rfl
  exact ⟨respelled, respell_faithful respelled⟩

end Handover.Dialect
