import Handover.Proofs.Respelling.Walk
import Handover.Proofs.Token

/-!
The ways to read a token where a flag may stand. Whatever holds of each of them holds of everything
that is read.
-/

namespace Handover.Dialect

inductive Reads (d : Dialect) (token : String) : Reading → Prop where
  | stop (ended : token = "--") : Reads d token .stop
  | verbatim : Reads d token (.whole (.verbatim token))
  | flag {flag : Flag} {reading : Reading} (entry : d.flags.get? token = some flag)
    (read : readFlag flag = .ok reading) : Reads d token reading
  | attached {name value : String} {flag : Flag} {block : Block} (named : Token.IsName name)
    (split : token = name ++ "=" ++ value) (entry : d.flags.get? name = some flag)
    (takes : flag.takesValue = true) (accepted : flag.accept = .ok block) :
    Reads d token (.whole { block with words := [flag.spelling ++ "=" ++ value] })
  | renamed {letters : List Char} {reading : Reading}
    (short : Token.shape token = .short letters) (some_rename : d.renames.isEmpty = false)
    (alpha : letters.all Char.isAlpha = true) (read : d.readRenamed letters = .ok reading) :
    Reads d token reading
  | expanded {letters : List Char} {reading : Reading}
    (short : Token.shape token = .short letters)
    (known : ∀ c ∈ d.flags.plainLetters letters, d.flags.knows c = true)
    (read : readExpansion ⟨(d.flags.plainLetters letters).filterMap d.flags.letter?,
      d.flags.valued? letters⟩ = .ok reading) : Reads d token reading

variable {d : Dialect} {token name : String} {attached : Option String} {letters : List Char}
  {reading : Reading}

theorem reads_of_readLong (shape : Token.shape token = .long name attached)
    (read : d.readLong token name attached = .ok reading) : d.Reads token reading := by
  unfold readLong at read
  cases entry : d.flags.get? name with
  | none =>
    simp only [entry, Except.ok.injEq] at read
    rw [← read]
    exact .verbatim
  | some flag =>
    rcases Token.shape_long_cases shape with ⟨rfl, rfl, -⟩ | ⟨value, rfl, split, named⟩
    · simp only [entry] at read
      exact .flag entry read
    · cases takes : flag.takesValue with
      | false => simp [entry, takes] at read
      | true =>
        simp only [entry, takes, if_true] at read
        obtain ⟨block, accepted, rfl⟩ := map_eq_ok_iff.mp read
        exact .attached named split entry takes accepted

theorem reads_of_readShort (short : Token.shape token = .short letters)
    (read : d.readShort token letters = .ok reading) : d.Reads token reading := by
  unfold readShort at read
  cases entry : d.flags.get? token with
  | some flag =>
    simp only [entry] at read
    exact .flag entry read
  | none =>
    simp only [entry, d.renamesCluster_eq short] at read
    cases renamed : d.renamesCluster letters with
    | true =>
      simp only [renamed, if_true] at read
      simp only [renamesCluster, Bool.and_eq_true, Bool.not_eq_true'] at renamed
      exact .renamed short renamed.1 renamed.2 read
    | false =>
      simp only [renamed, Bool.false_eq_true, if_false] at read
      by_cases known : ∀ c ∈ d.flags.plainLetters letters, d.flags.knows c = true
      · rw [FlagTable.expand?_of_known known] at read
        exact .expanded short known read
      · obtain ⟨c, member, absent⟩ :
            ∃ c ∈ d.flags.plainLetters letters, d.flags.knows c = false := by
          simpa using known
        rw [FlagTable.expand?_of_unknown member absent] at read
        cases read
        exact .verbatim

theorem reads_of_read (read : d.read token = .ok reading) : d.Reads token reading := by
  unfold Dialect.read at read
  cases shape : Token.shape token with
  | terminator =>
    simp only [shape, Except.ok.injEq] at read
    rw [← read]
    exact .stop (Token.shape_eq_terminator_iff.mp shape)
  | data =>
    simp only [shape, Except.ok.injEq] at read
    rw [← read]
    exact .verbatim
  | long name attached =>
    simp only [shape] at read
    exact reads_of_readLong shape read
  | short letters =>
    simp only [shape] at read
    exact reads_of_readShort shape read

end Handover.Dialect
