import Handover.Flag.Table
import Handover.Proofs.Respelling.Gathered
import Handover.Proofs.Respelling.Spelled

/-!
A short token that is spread out means what its flags mean one by one. Whether the letters are read
together or each as a token of its own, the same words, warnings and complaints come of them, in the
same order, and what follows is read in the same way.
-/

namespace Handover

namespace FlagTable

def flagLetters (table : FlagTable) (letters : List Char) : List Char :=
  table.plainLetters letters ++ (table.valuedLetters letters).take 1

/-- The flags of a short token, each as a token of its own. What is attached to the last follows
as another token. -/
def writtenOut (table : FlagTable) (letters : List Char) : List String :=
  (table.flagLetters letters).map (fun c => String.ofList ['-', c]) ++
    match (table.valuedLetters letters).drop 1 with
    | [] => []
    | attached => [String.ofList attached]

variable {table : FlagTable} {letters : List Char} {c : Char}

theorem flagLetters_cons_of_plain (plain : table.takesValue c = false) :
    table.flagLetters (c :: letters) = c :: table.flagLetters letters := by
  rw [flagLetters, flagLetters, plainLetters_cons_of_plain plain, valuedLetters_cons_of_plain plain,
    List.cons_append]

theorem flagLetters_cons_of_valued (takes : table.takesValue c = true) :
    table.flagLetters (c :: letters) = [c] := by
  rw [flagLetters, plainLetters_cons_of_valued takes, valuedLetters_cons_of_valued takes]
  rfl

theorem mem_flagLetters_cons : c ∈ table.flagLetters (c :: letters) := by
  cases takes : table.takesValue c with
  | true => simp [flagLetters_cons_of_valued takes]
  | false => simp [flagLetters_cons_of_plain takes]

theorem writtenOut_cons_of_plain (plain : table.takesValue c = false) :
    table.writtenOut (c :: letters) = String.ofList ['-', c] :: table.writtenOut letters := by
  rw [writtenOut, writtenOut, flagLetters_cons_of_plain plain, valuedLetters_cons_of_plain plain,
    List.map_cons, List.cons_append]

theorem writtenOut_cons_of_valued (takes : table.takesValue c = true) :
    table.writtenOut (c :: letters) =
      String.ofList ['-', c] :: if letters.isEmpty then [] else [String.ofList letters] := by
  rw [writtenOut, flagLetters_cons_of_valued takes, valuedLetters_cons_of_valued takes]
  cases letters <;> rfl

end FlagTable

namespace Dialect

variable {d : Dialect} {letters : List Char} {c : Char} {flag : Flag} {ys : List String}

theorem readExpansion_cons (flag : Flag) (plain : List Flag) (valued : Option (Flag × List Char)) :
    readExpansion ⟨flag :: plain, valued⟩ =
      flag.accept.bind fun block => (readExpansion ⟨plain, valued⟩).map (·.behind block) := by
  unfold readExpansion
  rw [Flag.acceptAll]
  cases flag.accept with
  | error obstacle => rfl
  | ok first =>
    cases Flag.acceptAll plain with
    | error obstacle => rfl
    | ok others =>
      cases valued with
      | none => rfl
      | some pair =>
        obtain ⟨last, attached⟩ := pair
        simp only [Except.map, Except.bind]
        cases last.accept with
        | error obstacle => rfl
        | ok block =>
          cases attached with
          | nil => simp [Reading.behind, Block.append_assoc]
          | cons c rest => simp [Reading.behind, Block.append_assoc]

theorem ne_stop_of_readExpansion {expansion : Expansion} {reading : Reading}
    (read : readExpansion expansion = .ok reading) : reading ≠ .stop := by
  obtain ⟨plain, valued⟩ := expansion
  obtain ⟨block, -, ⟨-, rfl⟩ | ⟨flag, attached, last, -, -, rfl⟩⟩ := readExpansion_cases read
  · simp
  · split <;> simp

theorem read_letter (single : c ≠ '-') (entry : d.flags.letter? c = some flag) :
    d.read (String.ofList ['-', c]) = readFlag flag := by
  have shape : Token.shape (String.ofList ['-', c]) = .short [c] :=
    Token.shape_ofList (by simp) (by simpa using single)
  exact read_of_lists ⟨entry, .inr ⟨[c], shape⟩⟩

theorem bind_readExpansion_cons (flag : Flag) (plain : List Flag)
    (valued : Option (Flag × List Char)) (ys : List String) :
    (readExpansion ⟨flag :: plain, valued⟩).bind (d.gatherFrom ys) =
      flag.accept.bind fun block =>
        ((readExpansion ⟨plain, valued⟩).bind (d.gatherFrom ys)).map (block ++ ·) := by
  rw [readExpansion_cons]
  cases flag.accept with
  | error obstacle => rfl
  | ok block =>
    cases others : readExpansion ⟨plain, valued⟩ with
    | error obstacle => rfl
    | ok reading => exact gatherFrom_behind (ne_stop_of_readExpansion others) block

theorem gather_letter_of_plain (single : c ≠ '-') (entry : d.flags.letter? c = some flag)
    (plain : flag.takesValue = false) (ys : List String) :
    d.gather (String.ofList ['-', c] :: ys) =
      flag.accept.bind fun block => (d.gather ys).map (block ++ ·) := by
  rw [gather_cons, read_letter single entry, readFlag, plain]
  cases flag.accept <;> rfl

theorem gather_letter_of_valued (single : c ≠ '-') (entry : d.flags.letter? c = some flag)
    (takes : flag.takesValue = true) (attached : List Char) (ys : List String) :
    d.gather (String.ofList ['-', c] ::
        ((if attached.isEmpty then [] else [String.ofList attached]) ++ ys)) =
      (readExpansion ⟨[], some (flag, attached)⟩).bind (d.gatherFrom ys) := by
  rw [gather_cons, read_letter single entry]
  simp only [readFlag, takes, readExpansion, Flag.acceptAll]
  cases flag.accept with
  | error obstacle => rfl
  | ok block =>
    cases attached with
    | nil => rfl
    | cons x rest => exact gatherFrom_value block flag (String.ofList (x :: rest))

theorem gather_writtenOut
    (known : ∀ c ∈ d.flags.flagLetters letters, c ≠ '-' ∧ d.flags.knows c = true)
    (ys : List String) :
    d.gather (d.flags.writtenOut letters ++ ys) =
      (readExpansion ⟨(d.flags.plainLetters letters).filterMap d.flags.letter?,
        d.flags.valued? letters⟩).bind (d.gatherFrom ys) := by
  induction letters with
  | nil =>
    change d.gather ys = (d.gather ys).map (Block.empty ++ ·)
    cases d.gather ys <;> rfl
  | cons c rest ih =>
    obtain ⟨single, listed⟩ := known c FlagTable.mem_flagLetters_cons
    obtain ⟨flag, entry⟩ := Option.isSome_iff_exists.mp listed
    have takesValue := FlagTable.takesValue_eq entry
    cases takes : d.flags.takesValue c with
    | true =>
      rw [FlagTable.writtenOut_cons_of_valued takes, FlagTable.plainLetters_cons_of_valued takes,
        FlagTable.valued?_cons_of_valued entry takes, List.cons_append]
      exact gather_letter_of_valued single entry (takesValue.symm.trans takes) rest ys
    | false =>
      rw [FlagTable.flagLetters_cons_of_plain takes] at known
      rw [FlagTable.writtenOut_cons_of_plain takes, FlagTable.plainLetters_cons_of_plain takes,
        FlagTable.valued?_cons_of_plain takes, List.filterMap_cons_some entry, List.cons_append,
        gather_letter_of_plain single entry (takesValue.symm.trans takes), bind_readExpansion_cons,
        ih fun x member => known x (List.mem_cons_of_mem c member)]

/-- Without renames, a short token means what its flags mean when each is written out: the words,
the warnings, and whatever is in the way are the same. -/
theorem respell_spread (unrenamed : d.renames = []) (some_letter : letters ≠ [])
    (unlisted : d.flags.get? (String.ofList ('-' :: letters)) = none)
    (known : ∀ c ∈ d.flags.flagLetters letters, c ≠ '-' ∧ d.flags.knows c = true)
    (ys : List String) :
    d.respell (String.ofList ('-' :: letters) :: ys) =
      d.respell (d.flags.writtenOut letters ++ ys) := by
  rw [respell_eq, respell_eq]
  congr 1
  obtain ⟨c, rest, rfl⟩ := List.exists_cons_of_ne_nil some_letter
  have single : (c :: rest).head? ≠ some '-' := by
    simpa using (known c FlagTable.mem_flagLetters_cons).1
  have shape := Token.shape_ofList some_letter single
  have spread : d.flags.expand? (c :: rest) =
      some ⟨(d.flags.plainLetters (c :: rest)).filterMap d.flags.letter?,
        d.flags.valued? (c :: rest)⟩ :=
    FlagTable.expand?_of_known fun x member => (known x (List.mem_append_left _ member)).2
  rw [gather_cons, gather_writtenOut known]
  simp only [Dialect.read, shape, readShort, unlisted, unrenamed, List.isEmpty_nil, Bool.not_true,
    Bool.false_and, Bool.false_eq_true, if_false, spread]

/-- The letter behind `l` is a value, although it is a flag elsewhere. With an unsupported letter in
the middle, both command lines are refused for it. -/
theorem respell_spread_scan :
    Command.scan.dialect.respell ("-ddlc" :: ["-d"]) =
        Command.scan.dialect.respell (["-d", "-d", "-l", "c"] ++ ["-d"]) ∧
      Command.scan.dialect.respell ("-ddlc" :: ["-d"]) =
        .ok ⟨["--dry-run", "--dry-run", "--limit", "c", "--dry-run"], [dumpWarning]⟩ ∧
      (dwindled []).respell ("-dxn" :: []) = (dwindled []).respell (["-d", "-x", "-n"] ++ []) := by
  refine ⟨?_, rfl, ?_⟩
  · have letters : Command.scan.dialect.flags.flagLetters ['d', 'd', 'l', 'c'] =
        ['d', 'd', 'l'] := rfl
    have known : ∀ c ∈ Command.scan.dialect.flags.flagLetters ['d', 'd', 'l', 'c'],
        c ≠ '-' ∧ Command.scan.dialect.flags.knows c = true := by
      rw [letters]
      simp only [List.forall_mem_cons]
      exact ⟨by decide, by decide, by decide, by simp⟩
    exact respell_spread rfl (by simp) rfl known ["-d"]
  · have letters : (dwindled []).flags.flagLetters ['d', 'x', 'n'] = ['d', 'x', 'n'] := rfl
    have known : ∀ c ∈ (dwindled []).flags.flagLetters ['d', 'x', 'n'],
        c ≠ '-' ∧ (dwindled []).flags.knows c = true := by
      rw [letters]
      simp only [List.forall_mem_cons]
      exact ⟨by decide, by decide, by decide, by simp⟩
    exact respell_spread rfl (by simp) rfl known []

end Dialect

end Handover
