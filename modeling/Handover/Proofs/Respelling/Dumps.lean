import Handover.Proofs.Respelling.Stable
import Handover.Proofs.Verdict

/-!
The dump flags of `scan`. A dry run stands for each of them, and that they lose something is said
once. The same letters may be the value of another flag, stand behind the separator, or belong to a
token that is no flag of `scan`. There they are copied, and count for nothing.
-/

namespace Handover

def Reading.block : Reading → Block
  | .stop => { words := [] }
  | .whole block => block
  | .awaiting block _ => block

namespace Scan

abbrev dialect : Dialect := Command.scan.dialect

def isValued (c : Char) : Bool := c == 'l' || c == 'c'

def front (letters : List Char) : List Char := letters.takeWhile fun c => !isValued c

def attached (letters : List Char) : List Char := (letters.dropWhile fun c => !isValued c).drop 1

def isSpread (letters : List Char) : Bool := (front letters).all fun c => c == 'n' || c == 'd'

/-- How many dump flags a token has, read where a flag may stand. -/
def dumpsIn (token : String) : Nat :=
  match Token.shape token with
  | .short letters => if isSpread letters then (front letters).count 'd' else 0
  | _ => if token = "--dump" then 1 else 0

def copiesIn (token : String) : List String :=
  match Token.shape token with
  | .long name _ => if name ∈ ["--nopush", "--limit", "--dump", "--config"] then [] else [token]
  | .short letters =>
    if isSpread letters then
      if (attached letters).isEmpty then [] else [String.ofList (attached letters)]
    else [token]
  | _ => [token]

def dumpsAs : String × Token.Role → Nat
  | (token, .leading) => dumpsIn token
  | _ => 0

def copiesAs : String × Token.Role → List String
  | (token, .leading) => copiesIn token
  | (token, _) => [token]

def total (placed : List (String × Token.Role)) : Nat :=
  placed.foldr (fun first others => dumpsAs first + others) 0

def dumps (tokens : List String) : Nat := total (tokens.zip (dialect.roles tokens))

def copies (tokens : List String) : List String :=
  (tokens.zip (dialect.roles tokens)).flatMap copiesAs

/-- The words of a block are some that are copied, and a dry run for each of some dumps. -/
structure Accounts (block : Block) (dumps : Nat) (copies : List String) : Prop where
  dryRuns : block.words.count "--dry-run" = dumps + copies.count "--dry-run"
  copied : copies.Sublist block.words
  warned : block.warnings = List.replicate dumps dumpWarning

variable {first second block : Block} {m n : Nat} {xs ys : List String} {token key : String}
  {flag : Flag} {letters : List Char} {c : Char}

theorem Accounts.append (head : Accounts first m xs) (tail : Accounts second n ys) :
    Accounts (first ++ second) (m + n) (xs ++ ys) where
  dryRuns := by
    rw [Block.words_append, List.count_append, List.count_append, head.dryRuns, tail.dryRuns]
    omega
  copied := head.copied.append tail.copied
  warned := by
    rw [Block.warnings_append, head.warned, tail.warned, List.replicate_append_replicate]

theorem accounts_verbatim (token : String) : Accounts (.verbatim token) 0 [token] where
  dryRuns := (Nat.zero_add _).symm
  copied := List.Sublist.refl _
  warned := rfl

/-! The letters of short tokens. -/

theorem letter_cases (entry : Command.scan.flags.letter? c = some flag) :
    c = 'n' ∨ c = 'l' ∨ c = 'd' ∨ c = 'c' := by
  have listed : ∀ entry ∈ Command.scan.flags, entry.1.toList.length = 2 →
      entry.1.toList.drop 1 ∈ [['n'], ['l'], ['d'], ['c']] := by decide
  have letter := listed _ (Entries.mem_of_get? entry)
  simpa using letter

theorem takesValue_eq (c : Char) : Command.scan.flags.takesValue c = isValued c := by
  cases entry : Command.scan.flags.letter? c with
  | some flag => rcases letter_cases entry with rfl | rfl | rfl | rfl <;> rfl
  | none =>
    rw [FlagTable.takesValue, entry, isValued]
    have noLimit : c ≠ 'l' := by rintro rfl; cases entry
    have noConfig : c ≠ 'c' := by rintro rfl; cases entry
    simp [noLimit, noConfig]

theorem plainLetters_eq (letters : List Char) :
    Command.scan.flags.plainLetters letters = front letters := by
  simp only [FlagTable.plainLetters, takesValue_eq, front]

theorem valuedLetters_eq (letters : List Char) :
    Command.scan.flags.valuedLetters letters =
      letters.dropWhile fun c => !isValued c := by
  simp only [FlagTable.valuedLetters, takesValue_eq]

theorem isSpread_iff :
    isSpread letters = true ↔
      ∀ c ∈ Command.scan.flags.plainLetters letters, Command.scan.flags.knows c = true := by
  rw [plainLetters_eq, isSpread, List.all_eq_true]
  refine forall₂_congr fun c member => ?_
  have plain : isValued c = false := by simpa using List.all_eq_true.mp List.all_takeWhile c member
  cases entry : Command.scan.flags.letter? c with
  | some flag =>
    have known : (c == 'n' || c == 'd') = true := by
      rcases letter_cases entry with rfl | rfl | rfl | rfl
      · rfl
      · cases plain
      · rfl
      · cases plain
    simp [FlagTable.knows, entry, known]
  | none =>
    have noPush : c ≠ 'n' := by rintro rfl; cases entry
    have noDump : c ≠ 'd' := by rintro rfl; cases entry
    simp [FlagTable.knows, entry, noPush, noDump]

theorem attached_of_valued? {rest : List Char}
    (valued : Command.scan.flags.valued? letters = some (flag, rest)) :
    attached letters = rest := by
  rw [FlagTable.valued?, valuedLetters_eq] at valued
  rw [attached]
  split at valued
  next => cases valued
  next c others dropped =>
    obtain ⟨own, -, same⟩ := Option.map_eq_some_iff.mp valued
    rw [dropped]
    exact congrArg Prod.snd same

theorem attached_of_plain (plain : Command.scan.flags.valued? letters = none) :
    attached letters = [] := by
  rcases Command.scan.flags.plain_or_valued letters with
    unvalued | ⟨before, c, rest, flag, rfl, before_plain, entry, takes⟩
  · have unvalued : ∀ c ∈ letters, (!isValued c) = true := by
      intro c member
      rw [← takesValue_eq, unvalued c member]
      rfl
    have dropped : (letters ++ []).dropWhile (fun c => !isValued c) = [] :=
      List.dropWhile_append_of_pos unvalued
    rw [List.append_nil] at dropped
    rw [attached, dropped]
    rfl
  · rw [(FlagTable.last_valued before_plain entry takes rest).2] at plain
    cases plain

/-! Tokens by themselves. -/

theorem accounts_of_listed (entry : Command.scan.flags.get? key = some flag)
    (accepted : flag.accept = .ok block) : Accounts block (dumpsIn key) [] := by
  have dryRuns : ∀ entry ∈ Command.scan.flags,
      [entry.2.spelling].count "--dry-run" = dumpsIn entry.1 := by decide
  have warned : ∀ entry ∈ Command.scan.flags,
      entry.2.warnings = List.replicate (dumpsIn entry.1) dumpWarning := by decide
  have member := Entries.mem_of_get? entry
  rw [Flag.eq_of_accept accepted]
  exact ⟨dryRuns _ member, List.nil_sublist _, warned _ member⟩

theorem dumpsIn_of_takesValue (entry : Command.scan.flags.get? key = some flag)
    (takes : flag.takesValue = true) : dumpsIn key = 0 := by
  have none_dumps : ∀ entry ∈ Command.scan.flags, entry.2.takesValue = true →
      dumpsIn entry.1 = 0 := by decide
  exact none_dumps _ (Entries.mem_of_get? entry) takes

theorem accounts_of_letters (plain : ∀ c ∈ letters, c = 'n' ∨ c = 'd') :
    Accounts ⟨(letters.filterMap Command.scan.flags.letter?).map Flag.spelling,
      (letters.filterMap Command.scan.flags.letter?).flatMap Flag.warnings⟩
      (letters.count 'd') [] := by
  induction letters with
  | nil => exact ⟨rfl, List.nil_sublist _, rfl⟩
  | cons c rest ih =>
    have others := ih fun x member => plain x (List.mem_cons_of_mem c member)
    rcases plain c List.mem_cons_self with rfl | rfl
    · have noPush : Accounts ⟨["--nopush"], []⟩ 0 [] := ⟨rfl, List.nil_sublist _, rfl⟩
      have both := noPush.append others
      rw [Nat.zero_add] at both
      rw [List.count_cons_of_ne (by decide)]
      exact both
    · have dump : Accounts ⟨["--dry-run"], [dumpWarning]⟩ 1 [] := ⟨rfl, List.nil_sublist _, rfl⟩
      have both := dump.append others
      rw [List.count_cons_self, Nat.add_comm]
      exact both

theorem accounts_of_readExpansion {reading : Reading} (spread : isSpread letters = true)
    (read : Dialect.readExpansion ⟨
        (Command.scan.flags.plainLetters letters).filterMap Command.scan.flags.letter?,
        Command.scan.flags.valued? letters⟩ = .ok reading) :
    Accounts reading.block ((front letters).count 'd')
      (if (attached letters).isEmpty then [] else [String.ofList (attached letters)]) := by
  obtain ⟨block, accepted, ending⟩ := Dialect.readExpansion_cases read
  have plain : ∀ c ∈ front letters, c = 'n' ∨ c = 'd' := by
    simpa [isSpread] using spread
  have written : Accounts block ((front letters).count 'd') [] := by
    rw [Flag.eq_of_acceptAll accepted, plainLetters_eq]
    exact accounts_of_letters plain
  rcases ending with ⟨unvalued, rfl⟩ | ⟨flag, rest, last, valued, acceptedLast, rfl⟩
  · rw [attached_of_plain unvalued]
    exact written
  · obtain ⟨-, c, -, -, entry, takes⟩ := FlagTable.exists_of_valued? valued
    have lastWritten := accounts_of_listed entry acceptedLast
    rw [dumpsIn_of_takesValue entry takes] at lastWritten
    have both : Accounts (block ++ last) ((front letters).count 'd') [] :=
      written.append lastWritten
    rw [attached_of_valued? valued]
    split
    · exact both
    · exact both.append (accounts_verbatim (String.ofList rest))

theorem accounts_of_readFlag {reading : Reading}
    (entry : Command.scan.flags.get? token = some flag)
    (read : Dialect.readFlag flag = .ok reading) :
    Accounts reading.block (dumpsIn token) (copiesIn token) := by
  have none_copied : ∀ entry ∈ Command.scan.flags, copiesIn entry.1 = [] := by decide
  rw [none_copied _ (Entries.mem_of_get? entry)]
  obtain ⟨block, accepted, rfl⟩ := map_eq_ok_iff.mp read
  cases flag.takesValue <;> exact accounts_of_listed entry accepted

theorem accounts_of_short {reading : Reading} (short : Token.shape token = .short letters)
    (unlisted : Command.scan.flags.get? token = none) (read : dialect.read token = .ok reading) :
    Accounts reading.block (dumpsIn token) (copiesIn token) := by
  have own : dialect.flags.get? token = none := unlisted
  have unrenamed : dialect.renames.isEmpty = true := rfl
  simp only [Dialect.read, short, Dialect.readShort, own, unrenamed, Bool.not_true, Bool.false_and,
    Bool.false_eq_true, if_false] at read
  simp only [dumpsIn, copiesIn, short]
  cases spread : isSpread letters with
  | true =>
    have expanded : dialect.flags.expand? letters = _ :=
      FlagTable.expand?_of_known (isSpread_iff.mp spread)
    rw [expanded] at read
    exact accounts_of_readExpansion spread read
  | false =>
    obtain ⟨c, member, absent⟩ : ∃ c ∈ Command.scan.flags.plainLetters letters,
        Command.scan.flags.knows c = false := by
      simpa [← Bool.not_eq_true, isSpread_iff] using spread
    have expanded : dialect.flags.expand? letters = none :=
      FlagTable.expand?_of_unknown member absent
    rw [expanded] at read
    cases read
    exact accounts_verbatim token

theorem ne_of_sign {word : String} (clear : '=' ∉ word.toList) (name value : String) :
    name ++ "=" ++ value ≠ word := by
  rintro rfl
  simp at clear

theorem accounts_of_attached {name value : String} (named : Token.IsName name)
    (entry : Command.scan.flags.get? name = some flag) (takes : flag.takesValue = true)
    (accepted : flag.accept = .ok block) :
    Accounts { block with words := [flag.spelling ++ "=" ++ value] }
      (dumpsIn (name ++ "=" ++ value)) (copiesIn (name ++ "=" ++ value)) := by
  have long : ∀ entry ∈ Command.scan.flags, "--".toList.isPrefixOf entry.1.toList = true →
      entry.1 ∈ ["--nopush", "--limit", "--dump", "--config"] := by decide
  have known : name ∈ ["--nopush", "--limit", "--dump", "--config"] := by
    obtain ⟨cs, dashes, -⟩ := named
    exact long _ (Entries.mem_of_get? entry) (by rw [dashes]; rfl)
  have noDump : name ++ "=" ++ value ≠ "--dump" := ne_of_sign (by decide) name value
  have noDryRun : flag.spelling ++ "=" ++ value ≠ "--dry-run" := ne_of_sign (by decide) _ value
  have alone := accounts_of_listed entry accepted
  rw [dumpsIn_of_takesValue entry takes] at alone
  simp only [dumpsIn, copiesIn, Token.shape_attached named, noDump, known, if_true, if_false]
  refine ⟨?_, List.nil_sublist _, alone.warned⟩
  exact List.count_eq_zero.mpr fun member => noDryRun (List.mem_singleton.mp member).symm

theorem accounts_of_long {name : String} {attached : Option String} {reading : Reading}
    (long : Token.shape token = .long name attached)
    (unlisted : Command.scan.flags.get? token = none) (read : dialect.read token = .ok reading) :
    Accounts reading.block (dumpsIn token) (copiesIn token) := by
  have noDump : token ≠ "--dump" := by rintro rfl; cases unlisted
  have read : dialect.readLong token name attached = .ok reading := by
    simpa only [Dialect.read, long] using read
  cases entry : Command.scan.flags.get? name with
  | none =>
    have unknown : name ∉ ["--nopush", "--limit", "--dump", "--config"] := by
      have listed : ∀ name ∈ ["--nopush", "--limit", "--dump", "--config"],
          Command.scan.flags.get? name ≠ none := by decide
      exact fun member => listed name member entry
    have entry : dialect.flags.get? name = none := entry
    simp only [Dialect.readLong, entry, Except.ok.injEq] at read
    simp only [dumpsIn, copiesIn, long, noDump, unknown, if_false, ← read]
    exact accounts_verbatim token
  | some flag =>
    rcases Token.shape_long_cases long with ⟨-, rfl, -⟩ | ⟨value, rfl, rfl, named⟩
    · rw [unlisted] at entry
      cases entry
    · have own : dialect.flags.get? name = some flag := entry
      cases takes : flag.takesValue with
      | false => simp [Dialect.readLong, own, takes] at read
      | true =>
        simp only [Dialect.readLong, own, takes, if_true] at read
        obtain ⟨block, accepted, rfl⟩ := map_eq_ok_iff.mp read
        exact accounts_of_attached named entry takes accepted

theorem accounts_of_read {reading : Reading} (leading : token ≠ "--")
    (read : dialect.read token = .ok reading) :
    Accounts reading.block (dumpsIn token) (copiesIn token) := by
  cases listed : Command.scan.flags.get? token with
  | some flag =>
    rw [(Dialect.proper_dialect .scan).read_of_listed listed] at read
    exact accounts_of_readFlag listed read
  | none =>
    cases shape : Token.shape token with
    | terminator => exact absurd (Token.shape_eq_terminator_iff.mp shape) leading
    | short letters => exact accounts_of_short shape listed read
    | data =>
      have noDump : token ≠ "--dump" := by rintro rfl; cases listed
      simp only [Dialect.read, shape, Except.ok.injEq] at read
      simp only [dumpsIn, copiesIn, shape, noDump, if_false, ← read]
      exact accounts_verbatim token
    | long name attached => exact accounts_of_long shape listed read

/-! Whole command lines. -/

theorem accounts_beyond (rest : List String) :
    Accounts ⟨(rest.map Block.verbatim).flatMap Block.words,
      (rest.map Block.verbatim).flatMap Block.warnings⟩
      (total (rest.zip (rest.map fun _ => .beyond)))
      ((rest.zip (rest.map fun _ => .beyond)).flatMap copiesAs) := by
  induction rest with
  | nil => exact ⟨rfl, List.nil_sublist _, rfl⟩
  | cons token rest ih => exact (accounts_verbatim token).append ih

theorem accounts_of_walk {tokens : List String} {roles : List Token.Role} {blocks : List Block}
    (walk : dialect.Walk tokens roles blocks) :
    Accounts ⟨blocks.flatMap Block.words, blocks.flatMap Block.warnings⟩
      (total (tokens.zip roles)) ((tokens.zip roles).flatMap copiesAs) := by
  induction walk with
  | nil => exact ⟨rfl, List.nil_sublist _, rfl⟩
  | stop rest => exact (accounts_verbatim "--").append (accounts_beyond rest)
  | whole read some_word tail ih =>
    have first := accounts_of_read (Dialect.fits_of_read_whole read).1 read
    exact first.append ih
  | @awaiting token value rest block flag roles blocks read some_word tail ih =>
    have first := accounts_of_read (Dialect.fits_of_read_awaiting read).1 read
    have second := (accounts_verbatim value).append ih
    exact first.append second

theorem eraseDups_replicate (n : Nat) (warning : String) :
    (List.replicate n warning).eraseDups = if 0 < n then [warning] else [] := by
  cases n with
  | zero => rfl
  | succ n =>
    have others : (List.replicate n warning).filter (fun other => !other == warning) = [] := by
      simp
    rw [List.replicate_succ, List.eraseDups_cons, others]
    rfl

section Respelled

variable {tokens : List String} {r : Respelling}

theorem accounts_of_respell (respelled : dialect.respell tokens = .ok r) :
    ∃ block : Block, r = ⟨block.words, block.warnings.eraseDups⟩ ∧
      Accounts block (dumps tokens) (copies tokens) := by
  obtain ⟨blocks, read, rfl⟩ := map_eq_ok_iff.mp respelled
  exact ⟨_, rfl, accounts_of_walk (Dialect.walk_of_blocks read)⟩

theorem warnings_of_respell (respelled : dialect.respell tokens = .ok r) :
    r.warnings = if 0 < dumps tokens then [dumpWarning] else [] := by
  obtain ⟨block, rfl, accounts⟩ := accounts_of_respell respelled
  rw [accounts.warned, eraseDups_replicate]

/-- The words are read a second time without a warning, so no dump is left among them. -/
theorem dumps_args (respelled : dialect.respell tokens = .ok r) : dumps r.args = 0 := by
  have again := (Dialect.stable_dialect .scan).respell_args respelled
  have silent : [] = if 0 < dumps r.args then [dumpWarning] else [] := warnings_of_respell again
  split at silent
  next => cases silent
  next none => omega

theorem dumpsAs_of_total {placed : List (String × Token.Role)} (noDumps : total placed = 0) :
    ∀ entry ∈ placed, dumpsAs entry = 0 := by
  induction placed with
  | nil => exact fun entry member => absurd member List.not_mem_nil
  | cons first rest ih =>
    change dumpsAs first + total rest = 0 at noDumps
    exact List.forall_mem_cons.mpr ⟨by omega, ih (by omega)⟩

theorem ne_dump_of_dumpsIn (noDumps : dumpsIn token = 0) : token ≠ "--dump" ∧ token ≠ "-d" := by
  constructor
  · rintro rfl
    cases noDumps
  · rintro rfl
    cases noDumps

end Respelled

/-- What a dispatch of `scan` does with dump flags. They are all that it warns of, once, there is a
dry run for each of them besides those that are copied, and none of them is left. -/
theorem verdict_of_dumps {tokens : List String} {d : Dispatch}
    (verdict : Invocation.verdict ⟨.scan, tokens⟩ = .ok (.dispatch d)) :
    d.warnings = (if 0 < dumps tokens then [dumpWarning] else []) ∧
    d.args.count "--dry-run" = dumps tokens + (copies tokens).count "--dry-run" ∧
    (copies tokens).Sublist d.args ∧ dumps d.args = 0 ∧
    ∀ token, (token, .leading) ∈ d.args.zip (dialect.roles d.args) →
      token ≠ "--dump" ∧ token ≠ "-d" := by
  obtain ⟨r, respelled, args, warnings⟩ :
      ∃ r, dialect.respell tokens = .ok r ∧ d.args = r.args ∧ d.warnings = r.warnings := by
    cases tokens with
    | nil =>
      cases verdict
      exact ⟨⟨[], []⟩, rfl, rfl, rfl⟩
    | cons token rest =>
      have flagged : Invocation.Flagged ⟨.scan, token :: rest⟩ := ⟨.inr rfl, by simp⟩
      cases respelled : dialect.respell (token :: rest) with
      | ok r =>
        rw [Invocation.verdict_of_respelling flagged respelled] at verdict
        cases verdict
        exact ⟨r, rfl, rfl, rfl⟩
      | error obstacle =>
        obtain ⟨-, failure, -, -, refused, -⟩ := Invocation.verdict_of_obstacle flagged respelled
        rw [refused] at verdict
        cases verdict
  rw [args, warnings]
  have noDumps := dumps_args respelled
  refine ⟨warnings_of_respell respelled, ?_, ?_, noDumps, fun token leading => ?_⟩
  · obtain ⟨block, rfl, accounts⟩ := accounts_of_respell respelled
    exact accounts.dryRuns
  · obtain ⟨block, rfl, accounts⟩ := accounts_of_respell respelled
    exact accounts.copied
  · exact ne_dump_of_dumpsIn (dumpsAs_of_total noDumps _ leading)

def disguised : List String :=
  ["-nd", "--limit", "--dump", "-dl--dry-run", "--dump", "-dx", "--", "-d"]

theorem verdict_of_dumps_disguised :
    ∃ d, Invocation.verdict ⟨.scan, disguised⟩ = .ok (.dispatch d) ∧ d.warnings = [dumpWarning] ∧
      d.args.count "--dry-run" = 3 + 1 ∧ ["--dump", "--dry-run", "-dx", "--", "-d"].Sublist d.args ∧
      dumps d.args = 0 := by
  obtain ⟨d, verdict⟩ : ∃ d, Invocation.verdict ⟨.scan, disguised⟩ = .ok (.dispatch d) := ⟨_, rfl⟩
  obtain ⟨warned, dryRuns, copied, none_left, -⟩ := verdict_of_dumps verdict
  have found : dumps disguised = 3 := by decide
  have kept : copies disguised = ["--dump", "--dry-run", "-dx", "--", "-d"] := by decide
  rw [found] at warned dryRuns
  rw [kept] at dryRuns copied
  exact ⟨d, verdict, warned, dryRuns, copied, none_left⟩

end Scan

end Handover
