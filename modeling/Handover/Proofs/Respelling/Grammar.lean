import Handover.Proofs.Respelling.Renaming
import Handover.Proofs.Token

/-!
Which command lines have a respelling. A flag can be given the wrong way in two manners: with a
value that it does not take, or without the value that it takes. A command line is respelled unless
a flag is given the wrong way, and the first such flag is the one that is complained about.
-/

namespace Handover

/-- A name alone, or a dash and a single letter. -/
def Token.isFlag (token : String) : Bool :=
  match shape token with
  | .long _ none => true
  | .short [_] => true
  | _ => false

theorem Flag.exists_accept {flag : Flag} (supported : flag.fidelity ≠ .unsupported) :
    ∃ block, flag.accept = .ok block := by
  rw [accept, if_neg supported]
  exact ⟨_, rfl⟩

theorem Flag.exists_acceptAll {flags : List Flag}
    (supported : ∀ flag ∈ flags, flag.fidelity ≠ .unsupported) :
    ∃ block, acceptAll flags = .ok block := by
  induction flags with
  | nil => exact ⟨_, rfl⟩
  | cons flag rest ih =>
    obtain ⟨first, accepted⟩ := exists_accept (supported flag List.mem_cons_self)
    obtain ⟨others, acceptedRest⟩ := ih fun other member =>
      supported other (List.mem_cons_of_mem flag member)
    exact ⟨first ++ others, by simp only [acceptAll, accepted, acceptedRest, Except.map]⟩

namespace Dialect

/-- A value is attached to a flag that takes none. -/
def Needless (d : Dialect) (token : String) (flag : Flag) : Prop :=
  ∃ name value, token = name ++ "=" ++ value ∧ Token.IsName name ∧
    d.flags.get? name = some flag ∧ flag.takesValue = false

/-- A flag takes a value, and the token has none for it. The flag is the whole token, or it is the
last letter of a short one, and each letter before it is a flag without a value. In a cluster that
is renamed, the letters before it need not be flags. -/
inductive Bare (d : Dialect) (token : String) (flag : Flag) : Prop where
  | whole (entry : d.flags.get? token = some flag) (takes : flag.takesValue = true)
  | last {before : List Char} {c : Char} (short : token.toList = '-' :: (before ++ [c]))
    (single : (before ++ [c]).head? ≠ some '-') (entry : d.flags.letter? c = some flag)
    (takes : flag.takesValue = true) (plain : ∀ x ∈ before, d.flags.takesValue x = false)
    (readable : (∀ x ∈ before, d.flags.knows x = true) ∨ d.renamesCluster (before ++ [c]) = true)

/-- The first flag that is given the wrong way, where tokens are read from left to right up to the
separator, and the value that a flag takes is not read. -/
inductive FirstMisuse (d : Dialect) : List String → Obstacle → Prop where
  | needless {token : String} {rest : List String} {flag : Flag} (leading : token ≠ "--")
    (needless : d.Needless token flag) :
    FirstMisuse d (token :: rest) (.valueRefused d.program flag token)
  | missing {token : String} {flag : Flag} (leading : token ≠ "--") (bare : d.Bare token flag) :
    FirstMisuse d [token] (.valueMissing d.program flag)
  | behind {token : String} {rest : List String} {obstacle : Obstacle} (leading : token ≠ "--")
    (fine : ∀ flag, ¬d.Needless token flag) (complete : ∀ flag, ¬d.Bare token flag)
    (later : FirstMisuse d rest obstacle) : FirstMisuse d (token :: rest) obstacle
  | behindValue {token value : String} {rest : List String} {flag : Flag} {obstacle : Obstacle}
    (leading : token ≠ "--") (bare : d.Bare token flag) (later : FirstMisuse d rest obstacle) :
    FirstMisuse d (token :: value :: rest) obstacle

/-- Every flag has a counterpart, under a token that can be read as one. -/
def Proper (d : Dialect) : Prop :=
  ∀ entry ∈ d.flags, Token.isFlag entry.1 = true ∧ entry.2.fidelity ≠ .unsupported

instance (d : Dialect) : Decidable d.Proper := inferInstanceAs (Decidable (∀ _ ∈ _, _))

variable {d : Dialect} {token name : String} {tokens : List String} {letters before : List Char}
  {c : Char} {flag : Flag} {obstacle : Obstacle}

theorem read_of_needless (needless : d.Needless token flag) :
    d.read token = .error (.valueRefused d.program flag token) := by
  obtain ⟨name, value, rfl, named, entry, plain⟩ := needless
  simp only [Dialect.read, Token.shape_attached named, readLong, entry, plain, Bool.false_eq_true,
    if_false]

namespace Proper

variable (proper : d.Proper)
include proper

theorem supported (entry : d.flags.get? name = some flag) : flag.fidelity ≠ .unsupported :=
  (proper _ (Entries.mem_of_get? entry)).2

theorem exists_readFlag (entry : d.flags.get? name = some flag) :
    ∃ block, readFlag flag =
      .ok (if flag.takesValue then .awaiting block flag else .whole block) := by
  obtain ⟨block, accepted⟩ := Flag.exists_accept (proper.supported entry)
  exact ⟨block, by rw [readFlag, accepted]; rfl⟩

theorem read_of_listed (entry : d.flags.get? token = some flag) :
    d.read token = readFlag flag := by
  have isFlag := (proper _ (Entries.mem_of_get? entry)).1
  unfold Token.isFlag at isFlag
  split at isFlag
  next name shape =>
    rcases Token.shape_long_cases shape with ⟨-, rfl, -⟩ | ⟨value, same, -⟩
    · simp only [Dialect.read, shape, readLong, entry]
    · cases same
  next letter shape => simp only [Dialect.read, shape, readShort, entry]
  next => cases isFlag

theorem letters_of_listed (short : Token.shape token = .short letters)
    (entry : d.flags.get? token = some flag) :
    ∃ c, letters = [c] ∧ d.flags.letter? c = some flag := by
  have isFlag := (proper _ (Entries.mem_of_get? entry)).1
  simp only [Token.isFlag, short] at isFlag
  split at isFlag
  next same => cases same
  next c same =>
    cases same
    have word : token = String.ofList ['-', c] := by
      apply String.toList_inj.mp
      rw [(Token.letters_of_shape_short short).1, String.toList_ofList]
    exact ⟨c, rfl, by rw [FlagTable.letter?, ← word, entry]⟩
  next => cases isFlag

theorem exists_acceptAll (letters : List Char) :
    ∃ block, Flag.acceptAll (letters.filterMap d.flags.letter?) = .ok block := by
  refine Flag.exists_acceptAll fun flag member => ?_
  obtain ⟨c, -, entry⟩ := List.mem_filterMap.mp member
  exact proper.supported entry

theorem exists_readExpansion (letters : List Char) :
    ∃ block, readExpansion ⟨(d.flags.plainLetters letters).filterMap d.flags.letter?,
      d.flags.valued? letters⟩ = .ok (.ending block (d.flags.valued? letters)) := by
  obtain ⟨block, accepted⟩ := proper.exists_acceptAll (d.flags.plainLetters letters)
  cases valued : d.flags.valued? letters with
  | none => exact ⟨block, by simp only [readExpansion, accepted]; rfl⟩
  | some pair =>
    obtain ⟨flag, attached⟩ := pair
    obtain ⟨-, c, -, -, entry, -⟩ := FlagTable.exists_of_valued? valued
    obtain ⟨last, acceptedLast⟩ := Flag.exists_accept (proper.supported entry)
    cases attached with
    | nil => exact ⟨block ++ last, by simp only [readExpansion, accepted, acceptedLast]; rfl⟩
    | cons x rest => exact ⟨_, by simp only [readExpansion, accepted, acceptedLast]; rfl⟩

theorem exists_read_of_letters (short : Token.shape token = .short letters)
    (unlisted : d.flags.get? token = none)
    (readable : (∀ x ∈ d.flags.plainLetters letters, d.flags.knows x = true) ∨
      d.renamesCluster letters = true) :
    ∃ block, d.read token = .ok (.ending block (d.flags.valued? letters)) := by
  simp only [Dialect.read, short, readShort, unlisted, d.renamesCluster_eq short]
  cases renamed : d.renamesCluster letters with
  | true =>
    simp only [renamesCluster, Bool.and_eq_true] at renamed
    exact exists_readRenamed (Token.ne_nil_of_shape_short short) renamed.2
  | false =>
    have known := readable.resolve_right (by simp [renamed])
    rw [FlagTable.expand?_of_known known]
    exact proper.exists_readExpansion letters

theorem read_of_bare (bare : d.Bare token flag) :
    ∃ block, d.read token = .ok (.awaiting block flag) := by
  cases bare with
  | whole entry takes =>
    obtain ⟨block, read⟩ := proper.exists_readFlag entry
    exact ⟨block, by rw [proper.read_of_listed entry, read, takes]; rfl⟩
  | @last before c short single entry takes plain readable =>
    have shape := Token.shape_short short (by simp) single
    cases listed : d.flags.get? token with
    | some other =>
      -- the token is listed under its only letter
      obtain ⟨x, same, entryLetter⟩ := proper.letters_of_listed shape listed
      obtain ⟨rfl, rfl⟩ : before = [] ∧ c = x := by simpa using List.append_eq_singleton_iff.mp same
      rw [entry] at entryLetter
      cases entryLetter
      obtain ⟨block, read⟩ := proper.exists_readFlag listed
      exact ⟨block, by rw [proper.read_of_listed listed, read, takes]; rfl⟩
    | none =>
      obtain ⟨head, value⟩ := FlagTable.last_valued plain entry takes []
      obtain ⟨block, read⟩ := proper.exists_read_of_letters shape listed (by rwa [head])
      exact ⟨block, by rw [read, value]; rfl⟩

theorem read_of_listed_alone (listed : d.flags.get? token = some flag)
    (complete : ∀ flag, ¬d.Bare token flag) : ∃ block, d.read token = .ok (.whole block) := by
  obtain ⟨block, read⟩ := proper.exists_readFlag listed
  have plain : flag.takesValue = false := by
    simpa using fun takes => complete flag (.whole listed takes)
  exact ⟨block, by rw [proper.read_of_listed listed, read, plain]; rfl⟩

theorem read_of_long_alone {attached : Option String}
    (shape : Token.shape token = .long name attached)
    (unlisted : d.flags.get? token = none) (fine : ∀ flag, ¬d.Needless token flag) :
    ∃ block, d.read token = .ok (.whole block) := by
  simp only [Dialect.read, shape, readLong]
  rcases Token.shape_long_cases shape with ⟨rfl, rfl, -⟩ | ⟨value, rfl, split, named⟩
  · exact ⟨_, by rw [unlisted]⟩
  · cases entry : d.flags.get? name with
    | none => exact ⟨_, rfl⟩
    | some flag =>
      have takes : flag.takesValue = true := by
        simpa using fun plain => fine flag ⟨name, value, split, named, entry, plain⟩
      obtain ⟨block, accepted⟩ := Flag.exists_accept (proper.supported entry)
      exact ⟨_, by simp only [takes, if_true, accepted]; rfl⟩

theorem read_of_short_alone (shape : Token.shape token = .short letters)
    (unlisted : d.flags.get? token = none) (complete : ∀ flag, ¬d.Bare token flag) :
    ∃ block, d.read token = .ok (.whole block) := by
  by_cases readable : (∀ x ∈ d.flags.plainLetters letters, d.flags.knows x = true) ∨
      d.renamesCluster letters = true
  · obtain ⟨block, read⟩ := proper.exists_read_of_letters shape unlisted readable
    refine ⟨block, read.trans (congrArg Except.ok ?_)⟩
    unfold Reading.ending
    split
    next flag valued =>
      -- nothing is attached to the letter that takes a value, so it is the last
      obtain ⟨before, c, rfl, plain, entry, takes⟩ := FlagTable.exists_of_valued? valued
      rw [(FlagTable.last_valued plain entry takes []).1] at readable
      obtain ⟨short, single⟩ := Token.letters_of_shape_short shape
      exact absurd (.last short single entry takes plain readable) (complete flag)
    next => rfl
  · obtain ⟨unknown, unrenamed⟩ := not_or.mp readable
    obtain ⟨c, member, absent⟩ :
        ∃ c ∈ d.flags.plainLetters letters, d.flags.knows c = false := by
      simpa using unknown
    refine ⟨.verbatim token, ?_⟩
    simp only [Dialect.read, shape, readShort, unlisted, d.renamesCluster_eq shape, unrenamed,
      Bool.false_eq_true, if_false, FlagTable.expand?_of_unknown member absent]

theorem read_of_neither (leading : token ≠ "--") (fine : ∀ flag, ¬d.Needless token flag)
    (complete : ∀ flag, ¬d.Bare token flag) : ∃ block, d.read token = .ok (.whole block) := by
  cases listed : d.flags.get? token with
  | some flag => exact proper.read_of_listed_alone listed complete
  | none =>
    cases shape : Token.shape token with
    | terminator => exact absurd (Token.shape_eq_terminator_iff.mp shape) leading
    | data => exact ⟨_, by rw [Dialect.read, shape]⟩
    | long name attached => exact proper.read_of_long_alone shape listed fine
    | short letters => exact proper.read_of_short_alone shape listed complete

theorem blocks_of_firstMisuse (misuse : d.FirstMisuse tokens obstacle) :
    d.blocks tokens = .error obstacle := by
  induction misuse with
  | needless leading needless => rw [blocks, read_of_needless needless]
  | missing leading bare =>
    obtain ⟨block, read⟩ := proper.read_of_bare bare
    rw [blocks, read]
  | behind leading fine complete later ih =>
    obtain ⟨block, read⟩ := proper.read_of_neither leading fine complete
    rw [blocks, read]
    simp only [ih]
    rfl
  | behindValue leading bare later ih =>
    obtain ⟨block, read⟩ := proper.read_of_bare bare
    rw [blocks, read]
    simp only [ih]
    rfl

theorem exists_blocks : (tokens : List String) → (∀ obstacle, ¬d.FirstMisuse tokens obstacle) →
    ∃ blocks, d.blocks tokens = .ok blocks
  | [], _ => ⟨[], rfl⟩
  | token :: rest, fine => by
    by_cases leading : token = "--"
    · exact ⟨_, by rw [leading, blocks, read_terminator]⟩
    by_cases bare : ∃ flag, d.Bare token flag
    · obtain ⟨flag, bare⟩ := bare
      obtain ⟨block, read⟩ := proper.read_of_bare bare
      cases rest with
      | nil => exact absurd (.missing leading bare) (fine _)
      | cons value rest =>
        obtain ⟨others, readRest⟩ := exists_blocks rest fun obstacle later =>
          fine obstacle (.behindValue leading bare later)
        exact ⟨_, by rw [blocks, read]; simp only [readRest]; rfl⟩
    · have complete := not_exists.mp bare
      have useful : ∀ flag, ¬d.Needless token flag := fun flag needless =>
        fine _ (.needless leading needless)
      obtain ⟨block, read⟩ := proper.read_of_neither leading useful complete
      obtain ⟨others, readRest⟩ := exists_blocks rest fun obstacle later =>
        fine obstacle (.behind leading useful complete later)
      exact ⟨_, by rw [blocks, read]; simp only [readRest]; rfl⟩

/-- A command line is complained about just as its first misused flag says. -/
theorem respell_eq_error_iff :
    d.respell tokens = .error obstacle ↔ d.FirstMisuse tokens obstacle := by
  constructor
  · intro failed
    by_cases misuse : ∃ other, d.FirstMisuse tokens other
    · obtain ⟨other, misuse⟩ := misuse
      rw [respell, proper.blocks_of_firstMisuse misuse] at failed
      cases failed
      exact misuse
    · obtain ⟨blocks, read⟩ := proper.exists_blocks tokens (not_exists.mp misuse)
      rw [respell, read] at failed
      cases failed
  · intro misuse
    rw [respell, proper.blocks_of_firstMisuse misuse]
    rfl

theorem exists_respell (fine : ∀ obstacle, ¬d.FirstMisuse tokens obstacle) :
    ∃ r, d.respell tokens = .ok r := by
  obtain ⟨blocks, read⟩ := proper.exists_blocks tokens fine
  exact ⟨_, by rw [respell, read]; rfl⟩

end Proper

end Dialect

end Handover
