import Handover.Proofs.Except
import Handover.Proofs.Respelling.Letters

/-!
The walk over the tokens of a command line. Every token has a role: it is read where a flag may
stand, or it is the value of the flag before it, or it is the separator that ends the flags, or it
stands beyond that separator. Roles are told from the table alone. A respelling that succeeds is a
walk in which each token has its role and its block.
-/

namespace Handover

inductive Token.Role where
  | leading
  | value
  | terminator
  | beyond
  deriving DecidableEq

namespace Dialect

/-- Whether letters of a short token are renamed where they stand, and not spread out. -/
def renamesCluster (d : Dialect) (letters : List Char) : Bool :=
  !d.renames.isEmpty && letters.all Char.isAlpha

/-- Whether a token that is read where a flag may stand takes the next token as its value. Such a
token is a flag that takes a value, or ends in the first of its letters that takes one. -/
def awaits (d : Dialect) (token : String) : Bool :=
  match Token.shape token with
  | .long name none => (d.flags.get? name).any (·.takesValue)
  | .short letters =>
    match d.flags.get? token with
    | some flag => flag.takesValue
    | none =>
      (d.flags.valued? letters).any (·.2.isEmpty) &&
        (d.renamesCluster letters || (d.flags.plainLetters letters).all d.flags.knows)
  | _ => false

def roles (d : Dialect) : List String → List Token.Role
  | [] => []
  | token :: rest =>
    if token = "--" then .terminator :: rest.map fun _ => .beyond
    else if d.awaits token then
      match rest with
      | [] => [.leading]
      | _ :: rest => .leading :: .value :: d.roles rest
    else .leading :: d.roles rest

theorem roles_terminator (d : Dialect) (rest : List String) :
    d.roles ("--" :: rest) = .terminator :: rest.map fun _ => .beyond := by
  unfold roles
  exact if_pos rfl

theorem roles_cons {d : Dialect} {token : String} (flag_position : token ≠ "--")
    (alone : d.awaits token = false) (rest : List String) :
    d.roles (token :: rest) = .leading :: d.roles rest := by
  rw [roles.eq_def]
  simp only [if_neg flag_position, alone, Bool.false_eq_true, if_false]

theorem roles_cons_value {d : Dialect} {token : String} (flag_position : token ≠ "--")
    (awaiting : d.awaits token = true) (value : String) (rest : List String) :
    d.roles (token :: value :: rest) = .leading :: .value :: d.roles rest := by
  rw [roles.eq_def]
  simp only [if_neg flag_position, awaiting, if_true]

/-- A token that stands for itself wherever a flag may stand. -/
inductive Untouched (d : Dialect) (token : String) : Prop where
  | data (plain : token.toList.head? ≠ some '-' ∨ token = "-")
  | unknownLong {cs : List Char} (long : token.toList = '-' :: '-' :: cs) (named : cs ≠ [])
    (absent : d.flags.get? (String.ofList (token.toList.takeWhile (· != '='))) = none)
  | unknownShort {letters : List Char} {c : Char} (short : token.toList = '-' :: letters)
    (single : letters.head? ≠ some '-') (absent : d.flags.get? token = none)
    (spread : d.renamesCluster letters = false) (unknown : c ∈ d.flags.plainLetters letters)
    (letterAbsent : d.flags.letter? c = none)

end Dialect

namespace Token

theorem shape_data {token : String} (plain : token.toList.head? ≠ some '-' ∨ token = "-") :
    shape token = .data := by
  rcases plain with first | rfl
  · unfold shape
    split <;> simp_all
  · rfl

theorem shape_long {token : String} {cs : List Char} (long : token.toList = '-' :: '-' :: cs)
    (named : cs ≠ []) :
    ∃ attached,
      shape token = .long (String.ofList (token.toList.takeWhile (· != '='))) attached := by
  cases cs with
  | nil => exact absurd rfl named
  | cons c rest => exact ⟨_, by simp only [shape, long]; rfl⟩

theorem shape_short {token : String} {letters : List Char} (short : token.toList = '-' :: letters)
    (some_letter : letters ≠ []) (single : letters.head? ≠ some '-') :
    shape token = .short letters := by
  cases letters with
  | nil => exact absurd rfl some_letter
  | cons c rest =>
    have different : c ≠ '-' := fun same => single (by rw [same]; rfl)
    unfold shape
    rw [short]
    split <;> simp_all

theorem shape_ofList {letters : List Char} (some_letter : letters ≠ [])
    (single : letters.head? ≠ some '-') :
    shape (String.ofList ('-' :: letters)) = .short letters :=
  shape_short String.toList_ofList some_letter single

theorem shape_eq_terminator_iff {token : String} : shape token = .terminator ↔ token = "--" := by
  constructor
  · intro ended
    unfold shape at ended
    split at ended
    next same => exact String.toList_inj.mp same
    all_goals simp at ended
  · rintro rfl
    rfl

theorem ne_nil_of_shape_short {token : String} {letters : List Char}
    (short : shape token = .short letters) : letters ≠ [] := by
  unfold shape at short
  split at short <;> simp at short
  simp [← short]

end Token

/-- A reading has some words, and it awaits a value or not. -/
inductive Reading.Fits : Reading → Bool → Prop where
  | whole {block : Block} (some_word : block.words ≠ []) : Fits (.whole block) false
  | awaiting {block : Block} {flag : Flag} (some_word : block.words ≠ []) :
    Fits (.awaiting block flag) true

theorem Reading.fits_whole_iff {block : Block} {awaits : Bool} :
    Fits (.whole block) awaits ↔ awaits = false ∧ block.words ≠ [] := by
  constructor
  · intro fits
    cases fits with
    | whole some_word => exact ⟨rfl, some_word⟩
  · rintro ⟨rfl, some_word⟩
    exact .whole some_word

theorem Reading.fits_awaiting_iff {block : Block} {flag : Flag} {awaits : Bool} :
    Fits (.awaiting block flag) awaits ↔ awaits = true ∧ block.words ≠ [] := by
  constructor
  · intro fits
    cases fits with
    | awaiting some_word => exact ⟨rfl, some_word⟩
  · rintro ⟨rfl, some_word⟩
    exact .awaiting some_word

theorem Block.words_verbatim (data : List String) :
    (data.map verbatim).flatMap words = data := by
  rw [List.flatMap_map]
  exact List.flatMap_singleton' data

theorem Block.warnings_verbatim (data : List String) :
    (data.map verbatim).flatMap warnings = [] := by
  rw [List.flatMap_map]
  exact List.flatMap_eq_nil_iff.mpr fun _ _ => rfl

namespace Flag

variable {flag : Flag} {flags : List Flag} {block : Block}

theorem eq_of_accept (accepted : flag.accept = .ok block) :
    block = ⟨[flag.spelling], flag.warnings⟩ := by
  unfold accept at accepted
  split at accepted
  · cases accepted
  · cases accepted
    rfl

theorem eq_of_acceptAll (accepted : acceptAll flags = .ok block) :
    block = ⟨flags.map spelling, flags.flatMap warnings⟩ := by
  induction flags generalizing block with
  | nil =>
    cases accepted
    rfl
  | cons flag rest ih =>
    unfold acceptAll at accepted
    cases first : flag.accept with
    | error obstacle => simp [first] at accepted
    | ok head =>
      simp only [first] at accepted
      obtain ⟨tail, others, rfl⟩ := map_eq_ok_iff.mp accepted
      rw [eq_of_accept first, ih others]
      rfl

theorem words_of_accept (accepted : flag.accept = .ok block) : block.words = [flag.spelling] := by
  rw [eq_of_accept accepted]

theorem words_of_acceptAll (accepted : acceptAll flags = .ok block) :
    block.words = flags.map spelling := by
  rw [eq_of_acceptAll accepted]

theorem warnings_of_accept (accepted : flag.accept = .ok block) :
    block.warnings = flag.warnings := by
  rw [eq_of_accept accepted]

theorem warnings_of_acceptAll (accepted : acceptAll flags = .ok block) :
    block.warnings = flags.flatMap warnings := by
  rw [eq_of_acceptAll accepted]

end Flag

namespace Dialect

variable {d : Dialect} {token : String} {letters : List Char} {reading : Reading}

theorem fits_of_readFlag {flag : Flag} (read : readFlag flag = .ok reading) :
    reading.Fits flag.takesValue := by
  obtain ⟨block, accepted, rfl⟩ := map_eq_ok_iff.mp read
  have some_word : block.words ≠ [] := by simp [Flag.words_of_accept accepted]
  cases flag.takesValue with
  | true => exact .awaiting some_word
  | false => exact .whole some_word

theorem readExpansion_cases {plain : List Flag} {valued : Option (Flag × List Char)}
    (read : readExpansion ⟨plain, valued⟩ = .ok reading) :
    ∃ block, Flag.acceptAll plain = .ok block ∧
      (valued = none ∧ reading = .whole block ∨
        ∃ flag attached last, valued = some (flag, attached) ∧ flag.accept = .ok last ∧
          reading = if attached.isEmpty then .awaiting (block ++ last) flag
            else .whole (block ++ last ++ .verbatim (String.ofList attached))) := by
  unfold readExpansion at read
  split at read
  · cases read
  next block accepted =>
    refine ⟨block, accepted, ?_⟩
    cases valued with
    | none =>
      cases read
      exact .inl ⟨rfl, rfl⟩
    | some pair =>
      obtain ⟨last, acceptedLast, rfl⟩ := map_eq_ok_iff.mp read
      exact .inr ⟨pair.1, pair.2, last, rfl, acceptedLast, rfl⟩

theorem fits_of_readExpansion {plain : List Flag} {valued : Option (Flag × List Char)}
    (read : readExpansion ⟨plain, valued⟩ = .ok reading)
    (some_flag : plain ≠ [] ∨ valued ≠ none) : reading.Fits (valued.any (·.2.isEmpty)) := by
  obtain ⟨block, accepted, ⟨rfl, rfl⟩ | ⟨flag, attached, last, rfl, acceptedLast, rfl⟩⟩ :=
    readExpansion_cases read
  · refine .whole ?_
    simpa [Flag.words_of_acceptAll accepted] using some_flag
  · have lastWords := Flag.words_of_accept acceptedLast
    cases attached with
    | nil => exact .awaiting (by simp [lastWords])
    | cons c rest => exact .whole (by simp [lastWords])

theorem words_of_renamed {renamed : Except Breakdown String} {block : Block}
    (accepted : (match renamed with
      | .ok word => .ok (.verbatim word)
      | .error breakdown => .error (.breakdown breakdown)) = (.ok block : Except Obstacle Block)) :
    block.words ≠ [] := by
  cases renamed with
  | error breakdown => cases accepted
  | ok word =>
    cases accepted
    simp [Block.verbatim]

theorem fits_of_readRenamed (read : d.readRenamed letters = .ok reading) :
    reading.Fits ((d.flags.valued? letters).any (·.2.isEmpty)) := by
  unfold readRenamed at read
  rw [FlagTable.splitAtValue?_eq] at read
  cases valued : d.flags.valued? letters with
  | none =>
    simp only [valued, Option.map_none] at read
    obtain ⟨block, renamed, rfl⟩ := map_eq_ok_iff.mp read
    exact .whole (words_of_renamed renamed)
  | some last =>
    obtain ⟨flag, attached⟩ := last
    simp only [valued, Option.map_some] at read
    obtain ⟨block, renamed, rfl⟩ := map_eq_ok_iff.mp read
    cases attached with
    | nil => exact .awaiting (words_of_renamed renamed)
    | cons c rest => exact .whole (by simp [Block.verbatim])

theorem fits_of_readLong {name : String} {attached : Option String}
    (read : d.readLong token name attached = .ok reading) :
    reading.Fits (attached.isNone && (d.flags.get? name).any (·.takesValue)) := by
  unfold readLong at read
  cases entry : d.flags.get? name with
  | none =>
    simp only [entry, Except.ok.injEq] at read
    rw [← read]
    simpa using .whole (by simp [Block.verbatim])
  | some flag =>
    cases attached with
    | none =>
      simp only [entry] at read
      simpa using fits_of_readFlag read
    | some value =>
      cases takes : flag.takesValue with
      | false => simp [entry, takes] at read
      | true =>
        simp only [entry, takes, if_true] at read
        obtain ⟨block, -, rfl⟩ := map_eq_ok_iff.mp read
        exact .whole (by simp)

theorem renamesCluster_eq (d : Dialect) (short : Token.shape token = .short letters) :
    (!d.renames.isEmpty && Token.isCluster token) = d.renamesCluster letters := by
  simp only [Token.isCluster, short, renamesCluster]

theorem fits_of_readShort (short : Token.shape token = .short letters)
    (read : d.readShort token letters = .ok reading) : reading.Fits (d.awaits token) := by
  unfold readShort at read
  simp only [awaits, short]
  cases entry : d.flags.get? token with
  | some flag =>
    simp only [entry] at read
    exact fits_of_readFlag read
  | none =>
    simp only [entry, d.renamesCluster_eq short] at read
    cases renamed : d.renamesCluster letters with
    | true =>
      simp only [renamed, if_true] at read
      simpa using fits_of_readRenamed read
    | false =>
      simp only [renamed, Bool.false_eq_true, if_false] at read
      by_cases known : ∀ c ∈ d.flags.plainLetters letters, d.flags.knows c = true
      · rw [FlagTable.expand?_of_known known] at read
        have fits := fits_of_readExpansion read ?_
        · simpa [List.all_eq_true.mpr known] using fits
        · exact FlagTable.some_flag_of_known known (Token.ne_nil_of_shape_short short)
      · obtain ⟨c, member, absent⟩ :
            ∃ c ∈ d.flags.plainLetters letters, d.flags.knows c = false := by
          simpa using known
        rw [FlagTable.expand?_of_unknown member absent] at read
        cases read
        have unknown : (d.flags.plainLetters letters).all d.flags.knows = false :=
          List.all_eq_false.mpr ⟨c, member, by simp [absent]⟩
        simpa [unknown] using .whole (by simp [Block.verbatim])

theorem fits_of_read (flag_position : token ≠ "--") (read : d.read token = .ok reading) :
    reading.Fits (d.awaits token) := by
  unfold Dialect.read at read
  cases shape : Token.shape token with
  | terminator => exact absurd (Token.shape_eq_terminator_iff.mp shape) flag_position
  | data =>
    simp only [shape, Except.ok.injEq] at read
    rw [← read]
    simpa [awaits, shape] using .whole (by simp [Block.verbatim])
  | long name attached =>
    simp only [shape] at read
    have fits := fits_of_readLong read
    cases attached with
    | none => simpa [awaits, shape] using fits
    | some value => simpa [awaits, shape] using fits
  | short letters =>
    simp only [shape] at read
    exact fits_of_readShort shape read

theorem read_terminator (d : Dialect) : d.read "--" = .ok .stop := rfl

theorem eq_terminator_of_read_stop (read : d.read token = .ok .stop) : token = "--" := by
  refine Decidable.byContradiction fun flag_position => ?_
  cases fits_of_read flag_position read

theorem leads_of_read (read : d.read token = .ok reading) (leads : reading ≠ .stop) :
    token ≠ "--" ∧ reading.Fits (d.awaits token) := by
  have flag_position : token ≠ "--" := by
    rintro rfl
    cases read
    exact leads rfl
  exact ⟨flag_position, fits_of_read flag_position read⟩

theorem fits_of_read_whole {block : Block} (read : d.read token = .ok (.whole block)) :
    token ≠ "--" ∧ d.awaits token = false ∧ block.words ≠ [] := by
  obtain ⟨flag_position, fits⟩ := leads_of_read read (by simp)
  exact ⟨flag_position, Reading.fits_whole_iff.mp fits⟩

theorem fits_of_read_awaiting {block : Block} {flag : Flag}
    (read : d.read token = .ok (.awaiting block flag)) :
    token ≠ "--" ∧ d.awaits token = true ∧ block.words ≠ [] := by
  obtain ⟨flag_position, fits⟩ := leads_of_read read (by simp)
  exact ⟨flag_position, Reading.fits_awaiting_iff.mp fits⟩

theorem read_of_untouched (untouched : d.Untouched token) :
    d.read token = .ok (.whole (.verbatim token)) := by
  unfold Dialect.read
  cases untouched with
  | data plain => rw [Token.shape_data plain]
  | unknownLong long named absent =>
    obtain ⟨attached, shape⟩ := Token.shape_long long named
    simp only [shape, readLong, absent]
  | unknownShort short single absent spread unknown letterAbsent =>
    have some_letter := List.ne_nil_of_mem ((List.takeWhile_sublist _).subset unknown)
    have shape := Token.shape_short short some_letter single
    simp only [shape, readShort, absent, d.renamesCluster_eq shape, spread, Bool.false_eq_true,
      if_false]
    rw [FlagTable.expand?_of_unknown unknown (by simp [FlagTable.knows, letterAbsent])]

/-- How tokens are respelled: each has its role and its block, and takes up the next one if it
awaits a value. -/
inductive Walk (d : Dialect) : List String → List Token.Role → List Block → Prop where
  | nil : Walk d [] [] []
  | stop (rest : List String) :
    Walk d ("--" :: rest) (.terminator :: rest.map fun _ => .beyond)
      (("--" :: rest).map .verbatim)
  | whole {token : String} {rest : List String} {block : Block} {roles : List Token.Role}
    {blocks : List Block} (read : d.read token = .ok (.whole block)) (some_word : block.words ≠ [])
    (tail : Walk d rest roles blocks) :
    Walk d (token :: rest) (.leading :: roles) (block :: blocks)
  | awaiting {token value : String} {rest : List String} {block : Block} {flag : Flag}
    {roles : List Token.Role} {blocks : List Block}
    (read : d.read token = .ok (.awaiting block flag)) (some_word : block.words ≠ [])
    (tail : Walk d rest roles blocks) :
    Walk d (token :: value :: rest) (.leading :: .value :: roles)
      (block :: .verbatim value :: blocks)

theorem walk_of_blocks {tokens : List String} {blocks : List Block}
    (read : d.blocks tokens = .ok blocks) : d.Walk tokens (d.roles tokens) blocks := by
  fun_induction d.blocks tokens generalizing blocks with
  | case1 =>
    cases read
    exact .nil
  | case2 => cases read
  | case3 token rest ended =>
    cases read
    rw [eq_terminator_of_read_stop ended, roles_terminator]
    exact .stop rest
  | case4 token rest block whole ih =>
    obtain ⟨others, readRest, rfl⟩ := map_eq_ok_iff.mp read
    obtain ⟨flag_position, alone, some_word⟩ := fits_of_read_whole whole
    rw [roles_cons flag_position alone]
    exact .whole whole some_word (ih readRest)
  | case5 => cases read
  | case6 token block flag awaiting value rest ih =>
    obtain ⟨others, readRest, rfl⟩ := map_eq_ok_iff.mp read
    obtain ⟨flag_position, waits, some_word⟩ := fits_of_read_awaiting awaiting
    rw [roles_cons_value flag_position waits]
    exact .awaiting awaiting some_word (ih readRest)

end Dialect

end Handover
