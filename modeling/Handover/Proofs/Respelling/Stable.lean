import Handover.Proofs.Respelling.Append
import Handover.Proofs.Respelling.Reading
import Handover.Proofs.Respelling.Renaming

/-!
Respelling a second time. The words that stand for a token are read again in the same pieces if the
flags are spelled as words that the same flags leave alone, and if renamed letters keep their names.
The flags of the legacy scripts are of this kind, so a second pass over their words changes nothing.
-/

namespace Handover

namespace Dialect

def keeps (d : Dialect) (token : String) (awaits : Bool) : Bool :=
  match d.read token, awaits with
  | .ok (.whole block), false => block = .verbatim token
  | .ok (.awaiting block _), true => block = .verbatim token
  | _, _ => false

/-- Whatever follows, the words are given as they are, and reading goes on behind them. -/
def Closed (d : Dialect) (words : List String) : Prop :=
  ∀ rest, d.blocks (words ++ rest) = (d.blocks rest).map (words.map .verbatim ++ ·)

def Open (d : Dialect) (words : List String) : Prop := ∀ value, d.Closed (words ++ [value])

/-- A reading that awaits no value gives closed words, and one that awaits a value open ones. -/
def Rereads (d : Dialect) : Reading → Prop
  | .stop => True
  | .whole block => d.Closed block.words
  | .awaiting block _ => d.Open block.words

/-- What flags are spelled as and letters are renamed to is kept. -/
structure Stable (d : Dialect) : Prop where
  spelling : ∀ entry ∈ d.flags, d.keeps entry.2.spelling entry.2.takesValue = true
  long : ∀ entry ∈ d.flags, "--".toList.isPrefixOf entry.1.toList = true →
    entry.2.takesValue = true → Token.shape entry.2.spelling = .long entry.2.spelling none
  plain : ∀ entry ∈ d.renames,
    ((entry.1.toList ++ entry.2.toList).any d.flags.takesValue) = false
  letters : ∀ entry ∈ d.renames, entry.2.toList ≠ [] ∧
    (entry.2.toList.all fun c => c.isAlpha && d.renamed c == [c]) = true
  cluster : d.renames.isEmpty = false → ∀ entry ∈ d.flags, Token.isCluster entry.1 = true →
    d.renamedCluster (entry.1.toList.drop 1) = entry.1 →
      d.keeps entry.1 (d.flags.valued? (entry.1.toList.drop 1)).isSome = true

variable {d : Dialect} {token value : String} {first second words : List String}
  {letters before attached : List Char} {c : Char} {flag : Flag} {reading : Reading}

theorem keeps_alone_iff :
    d.keeps token false = true ↔ d.read token = .ok (.whole (.verbatim token)) := by
  unfold keeps
  split <;> simp_all

theorem keeps_awaiting_iff :
    d.keeps token true = true ↔ ∃ flag, d.read token = .ok (.awaiting (.verbatim token) flag) := by
  unfold keeps
  split <;> simp_all

theorem closed_append (head : d.Closed first) (tail : d.Closed second) :
    d.Closed (first ++ second) := by
  intro rest
  rw [List.append_assoc, head, tail]
  cases d.blocks rest with
  | error obstacle => rfl
  | ok blocks => simp [Except.map]

theorem open_append (head : d.Closed first) (tail : d.Open second) : d.Open (first ++ second) := by
  intro value
  rw [List.append_assoc]
  exact closed_append head (tail value)

theorem closed_nil : d.Closed [] := by
  intro rest
  rw [List.nil_append]
  cases d.blocks rest <;> rfl

theorem closed_of_read (read : d.read token = .ok (.whole (.verbatim token))) :
    d.Closed [token] := by
  intro rest
  rw [List.singleton_append, blocks, read]
  rfl

theorem open_of_read (read : d.read token = .ok (.awaiting (.verbatim token) flag)) :
    d.Open [token] := by
  intro value rest
  change d.blocks (token :: value :: rest) = _
  rw [blocks, read]
  rfl

namespace Stable

variable (stable : d.Stable)
include stable

theorem closed_spelling {key : String} (member : (key, flag) ∈ d.flags)
    (plain : flag.takesValue = false) : d.Closed [flag.spelling] := by
  have kept := stable.spelling _ member
  rw [plain] at kept
  exact closed_of_read (keeps_alone_iff.mp kept)

theorem open_spelling {key : String} (member : (key, flag) ∈ d.flags)
    (takes : flag.takesValue = true) : d.Open [flag.spelling] := by
  have kept := stable.spelling _ member
  rw [takes] at kept
  obtain ⟨own, read⟩ := keeps_awaiting_iff.mp kept
  exact open_of_read read

theorem rereads_readFlag {key : String} (entry : d.flags.get? key = some flag)
    (read : readFlag flag = .ok reading) : d.Rereads reading := by
  have member := Entries.mem_of_get? entry
  obtain ⟨block, accepted, rfl⟩ := map_eq_ok_iff.mp read
  have words := Flag.words_of_accept accepted
  cases takes : flag.takesValue with
  | true =>
    change d.Open block.words
    rw [words]
    exact stable.open_spelling member takes
  | false =>
    change d.Closed block.words
    rw [words]
    exact stable.closed_spelling member takes

theorem closed_letters (plain : ∀ c ∈ letters, d.flags.takesValue c = false) :
    d.Closed ((letters.filterMap d.flags.letter?).map Flag.spelling) := by
  induction letters with
  | nil => exact closed_nil
  | cons c rest ih =>
    have others := ih fun x member => plain x (List.mem_cons_of_mem c member)
    cases entry : d.flags.letter? c with
    | none => simpa [entry] using others
    | some flag =>
      have first := plain c List.mem_cons_self
      rw [FlagTable.takesValue_eq entry] at first
      have single := stable.closed_spelling (Entries.mem_of_get? entry) first
      simpa [entry] using closed_append single others

theorem rereads_readExpansion
    (read : readExpansion ⟨(d.flags.plainLetters letters).filterMap d.flags.letter?,
      d.flags.valued? letters⟩ = .ok reading) : d.Rereads reading := by
  have spelledOut : d.Closed
      (((d.flags.plainLetters letters).filterMap d.flags.letter?).map Flag.spelling) := by
    refine stable.closed_letters fun c member => ?_
    simpa using List.all_eq_true.mp List.all_takeWhile c member
  obtain ⟨block, accepted, ⟨-, rfl⟩ | ⟨flag, attached, last, valued, acceptedLast, rfl⟩⟩ :=
    readExpansion_cases read
  · change d.Closed block.words
    rwa [Flag.words_of_acceptAll accepted]
  · obtain ⟨-, c, -, -, entry, takes⟩ := FlagTable.exists_of_valued? valued
    have opened : d.Open (block ++ last).words := by
      rw [Block.words_append, Flag.words_of_acceptAll accepted, Flag.words_of_accept acceptedLast]
      exact open_append spelledOut (stable.open_spelling (Entries.mem_of_get? entry) takes)
    split
    · exact opened
    · exact opened (String.ofList attached)

theorem renamed_cases (c : Char) :
    d.renamed c = [c] ∨ d.flags.takesValue c = false ∧ d.renamed c ≠ [] ∧
      ∀ x ∈ d.renamed c, x.isAlpha = true ∧ d.renamed x = [x] ∧ d.flags.takesValue x = false := by
  cases found : d.renames.lookup (String.ofList [c]) with
  | none =>
    refine .inl ?_
    rw [renamed, found]
    exact String.toList_ofList
  | some word =>
    obtain ⟨before, after, split, -⟩ := List.lookup_eq_some_iff.mp found
    have member : (String.ofList [c], word) ∈ d.renames := by simp [split]
    have letters : d.renamed c = word.toList := by
      rw [renamed, found]
      rfl
    have plain (x : Char) (within : x ∈ [c] ++ word.toList) : d.flags.takesValue x = false := by
      have none_valued := stable.plain _ member
      rw [String.toList_ofList] at none_valued
      simpa using List.any_eq_false.mp none_valued x within
    obtain ⟨some_letter, kept⟩ := stable.letters _ member
    rw [letters]
    refine .inr ⟨plain c (by simp), some_letter, fun x within => ?_⟩
    obtain ⟨alpha, fixed⟩ : x.isAlpha = true ∧ d.renamed x = [x] := by
      simpa using List.all_eq_true.mp kept x within
    exact ⟨alpha, fixed, plain x (List.mem_append_right _ within)⟩

theorem renamed_of_valued (takes : d.flags.takesValue c = true) : d.renamed c = [c] := by
  rcases stable.renamed_cases c with same | ⟨plain, -⟩
  · exact same
  · rw [plain] at takes
    cases takes

theorem renamed_ne_nil (c : Char) : d.renamed c ≠ [] := by
  rcases stable.renamed_cases c with same | ⟨-, some_letter, -⟩
  · simp [same]
  · exact some_letter

theorem renamed_renamed {x : Char} (member : x ∈ d.renamed c) : d.renamed x = [x] := by
  rcases stable.renamed_cases c with same | ⟨-, -, letters⟩
  · rw [same, List.mem_singleton] at member
    rw [member, same]
  · exact (letters x member).2.1

theorem alpha_renamed {x : Char} (alpha : c.isAlpha = true) (member : x ∈ d.renamed c) :
    x.isAlpha = true := by
  rcases stable.renamed_cases c with same | ⟨-, -, letters⟩
  · rw [same, List.mem_singleton] at member
    rw [member, alpha]
  · exact (letters x member).1

theorem plain_renamed {x : Char} (plain : d.flags.takesValue c = false)
    (member : x ∈ d.renamed c) : d.flags.takesValue x = false := by
  rcases stable.renamed_cases c with same | ⟨-, -, letters⟩
  · rw [same, List.mem_singleton] at member
    rw [member, plain]
  · exact (letters x member).2.2

theorem flatMap_renamed (letters : List Char) :
    (letters.flatMap d.renamed).flatMap d.renamed = letters.flatMap d.renamed := by
  induction letters with
  | nil => rfl
  | cons c rest ih =>
    have first : (d.renamed c).flatMap d.renamed = d.renamed c := by
      have same := List.map_congr_left fun x member => stable.renamed_renamed (c := c) member
      rw [List.flatMap_def, same, ← List.flatMap_def, List.flatMap_singleton']
    rw [List.flatMap_cons, List.flatMap_append, first, ih]

theorem alpha_flatMap_renamed (alpha : letters.all Char.isAlpha = true) :
    (letters.flatMap d.renamed).all Char.isAlpha = true := by
  rw [List.all_eq_true] at alpha ⊢
  intro x member
  obtain ⟨c, within, letter⟩ := List.mem_flatMap.mp member
  exact stable.alpha_renamed (alpha c within) letter

theorem plain_flatMap_renamed (plain : ∀ c ∈ letters, d.flags.takesValue c = false) :
    ∀ x ∈ letters.flatMap d.renamed, d.flags.takesValue x = false := by
  intro x member
  obtain ⟨c, within, letter⟩ := List.mem_flatMap.mp member
  exact stable.plain_renamed (plain c within) letter

theorem flatMap_renamed_ne_nil (some_letter : letters ≠ []) : letters.flatMap d.renamed ≠ [] := by
  cases letters with
  | nil => exact absurd rfl some_letter
  | cons c rest =>
    rw [List.flatMap_cons]
    exact List.append_ne_nil_of_left_ne_nil (stable.renamed_ne_nil c) _

theorem keeps_cluster (some_rename : d.renames.isEmpty = false) (some_letter : letters ≠ [])
    (alpha : letters.all Char.isAlpha = true) (fixed : letters.flatMap d.renamed = letters)
    (last : ∀ flag attached, d.flags.valued? letters = some (flag, attached) → attached = []) :
    d.keeps (String.ofList ('-' :: letters)) (d.flags.valued? letters).isSome = true := by
  have shape := shape_of_alpha some_letter alpha
  have cluster := isCluster_of_alpha some_letter alpha
  have word : d.renamedCluster letters = String.ofList ('-' :: letters) := by
    rw [renamedCluster, fixed]
  cases entry : d.flags.get? (String.ofList ('-' :: letters)) with
  | some flag =>
    -- a cluster that is listed is read as its flag, and is not renamed
    have kept := stable.cluster some_rename _ (Entries.mem_of_get? entry) cluster
    simp only [String.toList_ofList, List.drop_succ_cons, List.drop_zero] at kept
    exact kept word
  | none =>
    have read : d.read (String.ofList ('-' :: letters)) = d.readRenamed letters := by
      simp only [Dialect.read, shape, readShort, entry, some_rename, cluster, Bool.not_false,
        Bool.and_self, if_true]
    rcases d.flags.plain_or_valued letters with
      plain | ⟨before, c, attached, flag, rfl, plain, letter, takes⟩
    · rw [readRenamed_of_plain some_letter alpha plain, word] at read
      rw [FlagTable.valued?_of_plain plain]
      exact keeps_alone_iff.mpr read
    · have valued := (FlagTable.last_valued plain letter takes attached).2
      obtain rfl := last flag attached valued
      rw [readRenamed_of_valued alpha plain letter takes, word] at read
      rw [valued]
      exact keeps_awaiting_iff.mpr ⟨flag, read⟩

theorem rereads_readRenamed (some_rename : d.renames.isEmpty = false) (some_letter : letters ≠ [])
    (alpha : letters.all Char.isAlpha = true) (read : d.readRenamed letters = .ok reading) :
    d.Rereads reading := by
  have kept (letters : List Char) (some_letter : letters ≠ [])
      (alpha : letters.all Char.isAlpha = true) :=
    stable.keeps_cluster some_rename (stable.flatMap_renamed_ne_nil some_letter)
      (stable.alpha_flatMap_renamed alpha) (stable.flatMap_renamed letters)
  rcases d.flags.plain_or_valued letters with
    plain | ⟨before, c, attached, flag, rfl, plain, entry, takes⟩
  · have last := FlagTable.valued?_of_plain (stable.plain_flatMap_renamed plain)
    have word := kept letters some_letter alpha (by simp [last])
    rw [readRenamed_of_plain some_letter alpha plain] at read
    cases read
    rw [last] at word
    exact closed_of_read (keeps_alone_iff.mp word)
  · have fixed : d.renamed c = [c] :=
      stable.renamed_of_valued (by rw [FlagTable.takesValue_eq entry, takes])
    have last : d.flags.valued? ((before ++ [c]).flatMap d.renamed) = some (flag, []) := by
      rw [List.flatMap_append, List.flatMap_singleton, fixed]
      exact (FlagTable.last_valued (stable.plain_flatMap_renamed plain) entry takes []).2
    have word := kept (before ++ [c]) (by simp) (alpha_head alpha)
    rw [last] at word
    specialize word fun _ _ same => by cases same; rfl
    obtain ⟨own, readHead⟩ := keeps_awaiting_iff.mp word
    have opened : d.Open [d.renamedCluster (before ++ [c])] := open_of_read readHead
    rw [readRenamed_of_valued alpha plain entry takes] at read
    cases read
    split
    · exact opened
    · exact opened (String.ofList attached)

theorem read_attached {name : String} (named : Token.IsName name)
    (entry : d.flags.get? name = some flag) (takes : flag.takesValue = true) (value : String) :
    d.read (flag.spelling ++ "=" ++ value) =
      .ok (.whole (.verbatim (flag.spelling ++ "=" ++ value))) := by
  have member := Entries.mem_of_get? entry
  have dashes : "--".toList.isPrefixOf name.toList = true := by
    obtain ⟨cs, long, -⟩ := named
    rw [long]
    rfl
  have shape := stable.long _ member dashes takes
  have kept := stable.spelling _ member
  rw [takes] at kept
  obtain ⟨awaited, read⟩ := keeps_awaiting_iff.mp kept
  simp only [Dialect.read, shape, readLong] at read
  cases own : d.flags.get? flag.spelling with
  | none => simp [own] at read
  | some other =>
    simp only [own] at read
    obtain ⟨block, accepted, same⟩ := map_eq_ok_iff.mp read
    have words := Flag.words_of_accept accepted
    cases otherTakes : other.takesValue with
    | false => simp [otherTakes] at same
    | true =>
      simp only [otherTakes, if_true, Reading.awaiting.injEq] at same
      obtain ⟨rfl, -⟩ := same
      have spelling : other.spelling = flag.spelling := by simpa [Block.verbatim] using words.symm
      simp only [Dialect.read, Token.shape_attached_of_bare shape, readLong, own, otherTakes,
        if_true, accepted, spelling]
      rfl

theorem rereads_read (read : d.read token = .ok reading) : d.Rereads reading := by
  cases reads_of_read read with
  | stop => trivial
  | verbatim => exact closed_of_read read
  | flag entry readFlag => exact stable.rereads_readFlag entry readFlag
  | @attached name value flag block named split entry takes accepted =>
    exact closed_of_read (stable.read_attached named entry takes value)
  | renamed short some_rename alpha readRenamed =>
    exact stable.rereads_readRenamed some_rename (Token.ne_nil_of_shape_short short) alpha
      readRenamed
  | expanded short known readExpansion => exact stable.rereads_readExpansion readExpansion

theorem blocks_of_walk {tokens : List String} {roles : List Token.Role} {blocks : List Block}
    (walk : d.Walk tokens roles blocks) :
    d.blocks (blocks.flatMap Block.words) = .ok ((blocks.flatMap Block.words).map .verbatim) := by
  induction walk with
  | nil => rfl
  | stop rest =>
    rw [Block.words_verbatim, Dialect.blocks, read_terminator]
  | @whole token rest block roles blocks read some_word tail ih =>
    have closed : d.Closed block.words := stable.rereads_read read
    rw [List.flatMap_cons, closed, ih]
    exact congrArg Except.ok List.map_append.symm
  | @awaiting token value rest block flag roles blocks read some_word tail ih =>
    have opened : d.Open block.words := stable.rereads_read read
    have closed := opened value (blocks.flatMap Block.words)
    rw [List.flatMap_cons, List.flatMap_cons, ← List.append_assoc]
    change d.blocks (block.words ++ [value] ++ _) = .ok ((block.words ++ [value] ++ _).map _)
    rw [closed, ih]
    exact congrArg Except.ok List.map_append.symm

theorem respell_args {tokens : List String} {r : Respelling}
    (respelled : d.respell tokens = .ok r) : d.respell r.args = .ok ⟨r.args, []⟩ := by
  obtain ⟨blocks, read, rfl⟩ := map_eq_ok_iff.mp respelled
  have again : d.blocks (Respelling.ofBlocks blocks).args =
      .ok ((Respelling.ofBlocks blocks).args.map .verbatim) :=
    stable.blocks_of_walk (walk_of_blocks read)
  rw [respell, again]
  exact congrArg Except.ok (Respelling.ofBlocks_append_verbatim [] _)

end Stable

theorem read_withProgram (program : String) (read : d.read token = .ok reading) :
    Dialect.read { d with program } token = .ok reading := by
  unfold Dialect.read at read ⊢
  split
  next shape => simpa only [shape] using read
  next name attached shape =>
    simp only [shape, readLong] at read ⊢
    split
    next absent => simpa only [absent] using read
    next flag entry => simpa only [entry] using read
    next flag value entry =>
      simp only [entry] at read
      cases takes : flag.takesValue with
      | false => simp [takes] at read
      | true => simpa only [takes, if_true] using read
  next letters shape =>
    simp only [shape] at read
    exact read
  next shape => simpa only [shape] using read

theorem keeps_withProgram (program : String) {awaits : Bool} (kept : d.keeps token awaits = true) :
    Dialect.keeps { d with program } token awaits = true := by
  cases awaits with
  | false => exact keeps_alone_iff.mpr (read_withProgram program (keeps_alone_iff.mp kept))
  | true =>
    obtain ⟨flag, read⟩ := keeps_awaiting_iff.mp kept
    exact keeps_awaiting_iff.mpr ⟨flag, read_withProgram program read⟩

theorem Stable.withProgram (stable : d.Stable) (program : String) :
    Stable { d with program } where
  spelling entry member := keeps_withProgram program (stable.spelling entry member)
  long := stable.long
  plain := stable.plain
  letters := stable.letters
  cluster some_rename entry member cluster same :=
    keeps_withProgram program (stable.cluster some_rename entry member cluster same)

theorem stable_dialect (c : Command) : c.dialect.Stable where
  spelling := by cases c <;> decide
  long := by cases c <;> decide
  plain := by cases c <;> decide
  letters := by cases c <;> decide
  cluster := by cases c <;> decide

/-- What the flags of a legacy script are respelled to is respelled to itself, without a warning. -/
theorem respell_respelled (c : Command) (program : String) {tokens : List String} {r : Respelling}
    (respelled : Dialect.respell { c.dialect with program } tokens = .ok r) :
    Dialect.respell { c.dialect with program } r.args = .ok ⟨r.args, []⟩ :=
  ((stable_dialect c).withProgram program).respell_args respelled

theorem respell_respelled_prepare :
    Dialect.respell { Command.prepare.dialect with program := "ztc" }
        ["-uvc", "--", "-vcv", "-vc/v", "-vx/", "--config=-v", "--", "-v"] =
      .ok ⟨["-uVc", "--", "-Vc", "v", "-V", "-c", "/v", "-vx/", "--config=-v", "--", "-v"], []⟩ ∧
    Dialect.respell { Command.prepare.dialect with program := "ztc" }
        ["-uVc", "--", "-Vc", "v", "-V", "-c", "/v", "-vx/", "--config=-v", "--", "-v"] =
      .ok ⟨["-uVc", "--", "-Vc", "v", "-V", "-c", "/v", "-vx/", "--config=-v", "--", "-v"],
        []⟩ := by
  have respelled : Dialect.respell { Command.prepare.dialect with program := "ztc" }
      ["-uvc", "--", "-vcv", "-vc/v", "-vx/", "--config=-v", "--", "-v"] =
        .ok ⟨["-uVc", "--", "-Vc", "v", "-V", "-c", "/v", "-vx/", "--config=-v", "--", "-v"],
          []⟩ := by
    rfl
  exact ⟨respelled, respell_respelled .prepare "ztc" respelled⟩

end Dialect

end Handover
