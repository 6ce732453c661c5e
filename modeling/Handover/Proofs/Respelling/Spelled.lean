import Handover.Flag.Table
import Handover.Proofs.Respelling.Append
import Handover.Proofs.Respelling.Grammar
import Handover.Proofs.Respelling.Warnings

/-!
One flag in several spellings: by itself, with a value attached to its name, or as one letter among
others that are spread out. The spelling decides about the words only. Whether the token is refused,
and what the caller is warned of, is decided by the flags that it spells.
-/

namespace Handover

namespace FlagTable

def entryOf? (table : FlagTable) (letter : Char) : Option (String × Flag) :=
  (table.letter? letter).map fun flag => (String.ofList ['-', letter], flag)

theorem flags_of_letters (table : FlagTable) (letters : List Char) :
    (letters.filterMap table.entryOf?).map Prod.snd = letters.filterMap table.letter? := by
  rw [List.map_filterMap]
  refine congrArg (letters.filterMap ·) (funext fun c => ?_)
  simp [entryOf?, Function.comp_def]

end FlagTable

namespace Flag

def IsUnsupported (flag : Flag) : Prop := flag.fidelity = .unsupported

instance (flag : Flag) : Decidable flag.IsUnsupported :=
  inferInstanceAs (Decidable (flag.fidelity = .unsupported))

variable {flag : Flag} {flags : List Flag}

theorem accept_of_isUnsupported (unsupported : flag.IsUnsupported) :
    flag.accept = .error (.unsupported flag) := if_pos unsupported

theorem acceptAll_singleton (flag : Flag) : acceptAll [flag] = flag.accept := by
  unfold acceptAll
  cases accepted : flag.accept with
  | error obstacle => rfl
  | ok block =>
    have alone : block ++ { words := [] } = block := by
      obtain ⟨words, warnings⟩ := block
      change Block.mk (words ++ []) (warnings ++ []) = _
      rw [List.append_nil, List.append_nil]
    exact congrArg Except.ok alone

/-- Flags are accepted one after the other, so the first that is unsupported is complained about. -/
theorem acceptAll_of_find? (first : flags.find? IsUnsupported = some flag) :
    acceptAll flags = .error (.unsupported flag) := by
  induction flags with
  | nil => cases first
  | cons head rest ih =>
    by_cases unsupported : head.IsUnsupported
    · rw [List.find?_cons_of_pos (by simpa using unsupported), Option.some.injEq] at first
      rw [acceptAll, accept_of_isUnsupported unsupported, first]
    · rw [List.find?_cons_of_neg (by simpa using unsupported)] at first
      obtain ⟨block, accepted⟩ := exists_accept unsupported
      rw [acceptAll, accepted]
      simp only [ih first]
      rfl

end Flag

namespace Dialect

structure Lists (d : Dialect) (token : String) (flag : Flag) : Prop where
  entry : d.flags.get? token = some flag
  leading : Token.shape token = .long token none ∨ ∃ letters, Token.shape token = .short letters

/-- The token spells these flags of the table, in their order. -/
inductive Spells (d : Dialect) (token : String) : FlagTable → Prop where
  | itself {flag : Flag} (listed : d.Lists token flag) : Spells d token [(token, flag)]
  | attached {name value : String} {flag : Flag} (split : token = name ++ "=" ++ value)
    (bare : Token.shape name = .long name none) (entry : d.flags.get? name = some flag)
    (takes : flag.takesValue = true) : Spells d token [(name, flag)]
  | spread {letters : List Char} (short : Token.shape token = .short letters)
    (alpha : letters.all Char.isAlpha = true) (unlisted : d.flags.get? token = none)
    (unrenamed : d.renames = []) (known : ∀ c ∈ letters, d.flags.knows c = true)
    (plain : ∀ c ∈ letters, d.flags.takesValue c = false) :
    Spells d token (letters.filterMap d.flags.entryOf?)

variable {d : Dialect} {token key : String} {flag : Flag} {spelled : FlagTable}
  {xs tokens : List String} {r : Respelling}

theorem read_of_lists (listed : d.Lists token flag) : d.read token = readFlag flag := by
  obtain ⟨entry, long | ⟨letters, short⟩⟩ := listed
  · simp only [Dialect.read, long, readLong, entry]
  · simp only [Dialect.read, short, readShort, entry]

theorem lists_of_spells (spells : d.Spells token spelled) (member : (key, flag) ∈ spelled) :
    d.Lists key flag := by
  cases spells with
  | itself listed =>
    cases List.mem_singleton.mp member
    exact listed
  | attached split bare entry takes =>
    cases List.mem_singleton.mp member
    exact ⟨entry, .inl bare⟩
  | spread short alpha unlisted unrenamed known plain =>
    obtain ⟨c, letter, found⟩ := List.mem_filterMap.mp member
    obtain ⟨other, entry, same⟩ := Option.map_eq_some_iff.mp found
    cases same
    have single : [c].head? ≠ some '-' :=
      head?_ne_dash_of_alpha (by simpa using List.all_eq_true.mp alpha c letter)
    exact ⟨entry, .inr ⟨[c], Token.shape_ofList (by simp) single⟩⟩

theorem read_of_spells (spells : d.Spells token spelled) :
    ∃ reading : Block → Reading, (∀ block, (reading block).warnings = block.warnings) ∧
      d.read token = (Flag.acceptAll (spelled.map Prod.snd)).map reading := by
  cases spells with
  | @itself flag listed =>
    refine ⟨fun block => if flag.takesValue then .awaiting block flag else .whole block, ?_, ?_⟩
    · intro block
      cases flag.takesValue <;> rfl
    · rw [read_of_lists listed, readFlag, List.map_singleton, Flag.acceptAll_singleton]
  | @attached name value flag split bare entry takes =>
    refine ⟨fun block => .whole { block with words := [flag.spelling ++ "=" ++ value] },
      fun block => rfl, ?_⟩
    rw [split, List.map_singleton, Flag.acceptAll_singleton]
    simp only [Dialect.read, Token.shape_attached_of_bare bare, readLong, entry, takes, if_true]
  | @spread letters short alpha unlisted unrenamed known plain =>
    refine ⟨.whole, fun block => rfl, ?_⟩
    have all := FlagTable.plainLetters_of_plain plain
    have unvalued := FlagTable.valued?_of_plain plain
    have expanded : d.flags.expand? letters =
        some ⟨letters.filterMap d.flags.letter?, none⟩ := by
      have listed := FlagTable.expand?_of_known (by rwa [all])
      rwa [all, unvalued] at listed
    rw [FlagTable.flags_of_letters]
    simp only [Dialect.read, short, readShort, unlisted, unrenamed, List.isEmpty_nil, Bool.not_true,
      Bool.false_and, Bool.false_eq_true, if_false, expanded, readExpansion]
    cases Flag.acceptAll (letters.filterMap d.flags.letter?) <;> rfl

theorem respell_of_refused {obstacle : Obstacle} (refused : d.read token = .error obstacle)
    (rest : List String) : d.respell (token :: rest) = .error obstacle := by
  rw [respell, blocks, refused]
  rfl

theorem warnings_of_respell_cons {reading : Reading} {rest : List String}
    (respelled : d.respell (token :: rest) = .ok r) (read : d.read token = .ok reading) :
    ∀ warning ∈ reading.warnings, warning ∈ r.warnings := by
  intro warning given
  obtain ⟨blocks, walked, rfl⟩ := map_eq_ok_iff.mp respelled
  have member : warning ∈ blocks.flatMap Block.warnings := by
    rw [Dialect.blocks, read] at walked
    cases reading with
    | stop => cases given
    | whole block =>
      obtain ⟨others, -, rfl⟩ := map_eq_ok_iff.mp walked
      exact List.mem_append_left _ given
    | awaiting block flag =>
      cases rest with
      | nil => cases walked
      | cons value rest =>
        obtain ⟨others, -, rfl⟩ := map_eq_ok_iff.mp walked
        exact List.mem_append_left _ given
  exact List.mem_eraseDups.mpr member

theorem refused_of_spells (spells : d.Spells token spelled)
    (first : spelled.find? (·.2.IsUnsupported) = some (key, flag)) :
    d.read token = .error (.unsupported flag) ∧ d.read key = .error (.unsupported flag) := by
  have unsupported : flag.IsUnsupported := by simpa using List.find?_some first
  have listed := lists_of_spells spells (List.mem_of_find?_eq_some first)
  have firstFlag : (spelled.map Prod.snd).find? Flag.IsUnsupported = some flag := by
    rw [List.find?_map]
    exact congrArg (Option.map Prod.snd) first
  obtain ⟨reading, -, read⟩ := read_of_spells spells
  constructor
  · rw [read, Flag.acceptAll_of_find? firstFlag]
    rfl
  · rw [read_of_lists listed, readFlag, Flag.accept_of_isUnsupported unsupported]
    rfl

theorem warned_of_spells (spells : d.Spells token spelled) {rest : List String}
    (respelled : d.respell (token :: rest) = .ok r) :
    ∀ entry ∈ spelled, ∀ warning ∈ entry.2.warnings, warning ∈ r.warnings := by
  intro entry member warning given
  obtain ⟨reading, warned, read⟩ := read_of_spells spells
  cases accepted : Flag.acceptAll (spelled.map Prod.snd) with
  | error obstacle =>
    rw [accepted] at read
    rw [respell_of_refused read rest] at respelled
    cases respelled
  | ok block =>
    rw [accepted] at read
    refine warnings_of_respell_cons respelled read warning ?_
    rw [warned block, Flag.warnings_of_acceptAll accepted]
    exact List.mem_flatMap.mpr ⟨entry.2, List.mem_map_of_mem member, given⟩

def dropped (legacy : String) : Flag := { legacy, current := none, fidelity := .unsupported }

def approximated : Flag where
  legacy := "-d"
  current := some "--dry-run"
  fidelity := .approximate
  warning := some dumpWarning

def dwindled (renames : List (String × String)) : Dialect where
  flags := FlagTable.ofFlags [{ legacy := "-n", current := some "--nopush" }, approximated,
    dropped "-x", dropped "--gone"]
  renames

end Dialect

end Handover
