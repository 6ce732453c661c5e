import Handover.Proofs.Respelling.Reading
import Handover.Proofs.Respelling.Renaming

/-!
Where warnings come from. They come with flags that are accepted, and with nothing else, so a
respelling only warns of what the table has to say about its flags.
-/

namespace Handover

namespace FlagTable

/-- Each warning is one of a flag in the table. -/
def Issues (table : FlagTable) (warnings : List String) : Prop :=
  ∀ warning ∈ warnings, ∃ entry ∈ table, warning ∈ entry.2.warnings

variable {table : FlagTable} {first second : List String} {key : String} {flag : Flag}

theorem issues_nil : table.Issues [] := fun warning member => by cases member

theorem issues_append (head : table.Issues first) (tail : table.Issues second) :
    table.Issues (first ++ second) := fun warning member =>
  (List.mem_append.mp member).elim (head warning) (tail warning)

theorem issues_warnings (entry : table.get? key = some flag) : table.Issues flag.warnings :=
  fun _ member => ⟨_, Entries.mem_of_get? entry, member⟩

theorem issues_letters (letters : List Char) :
    table.Issues ((letters.filterMap table.letter?).flatMap Flag.warnings) := by
  intro warning member
  obtain ⟨flag, listed, given⟩ := List.mem_flatMap.mp member
  obtain ⟨c, -, entry⟩ := List.mem_filterMap.mp listed
  exact issues_warnings entry warning given

end FlagTable

def Reading.warnings : Reading → List String
  | .stop => []
  | .whole block => block.warnings
  | .awaiting block _ => block.warnings

namespace Dialect

variable {d : Dialect} {token : String} {tokens : List String} {letters : List Char}
  {flag : Flag} {reading : Reading} {r : Respelling}

theorem warnings_of_readFlag (read : readFlag flag = .ok reading) :
    reading.warnings = flag.warnings := by
  obtain ⟨block, accepted, rfl⟩ := map_eq_ok_iff.mp read
  rw [← Flag.warnings_of_accept accepted]
  cases flag.takesValue <;> rfl

theorem warnings_of_readRenamed (some_letter : letters ≠ [])
    (alpha : letters.all Char.isAlpha = true) (read : d.readRenamed letters = .ok reading) :
    reading.warnings = [] := by
  rcases d.flags.plain_or_valued letters with
    plain | ⟨before, c, attached, flag, rfl, plain, entry, takes⟩
  · rw [readRenamed_of_plain some_letter alpha plain] at read
    cases read
    rfl
  · rw [readRenamed_of_valued alpha plain entry takes] at read
    cases read
    cases attached <;> rfl

theorem issues_readExpansion
    (read : readExpansion ⟨(d.flags.plainLetters letters).filterMap d.flags.letter?,
      d.flags.valued? letters⟩ = .ok reading) : d.flags.Issues reading.warnings := by
  have spread := d.flags.issues_letters (d.flags.plainLetters letters)
  obtain ⟨block, accepted, ⟨-, rfl⟩ | ⟨flag, attached, last, valued, acceptedLast, rfl⟩⟩ :=
    readExpansion_cases read
  · change d.flags.Issues block.warnings
    rwa [Flag.warnings_of_acceptAll accepted]
  · obtain ⟨-, c, -, -, entry, -⟩ := FlagTable.exists_of_valued? valued
    have both : d.flags.Issues (block ++ last).warnings := by
      rw [Block.warnings_append, Flag.warnings_of_acceptAll accepted,
        Flag.warnings_of_accept acceptedLast]
      exact FlagTable.issues_append spread (FlagTable.issues_warnings entry)
    split
    · exact both
    · exact FlagTable.issues_append both FlagTable.issues_nil

theorem issues_read (read : d.read token = .ok reading) : d.flags.Issues reading.warnings := by
  cases reads_of_read read with
  | stop => exact FlagTable.issues_nil
  | verbatim => exact FlagTable.issues_nil
  | flag entry readFlag =>
    rw [warnings_of_readFlag readFlag]
    exact FlagTable.issues_warnings entry
  | @attached name value flag block named split entry takes accepted =>
    change d.flags.Issues block.warnings
    rw [Flag.warnings_of_accept accepted]
    exact FlagTable.issues_warnings entry
  | renamed short some_rename alpha readRenamed =>
    rw [warnings_of_readRenamed (Token.ne_nil_of_shape_short short) alpha readRenamed]
    exact FlagTable.issues_nil
  | expanded short known readExpansion => exact issues_readExpansion readExpansion

theorem issues_walk {roles : List Token.Role} {blocks : List Block}
    (walk : d.Walk tokens roles blocks) : d.flags.Issues (blocks.flatMap Block.warnings) := by
  induction walk with
  | nil => exact FlagTable.issues_nil
  | stop rest =>
    rw [Block.warnings_verbatim]
    exact FlagTable.issues_nil
  | whole read some_word tail ih => exact FlagTable.issues_append (issues_read read) ih
  | awaiting read some_word tail ih =>
    exact FlagTable.issues_append (issues_read read)
      (FlagTable.issues_append FlagTable.issues_nil ih)

theorem issues_respell (respelled : d.respell tokens = .ok r) : d.flags.Issues r.warnings := by
  obtain ⟨blocks, read, rfl⟩ := map_eq_ok_iff.mp respelled
  intro warning member
  exact issues_walk (walk_of_blocks read) warning (List.mem_eraseDups.mp member)

end Dialect

end Handover
