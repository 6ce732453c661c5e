import Handover.Proofs.Respelling.Prepare
import Handover.Proofs.ShortFlags
import Handover.Proofs.Verdict

/-!
The value of `-c` in a cluster of `prepare`, attached to its letter or in the next token. Which of
the two it is makes no difference to the flags that the current tool receives, as long as the token
is taken apart. A token with a letter that is no flag before the `c` and something other than
letters behind it is not: it is copied, and its letters keep their names.
-/

namespace Handover.Prepare

variable {before value : List Char} {flag : Flag} {x : Char}

/-- The short flags that the current tool receives. Its only letter with a value is `c`. -/
def received (words : List String) : Option (List ShortFlag) := ShortFlag.ofWords? (· == 'c') words

/-- A cluster with an attached value is taken apart if all of it is letters, so that it is renamed,
or if it has flags only, so that it is spread out. -/
def TakenApart (before value : List Char) : Prop :=
  value.all Char.isAlpha = true ∨ ∀ x ∈ before, Command.prepare.flags.knows x = true

instance (before value : List Char) : Decidable (TakenApart before value) :=
  decidable_of_iff (value.all Char.isAlpha || before.all Command.prepare.flags.knows) <| by
    simp only [TakenApart, Bool.or_eq_true, List.all_eq_true]

theorem spelled_ne (other : x ≠ 'c') : spelled x ≠ 'c' := by
  unfold spelled
  split
  · decide
  · exact other

theorem alpha_spelled (alpha : x.isAlpha = true) : (spelled x).isAlpha = true := by
  unfold spelled
  split
  · decide
  · exact alpha

theorem plain_of_unvalued {letters : List Char} (unvalued : 'c' ∉ letters) :
    ∀ x ∈ letters, (x == 'c') = false := by
  intro x member
  rw [beq_eq_false_iff_ne]
  rintro rfl
  exact unvalued member

theorem unvalued_spelled (unvalued : 'c' ∉ before) : 'c' ∉ before.map spelled := by
  intro member
  obtain ⟨x, within, same⟩ := List.mem_map.mp member
  exact spelled_ne (fun letter => unvalued (letter ▸ within)) same

theorem clear_spelled (alpha : before.all Char.isAlpha = true) :
    '-' ∉ before.map spelled ++ ['c'] := by
  intro member
  have letters : (before.map spelled ++ ['c']).all Char.isAlpha = true := by
    simpa [List.all_map] using fun x within => alpha_spelled (List.all_eq_true.mp alpha x within)
  exact absurd (List.all_eq_true.mp letters '-' member) (by decide)

theorem accept_of_letter (alpha : x.isAlpha = true)
    (entry : Command.prepare.flags.letter? x = some flag) :
    flag.accept = .ok (.verbatim (cluster [spelled x])) := by
  have letters : [x].all Char.isAlpha = true := by simpa using alpha
  have isCluster : Token.isCluster (cluster [x]) = true :=
    Dialect.isCluster_of_alpha (by simp) letters
  have same := agrees "" _ (Entries.mem_of_get? entry) isCluster
  rw [String.toList_ofList] at same
  rw [same.accept_eq]
  exact congrArg (fun word => Except.ok (Block.verbatim word)) (renamedCluster_eq "" [x])

theorem acceptAll_of_known (alpha : before.all Char.isAlpha = true)
    (known : ∀ x ∈ before, Command.prepare.flags.knows x = true) :
    Flag.acceptAll (before.filterMap Command.prepare.flags.letter?) =
      .ok { words := before.map fun x => cluster [spelled x] } := by
  induction before with
  | nil => rfl
  | cons x rest ih =>
    rw [List.all_cons, Bool.and_eq_true] at alpha
    obtain ⟨flag, entry⟩ := Option.isSome_iff_exists.mp (known x List.mem_cons_self)
    have others := ih alpha.2 fun y member => known y (List.mem_cons_of_mem x member)
    rw [List.filterMap_cons_some entry, Flag.acceptAll, accept_of_letter alpha.1 entry]
    simp only [others]
    rfl

theorem head?_ne_dash (alpha : before.all Char.isAlpha = true) (value : List Char) :
    (before ++ 'c' :: value).head? ≠ some '-' := by
  have letters : (before ++ ['c']).all Char.isAlpha = true := by simpa using alpha
  have same : (before ++ 'c' :: value).head? = (before ++ ['c']).head? := by cases before <;> rfl
  rw [same]
  exact Dialect.head?_ne_dash_of_alpha letters

section

variable (program : String) (alpha : before.all Char.isAlpha = true) (unvalued : 'c' ∉ before)
  (some_value : value ≠ [])
include alpha

theorem shape_attached (value : List Char) :
    Token.shape (cluster (before ++ 'c' :: value)) = .short (before ++ 'c' :: value) :=
  Token.shape_ofList (by simp) (head?_ne_dash alpha value)

include some_value

theorem get?_attached : Command.prepare.flags.get? (cluster (before ++ 'c' :: value)) = none := by
  cases entry : Command.prepare.flags.get? (cluster (before ++ 'c' :: value)) with
  | none => rfl
  | some flag =>
    obtain ⟨c, single, -⟩ :=
      (Dialect.proper_dialect .prepare).letters_of_listed (shape_attached alpha value) entry
    have length := congrArg List.length single
    have positive := List.length_pos_iff.mpr some_value
    simp only [List.length_append, List.length_cons, List.length_nil] at length
    omega

theorem read_of_mixed (mixed : value.all Char.isAlpha = false) :
    (dialect program).read (cluster (before ++ 'c' :: value)) =
      match Command.prepare.flags.expand? (before ++ 'c' :: value) with
      | some expansion => Dialect.readExpansion expansion
      | none => .ok (.whole (.verbatim (cluster (before ++ 'c' :: value)))) := by
  have shape := shape_attached alpha value
  have spread : Token.isCluster (cluster (before ++ 'c' :: value)) = false := by
    rw [Token.isCluster, shape]
    simp [mixed]
  have unlisted : (dialect program).flags.get? (cluster (before ++ 'c' :: value)) = none :=
    get?_attached alpha some_value
  simp only [Dialect.read, shape, Dialect.readShort, unlisted, spread, Bool.and_false,
    Bool.false_eq_true, if_false]
  rfl

include unvalued

theorem read_of_known (mixed : value.all Char.isAlpha = false)
    (known : ∀ x ∈ before, Command.prepare.flags.knows x = true) :
    (dialect program).read (cluster (before ++ 'c' :: value)) =
      .ok (.whole { words := before.map (fun x => cluster [spelled x]) ++
        [cluster ['c'], String.ofList value] }) := by
  have entry : Command.prepare.flags.letter? 'c' = some config := rfl
  obtain ⟨plain, valued⟩ := FlagTable.last_valued (plain_of_not_mem unvalued) entry rfl value
  rw [read_of_mixed program alpha some_value mixed, FlagTable.expand?_of_known (by rwa [plain]),
    plain, valued]
  have attached : value.isEmpty = false := by simpa using some_value
  have accepted : config.accept = .ok (.verbatim (cluster ['c'])) := rfl
  simp only [Dialect.readExpansion, acceptAll_of_known alpha known, accepted, attached,
    Bool.false_eq_true, if_false]
  exact congrArg (fun block => Except.ok (Reading.whole block)) (Block.append_assoc _ _ _)

theorem read_of_unknown (mixed : value.all Char.isAlpha = false) (unknown : x ∈ before)
    (absent : Command.prepare.flags.knows x = false) :
    (dialect program).read (cluster (before ++ 'c' :: value)) =
      .ok (.whole (.verbatim (cluster (before ++ 'c' :: value)))) := by
  have entry : Command.prepare.flags.letter? 'c' = some config := rfl
  obtain ⟨plain, -⟩ := FlagTable.last_valued (plain_of_not_mem unvalued) entry rfl value
  rw [read_of_mixed program alpha some_value mixed,
    FlagTable.expand?_of_unknown (by rwa [plain]) absent]

/-- Whatever is attached to the letter with a value, the token is read alone and without a warning.
It gives the flags that it would give with the value behind it, unless it is copied. -/
theorem exists_read_attached :
    ∃ block, (dialect program).read (cluster (before ++ 'c' :: value)) = .ok (.whole block) ∧
      block.warnings = [] ∧
      (TakenApart before value →
        received block.words =
          some (ShortFlag.given (before.map spelled) 'c' (String.ofList value))) ∧
      (¬TakenApart before value →
        block.words = [cluster (before ++ 'c' :: value)] ∧
          received block.words = some (ShortFlag.given before 'c' (String.ofList value))) := by
  have clear := clear_spelled alpha
  have plain := plain_of_unvalued (unvalued_spelled unvalued)
  by_cases letters : value.all Char.isAlpha = true
  · have whole : (before ++ 'c' :: value).all Char.isAlpha = true := by simp [alpha, letters]
    have attached : value.isEmpty = false := by simpa using some_value
    have read := read_of_valued program whole unvalued
    rw [attached] at read
    refine ⟨_, read, rfl, fun _ => ?_, fun copied => absurd (.inl letters) copied⟩
    exact ShortFlag.ofWords?_cluster rfl plain (fun dash => clear (List.mem_of_head? dash)) _
  · have mixed := Bool.not_eq_true _ ▸ letters
    by_cases known : ∀ x ∈ before, Command.prepare.flags.knows x = true
    · have read := read_of_known program alpha unvalued some_value mixed known
      refine ⟨_, read, rfl, fun _ => ?_, fun copied => absurd (.inr known) copied⟩
      have words := @ShortFlag.ofWords?_separate (· == 'c') _ 'c' rfl plain clear
        (String.ofList value)
      rwa [List.map_map] at words
    · obtain ⟨x, unknown, absent⟩ :
          ∃ x ∈ before, Command.prepare.flags.knows x = false := by simpa using known
      have read := read_of_unknown program alpha unvalued some_value mixed unknown absent
      have copied : ¬TakenApart before value := not_or.mpr ⟨letters, known⟩
      refine ⟨_, read, rfl, fun apart => absurd apart copied, fun _ => ⟨rfl, ?_⟩⟩
      exact ShortFlag.ofWords?_attached rfl (plain_of_unvalued unvalued) some_value
        (head?_ne_dash alpha value)

end

theorem exists_read_separate (program : String) (alpha : before.all Char.isAlpha = true)
    (unvalued : 'c' ∉ before) (value : List Char) :
    ∃ block, (dialect program).read (cluster (before ++ ['c'])) = .ok (.awaiting block config) ∧
      block.warnings = [] ∧
      received (block.words ++ [String.ofList value]) =
        some (ShortFlag.given (before.map spelled) 'c' (String.ofList value)) := by
  have whole : (before ++ ['c']).all Char.isAlpha = true := by simpa using alpha
  have clear := clear_spelled alpha
  refine ⟨_, read_of_valued program whole unvalued, rfl, ?_⟩
  exact ShortFlag.ofWords?_cluster rfl (plain_of_unvalued (unvalued_spelled unvalued))
    (fun dash => clear (List.mem_of_head? dash)) _

theorem verdict_of_prepended {words tokens ys : List String} {r : Respelling}
    (some_token : tokens ≠ []) (prepended : (dialect Command.prepare.script).respell tokens =
      ((dialect Command.prepare.script).respell ys).map (.prepend words))
    (respelled : Command.prepare.dialect.respell ys = .ok r) :
    Invocation.verdict ⟨.prepare, tokens⟩ =
      .ok (.dispatch { command := Command.prepare.target, args := words ++ r.args,
                       warnings := r.warnings }) := by
  have whole : Command.prepare.dialect.respell tokens = .ok (r.prepend words) := by
    change Command.prepare.dialect.respell tokens = (Command.prepare.dialect.respell ys).map _
      at prepended
    rw [prepended, respelled]
    rfl
  have flagged : Invocation.Flagged ⟨.prepare, tokens⟩ := ⟨.inl rfl, some_token⟩
  exact Invocation.verdict_of_respelling flagged whole

/-- The value of `c` is handed on as it is, attached or not, and both ways are dispatched. The
current tool receives the same flags before it, each `v` as `V`, unless the token with the attached
value is copied. It receives the letters of such a token as they are. -/
theorem verdict_of_config (alpha : before.all Char.isAlpha = true) (unvalued : 'c' ∉ before)
    (some_value : value ≠ []) {ys : List String} {r : Respelling}
    (respelled : Command.prepare.dialect.respell ys = .ok r) :
    ∃ attached separate : List String,
      Invocation.verdict ⟨.prepare, cluster (before ++ 'c' :: value) :: ys⟩ =
        .ok (.dispatch { command := Command.prepare.target, args := attached ++ r.args,
                         warnings := r.warnings }) ∧
      Invocation.verdict ⟨.prepare, cluster (before ++ ['c']) :: String.ofList value :: ys⟩ =
        .ok (.dispatch { command := Command.prepare.target, args := separate ++ r.args,
                         warnings := r.warnings }) ∧
      received separate =
        some (ShortFlag.given (before.map spelled) 'c' (String.ofList value)) ∧
      (TakenApart before value → received attached = received separate) ∧
      (¬TakenApart before value →
        attached = [cluster (before ++ 'c' :: value)] ∧
          received attached = some (ShortFlag.given before 'c' (String.ofList value))) := by
  obtain ⟨block, read, silent, apart, copied⟩ :=
    exists_read_attached Command.prepare.script alpha unvalued some_value
  obtain ⟨head, readHead, silentHead, separate⟩ :=
    exists_read_separate Command.prepare.script alpha unvalued value
  have first := Dialect.respell_cons_of_whole silent read ys
  have second := Dialect.respell_cons_of_awaiting silentHead readHead (String.ofList value) ys
  refine ⟨block.words, head.words ++ [String.ofList value], ?_, ?_, separate, ?_, copied⟩
  · exact verdict_of_prepended (List.cons_ne_nil _ ys) first respelled
  · exact verdict_of_prepended (List.cons_ne_nil _ (_ :: ys)) second respelled
  · intro taken
    rw [apart taken, separate]

theorem verdict_of_config_dashes :
    ∃ attached separate : List String,
      Invocation.verdict ⟨.prepare, "-uvc--" :: ["-v"]⟩ =
        .ok (.dispatch { command := "prepare", args := attached ++ ["-V"] }) ∧
      Invocation.verdict ⟨.prepare, "-uvc" :: "--" :: ["-v"]⟩ =
        .ok (.dispatch { command := "prepare", args := separate ++ ["-V"] }) ∧
      received separate = some [⟨'u', none⟩, ⟨'V', none⟩, ⟨'c', some "--"⟩] ∧
      received attached = received separate := by
  have alpha : ['u', 'v'].all Char.isAlpha = true := by decide
  have respelled : Command.prepare.dialect.respell ["-v"] = .ok ⟨["-V"], []⟩ := rfl
  have apart : TakenApart ['u', 'v'] ['-', '-'] := by decide
  obtain ⟨attached, separate, first, second, flags, same, -⟩ :=
    verdict_of_config alpha (by decide) (List.cons_ne_nil '-' ['-']) respelled
  exact ⟨attached, separate, first, second, flags, same apart⟩

/-- The letter `x` is no flag and a slash is no letter, so the token is copied, and the current tool
receives a `v` that it does not receive with the value in the next token. -/
theorem verdict_unlike_separate :
    Invocation.verdict ⟨.prepare, ["-xvc/etc"]⟩ =
        .ok (.dispatch { command := "prepare", args := ["-xvc/etc"] }) ∧
      Invocation.verdict ⟨.prepare, ["-xvc", "/etc"]⟩ =
        .ok (.dispatch { command := "prepare", args := ["-xVc", "/etc"] }) ∧
      received ["-xvc/etc"] = some [⟨'x', none⟩, ⟨'v', none⟩, ⟨'c', some "/etc"⟩] ∧
      received ["-xVc", "/etc"] = some [⟨'x', none⟩, ⟨'V', none⟩, ⟨'c', some "/etc"⟩] ∧
      received ["-xvc/etc"] ≠ received ["-xVc", "/etc"] :=
  ⟨rfl, rfl, rfl, rfl, by decide⟩

end Handover.Prepare
