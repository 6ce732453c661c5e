import Handover.Flag.Table
import Handover.Proofs.Respelling.Gathered
import Handover.Proofs.Respelling.Renaming
import Handover.Verdict

/-!
Clusters of `prepare`. A letter by itself is looked up among the flags, and the letters of a cluster
are renamed by a list of their own. The two agree, so a cluster of any length is the cluster of what
its letters are spelled as. Renaming ends behind the first `c`, which is the one letter with a
value.
-/

namespace Handover

namespace Dialect

variable {d : Dialect} {letters : List Char} {flag : Flag}

/-- The flag is spelled as its letters are renamed, without a warning, and takes a value just if its
last letter does. -/
structure SpelledAs (d : Dialect) (flag : Flag) (letters : List Char) : Prop where
  supported : flag.fidelity ≠ .unsupported
  spelling : flag.spelling = d.renamedCluster letters
  silent : flag.warnings = []
  value : d.flags.valued? letters = if flag.takesValue then some (flag, []) else none

/-- What is said about clusters that are listed as flags is what comes of their letters. -/
def Agrees (d : Dialect) : Prop :=
  ∀ entry ∈ d.flags, Token.isCluster entry.1 = true → d.SpelledAs entry.2 (entry.1.toList.drop 1)

theorem SpelledAs.accept_eq (same : d.SpelledAs flag letters) :
    flag.accept = .ok (.verbatim (d.renamedCluster letters)) := by
  rw [Flag.accept, if_neg same.supported, same.spelling, same.silent]
  rfl

theorem SpelledAs.readFlag_eq (same : d.SpelledAs flag letters) (some_letter : letters ≠ [])
    (alpha : letters.all Char.isAlpha = true) : readFlag flag = d.readRenamed letters := by
  have value := same.value
  rw [readFlag, same.accept_eq]
  rcases d.flags.plain_or_valued letters with
    plain | ⟨before, c, attached, own, rfl, plain, entry, takes⟩
  · rw [FlagTable.valued?_of_plain plain] at value
    rw [readRenamed_of_plain some_letter alpha plain]
    cases takes : flag.takesValue with
    | true => simp [takes] at value
    | false => rfl
  · rw [(FlagTable.last_valued plain entry takes attached).2] at value
    rw [readRenamed_of_valued alpha plain entry takes]
    cases flagTakes : flag.takesValue with
    | true =>
      obtain ⟨rfl, rfl⟩ : own = flag ∧ attached = [] := by simpa [flagTakes] using value
      rfl
    | false => simp [flagTakes] at value

theorem Agrees.read_cluster (agrees : d.Agrees) (some_rename : d.renames.isEmpty = false)
    (some_letter : letters ≠ []) (alpha : letters.all Char.isAlpha = true) :
    d.read (String.ofList ('-' :: letters)) = d.readRenamed letters := by
  have shape := shape_of_alpha some_letter alpha
  have cluster := isCluster_of_alpha some_letter alpha
  cases entry : d.flags.get? (String.ofList ('-' :: letters)) with
  | some flag =>
    have listed := agrees _ (Entries.mem_of_get? entry) cluster
    rw [String.toList_ofList] at listed
    simp only [Dialect.read, shape, readShort, entry]
    exact listed.readFlag_eq some_letter alpha
  | none =>
    simp only [Dialect.read, shape, readShort, entry, some_rename, cluster, Bool.not_false,
      Bool.and_self, if_true]

end Dialect

namespace Prepare

def dialect (program : String) : Dialect := { Command.prepare.dialect with program }

abbrev cluster (letters : List Char) : String := String.ofList ('-' :: letters)

def spelled (c : Char) : Char := if c = 'v' then 'V' else c

theorem agrees (program : String) : (dialect program).Agrees := by
  have supported : ∀ entry ∈ Command.prepare.flags, entry.2.fidelity ≠ .unsupported := by decide
  have spelling : ∀ entry ∈ Command.prepare.flags, Token.isCluster entry.1 = true →
      entry.2.spelling = Command.prepare.dialect.renamedCluster (entry.1.toList.drop 1) := by decide
  have silent : ∀ entry ∈ Command.prepare.flags, entry.2.warnings = [] := by decide
  have value : ∀ entry ∈ Command.prepare.flags, Token.isCluster entry.1 = true →
      Command.prepare.flags.valued? (entry.1.toList.drop 1) =
        if entry.2.takesValue then some (entry.2, []) else none := by decide
  intro entry member cluster
  exact ⟨supported entry member, spelling entry member cluster, silent entry member,
    value entry member cluster⟩

theorem takesValue_eq (c : Char) : Command.prepare.flags.takesValue c = (c == 'c') := by
  by_cases same : c = 'c'
  · subst same
    rfl
  · have only : ∀ entry ∈ Command.prepare.flags, entry.2.takesValue = true →
        entry.1 = "-c" ∨ entry.1 = "--config" := by decide
    rw [beq_eq_false_iff_ne.mpr same, ← Bool.not_eq_true]
    intro takes
    obtain ⟨flag, entry, flagTakes⟩ := FlagTable.exists_flag_of_takesValue takes
    rcases only _ (Entries.mem_of_get? entry) flagTakes with short | long
    · have letters := congrArg String.toList short
      simp [same] at letters
    · have letters := congrArg String.toList long
      simp at letters

theorem plain_of_not_mem {letters : List Char} (unvalued : 'c' ∉ letters) :
    ∀ x ∈ letters, Command.prepare.flags.takesValue x = false := by
  intro x member
  rw [takesValue_eq, beq_eq_false_iff_ne]
  rintro rfl
  exact unvalued member

theorem lookup_renames (c : Char) :
    Command.prepare.renames.lookup (String.ofList [c]) = if c = 'v' then some "V" else none := by
  by_cases same : c = 'v'
  · subst same
    decide
  · have other : (String.ofList [c] == "v") = false := by
      rw [beq_eq_false_iff_ne]
      intro letters
      exact same (by simpa using congrArg String.toList letters)
    rw [if_neg same]
    change (match String.ofList [c] == "v" with | true => some "V" | false => none) = none
    rw [other]

theorem renamed_eq (program : String) (c : Char) : (dialect program).renamed c = [spelled c] := by
  change ((Command.prepare.renames.lookup (String.ofList [c])).getD _).toList = _
  rw [lookup_renames, spelled]
  split
  · change "V".toList = ['V']
    decide
  · exact String.toList_ofList

theorem renamedCluster_eq (program : String) (letters : List Char) :
    (dialect program).renamedCluster letters = cluster (letters.map spelled) := by
  have letterwise : (dialect program).renamed = fun c => [spelled c] :=
    funext fun c => renamed_eq program c
  rw [Dialect.renamedCluster, letterwise, ← List.map_eq_flatMap]

def config : Flag := { legacy := "-c", current := some "-c", takesValue := true }

variable {letters before value : List Char}

theorem read_of_plain (program : String) (some_letter : letters ≠ [])
    (alpha : letters.all Char.isAlpha = true) (unvalued : 'c' ∉ letters) :
    (dialect program).read (cluster letters) =
      .ok (.whole (.verbatim (cluster (letters.map spelled)))) := by
  rw [(agrees program).read_cluster rfl some_letter alpha,
    Dialect.readRenamed_of_plain some_letter alpha (plain_of_not_mem unvalued), renamedCluster_eq]

theorem read_of_valued (program : String)
    (alpha : (before ++ 'c' :: value).all Char.isAlpha = true) (unvalued : 'c' ∉ before) :
    (dialect program).read (cluster (before ++ 'c' :: value)) =
      .ok (if value.isEmpty then
          .awaiting (.verbatim (cluster (before.map spelled ++ ['c']))) config
        else .whole (.verbatim (cluster (before.map spelled ++ ['c'])) ++
          .verbatim (String.ofList value))) := by
  have word : (dialect program).renamedCluster (before ++ ['c']) =
      cluster (before.map spelled ++ ['c']) := by
    rw [renamedCluster_eq, List.map_append]
    rfl
  have entry : (dialect program).flags.letter? 'c' = some config := rfl
  rw [(agrees program).read_cluster rfl (by simp) alpha,
    Dialect.readRenamed_of_valued alpha (plain_of_not_mem unvalued) entry rfl, word]

/-- A cluster is respelled as what its letters are spelled as, each by itself, up to the first `c`.
The value of that letter is what is attached to it, or else the next token, and is copied. What
follows is respelled as if it stood alone, and only a missing value can be wrong before it. -/
theorem respell_cluster (program : String) (letters : List Char) (some_letter : letters ≠ [])
    (alpha : letters.all Char.isAlpha = true) (ys : List String) :
    (∀ c ∈ letters, c ≠ 'c' →
      (dialect program).respell [cluster [c]] = .ok ⟨[cluster [spelled c]], []⟩) ∧
    ('c' ∉ letters →
      (dialect program).respell (cluster letters :: ys) =
        ((dialect program).respell ys).map (.prepend [cluster (letters.map spelled)])) ∧
    ∀ before value, letters = before ++ 'c' :: value → 'c' ∉ before →
      (value ≠ [] →
        (dialect program).respell (cluster letters :: ys) = ((dialect program).respell ys).map
          (.prepend [cluster (before.map spelled ++ ['c']), String.ofList value])) ∧
      (∀ y zs, value = [] → ys = y :: zs →
        (dialect program).respell (cluster letters :: ys) = ((dialect program).respell zs).map
          (.prepend [cluster (before.map spelled ++ ['c']), y])) ∧
      (value = [] → ys = [] →
        (dialect program).respell (cluster letters :: ys) =
            .error (.valueMissing program config) ∧
          ∃ failure, (Obstacle.valueMissing program config).trouble = .failure failure ∧
            failure.kind = .malformed) := by
  refine ⟨?_, ?_, ?_⟩
  · intro c member other
    have letter : [c].all Char.isAlpha = true := by
      simpa using List.all_eq_true.mp alpha c member
    have read := read_of_plain program (by simp) letter (by simpa using Ne.symm other)
    exact Dialect.respell_cons_of_whole rfl read []
  · intro unvalued
    exact Dialect.respell_cons_of_whole rfl (read_of_plain program some_letter alpha unvalued) ys
  · rintro before value rfl unvalued
    have read := read_of_valued program alpha unvalued
    refine ⟨?_, ?_, ?_⟩
    · intro some_value
      have attached : value.isEmpty = false := by simpa using some_value
      rw [attached] at read
      exact Dialect.respell_cons_of_whole rfl read ys
    · rintro y zs rfl rfl
      exact Dialect.respell_cons_of_awaiting rfl read y zs
    · rintro rfl rfl
      exact ⟨Dialect.respell_of_awaiting read, _, rfl, rfl⟩

theorem respell_cluster_values :
    (dialect "prepare.py").respell ("-vxvcvc" :: ["-v"]) = .ok ⟨["-VxVc", "vc", "-V"], []⟩ ∧
      (dialect "prepare.py").respell ("-vc" :: ["--", "-v"]) = .ok ⟨["-Vc", "--", "-V"], []⟩ := by
  have first : ['v', 'x', 'v', 'c', 'v', 'c'].all Char.isAlpha = true := by decide
  have second : ['v', 'c'].all Char.isAlpha = true := by decide
  obtain ⟨-, -, attached⟩ := respell_cluster "prepare.py" _ (by simp) first ["-v"]
  obtain ⟨-, -, behind⟩ := respell_cluster "prepare.py" _ (by simp) second ["--", "-v"]
  exact ⟨((attached ['v', 'x', 'v'] ['v', 'c'] rfl (by decide)).1 (by simp)).trans rfl,
    ((behind ['v'] [] rfl (by decide)).2.1 "--" ["-v"] rfl rfl).trans rfl⟩

end Prepare

end Handover
