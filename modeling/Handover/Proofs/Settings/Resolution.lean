import Handover.Proofs.Settings.Unusable

/-!
How the settings are put together field by field. A variable goes before what the file says, and
that goes before the default, for each field on its own. Only what stands in the end is checked, so
a value that is passed over does no harm, unless it is one that cannot be written out.
-/

namespace Handover.Settings

inductive Field where
  | toolPath
  | mode
  | logLevel

namespace Field

def key : Field → String
  | .toolPath => "ztc_path"
  | .mode => "dispatch_mode"
  | .logLevel => "log_level"

def variableName : Field → String
  | .toolPath => "ZTC_SHIM_BINARY"
  | .mode => "ZTC_SHIM_DISPATCH_MODE"
  | .logLevel => "ZTC_SHIM_LOG_LEVEL"

def standard : Field → String
  | .toolPath => "/usr/bin/ztc"
  | .mode => "exec"
  | .logLevel => "WARNING"

def tidied : Field → String → String
  | .toolPath, path => path
  | .mode, name => Text.lower (Text.strip name)
  | .logLevel, name => Text.upper (Text.strip name)

def value (s : Settings) : Field → String
  | .toolPath => s.toolPath
  | .mode => s.mode
  | .logLevel => s.logLevel

def entry? (found : List (Value × Value)) (field : Field) : Option Value :=
  Entries.get? Value.sameKey (.text field.key) found

/-- The variable of the field is set and not empty. -/
def IsGiven (w : World) (field : Field) (given : String) : Prop :=
  w.environment.lookup field.variableName = some given ∧ given ≠ ""

/-- The value that a field gets, with the layer that it comes from. -/
inductive Settles (w : World) (found : List (Value × Value)) (field : Field) : String → Prop where
  | environment {given : String} (set : field.IsGiven w given) :
    Settles w found field (field.tidied given)
  | file {value : Value} (unset : ∀ given, ¬field.IsGiven w given)
    (said : field.entry? found = some value) (present : value ≠ .null) :
    Settles w found field value.display
  | standard (unset : ∀ given, ¬field.IsGiven w given)
    (silent : ∀ value, field.entry? found = some value → value = .null) :
    Settles w found field field.standard

end Field

/-- The settings file that is consulted, if any, with its entries. One that is asked for is always
consulted, the default one if it is there. -/
inductive Consults (w : World) : Option String → Option String → List (Value × Value) → Prop where
  | argument {path : String} {found : List (Value × Value)}
    (read : entries w (Path.normal path) = .ok found) :
    Consults w (some path) (some (Path.normal path)) found
  | environment {path : String} {found : List (Value × Value)}
    (set : w.environment.lookup "ZTC_SHIM_CONFIG" = some path) (nonempty : path ≠ "")
    (read : entries w (Path.normal path) = .ok found) :
    Consults w none (some (Path.normal path)) found
  | standard {found : List (Value × Value)}
    (unset : ∀ path, w.environment.lookup "ZTC_SHIM_CONFIG" = some path → path = "")
    (present : w.isFile (Path.normal w.defaultSettings) = .ok true)
    (read : entries w (Path.normal w.defaultSettings) = .ok found) :
    Consults w none (some (Path.normal w.defaultSettings)) found
  | nothing (unset : ∀ path, w.environment.lookup "ZTC_SHIM_CONFIG" = some path → path = "")
    (absent : w.isFile (Path.normal w.defaultSettings) = .ok false) : Consults w none none []

/-- Each field has the value that it gets from its layers. -/
structure Resolved (w : World) (source : Option String) (found : List (Value × Value))
    (s : Settings) : Prop where
  settles : ∀ field : Field, field.Settles w found (field.value s)
  source : s.source = source

def Writable (found : List (Value × Value)) : Prop :=
  ∀ (field : Field) (value : Value), field.entry? found = some value → value.isWritable = true

variable {w w' : World} {requested requested' source : Option String}
  {found found' : List (Value × Value)} {s : Settings} {field : Field}

/-! The layers. -/

namespace Field

theorem isGiven_iff {given : String} :
    field.IsGiven w given ↔ w.valueOf? field.variableName = some given :=
  Text.nonempty?_eq_some_iff.symm

theorem unset_iff :
    (∀ given, ¬field.IsGiven w given) ↔ w.valueOf? field.variableName = none := by
  simp only [isGiven_iff]
  exact Option.eq_none_iff_forall_ne_some.symm

def shown? : Option Value → Option String
  | none | some .null => none
  | some value => some value.display

def settled (w : World) (found : List (Value × Value)) (field : Field) : String :=
  ((w.valueOf? field.variableName).map field.tidied).getD
    ((shown? (field.entry? found)).getD field.standard)

theorem shown?_of_ne {value : Value} (present : value ≠ .null) :
    shown? (some value) = some value.display := by
  cases value with
  | null => exact absurd rfl present
  | _ => rfl

theorem settles_settled (w : World) (found : List (Value × Value)) (field : Field) :
    field.Settles w found (field.settled w found) := by
  unfold settled
  cases set : w.valueOf? field.variableName with
  | some given => exact .environment (isGiven_iff.mpr set)
  | none =>
    have unset := unset_iff.mpr set
    cases said : field.entry? found with
    | none => exact .standard unset fun value other => by rw [said] at other; cases other
    | some value =>
      by_cases null : value = .null
      · subst null
        exact .standard unset fun value other => by rw [said] at other; cases other; rfl
      · rw [shown?_of_ne null]
        exact .file unset said null

/-- A field gets one value only. -/
theorem settles_iff {value : String} :
    field.Settles w found value ↔ value = field.settled w found := by
  constructor
  · intro settles
    unfold settled
    cases settles with
    | environment set => rw [isGiven_iff.mp set]; rfl
    | file unset said present => rw [unset_iff.mp unset, said, shown?_of_ne present]; rfl
    | standard unset silent =>
      rw [unset_iff.mp unset]
      cases said : field.entry? found with
      | none => rfl
      | some value => rw [silent value said]; rfl
  · rintro rfl
    exact settles_settled w found field

end Field

def resolved (w : World) (source : Option String) (found : List (Value × Value)) : Settings where
  toolPath := Field.toolPath.settled w found
  mode := Field.mode.settled w found
  logLevel := Field.logLevel.settled w found
  source := source

theorem resolved_iff : Resolved w source found s ↔ s = resolved w source found := by
  constructor
  · intro ⟨settles, from_file⟩
    have value (field : Field) : field.value s = field.settled w found :=
      Field.settles_iff.mp (settles field)
    cases s with
    | mk toolPath mode logLevel consulted =>
      have first : toolPath = _ := value .toolPath
      have second : mode = _ := value .mode
      have third : logLevel = _ := value .logLevel
      have fourth : consulted = source := from_file
      rw [first, second, third, fourth]
      rfl
  · rintro rfl
    refine ⟨fun field => ?_, rfl⟩
    cases field <;> exact Field.settles_settled w found _

/-! The file. -/

theorem mem_keys_iff {name : String} : name ∈ Layer.keys ↔ ∃ field : Field, field.key = name := by
  constructor
  · intro known
    simp only [Layer.keys, List.mem_cons, List.not_mem_nil, or_false] at known
    rcases known with rfl | rfl | rfl
    · exact ⟨.toolPath, rfl⟩
    · exact ⟨.mode, rfl⟩
    · exact ⟨.logLevel, rfl⟩
  · rintro ⟨field, rfl⟩
    cases field <;> decide

theorem entry_of_writable (writable : Writable found) (field : Field) :
    Layer.entry found field.key = .ok (Field.shown? (field.entry? found)) := by
  have same : Layer.entry found field.key =
      match field.entry? found with
      | none | some .null => .ok none
      | some value => if value.isWritable then .ok (some value.display) else .error .outOfRange :=
    rfl
  rw [same]
  cases said : field.entry? found with
  | none => rfl
  | some value =>
    have fine := writable field value said
    cases value with
    | null => rfl
    | _ => simp only [fine, if_true, Field.shown?]

theorem ofEntries_of_writable (writable : Writable found) :
    Layer.ofEntries found = .ok {
      toolPath := Field.shown? (Field.toolPath.entry? found)
      mode := Field.shown? (Field.mode.entry? found)
      logLevel := Field.shown? (Field.logLevel.entry? found) } := by
  have toolPath := entry_of_writable writable .toolPath
  have mode := entry_of_writable writable .mode
  have logLevel := entry_of_writable writable .logLevel
  unfold Field.key at toolPath mode logLevel
  unfold Layer.ofEntries
  rw [toolPath, mode, logLevel]
  rfl

theorem outOfRange_of_entry {name : String} {breakdown : Breakdown}
    (failed : Layer.entry found name = .error breakdown) : breakdown = .outOfRange := by
  unfold Layer.entry at failed
  split at failed
  next => cases failed
  next => cases failed
  next =>
    split at failed
    next => cases failed
    next =>
      cases failed
      rfl

theorem outOfRange_of_ofEntries {breakdown : Breakdown}
    (failed : Layer.ofEntries found = .error breakdown) : breakdown = .outOfRange := by
  unfold Layer.ofEntries at failed
  rcases bind_eq_error_iff.mp failed with toolPath | ⟨path, -, failed⟩
  · exact outOfRange_of_entry toolPath
  rcases bind_eq_error_iff.mp failed with mode | ⟨name, -, failed⟩
  · exact outOfRange_of_entry mode
  rcases bind_eq_error_iff.mp failed with logLevel | ⟨level, -, failed⟩
  · exact outOfRange_of_entry logLevel
  · cases failed

theorem ofEntries_of_unwritable (unwritable : ¬Writable found) :
    Layer.ofEntries found = .error .outOfRange := by
  unfold Writable at unwritable
  push Not at unwritable
  obtain ⟨field, value, said, refused⟩ := unwritable
  obtain ⟨breakdown, failed⟩ := ofEntries_error_iff.mpr
    ⟨field.key, mem_keys_iff.mpr ⟨field, rfl⟩, value, said, by simpa using refused⟩
  rw [failed, outOfRange_of_ofEntries failed]

theorem valueOf?_eq_none {name : String}
    (unset : ∀ value, w.environment.lookup name = some value → value = "") :
    w.valueOf? name = none := by
  cases set : w.valueOf? name with
  | none => rfl
  | some value =>
    obtain ⟨given, nonempty⟩ := Text.nonempty?_eq_some_iff.mp set
    exact absurd (unset value given) nonempty

theorem Consults.selected (consults : Consults w requested source found) :
    selected? w requested = .ok source := by
  unfold selected?
  cases consults with
  | argument read => rfl
  | environment set nonempty read =>
    have given : w.valueOf? "ZTC_SHIM_CONFIG" = some _ :=
      Text.nonempty?_eq_some_iff.mpr ⟨set, nonempty⟩
    rw [given]
    rfl
  | standard unset present read =>
    rw [valueOf?_eq_none unset]
    simp only [Option.or, present]
    rfl
  | nothing unset absent =>
    rw [valueOf?_eq_none unset]
    simp only [Option.or, absent]
    rfl

theorem load_of_consults (consults : Consults w requested source found)
    (texts : ∀ entry ∈ found, ∃ name, entry.1 = .text name) :
    (load w requested).result =
      ((Layer.ofEntries found).mapError .breakdown).bind fun layer =>
        ((Layer.ofVariables w).onto (layer.onto { source := source })).validate.mapError
          .failure := by
  have selected := consults.selected
  have listed : ∀ key ∈ unknownKeys found, key.text? ≠ none := by
    intro key unknown
    obtain ⟨entry, member, rfl⟩ := List.mem_map.mp (List.mem_filter.mp unknown).1
    obtain ⟨name, same⟩ := texts entry member
    rw [same]
    exact fun no_text => by cases no_text
  have from_file {path : String} (selected : selected? w requested = .ok (some path))
      (read : entries w path = .ok found) := (load_of_texts selected read listed).2
  rw [ofEntries_knownEntries] at from_file
  cases consults with
  | argument read => exact from_file selected read
  | environment set nonempty read => exact from_file selected read
  | standard unset present read => exact from_file selected read
  | nothing unset absent =>
    rw [load_eq]
    unfold fromFile
    rw [selected]
    rfl

theorem load_of_writable (consults : Consults w requested source found)
    (texts : ∀ entry ∈ found, ∃ name, entry.1 = .text name) (writable : Writable found) :
    (load w requested).result = (resolved w source found).validate.mapError .failure := by
  rw [load_of_consults consults texts, ofEntries_of_writable writable]
  have toolPath : (w.valueOf? "ZTC_SHIM_BINARY").map (Field.tidied .toolPath) =
      w.valueOf? "ZTC_SHIM_BINARY" := Option.map_id'
  unfold resolved Field.settled
  simp only [Field.variableName, toolPath]
  rfl

theorem load_of_unwritable (consults : Consults w requested source found)
    (texts : ∀ entry ∈ found, ∃ name, entry.1 = .text name) (unwritable : ¬Writable found) :
    (load w requested).result = .error (.breakdown .outOfRange) := by
  rw [load_of_consults consults texts, ofEntries_of_unwritable unwritable]
  rfl

theorem load_eq_ok_iff (consults : Consults w requested source found)
    (texts : ∀ entry ∈ found, ∃ name, entry.1 = .text name) :
    (load w requested).result = .ok s ↔
      Writable found ∧ Resolved w source found s ∧ s.Sound := by
  by_cases writable : Writable found
  · rw [load_of_writable consults texts writable, mapError_eq_ok_iff, validate_eq_ok_iff,
      resolved_iff]
    constructor
    · rintro ⟨sound, rfl⟩
      exact ⟨writable, rfl, sound⟩
    · rintro ⟨-, rfl, sound⟩
      exact ⟨sound, rfl⟩
  · rw [load_of_unwritable consults texts writable]
    exact ⟨fun same => (by cases same), fun fine => absurd fine.1 writable⟩

theorem load_eq_failure_iff (consults : Consults w requested source found)
    (texts : ∀ entry ∈ found, ∃ name, entry.1 = .text name) {failure : Failure} :
    (load w requested).result = .error (.failure failure) ↔
      Writable found ∧ ∃ s flaw, Resolved w source found s ∧ s.FirstFlaw flaw ∧
        failure = flaw.failure := by
  by_cases writable : Writable found
  · rw [load_of_writable consults texts writable, mapError_eq_error_iff]
    simp only [resolved_iff, Trouble.failure.injEq, exists_eq_right, validate_eq_error_iff,
      exists_and_left, exists_eq_left]
    exact (and_iff_right writable).symm
  · rw [load_of_unwritable consults texts writable]
    exact ⟨fun same => (by cases same), fun fine => absurd fine.1 writable⟩

theorem load_eq_breakdown_iff (consults : Consults w requested source found)
    (texts : ∀ entry ∈ found, ∃ name, entry.1 = .text name) :
    (∃ breakdown, (load w requested).result = .error (.breakdown breakdown)) ↔
      ¬Writable found := by
  constructor
  · rintro ⟨breakdown, broken⟩ writable
    rw [load_of_writable consults texts writable] at broken
    obtain ⟨failure, -, same⟩ := mapError_eq_error_iff.mp broken
    cases same
  · intro unwritable
    exact ⟨.outOfRange, load_of_unwritable consults texts unwritable⟩

theorem settled_congr
    (sameVariables : w.environment.lookup field.variableName =
      w'.environment.lookup field.variableName)
    (said : (∀ given, ¬field.IsGiven w given) → field.entry? found = field.entry? found') :
    field.settled w found = field.settled w' found' := by
  have given : w.valueOf? field.variableName = w'.valueOf? field.variableName :=
    congrArg Text.nonempty? sameVariables
  unfold Field.settled
  rw [← given]
  cases set : w.valueOf? field.variableName with
  | some value => rfl
  | none => rw [said (Field.unset_iff.mpr set)]

theorem load_congr (consults : Consults w requested source found)
    (texts : ∀ entry ∈ found, ∃ name, entry.1 = .text name)
    (consults' : Consults w' requested' source found')
    (texts' : ∀ entry ∈ found', ∃ name, entry.1 = .text name)
    (sameVariables : ∀ field : Field,
      w.environment.lookup field.variableName = w'.environment.lookup field.variableName)
    (said : ∀ field : Field, (∀ given, ¬field.IsGiven w given) →
      field.entry? found = field.entry? found')
    (writable_iff : Writable found ↔ Writable found') :
    (load w requested).result = (load w' requested').result := by
  by_cases writable : Writable found
  · have same : resolved w source found = resolved w' source found' := by
      unfold resolved
      rw [settled_congr (sameVariables .toolPath) (said .toolPath),
        settled_congr (sameVariables .mode) (said .mode),
        settled_congr (sameVariables .logLevel) (said .logLevel)]
    rw [load_of_writable consults texts writable, same,
      load_of_writable consults' texts' (writable_iff.mp writable)]
  · rw [load_of_unwritable consults texts writable,
      load_of_unwritable consults' texts' fun fine => writable (writable_iff.mpr fine)]

theorem usable_of_sound (sound : s.Sound) :
    s.validate = .ok s ∧ Dispatcher.ofPath s.toolPath s.mode = .ok ⟨s.toolPath, s.mode⟩ :=
  ⟨validate_eq_ok_iff.mpr ⟨sound, rfl⟩, if_pos sound.toolPath⟩

/-- Loading settings from a file whose keys are texts, or without a file. What the layers come to is
given if it is sound, and else its first flaw is reported. A value that cannot be written out is
fatal even where a variable goes before it, and that is all that a value can do where one does. -/
theorem load_fieldwise (consults : Consults w requested source found)
    (texts : ∀ entry ∈ found, ∃ name, entry.1 = .text name) :
    (∃ s, ∀ other, Resolved w source found other ↔ other = s) ∧
    (∀ s, (load w requested).result = .ok s ↔
      Writable found ∧ Resolved w source found s ∧ s.Sound) ∧
    (∀ failure, (load w requested).result = .error (.failure failure) ↔
      Writable found ∧ ∃ s flaw, Resolved w source found s ∧ s.FirstFlaw flaw ∧
        failure = { kind := .settings, message := flaw.message }) ∧
    ((∃ breakdown, (load w requested).result = .error (.breakdown breakdown)) ↔
      ¬Writable found) ∧
    (∀ s, (load w requested).result = .ok s → s.validate = .ok s ∧
      Dispatcher.ofPath s.toolPath s.mode = .ok ⟨s.toolPath, s.mode⟩) ∧
    ∀ w' requested' found', Consults w' requested' source found' →
      (∀ entry ∈ found', ∃ name, entry.1 = .text name) →
      (∀ field : Field,
        w.environment.lookup field.variableName = w'.environment.lookup field.variableName) →
      (∀ field : Field, (∀ given, ¬field.IsGiven w given) →
        field.entry? found = field.entry? found') →
      (Writable found ↔ Writable found') →
      (load w requested).result = (load w' requested').result := by
  refine ⟨⟨resolved w source found, fun other => resolved_iff⟩,
    fun s => load_eq_ok_iff consults texts, fun failure => load_eq_failure_iff consults texts,
    load_eq_breakdown_iff consults texts, ?usable, ?congr⟩
  case usable =>
    intro s loaded
    obtain ⟨-, -, sound⟩ := (load_eq_ok_iff consults texts).mp loaded
    exact usable_of_sound sound
  case congr =>
    intro w' requested' found' consults' texts' sameVariables said writable_iff
    exact load_congr consults texts consults' texts' sameVariables said writable_iff

def overridden : World where
  files := (withSettings "ztc_path: /opt/ztc\ndispatch_mode: never\nx: 1\n").files
  environment := [("ZTC_SHIM_CONFIG", "/settings"), ("ZTC_SHIM_DISPATCH_MODE", " Spawn ")]

theorem load_fieldwise_overridden :
    (load overridden none).result = .ok
      { toolPath := "/opt/ztc", mode := "spawn", source := some "/settings" } := by
  obtain ⟨found, read, checked⟩ := read_of_check overridden "/settings"
    (fun found => (found.all fun entry => entry.1.text?.isSome) &&
      (Field.toolPath.entry? found).any (·.text? == some "/opt/ztc") &&
      (Field.mode.entry? found).any (·.text?.isSome) && (Field.logLevel.entry? found).isNone)
    (by decide +kernel)
  simp only [Bool.and_eq_true, Option.any_eq_true, List.all_eq_true, Option.isNone_iff_eq_none,
    beq_iff_eq] at checked
  obtain ⟨⟨⟨texts, path, atPath, readPath⟩, mode, atMode, readMode⟩, noLevel⟩ := checked
  have path_text : path = .text "/opt/ztc" := by
    cases path <;> cases readPath
    rfl
  have mode_text : ∃ name, mode = .text name := by
    cases mode with
    | text name => exact ⟨name, rfl⟩
    | _ => cases readMode
  obtain ⟨name, rfl⟩ := mode_text
  subst path_text
  have keys : ∀ entry ∈ found, ∃ name, entry.1 = .text name := by
    intro entry member
    have text := texts entry member
    cases key : entry.1 with
    | text name => exact ⟨name, rfl⟩
    | _ => rw [key] at text; cases text
  have writable : Writable found := by
    intro field value said
    cases field with
    | toolPath => rw [atPath] at said; cases said; rfl
    | mode => rw [atMode] at said; cases said; rfl
    | logLevel => rw [noLevel] at said; cases said
  have unset {name : String} (missing : overridden.environment.lookup name = none)
      (given : String) : ¬(overridden.environment.lookup name = some given ∧ given ≠ "") := by
    rw [missing]
    exact fun given => by cases given.1
  have consults : Consults overridden none (some (Path.normal "/settings")) found :=
    .environment rfl (by decide) read
  refine ((load_fieldwise consults keys).2.1 _).mpr
    ⟨writable, ⟨fun field => ?_, rfl⟩, by decide, by decide, by decide +kernel⟩
  cases field with
  | toolPath => exact .file (unset rfl) atPath fun same => by cases same
  | mode =>
    have tidied : Field.mode.tidied " Spawn " = "spawn" := by decide +kernel
    have settles : Field.mode.Settles overridden found (Field.mode.tidied " Spawn ") :=
      .environment ⟨rfl, by decide⟩
    rw [tidied] at settles
    exact settles
  | logLevel => exact .standard (unset rfl) fun value said => by rw [noLevel] at said; cases said

end Handover.Settings
