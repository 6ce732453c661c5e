import Handover.Proofs.Diagnostics
import Handover.Proofs.Run
import Handover.Settings.Load
import Mathlib.Tactic.ByContra
import Mathlib.Tactic.Push

/-!
What loading settings comes to, however documents are read and files are found. It gives settings,
or it refuses with a text that says what is wrong. Sometimes it does neither, and it is told exactly
when.
-/

namespace Handover.Settings

variable {w : World} {requested : Option String} {path : String} {trouble : Trouble}
  {found : List (Value × Value)}

def Refusal (trouble : Trouble) : Prop :=
  ∃ failure, trouble = .failure failure ∧ failure.kind = .settings ∧ failure.status = 69 ∧
    Diagnostics.IsError failure.text

/-- Settings files that are neither read nor refused. -/
inductive Unanswerable (w : World) (path : String) : Prop where
  | nullInPath (null : '\x00' ∈ path.toList)
  | undecodable {bytes : ByteArray} (content : w.content path = .ok bytes)
    (invalid : String.fromUTF8? bytes = none)
  | broken {content : String} {breakdown : Breakdown} (decoded : text w path = .ok content)
    (stopped : w.document content = .error (.broken breakdown))
  | keyNotText {found : List (Value × Value)} {key : Value} (read : entries w path = .ok found)
    (unknown : key ∈ unknownKeys found) (no_text : key.text? = none)
  | unwritable {found : List (Value × Value)} {name : String} {value : Value}
    (read : entries w path = .ok found) (known : name ∈ Layer.keys)
    (present : Entries.get? Value.sameKey (.text name) found = some value)
    (unwritable : value.isWritable = false)

/-- Loading neither gives settings nor refuses them. It may not even be told whether the default
file is there. -/
inductive Unanswered (w : World) (requested : Option String) : Prop where
  | hidden {error : FileError} (unasked : requested.or (w.valueOf? "ZTC_SHIM_CONFIG") = none)
    (looked : w.find (Path.normal w.defaultSettings) = .error error)
    (unclear : error.isAbsence = false)
  | file {path : String} (selected : selected? w requested = .ok (some path))
    (unanswerable : Unanswerable w path)

theorem refusal_refused {message : String} (announced : Diagnostics.IsError message)
    (detail : String) : Refusal (refused message detail) :=
  ⟨_, rfl, rfl, rfl, Diagnostics.isError_append announced detail⟩

theorem isError_message (flaw : Flaw) : Diagnostics.IsError flaw.message := by
  unfold Flaw.message
  cases flaw <;>
  · dsimp only
    rw [String.append_assoc, String.append_assoc]
    exact Diagnostics.isError_append (by decide) _

theorem refusal_of_flaw (flaw : Flaw) : Refusal (.failure flaw.failure) :=
  ⟨_, rfl, rfl, rfl, Diagnostics.isError_append (isError_message flaw) ""⟩

theorem error_of_text (failed : text w path = .error trouble) :
    Refusal trouble ∨ Unanswerable w path := by
  unfold text at failed
  split at failed
  next null => exact .inr (.nullInPath (by simpa using null))
  next clear =>
    cases content : w.content path with
    | error error =>
      simp only [content, Except.error.injEq] at failed
      rw [← failed]
      refine .inl (refusal_refused ?_ "")
      simp only [String.append_assoc]
      exact Diagnostics.isError_append (by decide) _
    | ok bytes =>
      cases decoded : String.fromUTF8? bytes with
      | some text => simp [content, decoded] at failed
      | none => exact .inr (.undecodable content decoded)

theorem entries_of_text {content : String} (decoded : text w path = .ok content) :
    entries w path =
      match w.document content with
      | .error error => .error (troubleOf path error)
      | .ok (.mapping found) => .ok found
      | .ok .null => .ok []
      | .ok _ => .error (refused ("ERROR: " ++ path ++ " must contain a mapping of settings")) := by
  unfold entries
  rw [decoded]
  cases loaded : w.document content with
  | error error => simp [bind, Except.bind, loaded]
  | ok value => cases value <;> simp [bind, Except.bind, loaded]

theorem error_of_entries (failed : entries w path = .error trouble) :
    Refusal trouble ∨ Unanswerable w path := by
  cases decoded : text w path with
  | error other =>
    have same : entries w path = .error other := by
      unfold entries
      rw [decoded]
      rfl
    rw [failed] at same
    cases same
    exact error_of_text decoded
  | ok content =>
    rw [entries_of_text decoded] at failed
    cases loaded : w.document content with
    | error error =>
      simp only [loaded, Except.error.injEq] at failed
      cases error with
      | invalid description =>
        rw [← failed]
        exact .inl (refusal_refused (Diagnostics.isError_append (by decide) path) _)
      | broken breakdown => exact .inr (.broken decoded loaded)
    | ok value =>
      cases value with
      | mapping found => simp [loaded] at failed
      | null => simp [loaded] at failed
      | _ =>
        simp only [loaded, Except.error.injEq] at failed
        rw [← failed]
        refine .inl (refusal_refused ?_ "")
        simp only [String.append_assoc]
        exact Diagnostics.isError_append (by decide) _

/-! Keys that are not read. -/

theorem texts_of_keys {keys : List Value} (texts : ∀ key ∈ keys, key.text? ≠ none) :
    ∃ names : List String, keys.mapM Value.text? = some names ∧ keys = names.map .text := by
  induction keys with
  | nil => exact ⟨[], rfl, rfl⟩
  | cons key rest ih =>
    obtain ⟨names, read, same⟩ := ih fun other member => texts other (List.mem_cons_of_mem _ member)
    cases key with
    | text name =>
      refine ⟨name :: names, by simp [List.mapM_cons, Value.text?, read], ?_⟩
      rw [same]
      rfl
    | _ => exact absurd rfl (texts _ List.mem_cons_self)

theorem mapM_text?_eq_none {keys : List Value} {key : Value} (member : key ∈ keys)
    (no_text : key.text? = none) : keys.mapM Value.text? = none := by
  induction keys with
  | nil => cases member
  | cons first rest ih =>
    rw [List.mapM_cons]
    rcases List.mem_cons.mp member with rfl | later
    · rw [no_text]
      rfl
    · cases first.text? with
      | none => rfl
      | some name => rw [ih later]; rfl

theorem recordUnknown_of_other {keys : List Value} {key : Value} (member : key ∈ keys)
    (no_text : key.text? = none) (path : String) :
    recordUnknown path keys = .breakDown .keyNotText := by
  have some_key : keys.isEmpty = false := by
    cases keys with
    | nil => cases member
    | cons first rest => rfl
  simp only [recordUnknown, some_key, Bool.false_eq_true, if_false,
    mapM_text?_eq_none member no_text]

theorem recordUnknown_of_texts {keys : List Value} (texts : ∀ key ∈ keys, key.text? ≠ none)
    (path : String) :
    ∃ names : List String, (names.map Value.text).Perm keys ∧
      recordUnknown path keys =
        if keys = [] then pure ()
        else .log .warning .settings
          ("Ignoring unknown keys in " ++ path ++ ": " ++ String.intercalate ", " names) := by
  obtain ⟨names, read, same⟩ := texts_of_keys texts
  refine ⟨names.mergeSort fun a b => decide (a ≤ b), ?_, ?_⟩
  · rw [same]
    exact (List.mergeSort_perm names _).map _
  · unfold recordUnknown
    rw [read]
    cases keys <;> rfl

theorem onlyLeaves_recordUnknown (path : String) (keys : List Value) :
    (recordUnknown path keys).OnlyLeaves Event.IsRecord := by
  unfold recordUnknown
  split
  · exact Run.onlyLeaves_of_empty rfl
  · split
    · exact Run.onlyLeaves_event trivial
    · exact Run.onlyLeaves_of_empty rfl

/-! Keys that are read. -/

theorem entry_error_iff {name : String} :
    (∃ breakdown, Layer.entry found name = .error breakdown) ↔
      ∃ value, Entries.get? Value.sameKey (.text name) found = some value ∧
        value.isWritable = false := by
  unfold Layer.entry
  split
  next absent => simp [absent]
  next null => simp [null, Value.isWritable]
  next value _ present => cases writable : value.isWritable <;> simp [present, writable]

theorem ofEntries_error_iff :
    (∃ breakdown, Layer.ofEntries found = .error breakdown) ↔
      ∃ name ∈ Layer.keys, ∃ value,
        Entries.get? Value.sameKey (.text name) found = some value ∧ value.isWritable = false := by
  simp only [← entry_error_iff, Layer.keys, List.mem_cons, List.not_mem_nil, or_false,
    exists_eq_or_imp, exists_eq_left]
  unfold Layer.ofEntries
  cases Layer.entry found "ztc_path" with
  | error first => simp [bind, Except.bind]
  | ok path =>
    cases Layer.entry found "dispatch_mode" with
    | error second => simp [bind, Except.bind]
    | ok mode =>
      cases Layer.entry found "log_level" with
      | error third => simp [bind, Except.bind]
      | ok level => simp [bind, Except.bind]

def isKnown (key : Value) : Bool := Layer.keys.any fun name => key.sameKey (.text name)

def knownEntries (found : List (Value × Value)) : List (Value × Value) :=
  found.filter fun entry => isKnown entry.1

theorem get?_knownEntries {name : String} (known : name ∈ Layer.keys) :
    Entries.get? Value.sameKey (.text name) (knownEntries found) =
      Entries.get? Value.sameKey (.text name) found := by
  induction found with
  | nil => rfl
  | cons entry rest ih =>
    obtain ⟨key, value⟩ := entry
    unfold knownEntries at ih ⊢
    by_cases kept : isKnown key = true
    · rw [List.filter_cons_of_pos (by exact kept), Entries.get?, Entries.get?, ih]
    · have other : key.sameKey (.text name) = false := by
        by_contra same
        exact kept (List.any_eq_true.mpr ⟨name, known, by simpa using same⟩)
      rw [List.filter_cons_of_neg (by exact kept), ih, Entries.get?, other]
      rfl

/-- Keys that are not read have no say in the settings. -/
theorem ofEntries_knownEntries (found : List (Value × Value)) :
    Layer.ofEntries (knownEntries found) = Layer.ofEntries found := by
  have same {name : String} (known : name ∈ Layer.keys) :
      Layer.entry (knownEntries found) name = Layer.entry found name := by
    unfold Layer.entry
    rw [get?_knownEntries known]
  unfold Layer.ofEntries
  rw [same (by decide), same (by decide), same (by decide)]

/-! The whole way from the world to settings. -/

theorem isFile_eq_error_iff {breakdown : Breakdown} :
    w.isFile path = .error breakdown ↔
      ∃ error, w.find path = .error error ∧ error.isAbsence = false ∧
        .inaccessible error.number = breakdown := by
  unfold World.isFile
  cases w.find path with
  | ok entry => cases entry <;> simp
  | error error => cases absence : error.isAbsence <;> simp [absence]

theorem selected?_eq_error_iff {breakdown : Breakdown} :
    selected? w requested = .error breakdown ↔
      requested.or (w.valueOf? "ZTC_SHIM_CONFIG") = none ∧
        w.isFile (Path.normal w.defaultSettings) = .error breakdown := by
  unfold selected?
  cases requested.or (w.valueOf? "ZTC_SHIM_CONFIG") with
  | some path => simp
  | none => simp [map_eq_error_iff]

def fromFile (w : World) (requested : Option String) : Run Settings :=
  match selected? w requested with
  | .ok (some path) => ofFile w path
  | .ok none => pure {}
  | .error breakdown => .breakDown breakdown

theorem load_eq (w : World) (requested : Option String) :
    load w requested = fromFile w requested >>= fun settings =>
      .ofExcept (((Layer.ofVariables w).onto settings).validate.mapError .failure) := by
  unfold load fromFile
  cases selected? w requested with
  | error breakdown => rfl
  | ok path? =>
    rw [mapError_ok]
    cases path? <;> rfl

theorem onlyLeaves_ofFile (w : World) (path : String) :
    (ofFile w path).OnlyLeaves Event.IsRecord := by
  unfold ofFile
  refine Run.onlyLeaves_bind (Run.onlyLeaves_of_empty rfl) fun found _ => ?_
  refine Run.onlyLeaves_bind (onlyLeaves_recordUnknown path _) fun _ _ => ?_
  exact Run.onlyLeaves_bind (Run.onlyLeaves_of_empty rfl) fun layer _ =>
    Run.onlyLeaves_of_empty rfl

theorem onlyLeaves_load (w : World) (requested : Option String) :
    (load w requested).OnlyLeaves Event.IsRecord := by
  rw [load_eq]
  refine Run.onlyLeaves_bind ?_ fun settings _ => Run.onlyLeaves_of_empty rfl
  unfold fromFile
  cases selected? w requested with
  | error breakdown => exact Run.onlyLeaves_of_empty rfl
  | ok path? =>
    cases path? with
    | none => exact Run.onlyLeaves_of_empty rfl
    | some path => exact onlyLeaves_ofFile w path

theorem error_of_ofFile (failed : (ofFile w path).result = .error trouble) :
    Refusal trouble ∨ Unanswerable w path := by
  unfold ofFile at failed
  rcases Run.result_bind_eq_error_iff.mp failed with unread | ⟨found, read, failed⟩
  · exact error_of_entries unread
  · rcases Run.result_bind_eq_error_iff.mp failed with unrecorded | ⟨_, _, failed⟩
    · by_cases texts : ∀ key ∈ unknownKeys found, key.text? ≠ none
      · obtain ⟨names, -, recorded⟩ := recordUnknown_of_texts texts path
        rw [recorded] at unrecorded
        split at unrecorded <;> cases unrecorded
      · push Not at texts
        obtain ⟨key, member, no_text⟩ := texts
        exact .inr (.keyNotText read member no_text)
    · rcases Run.result_bind_eq_error_iff.mp failed with unlayered | ⟨_, _, failed⟩
      · cases layer : Layer.ofEntries found with
        | ok layer => simp [layer, Run.ofExcept] at unlayered
        | error breakdown =>
          obtain ⟨name, known, value, present, unwritable⟩ :=
            ofEntries_error_iff.mp ⟨breakdown, layer⟩
          exact .inr (.unwritable read known present unwritable)
      · cases failed

theorem error_of_load (failed : (load w requested).result = .error trouble) :
    Refusal trouble ∨ Unanswered w requested := by
  rw [load_eq] at failed
  rcases Run.result_bind_eq_error_iff.mp failed with unread | ⟨settings, _, invalid⟩
  · unfold fromFile at unread
    cases selected : selected? w requested with
    | error breakdown =>
      obtain ⟨unasked, unseen⟩ := selected?_eq_error_iff.mp selected
      obtain ⟨error, looked, unclear, -⟩ := isFile_eq_error_iff.mp unseen
      exact .inr (.hidden unasked looked unclear)
    | ok path? =>
      rw [selected] at unread
      cases path? with
      | none => cases unread
      | some path => exact (error_of_ofFile unread).imp_right (.file selected)
  · refine .inl ?_
    unfold validate at invalid
    split at invalid
    next flaw _ => cases invalid; exact refusal_of_flaw flaw
    next => cases invalid

theorem text_of_unanswered (unreadable : '\x00' ∈ path.toList ∨
      ∃ bytes, w.content path = .ok bytes ∧ String.fromUTF8? bytes = none) :
    ∃ breakdown, text w path = .error (.breakdown breakdown) := by
  unfold text
  by_cases null : '\x00' ∈ path.toList
  · exact ⟨.nullInPath, by simp [null]⟩
  · obtain ⟨bytes, content, invalid⟩ := unreadable.resolve_left null
    exact ⟨.undecodable, by simp [null, content, invalid]⟩

theorem ofFile_of_entries (read : entries w path = .ok found) :
    ofFile w path = recordUnknown path (unknownKeys found) >>= fun _ =>
      Run.ofExcept ((Layer.ofEntries found).mapError .breakdown) >>= fun layer =>
        pure (layer.onto { source := some path }) := by
  unfold ofFile
  rw [read]
  exact Run.pure_bind found

theorem result_ofFile_of_unread (unread : entries w path = .error trouble) :
    (ofFile w path).result = .error trouble := by
  unfold ofFile
  rw [unread]
  rfl

theorem result_ofFile_of_other {key : Value} (read : entries w path = .ok found)
    (unknown : key ∈ unknownKeys found) (no_text : key.text? = none) :
    (ofFile w path).result = .error (.breakdown .keyNotText) := by
  rw [ofFile_of_entries read, recordUnknown_of_other unknown no_text]
  rfl

theorem ofFile_of_unanswerable (unanswerable : Unanswerable w path) :
    ∃ breakdown, (ofFile w path).result = .error (.breakdown breakdown) := by
  have undecoded (unreadable : '\x00' ∈ path.toList ∨
      ∃ bytes, w.content path = .ok bytes ∧ String.fromUTF8? bytes = none) :
      ∃ breakdown, (ofFile w path).result = .error (.breakdown breakdown) := by
    obtain ⟨breakdown, unread⟩ := text_of_unanswered unreadable
    refine ⟨breakdown, result_ofFile_of_unread ?_⟩
    unfold entries
    rw [unread]
    rfl
  cases unanswerable with
  | nullInPath null => exact undecoded (.inl null)
  | undecodable content invalid => exact undecoded (.inr ⟨_, content, invalid⟩)
  | @broken content breakdown decoded stopped =>
    refine ⟨breakdown, result_ofFile_of_unread ?_⟩
    rw [entries_of_text decoded, stopped]
    rfl
  | keyNotText read unknown no_text => exact ⟨_, result_ofFile_of_other read unknown no_text⟩
  | @unwritable found name value read known present unwritable =>
    obtain ⟨breakdown, unlayered⟩ :=
      ofEntries_error_iff.mpr ⟨name, known, value, present, unwritable⟩
    by_cases texts : ∀ key ∈ unknownKeys found, key.text? ≠ none
    · obtain ⟨names, -, recorded⟩ := recordUnknown_of_texts texts path
      rw [ofFile_of_entries read]
      refine ⟨breakdown, Run.result_bind_eq_error_iff.mpr (.inr ⟨(), ?_, ?_⟩)⟩
      · rw [recorded]
        split <;> rfl
      · rw [unlayered]
        rfl
    · push Not at texts
      obtain ⟨key, member, no_text⟩ := texts
      exact ⟨_, result_ofFile_of_other read member no_text⟩

theorem fromFile_of_unanswered (unanswered : Unanswered w requested) :
    ∃ breakdown, (fromFile w requested).result = .error (.breakdown breakdown) := by
  unfold fromFile
  cases unanswered with
  | hidden unasked looked unclear =>
    have unseen := isFile_eq_error_iff.mpr ⟨_, looked, unclear, rfl⟩
    rw [selected?_eq_error_iff.mpr ⟨unasked, unseen⟩]
    exact ⟨_, rfl⟩
  | file selected unanswerable =>
    rw [selected]
    exact ofFile_of_unanswerable unanswerable

/-- Loading breaks down exactly where it is not answered. -/
theorem load_breakdown_iff (w : World) (requested : Option String) :
    (∃ breakdown, (load w requested).result = .error (.breakdown breakdown)) ↔
      Unanswered w requested := by
  constructor
  · rintro ⟨breakdown, failed⟩
    refine (error_of_load failed).resolve_left ?_
    rintro ⟨failure, same, -⟩
    cases same
  · intro unanswered
    obtain ⟨breakdown, failed⟩ := fromFile_of_unanswered unanswered
    refine ⟨breakdown, ?_⟩
    rw [load_eq]
    exact Run.result_bind_eq_error_iff.mpr (.inl failed)

theorem load_of_other {key : Value} (selected : selected? w requested = .ok (some path))
    (read : entries w path = .ok found) (unknown : key ∈ unknownKeys found)
    (no_text : key.text? = none) :
    (load w requested).result = .error (.breakdown .keyNotText) := by
  have unrecorded := result_ofFile_of_other read unknown no_text
  rw [load_eq]
  refine Run.result_bind_eq_error_iff.mpr (.inl ?_)
  simpa only [fromFile, selected] using unrecorded

/-- The warning about keys that are not read, and the settings without them. -/
theorem load_of_texts (selected : selected? w requested = .ok (some path))
    (read : entries w path = .ok found) (texts : ∀ key ∈ unknownKeys found, key.text? ≠ none) :
    (∃ names : List String, (names.map Value.text).Perm (unknownKeys found) ∧
      (load w requested).trace.events =
        if unknownKeys found = [] then []
        else [.record .warning .settings
          ("Ignoring unknown keys in " ++ path ++ ": " ++ String.intercalate ", " names)]) ∧
    (load w requested).result =
      ((Layer.ofEntries (knownEntries found)).mapError .breakdown).bind fun layer =>
        ((Layer.ofVariables w).onto (layer.onto { source := some path })).validate.mapError
          .failure := by
  have from_file : fromFile w requested = recordUnknown path (unknownKeys found) >>= fun _ =>
      Run.ofExcept ((Layer.ofEntries found).mapError .breakdown) >>= fun layer =>
        pure (layer.onto { source := some path }) := by
    simp only [fromFile, selected, ofFile_of_entries read]
  obtain ⟨names, same, recorded⟩ := recordUnknown_of_texts texts path
  have done : (recordUnknown path (unknownKeys found)).result = .ok () := by
    rw [recorded]
    split <;> rfl
  have events : (recordUnknown path (unknownKeys found)).trace.events =
      if unknownKeys found = [] then []
      else [.record .warning .settings
        ("Ignoring unknown keys in " ++ path ++ ": " ++ String.intercalate ", " names)] := by
    rw [recorded]
    split <;> rfl
  rw [load_eq, from_file, Run.bind_of_ok done, ofEntries_knownEntries]
  cases Layer.ofEntries found with
  | error breakdown =>
    refine ⟨⟨names, same, ?_⟩, rfl⟩
    exact (List.append_nil _).trans events
  | ok layer =>
    refine ⟨⟨names, same, ?_⟩, rfl⟩
    exact (List.append_nil _).trans ((List.append_nil _).trans events)

end Handover.Settings
