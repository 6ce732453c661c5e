import Handover.Proofs.Invocation
import Handover.Proofs.Settings.Sound

/-!
What becomes of an invocation whose settings cannot be used. It is refused like any other that
cannot be carried out, unless loading the settings is one of the things that are not answered.
-/

namespace Handover.Settings

variable {w : World} {requested : Option String} {s : Settings} {i : Invocation} {d : Dispatch}
  {handlers : Handlers}

theorem sound_of_load (loaded : (load w requested).result = .ok s) : s.flaw? = none := by
  rw [load_eq] at loaded
  obtain ⟨layered, -, validated⟩ := Run.result_bind_eq_ok_iff.mp loaded
  unfold validate at validated
  split at validated
  next flaw _ => cases validated
  next sound =>
    cases validated
    exact sound

theorem configure_of_sound (sound : s.flaw? = none) :
    (Logging.configure s.logLevel).result = .ok () := by
  have known := (flaw?_eq_none_iff.mp sound).logLevel
  have levels : ∀ name ∈ ["DEBUG", "INFO", "WARNING", "ERROR", "CRITICAL"],
      (Logging.level? name).isSome = true := by decide
  unfold Logging.configure
  rcases Logging.setLevel_cases (some .package) s.logLevel with
    same | ⟨target, number, -, -, set⟩ | ⟨unknown, -⟩
  · rw [same]
    rfl
  · rw [set]
    rfl
  · simpa [unknown] using levels _ known

theorem settled_or_refused_iff :
    ((∃ s, (load w requested).result = .ok s) ∨
        ∃ trouble, (load w requested).result = .error trouble ∧ Refusal trouble) ↔
      ¬Unanswered w requested := by
  rw [← load_breakdown_iff]
  constructor
  · rintro (⟨s, loaded⟩ | ⟨trouble, failed, failure, rfl, -⟩) ⟨breakdown, broken⟩
    · rw [loaded] at broken
      cases broken
    · rw [failed] at broken
      cases broken
  · intro unbroken
    cases loaded : (load w requested).result with
    | ok s => exact .inl ⟨s, rfl⟩
    | error trouble =>
      refine .inr ⟨trouble, rfl, (error_of_load loaded).resolve_right fun unanswered => ?_⟩
      exact unbroken ((load_breakdown_iff w requested).mpr unanswered)

theorem carryOut_of_refusal {trouble : Trouble} (verdict : i.verdict = .ok (.dispatch d))
    (failed : (load w none).result = .error trouble) (refusal : Refusal trouble) :
    (i.carryOut w handlers none).result = .ok 69 ∧
      (i.carryOut w handlers none).trace.started = [] ∧
      ∃ text, Diagnostics.IsError text ∧ (i.carryOut w handlers none).trace.diagnostics =
        Diagnostics.ofVerdict (.dispatch d) ++ text := by
  obtain ⟨failure, rfl, -⟩ := refusal
  have settled : (settle w none).result = .error (.failure failure) := failed
  have unavailable := unavailable_of_settle settled
  obtain ⟨events, delivered⟩ := d.deliver_of_error handlers settled
  obtain ⟨before, carried⟩ := Invocation.carryOut_of_dispatch verdict
  rw [carried, delivered, answering_of_unavailable unavailable]
  refine ⟨rfl, rfl, _, Diagnostics.isError_refusal unavailable.announced, ?_⟩
  exact congrArg (_ ++ ·) String.empty_append

theorem carryOut_breakdown_iff (verdict : i.verdict = .ok (.dispatch d)) :
    (∃ breakdown, (i.carryOut w handlers none).result = .error (.breakdown breakdown)) ↔
      Unanswered w none := by
  rw [← load_breakdown_iff]
  obtain ⟨before, carried⟩ := Invocation.carryOut_of_dispatch verdict
  constructor
  · rintro ⟨breakdown, broken⟩
    have delivered := d.delivered_deliver w handlers none
    rw [carried] at broken
    generalize d.deliver w handlers none = run at delivered broken
    cases delivered with
    | ran settled tool starts carries concludes => cases broken
    | unstarted settled tool fails carries unavailable =>
      rw [answering_of_unavailable unavailable] at broken
      cases broken
    | unfit no_tool unavailable =>
      rw [answering_of_unavailable unavailable] at broken
      cases broken
    | @broken _ breakdown cause =>
      rcases Run.result_bind_eq_error_iff.mp cause with unsettled | ⟨s, loaded, unset⟩
      · exact ⟨breakdown, unsettled⟩
      · rw [configure_of_sound (sound_of_load loaded)] at unset
        cases unset
  · rintro ⟨breakdown, broken⟩
    have settled : (settle w none).result = .error (.breakdown breakdown) := broken
    obtain ⟨events, delivered⟩ := d.deliver_of_error handlers settled
    refine ⟨breakdown, ?_⟩
    rw [carried, delivered]
    rfl

/-- When loading is answered, with what, and what the keys that are not read have to do with it.
This is so for every file system and every way to read documents. -/
theorem load_answered (w : World) (requested : Option String) :
    (((∃ s, (load w requested).result = .ok s) ∨
        ∃ trouble, (load w requested).result = .error trouble ∧ Refusal trouble) ↔
      ¬Unanswered w requested) ∧
    (∀ i d handlers, Invocation.verdict i = .ok (.dispatch d) →
      ((∃ breakdown, (i.carryOut w handlers none).result = .error (.breakdown breakdown)) ↔
        Unanswered w none) ∧
      ∀ trouble, (load w none).result = .error trouble → Refusal trouble →
        (i.carryOut w handlers none).result = .ok 69 ∧
          (i.carryOut w handlers none).trace.started = [] ∧
          ∃ text, Diagnostics.IsError text ∧ (i.carryOut w handlers none).trace.diagnostics =
            Diagnostics.ofVerdict (.dispatch d) ++ text) ∧
    ∀ path found, selected? w requested = .ok (some path) → entries w path = .ok found →
      ((∃ key ∈ unknownKeys found, key.text? = none) →
        (load w requested).result = .error (.breakdown .keyNotText)) ∧
      ((∀ key ∈ unknownKeys found, key.text? ≠ none) →
        (∃ names : List String, (names.map Value.text).Perm (unknownKeys found) ∧
          (load w requested).trace.events =
            if unknownKeys found = [] then []
            else [.record .warning .settings
              ("Ignoring unknown keys in " ++ path ++ ": " ++ String.intercalate ", " names)]) ∧
        (load w requested).result =
          ((Layer.ofEntries (knownEntries found)).mapError .breakdown).bind fun layer =>
            ((Layer.ofVariables w).onto (layer.onto { source := some path })).validate.mapError
              .failure) := by
  refine ⟨settled_or_refused_iff, ?_, ?_⟩
  · intro i d handlers verdict
    exact ⟨carryOut_breakdown_iff verdict, fun trouble => carryOut_of_refusal verdict⟩
  · intro path found selected read
    exact ⟨fun ⟨key, unknown, no_text⟩ => load_of_other selected read unknown no_text,
      load_of_texts selected read⟩

def withSettings (text : String) : World where
  files := { entries := [(["settings"], .file text.toUTF8 false)] }
  environment := [("ZTC_SHIM_CONFIG", "/settings")]

/-- Documents are nested too deeply to be read. -/
def overwhelmed : World := { withSettings "[[[" with
  document := fun _ => .error (.broken (.other "RecursionError")) }

/-- The default settings file is there, in a directory that may not be searched. -/
def barred : World where
  files := { entries := [(["etc", "ztc-shim.yaml"], .file ⟨#[]⟩ false), (["etc"], .directory)] }
  refusal? := fun _ _ => some .permissionDenied

theorem read_of_check (w : World) (path : String) (check : List (Value × Value) → Bool)
    (checked : (entries w path).toOption.any check = true) :
    ∃ found, entries w path = .ok found ∧ check found = true := by
  cases read : entries w path with
  | error trouble =>
    rw [read] at checked
    cases checked
  | ok found =>
    rw [read] at checked
    exact ⟨found, rfl, checked⟩

theorem load_answered_unknown_keys :
    (load (withSettings "1: a\n") none).result = .error (.breakdown .keyNotText) ∧
      (∃ names : List String, (load (withSettings "x: a\n") none).trace.events =
        [.record .warning .settings
          ("Ignoring unknown keys in /settings: " ++ String.intercalate ", " names)]) ∧
      (Invocation.carryOut ⟨.scan, []⟩ { environment := [("ZTC_SHIM_CONFIG", "/settings")] } {}
        none).result = .ok 69 ∧
      ∀ w ∈ [overwhelmed, barred], ∃ breakdown,
        (Invocation.carryOut ⟨.scan, []⟩ w {} none).result = .error (.breakdown breakdown) := by
  refine ⟨?number, ?text, ?missing, ?unanswered⟩
  case number =>
    obtain ⟨found, read, checked⟩ := read_of_check (withSettings "1: a\n") "/settings"
      (fun found => (unknownKeys found).any fun key => key.text?.isNone) (by decide +kernel)
    obtain ⟨key, unknown, no_text⟩ := List.any_eq_true.mp checked
    have answered := ((load_answered _ none).2.2 "/settings" found rfl read).1
    exact answered ⟨key, unknown, Option.isNone_iff_eq_none.mp no_text⟩
  case text =>
    obtain ⟨found, read, checked⟩ := read_of_check (withSettings "x: a\n") "/settings"
      (fun found => !(unknownKeys found).isEmpty &&
        (unknownKeys found).all fun key => key.text?.isSome) (by decide +kernel)
    obtain ⟨some_key, texts⟩ := Bool.and_eq_true_iff.mp checked
    have answered := ((load_answered _ none).2.2 "/settings" found rfl read).2
    obtain ⟨⟨names, -, events⟩, -⟩ := answered fun key unknown =>
      Option.isSome_iff_ne_none.mp (List.all_eq_true.mp texts key unknown)
    refine ⟨names, ?_⟩
    rw [events, if_neg (by simpa using some_key)]
    rfl
  case missing =>
    have answered := ((load_answered { environment := [("ZTC_SHIM_CONFIG", "/settings")] }
      none).2.1 ⟨.scan, []⟩ { command := "scan" } {} rfl).2
    exact (answered _ rfl ⟨_, rfl, rfl, rfl, by decide⟩).1
  case unanswered =>
    have escapes (w : World) (unanswered : Unanswered w none) :=
      ((load_answered w none).2.1 ⟨.scan, []⟩ { command := "scan" } {} rfl).1.mpr unanswered
    refine List.forall_mem_cons.mpr ⟨escapes overwhelmed ?_, List.forall_mem_singleton.mpr ?_⟩
    · have decoded : text overwhelmed "/settings" = .ok "[[[" := by rfl
      exact .file rfl (.broken decoded rfl)
    · have looked : barred.find "/etc/ztc-shim.yaml" = .error .permissionDenied := by rfl
      exact escapes barred (.hidden rfl looked rfl)

end Handover.Settings
