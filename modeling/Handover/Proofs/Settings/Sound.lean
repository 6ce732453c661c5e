import Handover.Settings.Basic

/-!
The check of settings. It finds no flaw in sound settings, and in others the one of the first field
that is not in order.
-/

namespace Handover.Settings

structure Sound (s : Settings) : Prop where
  toolPath : Path.isAbsolute s.toolPath = true
  mode : s.mode ∈ ["exec", "spawn"]
  logLevel : Text.upper s.logLevel ∈ ["DEBUG", "INFO", "WARNING", "ERROR", "CRITICAL"]

/-- The flaw of the first field that is not in order. -/
inductive FirstFlaw (s : Settings) : Flaw → Prop where
  | relativePath (relative : Path.isAbsolute s.toolPath = false) :
    FirstFlaw s (.relativePath s.toolPath)
  | unknownMode (absolute : Path.isAbsolute s.toolPath = true)
    (unknown : s.mode ∉ ["exec", "spawn"]) : FirstFlaw s (.unknownMode s.mode)
  | unknownLogLevel (absolute : Path.isAbsolute s.toolPath = true)
    (known : s.mode ∈ ["exec", "spawn"])
    (unknown : Text.upper s.logLevel ∉ ["DEBUG", "INFO", "WARNING", "ERROR", "CRITICAL"]) :
    FirstFlaw s (.unknownLogLevel s.logLevel)

variable {s : Settings} {flaw : Flaw}

theorem mem_logLevels_iff {level : String} :
    level ∈ logLevels ↔ level ∈ ["DEBUG", "INFO", "WARNING", "ERROR", "CRITICAL"] := by
  have same : logLevels.Perm ["DEBUG", "INFO", "WARNING", "ERROR", "CRITICAL"] := by decide
  exact same.mem_iff

theorem flaw?_of_sound (sound : s.Sound) : s.flaw? = none := by
  have named := mem_logLevels_iff.mpr sound.logLevel
  simp [flaw?, modes, sound.toolPath, sound.mode, named]

theorem flaw?_of_firstFlaw (first : s.FirstFlaw flaw) : s.flaw? = some flaw := by
  cases first with
  | relativePath relative => simp [flaw?, relative]
  | unknownMode absolute unknown => simp [flaw?, modes, absolute, unknown]
  | unknownLogLevel absolute known unknown =>
    have unnamed : Text.upper s.logLevel ∉ logLevels :=
      fun member => unknown (mem_logLevels_iff.mp member)
    simp [flaw?, modes, absolute, known, unnamed]

theorem sound_or_firstFlaw (s : Settings) : s.Sound ∨ ∃ flaw, s.FirstFlaw flaw := by
  by_cases absolute : Path.isAbsolute s.toolPath = true
  · by_cases known : s.mode ∈ ["exec", "spawn"]
    · by_cases named : Text.upper s.logLevel ∈ ["DEBUG", "INFO", "WARNING", "ERROR", "CRITICAL"]
      · exact .inl ⟨absolute, known, named⟩
      · exact .inr ⟨_, .unknownLogLevel absolute known named⟩
    · exact .inr ⟨_, .unknownMode absolute known⟩
  · exact .inr ⟨_, .relativePath (by simpa using absolute)⟩

theorem flaw?_eq_none_iff : s.flaw? = none ↔ s.Sound := by
  constructor
  · intro flawless
    rcases sound_or_firstFlaw s with sound | ⟨flaw, first⟩
    · exact sound
    · rw [flaw?_of_firstFlaw first] at flawless
      cases flawless
  · exact flaw?_of_sound

theorem flaw?_eq_some_iff : s.flaw? = some flaw ↔ s.FirstFlaw flaw := by
  constructor
  · intro flawed
    rcases sound_or_firstFlaw s with sound | ⟨other, first⟩
    · rw [flaw?_of_sound sound] at flawed
      cases flawed
    · rw [flaw?_of_firstFlaw first] at flawed
      cases flawed
      exact first
  · exact flaw?_of_firstFlaw

theorem validate_eq_ok_iff {other : Settings} : s.validate = .ok other ↔ s.Sound ∧ other = s := by
  rw [← flaw?_eq_none_iff]
  unfold validate
  cases s.flaw? with
  | some flaw => simp
  | none => simp [eq_comm]

theorem validate_eq_error_iff {failure : Failure} :
    s.validate = .error failure ↔ ∃ flaw, s.FirstFlaw flaw ∧ failure = flaw.failure := by
  simp only [← flaw?_eq_some_iff]
  unfold validate
  cases s.flaw? with
  | some flaw => simp [eq_comm]
  | none => simp

end Handover.Settings
