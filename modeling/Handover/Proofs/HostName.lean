import Handover.Proofs.Text.Blank
import Handover.Verdict

/-!
Which host names lead to a forced remediation. A name is looked at and handed on as it was received,
with the blanks around it. It is dispatched unless it is blank or looks like an option, a macro that
was left unresolved, or the name of a virtual host. The last two are refused as unsupported, and
nothing else is.
-/

namespace Handover

namespace HostName

def IsMacro (host : String) : Prop := ∃ name, host = "\x7b" ++ name ++ "\x7d"

/-- The name of a virtual host, in whatever case it is written. -/
def IsVirtual (host : String) : Prop := Text.lower host ∈ virtualHosts

def IsOption (host : String) : Prop := ∃ rest, host = "-" ++ rest

variable {host : String}

theorem isMacro_iff :
    IsMacro host ↔ host.toList.head? = some '\x7b' ∧ host.toList.getLast? = some '\x7d' := by
  constructor
  · rintro ⟨name, rfl⟩
    have chars : ("\x7b" ++ name ++ "\x7d").toList = '\x7b' :: name.toList ++ ['\x7d'] := by simp
    rw [chars]
    exact ⟨rfl, List.getLast?_concat⟩
  · rintro ⟨first, last⟩
    obtain ⟨front, split⟩ := List.getLast?_eq_some_iff.mp last
    cases front with
    | nil => simp [split] at first
    | cons c name =>
      obtain rfl : c = '\x7b' := by simpa [split] using first
      refine ⟨String.ofList name, String.toList_inj.mp ?_⟩
      simp [split]

theorem isOption_iff : IsOption host ↔ host.toList.head? = some '-' := by
  constructor
  · rintro ⟨rest, rfl⟩
    simp
  · intro first
    obtain ⟨rest, split⟩ := List.head?_eq_some_iff.mp first
    exact ⟨String.ofList rest, String.toList_inj.mp (by simp [split])⟩

theorem problem?_eq_none_iff : problem? host = none ↔ ¬IsMacro host ∧ ¬IsVirtual host := by
  rw [isMacro_iff, IsVirtual, problem?]
  split
  next unresolved => simp [unresolved]
  next resolved =>
    split
    next virtual => simp [virtual]
    next real => simp [resolved, real]

theorem isAllBlank_of_isMacro (unresolved : IsMacro host) : Text.isAllBlank host = false := by
  obtain ⟨name, rfl⟩ := unresolved
  exact List.all_eq_false.mpr ⟨'\x7b', by simp, by decide⟩

theorem isAllBlank_of_isVirtual (virtual : IsVirtual host) : Text.isAllBlank host = false := by
  have visible : ∀ name ∈ virtualHosts, Text.isAllBlank name = false := by decide
  cases blank : Text.isAllBlank host with
  | false => rfl
  | true =>
    rw [IsVirtual, Text.lower_of_isAllBlank blank] at virtual
    rw [visible host virtual] at blank
    cases blank

end HostName

namespace Invocation

open HostName

variable {host : String} {tokens args : List String}

/-- The tokens are a single name, which neither is blank nor looks like an option. -/
def Names (tokens : List String) (host : String) : Prop :=
  tokens = [host] ∧ ¬IsOption host ∧ Text.isAllBlank host = false

theorem fixHostArgs_of_names (names : Names tokens host) :
    fixHostArgs tokens = (HostName.check host).map fun _ => ["--host-name", host, "--force"] := by
  obtain ⟨rfl, named, visible⟩ := names
  rw [isOption_iff] at named
  simp [fixHostArgs, named, visible]

theorem fixHostArgs_of_unnamed (unnamed : ∀ host, ¬Names tokens host) :
    fixHostArgs tokens = .error fixHostUsage := by
  unfold fixHostArgs
  split
  next host =>
    have misuse : host.toList.head? = some '-' ∨ Text.isAllBlank host = true := by
      simpa [Names, isOption_iff, Decidable.or_iff_not_imp_left] using unnamed host
    rw [if_pos misuse]
  next => rfl

theorem fixHostArgs_eq_ok_iff :
    fixHostArgs tokens = .ok args ↔
      ∃ host, Names tokens host ∧ problem? host = none ∧
        args = ["--host-name", host, "--force"] := by
  constructor
  · intro accepted
    by_cases named : ∃ host, Names tokens host
    · obtain ⟨host, names⟩ := named
      rw [fixHostArgs_of_names names, HostName.check] at accepted
      cases found : problem? host with
      | some problem => simp [found, Except.map] at accepted
      | none =>
        rw [found] at accepted
        cases accepted
        exact ⟨host, names, found, rfl⟩
    · rw [fixHostArgs_of_unnamed (not_exists.mp named)] at accepted
      cases accepted
  · rintro ⟨host, names, real, rfl⟩
    rw [fixHostArgs_of_names names, HostName.check, real]
    rfl

theorem fixHostArgs_eq_error_iff :
    (∃ failure, fixHostArgs tokens = .error failure ∧ failure.status = 77) ↔
      ∃ host, Names tokens host ∧ problem? host ≠ none := by
  constructor
  · rintro ⟨failure, refused, status⟩
    by_cases named : ∃ host, Names tokens host
    · obtain ⟨host, names⟩ := named
      refine ⟨host, names, fun real => ?_⟩
      rw [fixHostArgs_of_names names, HostName.check, real] at refused
      cases refused
    · rw [fixHostArgs_of_unnamed (not_exists.mp named)] at refused
      cases refused
      cases status
  · rintro ⟨host, names, found⟩
    obtain ⟨problem, found⟩ := Option.ne_none_iff_exists'.mp found
    refine ⟨HostName.refusal host problem, ?_, rfl⟩
    rw [fixHostArgs_of_names names, HostName.check, found]
    rfl

theorem verdict_of_fixHostArgs (tokens : List String) :
    Invocation.verdict ⟨.fixHost, tokens⟩ =
      match fixHostArgs tokens with
      | .ok args => .ok (.dispatch { command := "fix", args })
      | .error failure => .ok (.refuse failure) := by
  cases tokens with
  | nil => rfl
  | cons token rest =>
    simp only [verdict, style, ofFlags]
    cases fixHostArgs (token :: rest) <;> rfl

theorem verdict_eq_dispatch_iff {d : Dispatch} :
    Invocation.verdict ⟨.fixHost, tokens⟩ = .ok (.dispatch d) ↔
      ∃ args, fixHostArgs tokens = .ok args ∧ d = { command := "fix", args } := by
  rw [verdict_of_fixHostArgs]
  cases fixHostArgs tokens with
  | ok args => simp [eq_comm]
  | error failure => simp

theorem verdict_eq_refuse_iff {failure : Failure} :
    Invocation.verdict ⟨.fixHost, tokens⟩ = .ok (.refuse failure) ↔
      fixHostArgs tokens = .error failure := by
  rw [verdict_of_fixHostArgs]
  cases fixHostArgs tokens <;> simp

theorem names_real_iff :
    Names tokens host ∧ problem? host = none ↔
      tokens = [host] ∧ Text.strip host ≠ "" ∧ ¬IsOption host ∧ ¬IsMacro host ∧
        ¬IsVirtual host := by
  rw [problem?_eq_none_iff, Names, Ne, Text.strip_eq_empty_iff, Bool.not_eq_true]
  constructor
  · rintro ⟨⟨single, named, visible⟩, resolved, real⟩
    exact ⟨single, visible, named, resolved, real⟩
  · rintro ⟨single, visible, named, resolved, real⟩
    exact ⟨⟨single, named, visible⟩, resolved, real⟩

theorem names_unreal_iff :
    Names tokens host ∧ problem? host ≠ none ↔
      tokens = [host] ∧ ¬IsOption host ∧ (IsMacro host ∨ IsVirtual host) := by
  rw [Ne, problem?_eq_none_iff, not_and_or, not_not, not_not, Names]
  constructor
  · rintro ⟨⟨single, named, -⟩, unreal⟩
    exact ⟨single, named, unreal⟩
  · rintro ⟨single, named, unreal⟩
    have visible : Text.isAllBlank host = false :=
      unreal.elim isAllBlank_of_isMacro isAllBlank_of_isVirtual
    exact ⟨⟨single, named, visible⟩, unreal⟩

/-- A remediation is forced for a single token that is the name of a real host, and the token is
handed on unchanged. A single token that is a macro or the name of a virtual host is refused as
unsupported, and nothing else is. -/
theorem verdict_of_fixHost (tokens : List String) :
    (∀ d : Dispatch, Invocation.verdict ⟨.fixHost, tokens⟩ = .ok (.dispatch d) ↔
      ∃ host, (tokens = [host] ∧ Text.strip host ≠ "" ∧ ¬IsOption host ∧ ¬IsMacro host ∧
        ¬IsVirtual host) ∧ d.argv = ["fix", "--host-name", host, "--force"] ∧ d.warnings = []) ∧
    ((∃ failure, Invocation.verdict ⟨.fixHost, tokens⟩ = .ok (.refuse failure) ∧
        failure.status = 77) ↔
      ∃ host, tokens = [host] ∧ ¬IsOption host ∧ (IsMacro host ∨ IsVirtual host)) := by
  constructor
  · intro d
    simp only [verdict_eq_dispatch_iff, fixHostArgs_eq_ok_iff, ← names_real_iff]
    constructor
    · rintro ⟨args, ⟨host, names, real, rfl⟩, rfl⟩
      exact ⟨host, ⟨names, real⟩, rfl, rfl⟩
    · rintro ⟨host, ⟨names, real⟩, argv, silent⟩
      obtain ⟨command, args, warnings⟩ := d
      cases argv
      cases silent
      exact ⟨_, ⟨host, names, real, rfl⟩, rfl⟩
  · simp only [verdict_eq_refuse_iff, fixHostArgs_eq_error_iff, names_unreal_iff]

/-- With a blank behind it a macro is no macro, and with a blank before it the name of a virtual
host is another name. -/
theorem verdict_of_padded :
    Invocation.verdict ⟨.fixHost, ["\x7bHOST.HOST\x7d "]⟩ =
        .ok (.dispatch
          { command := "fix", args := ["--host-name", "\x7bHOST.HOST\x7d ", "--force"] }) ∧
      IsMacro (Text.strip "\x7bHOST.HOST\x7d ") ∧
      Invocation.verdict ⟨.fixHost, [" vulners.hosts"]⟩ =
        .ok (.dispatch { command := "fix", args := ["--host-name", " vulners.hosts", "--force"] }) ∧
      IsVirtual (Text.strip " vulners.hosts") := by
  have virtual : Text.lower (Text.strip " vulners.hosts") ∈ virtualHosts := by decide
  exact ⟨rfl, ⟨"HOST.HOST", rfl⟩, rfl, virtual⟩

end Invocation

end Handover
