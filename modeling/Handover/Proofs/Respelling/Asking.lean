import Handover.Proofs.Respelling.Renaming
import Handover.Proofs.Verdict

/-!
What a walk over a command line asks for. The walk itself renames nothing. It asks for one word
after the other, and goes on with the answer. A word that is no cluster cannot be renamed, and the
walk never asks for one, so what is in the way of a command line is always a flag.
-/

namespace Handover

/-- A computation that asks for words to be renamed. -/
inductive Asking (α : Type) where
  | done (ending : Except Obstacle α)
  | ask (word : String) (next : String → Asking α)

namespace Asking

variable {α β : Type}

def bind : Asking α → (α → Asking β) → Asking β
  | .done (.ok a), next => next a
  | .done (.error obstacle), _ => .done (.error obstacle)
  | .ask word later, next => .ask word fun answer => (later answer).bind next

def run (rename : String → Except Breakdown String) : Asking α → Except Obstacle α
  | .done ending => ending
  | .ask word next =>
    match rename word with
    | .ok answer => (next answer).run rename
    | .error breakdown => .error (.breakdown breakdown)

def asked (rename : String → Except Breakdown String) : Asking α → List String
  | .done _ => []
  | .ask word next =>
    match rename word with
    | .ok answer => word :: (next answer).asked rename
    | .error _ => [word]

/-- Whatever is answered, it only ever asks for clusters, and only a flag is in its way. -/
inductive Sound : Asking α → Prop where
  | ok (a : α) : Sound (.done (.ok a))
  | error {obstacle : Obstacle} {flag : Flag} (named : obstacle.flag? = some flag) :
    Sound (.done (.error obstacle))
  | ask {word : String} {next : String → Asking α} (cluster : Token.isCluster word = true)
    (later : ∀ answer, (next answer).Sound) : Sound (.ask word next)

end Asking

theorem exists_renameCluster {word : String} (cluster : Token.isCluster word = true)
    (renames : List (String × String)) : ∃ answer, renameCluster renames word = .ok answer :=
  ⟨_, if_pos cluster⟩

namespace Asking

variable {α β : Type} {rename : String → Except Breakdown String} {x : Asking α}
  {next : α → Asking β}

theorem run_bind (rename : String → Except Breakdown String) (x : Asking α)
    (next : α → Asking β) :
    (x.bind next).run rename = x.run rename >>= fun a => (next a).run rename := by
  induction x with
  | done ending => cases ending <;> rfl
  | ask word later ih =>
    simp only [bind, run]
    cases rename word with
    | ok answer => exact ih answer
    | error breakdown => rfl

theorem Sound.bind (first : x.Sound) (second : ∀ a, (next a).Sound) : (x.bind next).Sound := by
  induction first with
  | ok a => exact second a
  | error named => exact .error named
  | ask cluster _ ih => exact .ask cluster ih

theorem Sound.isCluster (sound : x.Sound) {word : String} (member : word ∈ x.asked rename) :
    Token.isCluster word = true := by
  induction sound with
  | ok a => cases member
  | error named => cases member
  | @ask own next cluster _ ih =>
    simp only [asked] at member
    cases answered : rename own with
    | ok answer =>
      simp only [answered] at member
      rcases List.mem_cons.mp member with rfl | later
      · exact cluster
      · exact ih answer later
    | error breakdown =>
      simp only [answered] at member
      rwa [List.mem_singleton.mp member]

theorem Sound.exists_flag {renames : List (String × String)} {obstacle : Obstacle}
    (sound : x.Sound) (failed : x.run (renameCluster renames) = .error obstacle) :
    ∃ flag, obstacle.flag? = some flag := by
  induction sound with
  | ok a => cases failed
  | error named =>
    cases failed
    exact ⟨_, named⟩
  | ask cluster _ ih =>
    obtain ⟨answer, renamed⟩ := exists_renameCluster cluster renames
    simp only [run, renamed] at failed
    exact ih answer failed

theorem sound_done {ending : Except Obstacle α}
    (flagged : ∀ obstacle, ending = .error obstacle → ∃ flag, obstacle.flag? = some flag) :
    Sound (.done ending) := by
  cases ending with
  | ok a => exact .ok a
  | error obstacle =>
    obtain ⟨flag, named⟩ := flagged obstacle rfl
    exact .error named

end Asking

namespace Dialect

def askRenamed (d : Dialect) (letters : List Char) : Asking Reading :=
  match d.flags.splitAtValue? letters with
  | none => .ask (String.ofList ('-' :: letters)) fun word =>
    .done (.ok (.whole (.verbatim word)))
  | some (head, flag, attached) => .ask (String.ofList ('-' :: head)) fun word =>
    .done (.ok (if attached.isEmpty then .awaiting (.verbatim word) flag
      else .whole (.verbatim word ++ .verbatim (String.ofList attached))))

def askShort (d : Dialect) (token : String) (letters : List Char) : Asking Reading :=
  match d.flags.get? token with
  | some flag => .done (readFlag flag)
  | none =>
    if !d.renames.isEmpty && Token.isCluster token then d.askRenamed letters
    else match d.flags.expand? letters with
      | some expansion => .done (readExpansion expansion)
      | none => .done (.ok (.whole (.verbatim token)))

def ask (d : Dialect) (token : String) : Asking Reading :=
  match Token.shape token with
  | .terminator => .done (.ok .stop)
  | .long name attached => .done (d.readLong token name attached)
  | .short letters => d.askShort token letters
  | .data => .done (.ok (.whole (.verbatim token)))

def askBlocks (d : Dialect) : List String → Asking (List Block)
  | [] => .done (.ok [])
  | token :: rest => (d.ask token).bind fun reading =>
    match reading with
    | .stop => .done (.ok ((token :: rest).map .verbatim))
    | .whole block => (d.askBlocks rest).bind fun blocks => .done (.ok (block :: blocks))
    | .awaiting block flag =>
      match rest with
      | [] => .done (.error (.valueMissing d.program flag))
      | value :: rest => (d.askBlocks rest).bind fun blocks =>
        .done (.ok (block :: .verbatim value :: blocks))

def asking (d : Dialect) (tokens : List String) : Asking Respelling :=
  (d.askBlocks tokens).bind fun blocks => .done (.ok (.ofBlocks blocks))

variable {d : Dialect} {token : String} {letters : List Char}

section Renames

/-! Whether there are renames decides what is asked for. What they are is only learnt by asking. -/

variable {renames : List (String × String)}

theorem ask_withRenames (alike : renames.isEmpty = d.renames.isEmpty) (token : String) :
    Dialect.ask { d with renames } token = d.ask token := by
  unfold ask
  cases Token.shape token with
  | short letters =>
    simp only [askShort, alike]
    rfl
  | terminator => rfl
  | long name attached => rfl
  | data => rfl

theorem askBlocks_withRenames (alike : renames.isEmpty = d.renames.isEmpty) :
    (tokens : List String) → Dialect.askBlocks { d with renames } tokens = d.askBlocks tokens
  | [] => rfl
  | token :: rest => by
    rw [askBlocks, askBlocks, ask_withRenames alike]
    refine congrArg (d.ask token).bind (funext fun reading => ?_)
    cases reading with
    | stop => rfl
    | whole block => simp only [askBlocks_withRenames alike rest]
    | awaiting block flag =>
      cases rest with
      | nil => rfl
      | cons value rest => simp only [askBlocks_withRenames alike rest]

theorem asking_withRenames (alike : renames.isEmpty = d.renames.isEmpty) (tokens : List String) :
    Dialect.asking { d with renames } tokens = d.asking tokens := by
  rw [asking, askBlocks_withRenames alike]
  rfl

end Renames

section Ending

/-! Where clusters are renamed as the dialect has it, the walk is the one that respells. -/

theorem run_askRenamed (d : Dialect) (letters : List Char) :
    (d.askRenamed letters).run (renameCluster d.renames) = d.readRenamed letters := by
  unfold askRenamed readRenamed
  cases d.flags.splitAtValue? letters with
  | none =>
    simp only [Asking.run]
    cases renameCluster d.renames (String.ofList ('-' :: letters)) <;> rfl
  | some split =>
    obtain ⟨head, flag, attached⟩ := split
    simp only [Asking.run]
    cases renameCluster d.renames (String.ofList ('-' :: head)) <;> rfl

theorem run_askShort (d : Dialect) (token : String) (letters : List Char) :
    (d.askShort token letters).run (renameCluster d.renames) = d.readShort token letters := by
  unfold askShort readShort
  cases d.flags.get? token with
  | some flag => rfl
  | none =>
    cases !d.renames.isEmpty && Token.isCluster token with
    | true => exact d.run_askRenamed letters
    | false => cases d.flags.expand? letters <;> rfl

theorem run_ask (d : Dialect) (token : String) :
    (d.ask token).run (renameCluster d.renames) = d.read token := by
  unfold ask read
  cases Token.shape token with
  | short letters => exact d.run_askShort token letters
  | terminator => rfl
  | long name attached => rfl
  | data => rfl

theorem run_askBlocks (d : Dialect) (tokens : List String) :
    (d.askBlocks tokens).run (renameCluster d.renames) = d.blocks tokens := by
  fun_induction d.blocks tokens with
  | case1 => rfl
  | case2 token rest obstacle read =>
    rw [askBlocks, Asking.run_bind, run_ask, read]
    rfl
  | case3 token rest read =>
    rw [askBlocks, Asking.run_bind, run_ask, read]
    rfl
  | case4 token rest block read ih =>
    rw [askBlocks, Asking.run_bind, run_ask, read, ← ih]
    exact Asking.run_bind _ _ _
  | case5 token block flag read =>
    rw [askBlocks, Asking.run_bind, run_ask, read]
    rfl
  | case6 token block flag read value rest ih =>
    rw [askBlocks, Asking.run_bind, run_ask, read, ← ih]
    exact Asking.run_bind _ _ _

theorem run_asking (d : Dialect) (tokens : List String) :
    (d.asking tokens).run (renameCluster d.renames) = d.respell tokens := by
  rw [asking, Asking.run_bind, run_askBlocks]
  rfl

end Ending

section Sound

variable {flag : Flag} {flags : List Flag} {obstacle : Obstacle}

theorem flag?_of_accept (refused : flag.accept = .error obstacle) : obstacle.flag? = some flag := by
  unfold Flag.accept at refused
  split at refused <;> cases refused
  rfl

theorem exists_flag_of_acceptAll (refused : Flag.acceptAll flags = .error obstacle) :
    ∃ flag, obstacle.flag? = some flag := by
  induction flags with
  | nil => cases refused
  | cons flag rest ih =>
    unfold Flag.acceptAll at refused
    cases accepted : flag.accept with
    | error first =>
      simp only [accepted, Except.error.injEq] at refused
      exact ⟨flag, refused ▸ flag?_of_accept accepted⟩
    | ok block =>
      simp only [accepted] at refused
      exact ih (map_eq_error_iff.mp refused)

theorem sound_accept {α : Type} (flag : Flag) (f : Block → α) :
    Asking.Sound (.done (flag.accept.map f)) :=
  Asking.sound_done fun _ refused => ⟨flag, flag?_of_accept (map_eq_error_iff.mp refused)⟩

theorem sound_readExpansion (expansion : Expansion) :
    Asking.Sound (.done (readExpansion expansion)) := by
  unfold readExpansion
  cases accepted : Flag.acceptAll expansion.plain with
  | error obstacle =>
    obtain ⟨flag, named⟩ := exists_flag_of_acceptAll accepted
    exact .error named
  | ok block =>
    cases expansion.valued with
    | none => exact .ok _
    | some last => exact sound_accept last.1 _

theorem sound_readLong (d : Dialect) (token name : String) (attached : Option String) :
    Asking.Sound (.done (d.readLong token name attached)) := by
  unfold readLong
  cases d.flags.get? name with
  | none => exact .ok _
  | some flag =>
    cases attached with
    | none => exact sound_accept flag _
    | some value =>
      cases takes : flag.takesValue with
      | true =>
        simp only [takes, if_true]
        exact sound_accept flag _
      | false =>
        simp only [takes, Bool.false_eq_true, if_false]
        exact .error rfl

theorem sound_askRenamed (some_letter : letters ≠ []) (alpha : letters.all Char.isAlpha = true) :
    (d.askRenamed letters).Sound := by
  unfold askRenamed
  rcases d.flags.plain_or_valued letters with
    plain | ⟨before, c, attached, flag, rfl, plain, entry, takes⟩
  · rw [FlagTable.splitAtValue?_of_plain plain]
    exact .ask (isCluster_of_alpha some_letter alpha) fun _ => .ok _
  · rw [FlagTable.splitAtValue?_of_valued plain entry takes]
    have some_front : before ++ [c] ≠ [] := by simp
    exact .ask (isCluster_of_alpha some_front (alpha_head alpha)) fun _ => .ok _

theorem sound_askShort (short : Token.shape token = .short letters) :
    (d.askShort token letters).Sound := by
  unfold askShort
  -- the guard looks at the whole token, and what is asked for may be a front of it
  rw [d.renamesCluster_eq short]
  cases d.flags.get? token with
  | some flag => exact sound_accept flag _
  | none =>
    cases guarded : d.renamesCluster letters with
    | true =>
      rw [renamesCluster, Bool.and_eq_true] at guarded
      exact sound_askRenamed (Token.ne_nil_of_shape_short short) guarded.2
    | false =>
      cases d.flags.expand? letters with
      | some expansion => exact sound_readExpansion expansion
      | none => exact .ok _

theorem sound_ask (d : Dialect) (token : String) : (d.ask token).Sound := by
  unfold ask
  cases shape : Token.shape token with
  | terminator => exact .ok _
  | long name attached => exact d.sound_readLong token name attached
  | short letters => exact sound_askShort shape
  | data => exact .ok _

theorem sound_askBlocks (d : Dialect) : (tokens : List String) → (d.askBlocks tokens).Sound
  | [] => .ok []
  | token :: rest => by
    unfold askBlocks
    refine (d.sound_ask token).bind fun reading => ?_
    cases reading with
    | stop => exact .ok _
    | whole block => exact (d.sound_askBlocks rest).bind fun _ => .ok _
    | awaiting block flag =>
      cases rest with
      | nil => exact .error rfl
      | cons value rest => exact (d.sound_askBlocks rest).bind fun _ => .ok _

theorem sound_asking (d : Dialect) (tokens : List String) : (d.asking tokens).Sound :=
  (d.sound_askBlocks tokens).bind fun _ => .ok _

end Sound

theorem exists_flag_of_respell {tokens : List String} {obstacle : Obstacle}
    (failed : d.respell tokens = .error obstacle) : ∃ flag, obstacle.flag? = some flag := by
  rw [← run_asking] at failed
  exact (d.sound_asking tokens).exists_flag failed

end Dialect

end Handover
