import Handover.Proofs.Delivery
import Handover.Session

/-!
Worlds that cannot be told apart. Two of them may list the same files and the same variables in
another order, or have got them in another way. No operation looks at more than what is found at a
place, what a variable says and what the child does, so none does one thing in the one world and
another in the other.
-/

namespace Handover

/-- What a world has from the start, and keeps. -/
def World.fixed (w : World) : World := { w with files := {}, environment := [], child := {} }

/-- The same entry is found at each place, and the same value under each name. -/
structure World.Alike (w w' : World) : Prop where
  entry : ∀ place, w.files.entry? place = w'.files.entry? place
  value : ∀ name, w.environment.lookup name = w'.environment.lookup name
  child : w.child = w'.child
  fixed : w.fixed = w'.fixed

namespace Files

variable {fs fs' : Files}

theorem follow_congr (same : ∀ place, fs.entry? place = fs'.entry? place)
    (place parts : List String) : fs.follow place parts = fs'.follow place parts := by
  induction parts generalizing place with
  | nil => rfl
  | cons part rest ih =>
    unfold follow
    rw [same place, same (place ++ [part])]
    cases fs'.entry? place with
    | none => rfl
    | some entry =>
      cases entry with
      | file content executable => rfl
      | directory => simp only [ih]

theorem find_congr (same : ∀ place, fs.entry? place = fs'.entry? place) (here : List String)
    (path : String) : fs.find here path = fs'.find here path := by
  unfold find
  rw [follow_congr same]
  simp only [same]

end Files

namespace World.Alike

variable {w w' : World}

theorem directory (alike : w.Alike w') : w.directory = w'.directory :=
  (congrArg World.directory alike.fixed :)

theorem defaultSettings (alike : w.Alike w') : w.defaultSettings = w'.defaultSettings :=
  (congrArg World.defaultSettings alike.fixed :)

theorem columns (alike : w.Alike w') : w.columns = w'.columns :=
  (congrArg World.columns alike.fixed :)

theorem emoji? (alike : w.Alike w') : w.emoji? = w'.emoji? :=
  (congrArg World.emoji? alike.fixed :)

theorem document (alike : w.Alike w') : w.document = w'.document :=
  (congrArg World.document alike.fixed :)

theorem refusal? (alike : w.Alike w') : w.refusal? = w'.refusal? :=
  (congrArg World.refusal? alike.fixed :)

theorem find (alike : w.Alike w') (path : String) : w.find path = w'.find path := by
  unfold World.find
  rw [alike.directory, Files.find_congr alike.entry, alike.refusal?]

theorem isFile (alike : w.Alike w') (path : String) : w.isFile path = w'.isFile path := by
  unfold World.isFile
  rw [alike.find]

theorem content (alike : w.Alike w') (path : String) : w.content path = w'.content path := by
  unfold World.content
  rw [alike.find, alike.refusal?]

theorem valueOf? (alike : w.Alike w') (name : String) : w.valueOf? name = w'.valueOf? name :=
  congrArg Text.nonempty? (alike.value name)

theorem withEnvironment (alike : w.Alike w') (given : Option Environment) :
    Alike { w with environment := given.getD w.environment }
      { w' with environment := given.getD w'.environment } where
  entry := alike.entry
  value := by
    cases given with
    | none => exact alike.value
    | some others => exact fun _ => rfl
  child := alike.child
  fixed := alike.fixed

end World.Alike

section Congruence

variable {w w' : World}

/-! Loading settings. -/

namespace Settings

theorem entries_of_alike (alike : w.Alike w') (path : String) :
    entries w path = entries w' path := by
  have same : text w path = text w' path := by
    unfold text
    rw [alike.content]
  unfold entries
  rw [same, alike.document]

theorem ofVariables_of_alike (alike : w.Alike w') : Layer.ofVariables w = Layer.ofVariables w' := by
  simp only [Layer.ofVariables, alike.valueOf?]

theorem load_of_alike (alike : w.Alike w') (requested : Option String) :
    load w requested = load w' requested := by
  have selected : selected? w requested = selected? w' requested := by
    simp only [selected?, alike.valueOf?, alike.defaultSettings, alike.isFile]
  have read : ofFile w = ofFile w' := by
    funext path
    simp only [ofFile, entries_of_alike alike]
  unfold load
  rw [selected, read, ofVariables_of_alike alike]

end Settings

/-! Starting the tool. -/

namespace Dispatcher

theorem check_of_alike (alike : w.Alike w') (path : String) : check w path = check w' path := by
  have same : defect? w path = defect? w' path := by
    unfold defect?
    rw [alike.find]
  unfold check
  rw [same]

theorem run_of_alike (alike : w.Alike w') (dispatcher : Dispatcher) (handlers : Handlers)
    (mainThread : Bool) (d : Dispatch) :
    dispatcher.run w handlers mainThread d = dispatcher.run w' handlers mainThread d := by
  have replaced : replace w = replace w' := by
    funext path argv
    simp only [replace, alike.child]
  have supervised : supervise w = supervise w' := by
    funext handlers mainThread path argv
    simp only [supervise, alike.child]
  unfold run
  rw [check_of_alike alike, replaced, supervised]

end Dispatcher

theorem Dispatch.deliver_of_alike (alike : w.Alike w') (d : Dispatch) (handlers : Handlers)
    (given : Option Settings) : d.deliver w handlers given = d.deliver w' handlers given := by
  have settled : Settings.settle w given = Settings.settle w' given := by
    cases given with
    | some s => rfl
    | none => exact Settings.load_of_alike alike none
  simp only [deliver_eq, settled, Dispatcher.run_of_alike alike]

theorem Invocation.carryOut_of_alike (alike : w.Alike w') (i : Invocation) (handlers : Handlers)
    (given : Option Settings) : i.carryOut w handlers given = i.carryOut w' handlers given := by
  have judged (v : Verdict) : v.carryOut w handlers given = v.carryOut w' handlers given := by
    cases v with
    | dispatch d => exact congrArg (Run.answering · unavailability) (d.deliver_of_alike alike _ _)
    | refuse failure => rfl
    | help message => rfl
  simp only [carryOut, judged]

theorem CommandLine.perform_of_alike (alike : w.Alike w') (line : CommandLine)
    (handlers : Handlers) : line.perform w handlers = line.perform w' handlers := by
  cases line with
  | request asked =>
    refine congrArg (Ending.status <$> ·) ?_
    cases asked with
    | run i => exact i.carryOut_of_alike alike handlers none
    | explain i => rfl
    | mappings chosen => simp only [Request.perform, Request.listings, alike.emoji?, alike.columns]
  | help => rfl
  | completion => rfl
  | misuse => rfl

/-- No operation tells the worlds apart. -/
theorem Operation.perform_of_alike (alike : w.Alike w') (operation : Operation)
    (handlers : Handlers) : operation.perform w handlers = operation.perform w' handlers := by
  cases operation with
  | load requested given =>
    exact congrArg (Outcome.loaded <$> ·)
      (Settings.load_of_alike (alike.withEnvironment given) requested)
  | check path => simp only [perform, Dispatcher.check_of_alike alike]
  | start path mode mainThread dispatch =>
    simp only [perform, Dispatcher.run_of_alike alike]
  | call name tokens settings =>
    have carried (i : Invocation) := i.carryOut_of_alike alike handlers settings
    simp only [perform, carried]
  | script invocation => exact congrArg exited (invocation.carryOut_of_alike alike handlers none)
  | program args =>
    exact congrArg (Outcome.ended <$> ·)
      ((CommandLine.ofArguments args).perform_of_alike alike handlers)
  | configure level => rfl
  | logger name level => rfl

end Congruence

end Handover
