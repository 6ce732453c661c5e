/-! Texts cut at every separator. -/

namespace Handover.Text

def splitAtEach (separator : Char) : List Char → List (List Char)
  | [] => [[]]
  | c :: rest =>
    if c = separator then [] :: splitAtEach separator rest
    else
      match splitAtEach separator rest with
      | part :: parts => (c :: part) :: parts
      | [] => [[c]]

theorem splitAtEach_of_not_mem {separator : Char} {cs : List Char} (whole : separator ∉ cs) :
    splitAtEach separator cs = [cs] := by
  induction cs with
  | nil => rfl
  | cons c rest ih =>
    rw [List.mem_cons, not_or] at whole
    rw [splitAtEach, if_neg (Ne.symm whole.1), ih whole.2]

end Handover.Text
