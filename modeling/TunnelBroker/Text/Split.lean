/-
  TunnelBroker.Text.Split — cutting a text at a character.

  - `cut?`: the text before and after the first occurrence of a character.
  - `startsWith`: whether a text begins with another.
  - `cutAll`: all the pieces between the occurrences of a character, at least one.
-/

namespace TunnelBroker.Text

/-- The texts before and after the first `sep`, if there is one. -/
def cut? (sep : Char) : List Char → Option (List Char × List Char)
  | [] => none
  | c :: cs => if c = sep then some ([], cs) else (cut? sep cs).map fun (a, b) => (c :: a, b)

theorem eq_of_cut? {sep : Char} {cs a b : List Char} (h : cut? sep cs = some (a, b)) :
    cs = a ++ sep :: b ∧ sep ∉ a := by
  induction cs generalizing a with
  | nil => simp [cut?] at h
  | cons c cs ih =>
    simp only [cut?] at h
    split at h
    · rename_i hc; cases h; simp [hc]
    · rename_i hc
      obtain ⟨⟨a', b'⟩, h', e⟩ := Option.map_eq_some_iff.1 h
      cases e
      obtain ⟨rfl, hn⟩ := ih h'
      exact ⟨rfl, by simp [hn, Ne.symm hc]⟩

theorem length_lt_of_cut? {sep : Char} {cs a b : List Char} (h : cut? sep cs = some (a, b)) :
    b.length < cs.length := by
  rw [(eq_of_cut? h).1]; simp; omega

/-- The texts between the occurrences of `sep`, in order. -/
def cutAll (sep : Char) (cs : List Char) : List (List Char) :=
  match _h : cut? sep cs with
  | none => [cs]
  | some (a, b) => a :: cutAll sep b
termination_by cs.length
decreasing_by exact length_lt_of_cut? _h

/-- Whether `cs` begins with `start`. -/
def startsWith (start cs : List Char) : Bool := start.isPrefixOf cs

end TunnelBroker.Text
