/-!
# Separated fields

A separator cuts a text into fields: a text with `n` separators has `n + 1` fields, and joining
them with the separator gives the text back (`joinFields_fields`).
-/

namespace Pinpoint.Text

/-- The fields of a text, cut at every separator. There is always at least one. -/
def fields (separator : Char) : List Char → List (List Char)
  | [] => [[]]
  | character :: rest =>
    if character = separator then [] :: fields separator rest
    else match fields separator rest with
      | [] => [[character]]
      | first :: others => (character :: first) :: others

/-- The texts written one after the other with the separator between them. -/
def joinFields (separator : Char) : List (List Char) → List Char
  | [] => []
  | [last] => last
  | first :: others => first ++ separator :: joinFields separator others

theorem fields_ne_nil (separator : Char) (text : List Char) : fields separator text ≠ [] := by
  cases text with
  | nil => simp [fields]
  | cons character rest =>
    unfold fields
    split
    · simp
    · split <;> simp

theorem joinFields_cons (separator : Char) (first : List Char) {others : List (List Char)}
    (nonempty : others ≠ []) :
    joinFields separator (first :: others) = first ++ separator :: joinFields separator others := by
  cases others with
  | nil => exact absurd rfl nonempty
  | cons => rfl

/-- Cutting loses nothing. -/
theorem joinFields_fields (separator : Char) (text : List Char) :
    joinFields separator (fields separator text) = text := by
  induction text with
  | nil => rfl
  | cons character rest ih =>
    unfold fields
    split
    · next same => rw [joinFields_cons _ _ (fields_ne_nil _ _), ih, same]; rfl
    · split
      · next none => exact absurd none (fields_ne_nil _ _)
      · next first others cut =>
        rw [cut] at ih
        cases others with
        | nil => simpa [joinFields] using ih
        | cons => simpa [joinFields] using ih

end Pinpoint.Text
