/-!
# Literal text inside markup

In console markup a style tag is a bracket, a lower-case letter or one of three signs, and
anything but an opening bracket up to the next closing one. A backslash in front takes the tag's
meaning away, and pairs of backslashes stand for single ones. `escapeMarkup` writes a text so that
it is shown as it is.
-/

namespace NonlinearProgram.Text

def opensTag (c : Char) : Bool :=
  (decide ('a' ≤ c) && decide (c ≤ 'z')) || c = '#' || c = '/' || c = '@'

/-- The text up to the first closing bracket, that included, and the rest; none when an opening
bracket or the end comes first. -/
def tagBody? : List Char → Option (List Char × List Char)
  | [] => none
  | c :: rest =>
    if c = ']' then some ([c], rest)
    else if c = '[' then none
    else (tagBody? rest).map fun (body, after) => (c :: body, after)

/-- The tag at the start of a text, if there is one, and what follows it. -/
def tag? : List Char → Option (List Char × List Char)
  | '[' :: c :: rest =>
    if opensTag c then (tagBody? rest).map fun (body, after) => ('[' :: c :: body, after) else none
  | _ => none

theorem tagBody?_length {text body rest : List Char} (h : tagBody? text = some (body, rest)) :
    rest.length < text.length := by
  induction text generalizing body rest with
  | nil => simp [tagBody?] at h
  | cons c tail ih =>
    unfold tagBody? at h
    split at h
    · simp only [Option.some.injEq, Prod.mk.injEq] at h
      simp [← h.2]
    · split at h
      · simp at h
      · obtain ⟨⟨inner, after⟩, found, same⟩ := Option.map_eq_some_iff.1 h
        simp only [Prod.mk.injEq] at same
        have := ih found
        simp [← same.2]
        omega

theorem tag?_length {text body rest : List Char} (h : tag? text = some (body, rest)) :
    rest.length < text.length := by
  unfold tag? at h
  split at h
  · split at h
    · obtain ⟨⟨inner, after⟩, found, same⟩ := Option.map_eq_some_iff.1 h
      simp only [Prod.mk.injEq] at same
      have := tagBody?_length found
      simp [← same.2]
      omega
    · simp at h
  · simp at h

/-- Every tag with the backslashes before it doubled and one more put in front. The first argument
counts the backslashes just read. -/
def escapeTags (slashes : Nat) (text : List Char) : List Char :=
  match text with
  | [] => List.replicate slashes '\\'
  | c :: rest =>
    if c = '\\' then escapeTags (slashes + 1) rest
    else match _found : tag? (c :: rest) with
      | some (tag, after) =>
        List.replicate (2 * slashes + 1) '\\' ++ tag ++ escapeTags 0 after
      | none => List.replicate slashes '\\' ++ c :: escapeTags 0 rest
termination_by text.length
decreasing_by
  · simp
  · exact tag?_length _found
  · simp

/-- A last backslash, where it stands alone, is doubled so that it does not meet what follows. -/
def guardEnd (text : List Char) : List Char :=
  match text.reverse with
  | '\\' :: '\\' :: _ => text
  | '\\' :: _ => text ++ ['\\']
  | _ => text

/-- A text as markup that shows it literally. -/
def escapeMarkup (text : String) : String :=
  String.ofList (guardEnd (escapeTags 0 text.toList))

end NonlinearProgram.Text
