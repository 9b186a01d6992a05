/-!
# Cutting texts

Cutting a list of characters at the first place of a character, and a known end off it.
-/

namespace RecordMapper.Text

/-- What stands before and after the first place of a character. -/
def splitFirst? (mark : Char) (cs : List Char) : Option (List Char × List Char) :=
  match cs.dropWhile (· != mark) with
  | [] => none
  | _ :: rest => some (cs.takeWhile (· != mark), rest)

/-- A list without the given characters at its end. -/
def withoutEnd? (ending cs : List Char) : Option (List Char) :=
  if ending.isSuffixOf cs then some (cs.take (cs.length - ending.length)) else none

theorem append_of_withoutEnd? {ending cs rest : List Char} (h : withoutEnd? ending cs = some rest) :
    cs = rest ++ ending := by
  unfold withoutEnd? at h
  split at h
  · rename_i hs
    obtain ⟨t, rfl⟩ := List.isSuffixOf_iff_suffix.1 hs
    simp_all
  · simp at h

end RecordMapper.Text
