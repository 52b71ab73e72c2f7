import Mathlib.Data.List.DropRight

/-!
# Text in a shell

What a word becomes on its way through the shell: printed by `echo`, captured by a command
substitution, stripped of a literal prefix, replaced by a default when it is empty.
-/
namespace FlussGateway.Foundation.Shell

/-- `${word#prefix}` where the word begins with the prefix, as `case` tests it first. -/
def removePrefix (start word : String) : Option String :=
  if start.toList.isPrefixOf word.toList then
    some (String.ofList (word.toList.drop start.toList.length))
  else none

/-- Words like `-n` and `-neE`, which `echo` takes for options. -/
def echoOption (word : String) : Bool :=
  match word.toList with
  | '-' :: flags => !flags.isEmpty && flags.all fun flag => flag = 'n' ∨ flag = 'e' ∨ flag = 'E'
  | _ => false

/-- What `echo "$word"` prints. -/
def echo (word : String) : String :=
  if echoOption word then
    if word.toList.contains 'n' then "" else "\n"
  else word ++ "\n"

/-- `$(...)`: the output without the line ends it closes with. -/
def substitute (output : String) : String :=
  String.ofList (output.toList.rdropWhile (· = '\n'))

/-- `${word:-fallback}`. -/
def orDefault (fallback word : String) : String := if word = "" then fallback else word

theorem removePrefix_eq_some_iff {start word rest : String} :
    removePrefix start word = some rest ↔ word = start ++ rest := by
  unfold removePrefix
  constructor
  · intro removed
    split at removed
    next starts =>
      obtain ⟨tail, same⟩ := List.isPrefixOf_iff_prefix.mp starts
      cases removed
      rw [← String.toList_inj, String.toList_append, String.toList_ofList, ← same,
        List.drop_left]
    next => cases removed
  · rintro rfl
    simp

theorem removePrefix_eq_none_iff {start word : String} :
    removePrefix start word = none ↔ ∀ rest, word ≠ start ++ rest := by
  simp only [Option.eq_none_iff_forall_ne_some, Ne, removePrefix_eq_some_iff]

theorem substitute_newline (word : String) : substitute (word ++ "\n") = substitute word := by
  unfold substitute
  rw [String.toList_append, show "\n".toList = ['\n'] by decide,
    List.rdropWhile_concat_pos _ _ _ (by decide)]

/-- What is left of a word that goes through `echo` into a substitution. -/
theorem substitute_echo (word : String) :
    substitute (echo word) = if echoOption word then "" else substitute word := by
  unfold echo
  split
  · split <;> decide
  · exact substitute_newline word

end FlussGateway.Foundation.Shell
