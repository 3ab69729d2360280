/-!
Templates: texts with names in braces. Rendering puts values in the place of names in one pass, so a
value is never looked at again, and braces around anything but a known name stay.
-/

namespace Companion.Template

/-- Values by name, of which the first with a name counts. -/
abbrev Values := List (String × String)

/-- The value of the name that ends at the first closing brace, and the length of that name. -/
def named? (values : Values) (cs : List Char) : Option (List Char × Nat) :=
  let name := cs.takeWhile (· != '\x7d')
  if name.length = cs.length then none
  else (values.lookup (String.ofList name)).map fun value => (value.toList, name.length)

def fill (values : Values) : List Char → List Char
  | [] => []
  | c :: cs =>
    if c = '\x7b' then
      match named? values cs with
      | some (value, n) => value ++ fill values (cs.drop (n + 1))
      | none => c :: fill values cs
    else c :: fill values cs
termination_by cs => cs.length
decreasing_by all_goals simp only [List.length_cons, List.length_drop]; omega

def render (values : Values) (template : String) : String :=
  String.ofList (fill values template.toList)

end Companion.Template
