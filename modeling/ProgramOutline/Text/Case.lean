/-!
# ASCII case

Comparison of texts that ignores the case of ASCII letters and of nothing else.
-/

namespace ProgramOutline.Text

/-- Are two texts equal up to the case of ASCII letters? -/
def equalIgnoringCase : List Char → List Char → Bool
  | [], [] => true
  | a :: as, b :: bs => a.toLower == b.toLower && equalIgnoringCase as bs
  | _, _ => false

end ProgramOutline.Text
