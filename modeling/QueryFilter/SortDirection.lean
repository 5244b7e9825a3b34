import QueryFilter.Text.Blank
import QueryFilter.Text.Lowercase

/-!
# Sort directions

The text `asc`, in any case and with any blanks around it, is ascending; any other is descending.
-/

namespace QueryFilter

inductive SortDirection where
  | asc
  | desc
  deriving DecidableEq, Repr, Inhabited

namespace SortDirection

def token : SortDirection → String
  | asc => "asc"
  | desc => "desc"

def ofText (text : String) : SortDirection :=
  if (Text.trim text.toList).map Text.asciiLower = asc.token.toList then asc else desc

theorem ofText_token (d : SortDirection) : ofText d.token = d := by cases d <;> decide

end SortDirection

end QueryFilter
