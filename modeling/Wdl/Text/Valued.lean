import Wdl.Text.CharSet

/-!
Properties with more than two values.

Of each value the code points are listed; the code points that are not listed have the usual value.
The lists are long and seldom needed, so they are read when they are asked for.
-/

namespace Wdl
namespace Text

/-- A property with more than two values. -/
structure Valued where
  names : List String
  /-- the names of the usual value -/
  usual : List String
  /-- the names and the code points of the other values -/
  values : Thunk (List (List String × CharSet))

namespace Valued

/-- Reads a value: its names, a colon and its code points. -/
def valueOf (s : String) : List String × CharSet :=
  match s.splitOn ":" with
  | names :: ranges => (words names, .ofText ("".intercalate ranges))
  | [] => ([], .none)

/-- A property whose values are written in a table, with semicolons between them. -/
def ofText (names usual : List String) (table : String) : Valued :=
  ⟨names, usual, .mk fun _ => (table.splitOn ";").map valueOf⟩

/-- The code points that have the usual value. -/
def rest (v : Valued) : CharSet :=
  .complement (.unions (v.values.get.map (·.2)))

end Valued
end Text
end Wdl
