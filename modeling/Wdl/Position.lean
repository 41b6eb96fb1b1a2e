import Wdl.Json.Basic

/-!
Places in a document, as nodes and messages name them.
-/

namespace Wdl

/-- A stretch of a source buffer: the offsets of its first and last characters. -/
structure Span where
  start : Int
  stop : Int
  deriving DecidableEq, Repr

namespace Span

/-- The order of nodes in a list of children: by start, then by stop. -/
def le (a b : Span) : Bool :=
  a.start < b.start || (a.start == b.start && a.stop ≤ b.stop)

/-- Whether one stretch comes strictly before another in that order. -/
def lt (a b : Span) : Bool :=
  a.start < b.start || (a.start == b.start && a.stop < b.stop)

/-- A stretch as `first,last` in brackets. -/
def text (s : Span) : String :=
  "[" ++ toString s.start ++ "," ++ toString s.stop ++ "]"

end Span

/-- A position for readers: the name under which the document was given, its absolute name, and the
lines and columns, counted from one, of its first character and after its last. -/
structure Position where
  uri : String
  abspath : String
  line : Nat
  column : Nat
  endLine : Nat
  endColumn : Nat
  deriving DecidableEq, Repr

/-- The names of a document that its positions carry. -/
structure Origin where
  uri : String
  abspath : String
  deriving DecidableEq, Repr

namespace Origin

/-- A document without a name is called the buffer, and one without an absolute name goes by the
other one. -/
def ofNames (uri abspath : String) : Origin :=
  let named := if uri.isEmpty then "(buffer)" else uri
  ⟨named, if abspath.isEmpty then named else abspath⟩

/-- The position that begins and ends at one place. -/
def point (o : Origin) (line column : Nat) : Position :=
  ⟨o.uri, o.abspath, line, column, line, column⟩

end Origin
end Wdl
