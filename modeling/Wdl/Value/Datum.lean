import Wdl.Value

/-!
Values from JSON data.

`Value.infer` takes a scalar for the value that its form suggests, and `Datum.ofJson` for a value of
a stated type. A Boolean may be given as one of the numbers zero and one; it is then shown as that
number, so a datum keeps the data that it was made from.
-/

namespace Wdl

/-- The value that a scalar suggests. -/
def Value.infer : Json → Except Failure Value
  | .str s => .ok (.string s)
  | .bool b => .ok (.boolean b)
  | .int n => .ok (.int n)
  | .float x => .ok (.float x)
  | .null => .ok .null
  | j => .error (.incompatible ("couldn't construct value from: " ++ j.render))

/-- A value with the data that it was made from. -/
structure Datum where
  value : Value
  source : Json

namespace Datum

/-- The truth value that data stands for: a Boolean, or one of the numbers zero and one. -/
def truth? : Json → Option Bool
  | .bool b => some b
  | .int n => if n == 1 then some true else if n == 0 then some false else none
  | .float x => if x == 1.0 then some true else if x == 0.0 then some false else none
  | _ => none

/-- A value of an atomic type from data, if the data fits. -/
def atomic? (b : Base) (j : Json) : Option (Except Failure Value) :=
  match b, j with
  | .boolean, j => (truth? j).map fun b => .ok (.boolean b)
  | .int, .int n => some (.ok (.int n))
  | .float, .float x => some (.ok (.float x))
  | .float, .int n => some (Value.floatOfInt n)
  | .float, .bool b => some (.ok (.float (if b then 1.0 else 0.0)))
  | .file, .str s => some (.ok (.file s))
  | .string, .str s => some (.ok (.string s))
  | _, _ => none

/-- A value of a stated type from data. -/
def ofJson (t : Ty) (j : Json) : Except Failure Datum :=
  match t.base with
  | .any => (Value.infer j).map (⟨·, j⟩)
  | b =>
    match atomic? b j, j with
    | some v, _ => v.map (⟨·, j⟩)
    | none, .null =>
      if t.optional then .ok ⟨.null, j⟩ else .error (refusal t j)
    | none, _ => .error (refusal t j)
where
  refusal (t : Ty) (j : Json) : Failure :=
    .incompatible ("couldn't construct " ++ t.text ++ " from " ++ j.render)

/-- A datum as data: a Boolean as it was given, any other value by its content. -/
def shown (d : Datum) : String :=
  match d.value with
  | .boolean _ => d.source.render
  | v => v.shown

/-- A datum with its class, as debugging output shows it. -/
def described (d : Datum) : String :=
  match d.value, d.source with
  | .boolean _, .int n => "Boolean(" ++ toString n ++ ")"
  | .boolean _, .float x => "Boolean(" ++ Decimal.plain.render x ++ ")"
  | v, _ => v.described

end Datum
end Wdl
