/-!
Association lists that keep their order.
-/

namespace Wdl
namespace Assoc

/-- Binds a key: one that is present keeps its place and takes the new value, a new one goes to the
end. -/
def insert {α : Type} (key : String) (v : α) : List (String × α) → List (String × α)
  | [] => [(key, v)]
  | (k, w) :: rest => if k == key then (k, v) :: rest else (k, w) :: insert key v rest

/-- Whether a key is bound. -/
def contains {α : Type} (key : String) (l : List (String × α)) : Bool :=
  l.any fun kv => kv.1 == key

/-- Binds the keys of a second list after those of the first. -/
def update {α : Type} (l new : List (String × α)) : List (String × α) :=
  new.foldl (fun l kv => insert kv.1 kv.2 l) l

end Assoc
end Wdl
