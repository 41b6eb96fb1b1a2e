import Mathlib.Data.List.Nodup
import Wdl.Proofs.Document.InPlace

/-!
Requests are carried out as a whole or not at all.

Whatever requests have come before, a request that halts leaves the forest as it was, one for a node
that counts as one which is there changes nothing, and a node is attached just if its name has been
bound.  So there are never two parts of a node that count as the same, nor two of a kind that there
is room for once.
-/

namespace Wdl

/-! ## What a request does -/

namespace Request

variable (r : Request) (f : Forest)

/-- What a request is about is there. -/
structure Within : Prop where
  parent : r.parent < f.nextNode
  child : r.child < f.nextNode
  scope : ∀ s name, r.binding = some (s, name) → s < f.nextScope

/-- The node is below the one that it was to be attached to, and says so. -/
def Attached : Prop :=
  f.parent? r.child = some r.parent ∧ r.child ∈ f.children r.parent

/-- The name of the node has been added to those of a scope. -/
def Bound (g : Forest) (s : ScopeId) (name : String) : Prop :=
  (g.scope? s).map Scope.symbols = (f.scope? s).map fun sc => sc.symbols ++ [(name, r.child)]

/-- A request does all that it is about or changes nothing. -/
structure Atomic : Prop where
  /-- carried out step by step it comes to what attaching gives -/
  steps : r.steps f = match f.attach r.parent r.child r.binding with
    | .ok (g, id) => .ok id g
    | .error problem => .error (.refused problem) f
  /-- it halts only where it is refused, and leaves everything as it was -/
  refused : ∀ halt g, r.steps f = .error halt g → g = f ∧ ∃ problem, halt = .refused problem
  /-- of two nodes of the same kind and span the first one stays, whatever was to bind a name -/
  twin : ∀ id ∈ f.children r.parent, f.kind? id = f.kind? r.child → f.span id = f.span r.child →
    ∀ define, Forest.attachInPlace r.parent r.child define f = .ok id f
  /-- once the name has been bound, in whatever way, the node is attached -/
  completes : ∀ p c, f.Adopts r.parent r.child p c → ∀ (define : Change Unit) g,
    define f = .ok () g → g.nodes = f.nodes →
      ∃ h, Forest.attachInPlace r.parent r.child (some define) f = .ok r.child h ∧ r.Attached h
  /-- a node that is not attached yet becomes so just if its name is bound -/
  bound : f.parent? r.child = none → ∀ s name, r.binding = some (s, name) →
    (r.Attached (r.steps.after f) ↔ r.Bound f (r.steps.after f) s name)

end Request

namespace Forest

/-- No node has two parts that count as the same, a document has at most one workflow, and a task or
workflow at most one block of each kind. -/
structure Unrepeated (f : Forest) : Prop where
  children : ∀ id, (f.children id).Pairwise
    fun c c' => ¬(f.kind? c = f.kind? c' ∧ f.span c = f.span c')
  workflows : ∀ id d, f.body? id = some (.document d) →
    ((f.children id).filter fun c => f.kind? c == some .workflow).length ≤ 1
  taskBlocks : ∀ id x t k, f.body? id = some (.task x t) →
    ((f.children id).filter fun c => f.kind? c == some (.block k)).length ≤ 1
  workflowBlocks : ∀ id x w k, f.body? id = some (.workflow x w) →
    ((f.children id).filter fun c => f.kind? c == some (.block k)).length ≤ 1

variable {f g : Forest} {r : Request} {p c : Node}

theorem Grafts.attached (h : Grafts f g r.parent r.child) : r.Attached g := by
  refine ⟨by rw [h.parent?, if_pos rfl], g.mem_children.mpr ?_⟩
  rw [h.parts_perm.mem_iff]
  exact List.mem_append_right _ List.mem_cons_self

theorem kind?_of_node? {id : NodeId} {n : Node} (h : f.node? id = some n) :
    f.kind? id = some n.kind := by
  rw [kind?, h, Option.map_some]

theorem span_of_some {id : NodeId} {n : Node} (h : f.node? id = some n) : f.span id = n.span := by
  rw [span, h, Option.map_some, Option.getD_some]

/-- A name that is bound in a scope is added to it. -/
theorem bound_of_bind? {s : ScopeId} {name : String}
    (h : f.bind? r.child (some (s, name)) = .ok g) : r.Bound f g s name := by
  rw [Request.Bound, (define_ok h).2.2, scope?_modifyScope, if_pos rfl, Option.map_map]
  rfl

/-- No scope has more names than it has. -/
theorem not_bound {s : ScopeId} {name : String} (hs : s < f.nextScope) : ¬r.Bound f f s name := by
  intro h
  have hscope : f.scope? s = some f.scopes[s] := Array.getElem?_eq_getElem hs
  rw [Request.Bound, hscope, Option.map_some, Option.map_some, Option.some.injEq] at h
  have hlength := congrArg List.length h
  rw [List.length_append, List.length_singleton] at hlength
  exact absurd hlength (Nat.ne_of_lt (Nat.lt_succ_self _))

theorem bind?_nextScope {child : NodeId} {binding : Option (ScopeId × String)}
    (h : f.bind? child binding = .ok g) : g.nextScope = f.nextScope := by
  cases binding with
  | none => rw [Except.ok.inj h]
  | some b => rw [(define_ok h).2.2, nextScope_modifyScope]

namespace Regular

theorem exists_part (hr : Regular f) {id c : NodeId} (hc : c ∈ f.children id) :
    ∃ p n, f.node? id = some p ∧ f.node? c = some n ∧ p.body.accepts n.kind = true := by
  have hmem := f.mem_children.mp hc
  cases hp : f.node? id with
  | none =>
    rw [f.parts_of_le (f.node?_eq_none_iff.mp hp)] at hmem
    exact absurd hmem List.not_mem_nil
  | some p =>
    rw [f.parts_of_node? hp] at hmem
    obtain ⟨m, hm, haccepts, -⟩ := hr.accepted id p.body c (by rw [body?, hp, Option.map_some]) hmem
    obtain ⟨n, hn, rfl⟩ := Option.map_eq_some_iff.mp hm
    exact ⟨p, n, rfl, hn, haccepts⟩

theorem unrepeated (hr : Regular f) : f.Unrepeated where
  children id := by
    refine (hr.children_distinct id).imp_of_mem fun {x y} hx hy hne heq => hne ?_
    obtain ⟨-, n, -, hn, -⟩ := hr.exists_part hx
    obtain ⟨-, n', -, hn', -⟩ := hr.exists_part hy
    rw [kind?_of_node? hn, kind?_of_node? hn', span_of_some hn, span_of_some hn'] at heq
    rw [mark?_of_node? hn, mark?_of_node? hn', Option.some.inj heq.1, heq.2]
  workflows id d hd := hr.children_single hd rfl
  taskBlocks id x t k hx := hr.children_single hx rfl
  workflowBlocks id x w k hx := hr.children_single hx rfl

theorem refused (hr : Regular f) {halt : Halt} (h : r.steps f = .error halt g) :
    g = f ∧ ∃ problem, halt = .refused problem := by
  rw [steps_eq hr] at h
  cases hattach : f.attach r.parent r.child r.binding with
  | ok done =>
    rw [hattach] at h
    exact nomatch h
  | error problem =>
    rw [hattach] at h
    obtain ⟨rfl, rfl⟩ := EStateM.Result.error.inj h
    exact ⟨rfl, problem, rfl⟩

/-- A part of the same kind and span is the one that is found. -/
theorem twin?_eq_some (hr : Regular f) {parent id : NodeId} {n : Node}
    (hid : id ∈ f.children parent) (hn : f.node? id = some n) (hkind : n.kind = c.kind)
    (hspan : n.span = c.span) : f.twin? parent c = some id := by
  have hmark : f.mark? id = some (c.kind, c.span) := by rw [mark?_of_node? hn, hkind, hspan]
  cases htwin : f.twin? parent c with
  | none => exact absurd hmark (mark?_ne_of_twin htwin (f.mem_children.mp hid))
  | some id' =>
    have hid' := List.mem_of_find?_eq_some htwin
    have hsame := List.find?_some htwin
    obtain ⟨-, n', -, hn', -⟩ := hr.exists_part hid'
    rw [hn'] at hsame
    obtain ⟨hkind', hspan'⟩ := Bool.and_eq_true_iff.mp hsame
    have hmark' : f.mark? id' = f.mark? id := by
      rw [hmark, mark?_of_node? hn', beq_iff_eq.mp hkind', beq_iff_eq.mp hspan']
    have hnodup : ((f.children parent).map f.mark?).Nodup :=
      List.pairwise_map.mpr (hr.children_distinct parent)
    rw [List.inj_on_of_nodup_map hnodup hid' hid hmark']

theorem twin (hr : Regular f) (hchild : r.child < f.nextNode) {id : NodeId}
    (hid : id ∈ f.children r.parent) (hkind : f.kind? id = f.kind? r.child)
    (hspan : f.span id = f.span r.child) (define : Option (Change Unit)) :
    attachInPlace r.parent r.child define f = .ok id f := by
  obtain ⟨p, n, hp, hn, haccepts⟩ := hr.exists_part hid
  obtain ⟨c, hc⟩ := f.exists_node? hchild
  rw [kind?_of_node? hn, kind?_of_node? hc, Option.some.injEq] at hkind
  rw [span_of_some hn, span_of_some hc] at hspan
  exact attachInPlace_twin hp hc (hkind ▸ haccepts) (hr.twin?_eq_some hid hn hkind hspan) define

theorem completes (hr : Regular f) (ha : Adopts f r.parent r.child p c) {define : Change Unit}
    (hdefine : define f = .ok () g) (hnodes : g.nodes = f.nodes) :
    ∃ h, attachInPlace r.parent r.child (some define) f = .ok r.child h ∧ r.Attached h :=
  ⟨_, attachInPlace_ok hr ha hdefine hnodes, (ha.of_nodes hnodes).grafts.attached⟩

theorem after_steps (hr : Regular f) (r : Request) : r.steps.after f = f.serve r := by
  rw [Change.after, steps_eq hr, Forest.serve]
  cases f.attach r.parent r.child r.binding <;> rfl

theorem attached_iff_bound (hr : Regular f) (hwithin : r.Within f)
    (hparent : f.parent? r.child = none) {s : ScopeId} {name : String}
    (hbinding : r.binding = some (s, name)) :
    r.Attached (r.steps.after f) ↔ r.Bound f (r.steps.after f) s name := by
  rw [hr.after_steps]
  rcases f.serve_cases r with heq | ⟨p, c, g, hbind, ha, heq⟩
  · rw [heq]
    have hloose : ¬r.Attached f := fun h => nomatch hparent.symm.trans h.1
    exact iff_of_false hloose (not_bound (hwithin.scope s name hbinding))
  · rw [heq]
    rw [hbinding] at hbind
    refine iff_of_true ha.grafts.attached ?_
    rw [Request.Bound, scope?, adopt_scopes]
    exact bound_of_bind? hbind

theorem atomic (hr : Regular f) (hwithin : r.Within f) : r.Atomic f where
  steps := steps_eq hr r
  refused _ _ := hr.refused
  twin _ hid hkind hspan := hr.twin hwithin.child hid hkind hspan
  completes _ _ ha _ _ := hr.completes ha
  bound hparent _ _ hbinding := hr.attached_iff_bound hwithin hparent hbinding

end Regular

/-! ## Whole runs -/

/-- What is left of a forest after requests that are carried out one after the other. -/
def afterAll (f : Forest) (requests : List Request) : Forest :=
  requests.foldl (fun f r => r.steps.after f) f

namespace Regular

theorem steps (hr : Regular f) (r : Request) : Regular (r.steps.after f) := by
  rw [hr.after_steps]
  exact hr.serve r

theorem afterAll (hr : Regular f) (requests : List Request) : Regular (f.afterAll requests) := by
  induction requests generalizing f with
  | nil => exact hr
  | cons r rs ih => exact ih (hr.steps r)

/-- What is there stays there. -/
theorem within_steps (hr : Regular f) (h : r.Within f) (r' : Request) :
    r.Within (r'.steps.after f) := by
  rw [hr.after_steps]
  rcases f.serve_cases r' with heq | ⟨p, c, g, hbind, ha, heq⟩
  · rwa [heq]
  · have hnode : (g.adopt r'.parent p r'.child c).nextNode = f.nextNode :=
      (adopt_nextNode ..).trans (bind?_nextNode hbind)
    have hscope : (g.adopt r'.parent p r'.child c).nextScope = f.nextScope := by
      rw [nextScope, adopt_scopes]
      exact bind?_nextScope hbind
    rw [heq]
    exact ⟨hnode ▸ h.parent, hnode ▸ h.child, fun s name hs => hscope ▸ h.scope s name hs⟩

theorem within_afterAll (hr : Regular f) (h : r.Within f) (requests : List Request) :
    r.Within (f.afterAll requests) := by
  induction requests generalizing f with
  | nil => exact h
  | cons r' rs ih => exact ih (hr.steps r') (hr.within_steps h r')

end Regular

/-- From nodes without parts on, whatever requests have been carried out: no node has parts that
repeat, and every further request is carried out as a whole or not at all. -/
theorem attach_atomic (f : Forest) (hbare : ∀ id, f.parts id = []) (requests : List Request) :
    (f.afterAll requests).Unrepeated ∧
      ∀ r : Request, r.Within f → r.Atomic (f.afterAll requests) := by
  have hr := Regular.of_bare hbare
  have hafter := hr.afterAll requests
  exact ⟨hafter.unrepeated, fun r hwithin => hafter.atomic (hr.within_afterAll hwithin requests)⟩

/-- A document and two tasks of the same name. -/
def twoTasks : Forest where
  nodes := #[⟨.document { path := "two.wdl", scope := 0 }, ⟨0, 99⟩, none, none⟩,
    ⟨.task { name := "t", scope := 1 } {}, ⟨10, 39⟩, none, none⟩,
    ⟨.task { name := "t", scope := 2 } {}, ⟨50, 79⟩, none, none⟩]
  scopes := #[{ node := some 0 }, { node := some 1 }, { node := some 2 }]

theorem twoTasks_parts (id : NodeId) : twoTasks.parts id = [] :=
  match id with
  | 0 => rfl
  | 1 => rfl
  | 2 => rfl
  | id + 3 => parts_of_le _ (Nat.le_add_left 3 id)

/-- After the first task has been attached, the second one is attached as a whole or not at all. -/
theorem attach_atomic_twoTasks :
    (∀ id, twoTasks.parts id = []) ∧ Request.Within ⟨0, 2, some (0, "t")⟩ twoTasks ∧
      Request.Atomic ⟨0, 2, some (0, "t")⟩ (twoTasks.afterAll [⟨0, 1, some (0, "t")⟩]) := by
  have hwithin : Request.Within ⟨0, 2, some (0, "t")⟩ twoTasks := by
    refine ⟨by decide, by decide, fun s name h => ?_⟩
    obtain ⟨rfl, -⟩ := Prod.mk.inj (Option.some.inj h)
    decide
  exact ⟨twoTasks_parts, hwithin, (attach_atomic twoTasks twoTasks_parts _).2 _ hwithin⟩

end Forest
end Wdl
