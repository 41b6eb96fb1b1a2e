import Mathlib.Data.List.Nodup
import Mathlib.Data.List.Perm.Subperm
import Wdl.Proofs.Scope.Referent

/-!
Evaluation as a process.

The evaluator hands the declarations that wait for their values down as an argument, and the number
of nodes bounds how far.  Here evaluation is carried out with one record of the declarations that
wait: one that begins to wait is put in, and is taken out whether its value has been found or not.
A guard refuses some declarations; nothing else keeps the process from running on.  So it may have
come to no end however many lookups are allowed inside of one another.  Under the limit the process
ends with what the evaluator gives, `evaluate_ends`.
-/

namespace Wdl

/-- The declarations that wait for their values, and all such lists that there have been. -/
structure Waiting where
  active : List NodeId := []
  past : List (List NodeId) := []

namespace Waiting

def begin (w : Waiting) (symbol : NodeId) : Waiting :=
  ⟨symbol :: w.active, (symbol :: w.active) :: w.past⟩

def finish (w : Waiting) (symbol : NodeId) : Waiting :=
  { w with active := w.active.erase symbol }

end Waiting

/-- The end of a process: an outcome and the record that is left. -/
abbrev Ended (α : Type) := Except Fault α × Waiting

/-- A way to look names up that keeps the record. It may not have come to an end. -/
abbrev Search := Option Site → String → Waiting → Option (Ended Value)

/-- Why a declaration is refused, given those that wait and the name that stands for it. -/
abbrev Guard := List NodeId → NodeId → String → Option Failure

namespace Item

mutual

/-- Runs an item. -/
def runWith (search : Search) (site : Option Site) :
    Item → List Value → Waiting → Option (Ended (List Value))
  | .name n, stack, w => do
    let (x, w) ← search site n w
    some (x >>= fun v => .ok (v :: stack), w)
  | .nested info items, stack, w => do
    let (x, w) ← runAllWith search (some (.expression ⟨info, items⟩)) items [] w
    some (conclude ⟨info, items⟩ x >>= fun v => .ok (v :: stack), w)
  | i, stack, w => some (i.run (Lookup.ofBindings [] []) site stack, w)

/-- Runs items one after another. -/
def runAllWith (search : Search) (site : Option Site) :
    List Item → List Value → Waiting → Option (Ended (List Value))
  | [], stack, w => some (.ok stack, w)
  | i :: is, stack, w => do
    let (x, w) ← runWith search site i stack w
    match x with
    | .ok stack => runAllWith search site is stack w
    | .error fault => some (.error fault, w)

end

end Item

/-- Evaluates an expression. -/
def Expr.evaluateWith (e : Expr) (search : Search) (w : Waiting) : Option (Ended Value) := do
  let (x, w) ← Item.runAllWith search (some (.expression e)) e.items [] w
  some (conclude e x, w)

namespace Forest

/-- Looks up a name in a scope, with at most so many lookups inside of one another. -/
def lookupWith (f : Forest) (inputs : Bindings) (guard : Guard) :
    Nat → ScopeId → Search
  | 0, _, _, _, _ => none
  | depth + 1, scope, site, name, w =>
    match f.referent inputs scope name with
    | .given v => some (.ok v, w)
    | .missing p => some (.error (.ofProblem site p), w)
    | .endless => none
    | .declared b type e =>
      match guard w.active b.symbol name with
      | some failure => some (.error (.ofFailure site failure), w)
      | none => do
        let (x, w) ← e.evaluateWith (f.lookupWith inputs guard depth b.scope) (w.begin b.symbol)
        some (x >>= f.declaredValue name b.symbol type, w.finish b.symbol)

/-- Evaluates an expression in a scope, with at most so many lookups inside of one another. -/
def evaluateWith (f : Forest) (inputs : Bindings) (guard : Guard) (depth : Nat) (scope : ScopeId)
    (e : Expr) (w : Waiting) : Option (Ended Value) :=
  e.evaluateWith (f.lookupWith inputs guard depth scope) w

end Forest

/-! ## The record -/

/-- After some course of events the same declarations wait, and there has been no list of them
without a given property, unless there was one before. -/
structure Resumes (P : List NodeId → Prop) (w w' : Waiting) : Prop where
  active : w'.active = w.active
  past : P w.active → (∀ l ∈ w.past, P l) → ∀ l ∈ w'.past, P l

namespace Resumes

variable {P : List NodeId → Prop} {w w' w'' : Waiting}

theorem refl (w : Waiting) : Resumes P w w := ⟨rfl, fun _ h => h⟩

theorem trans (h : Resumes P w w') (h' : Resumes P w' w'') : Resumes P w w'' where
  active := h'.active.trans h.active
  past hactive hpast := h'.past (h.active ▸ hactive) (h.past hactive hpast)

/-- A declaration waits while its value is found. -/
theorem wait {symbol : NodeId} (hsymbol : P w.active → P (symbol :: w.active))
    (h : Resumes P (w.begin symbol) w') : Resumes P w (w'.finish symbol) where
  active := by
    rw [Waiting.finish, h.active]
    exact List.erase_cons_head ..
  past hactive hpast :=
    h.past (hsymbol hactive) (List.forall_mem_cons.mpr ⟨hsymbol hactive, hpast⟩)

end Resumes

section Record

variable {P : List NodeId → Prop} {search : Search}

mutual

theorem Item.runWith_resumes (hsearch : ∀ site name w r, search site name w = some r →
    Resumes P w r.2) (site : Option Site) : (i : Item) → (stack : List Value) → (w : Waiting) →
    (r : Ended (List Value)) → i.runWith search site stack w = some r → Resumes P w r.2
  | .name n, stack, w, r, h => by
    rw [runWith] at h
    obtain ⟨⟨x, w'⟩, hlookup, hr⟩ := Option.bind_eq_some_iff.mp h
    obtain rfl := Option.some.inj hr
    exact hsearch site n w _ hlookup
  | .nested info items, stack, w, r, h => by
    rw [runWith] at h
    obtain ⟨⟨x, w'⟩, hrun, hr⟩ := Option.bind_eq_some_iff.mp h
    obtain rfl := Option.some.inj hr
    have hitems := runAllWith_resumes hsearch _ items [] w _ hrun
    exact hitems
  | .literal _, _, w, r, h | .operator _, _, w, r, h | .apply _ _, _, w, r, h
  | .invalid _, _, w, r, h => by
    rw [runWith] at h
    · obtain rfl := Option.some.inj h
      exact .refl w
    all_goals simp

theorem Item.runAllWith_resumes (hsearch : ∀ site name w r, search site name w = some r →
    Resumes P w r.2) (site : Option Site) : (is : List Item) → (stack : List Value) →
    (w : Waiting) → (r : Ended (List Value)) → runAllWith search site is stack w = some r →
    Resumes P w r.2
  | [], stack, w, r, h => by
    rw [runAllWith] at h
    obtain rfl := Option.some.inj h
    exact .refl w
  | i :: is, stack, w, r, h => by
    rw [runAllWith] at h
    obtain ⟨⟨x, w'⟩, hrun, hr⟩ := Option.bind_eq_some_iff.mp h
    have hfirst := runWith_resumes hsearch site i stack w _ hrun
    cases x with
    | ok stack => exact hfirst.trans (runAllWith_resumes hsearch site is stack w' r hr)
    | error fault =>
      obtain rfl := Option.some.inj hr
      exact hfirst

end

theorem Expr.evaluateWith_resumes (hsearch : ∀ site name w r, search site name w = some r →
    Resumes P w r.2) (e : Expr) (w : Waiting) {r : Ended Value}
    (h : e.evaluateWith search w = some r) : Resumes P w r.2 := by
  obtain ⟨⟨x, w'⟩, hrun, hr⟩ := Option.bind_eq_some_iff.mp h
  obtain rfl := Option.some.inj hr
  exact Item.runAllWith_resumes hsearch _ e.items [] w _ hrun

namespace Forest

/-- What a lookup puts into the record it takes out again, whatever it comes to; and if the guard
lets nothing wait that would break a property of the record, the property is never broken. -/
theorem lookupWith_resumes (f : Forest) (inputs : Bindings) {guard : Guard}
    (hguard : ∀ active symbol name, guard active symbol name = none →
      P active → P (symbol :: active)) (depth : Nat) (scope : ScopeId) (site : Option Site)
    (name : String) (w : Waiting) {r : Ended Value}
    (h : f.lookupWith inputs guard depth scope site name w = some r) : Resumes P w r.2 := by
  induction depth generalizing scope site name w r with
  | zero => cases h
  | succ depth ih =>
    rw [lookupWith] at h
    split at h
    · obtain rfl := Option.some.inj h
      exact .refl w
    · obtain rfl := Option.some.inj h
      exact .refl w
    · cases h
    · next b type e _ =>
      split at h
      · obtain rfl := Option.some.inj h
        exact .refl w
      · next hnone =>
        obtain ⟨⟨x, w'⟩, hevaluate, hr⟩ := Option.bind_eq_some_iff.mp h
        obtain rfl := Option.some.inj hr
        exact .wait (hguard _ _ _ hnone)
          (e.evaluateWith_resumes (fun site name w _ => ih b.scope site name w) _ hevaluate)

end Forest

end Record

/-! ## The process and its outcome -/

/-- A process comes to an outcome, or the outcome is a fault for one of some causes. -/
def Tracks {α : Type} (C : Cause → Prop) (x : Except Fault α) (ended : Option (Ended α)) : Prop :=
  Fails C x ∨ ∃ w, ended = some (x, w)

section Course

variable {lookup : Lookup} {search : Search} {C : Cause → Prop} {active : List NodeId}

mutual

/-- If the names in an item are looked up as the process does it, the item is run so. -/
theorem Item.runWith_tracks
    (hrecord : ∀ site name w r, search site name w = some r → r.2.active = w.active)
    (site : Option Site) : (i : Item) → (stack : List Value) → (w : Waiting) →
    w.active = active → (∀ n, .name n ∈ i.parts → ∀ site w, w.active = active →
      Tracks C (lookup site n) (search site n w)) →
    Tracks C (i.run lookup site stack) (i.runWith search site stack w)
  | .name n, stack, w, hw, h => by
    rw [runWith, Item.run]
    obtain hfails | ⟨w', hlookup⟩ := h n List.mem_cons_self site w hw
    · exact .inl (hfails.bind _)
    · rw [hlookup]
      exact .inr ⟨w', rfl⟩
  | .nested info items, stack, w, hw, h => by
    rw [runWith, Item.run]
    obtain hfails | ⟨w', hrun⟩ := runAllWith_tracks hrecord (some (.expression ⟨info, items⟩))
      items [] w hw fun n hn => h n (List.mem_cons_of_mem _ hn)
    · exact .inl ((hfails.conclude _).bind _)
    · rw [hrun]
      exact .inr ⟨w', rfl⟩
  | .literal _, _, w, _, _ | .operator _, _, w, _, _ | .apply _ _, _, w, _, _
  | .invalid _, _, w, _, _ => by
    rw [runWith]
    · exact .inr ⟨w, rfl⟩
    all_goals simp

theorem Item.runAllWith_tracks
    (hrecord : ∀ site name w r, search site name w = some r → r.2.active = w.active)
    (site : Option Site) : (is : List Item) → (stack : List Value) → (w : Waiting) →
    w.active = active → (∀ n, .name n ∈ partsOf is → ∀ site w, w.active = active →
      Tracks C (lookup site n) (search site n w)) →
    Tracks C (runAll lookup site is stack) (runAllWith search site is stack w)
  | [], stack, w, _, _ => by
    rw [runAllWith]
    exact .inr ⟨w, rfl⟩
  | i :: is, stack, w, hw, h => by
    rw [runAllWith, Item.runAll]
    obtain hfails | ⟨w', hrun⟩ := runWith_tracks hrecord site i stack w hw
      fun n hn => h n (List.mem_append_left _ hn)
    · exact .inl (hfails.bind _)
    · have hresumes := runWith_resumes (P := fun _ => True) (fun site name w r hr =>
        ⟨hrecord site name w r hr, fun _ _ _ _ => trivial⟩) site i stack w _ hrun
      have hw' : w'.active = active := hresumes.active.trans hw
      rw [hrun]
      cases i.run lookup site stack with
      | error fault => exact .inr ⟨w', rfl⟩
      | ok stack =>
        exact runAllWith_tracks hrecord site is stack w' hw'
          fun n hn => h n (List.mem_append_right _ hn)

end

theorem Expr.evaluateWith_tracks
    (hrecord : ∀ site name w r, search site name w = some r → r.2.active = w.active)
    (e : Expr) (w : Waiting) (h : ∀ n ∈ e.names, ∀ site w', w'.active = w.active →
      Tracks C (lookup site n) (search site n w')) :
    Tracks C (e.evaluate lookup) (e.evaluateWith search w) := by
  rw [evaluateWith]
  obtain hfails | ⟨w', hrun⟩ := Item.runAllWith_tracks hrecord (some (.expression e)) e.items [] w
    rfl fun n hn => h n (Expr.mem_names.mpr hn)
  · exact .inl (hfails.conclude _)
  · rw [hrun]
    exact .inr ⟨w', rfl⟩

end Course

namespace Forest

section Course

variable {f : Forest} {inputs : Bindings} {guard : Guard} {C : Cause → Prop} {scope : ScopeId}

theorem lookupWith_active {depth : Nat} (site : Option Site) (name : String) (w : Waiting)
    (r : Ended Value) (h : f.lookupWith inputs guard depth scope site name w = some r) :
    r.2.active = w.active :=
  (lookupWith_resumes f inputs (P := fun _ => True) (fun _ _ _ _ _ => trivial) depth scope site name
    w h).active

/-- There are no more different nodes than there are nodes. -/
theorem length_le_nodes {l : List NodeId} (hdistinct : l.Nodup)
    (hnodes : ∀ id ∈ l, id < f.nodes.size) : l.length ≤ f.nodes.size := by
  have hsub := hdistinct.subperm fun id hid => List.mem_range.mpr (hnodes id hid)
  simpa using hsub.length_le

variable {maxDepth : Int}

/-- A name is looked up as the process does it. The guard may differ from the limit where it would
cause one of the faults that are set apart; that there are only so many nodes keeps both the fuel
and the process from running out. -/
theorem lookupIn_tracks
    (hguard : ∀ active symbol name, guard active symbol name = refusal maxDepth active symbol name ∨
      ∃ failure, refusal maxDepth active symbol name = some failure ∧ C (.failure failure))
    (fuel depth : Nat) {scope : ScopeId} {e : Expr} {name : String} (hname : name ∈ e.names)
    (hanswers : f.Answers inputs scope e) (site : Option Site) (w : Waiting)
    (hdistinct : w.active.Nodup) (hnodes : ∀ id ∈ w.active, id < f.nodes.size)
    (hfuel : f.nodes.size < fuel + w.active.length)
    (hdepth : f.nodes.size < depth + w.active.length) :
    Tracks C (f.lookupIn inputs maxDepth fuel w.active scope site name)
      (f.lookupWith inputs guard depth scope site name w) := by
  have hlength := length_le_nodes hdistinct hnodes
  induction fuel generalizing depth scope e name site w with
  | zero => omega
  | succ fuel ih =>
    cases depth with
    | zero => omega
    | succ depth =>
      rw [lookupIn_succ, lookupWith]
      cases hreferent : f.referent inputs scope name with
      | given v => exact .inr ⟨w, rfl⟩
      | missing p => exact .inr ⟨w, rfl⟩
      | endless => exact absurd hreferent (hanswers.referent_ne hname)
      | declared b type d =>
        dsimp only
        obtain heq | ⟨failure, hrefusal, hfailure⟩ := hguard w.active b.symbol name
        · rw [heq]
          cases hrefusal : refusal maxDepth w.active b.symbol name with
          | some failure => exact .inr ⟨w, rfl⟩
          | none =>
            have hnew := (refusal_eq_none.mp hrefusal).1
            have hbound := lt_of_kind? (of_referent_declared hreferent).1
            have htracks : Tracks C
                (d.evaluate (f.lookupIn inputs maxDepth fuel (b.symbol :: w.active) b.scope))
                (d.evaluateWith (f.lookupWith inputs guard depth b.scope) (w.begin b.symbol)) := by
              refine d.evaluateWith_tracks lookupWith_active (w.begin b.symbol)
                fun n hn site w' hw' => ?_
              have hdistinct' : w'.active.Nodup := hw' ▸ List.nodup_cons.mpr ⟨hnew, hdistinct⟩
              have hnodes' : ∀ id ∈ w'.active, id < f.nodes.size :=
                hw' ▸ List.forall_mem_cons.mpr ⟨hbound, hnodes⟩
              have hlength' : w'.active.length = w.active.length + 1 := congrArg List.length hw'
              rw [← show w'.active = b.symbol :: w.active from hw']
              exact ih depth hn (hanswers.declared hname hreferent) site w' hdistinct' hnodes'
                (by omega) (by omega) (length_le_nodes hdistinct' hnodes')
            obtain hfails | ⟨w', hevaluate⟩ := htracks
            · exact .inl (hfails.bind _)
            · rw [hevaluate]
              exact .inr ⟨w'.finish b.symbol, rfl⟩
        · rw [hrefusal]
          exact .inl ⟨_, rfl, hfailure⟩

/-- An expression is evaluated as the process does it. -/
theorem evaluate_tracks
    (hguard : ∀ active symbol name, guard active symbol name = refusal maxDepth active symbol name ∨
      ∃ failure, refusal maxDepth active symbol name = some failure ∧ C (.failure failure))
    {scope : ScopeId} {e : Expr} (hanswers : f.Answers inputs scope e) {depth : Nat}
    (hdepth : f.nodes.size < depth) :
    Tracks C (e.evaluate (f.lookup inputs maxDepth scope))
      (f.evaluateWith inputs guard depth scope e {}) := by
  refine e.evaluateWith_tracks lookupWith_active {} fun n hn site w hw => ?_
  have hactive : w.active = [] := hw
  rw [lookup, ← hactive]
  refine lookupIn_tracks hguard (f.nodes.size + 1) depth hn hanswers site w ?_ ?_ (by omega)
    (by omega)
  · exact hactive ▸ List.nodup_nil
  · exact hactive ▸ List.forall_mem_nil _

end Course

/-! ## Evaluation ends -/

/-- If every name that it may come to has an answer, the process of an evaluation ends, with the
outcome that the evaluator gives, once lookups may be as deep as there are nodes. In its course no
declaration waits twice at once, and no more declarations wait than the limit allows; and any lookup
leaves those waiting that waited before. -/
theorem evaluate_ends (f : Forest) (inputs : Bindings) (maxDepth : Int) (scope : ScopeId) (e : Expr)
    (hanswers : f.Answers inputs scope e) :
    (∀ depth, f.nodes.size < depth → ∃ w,
      f.evaluateWith inputs (refusal maxDepth) depth scope e {} =
        some (e.evaluate (f.lookup inputs maxDepth scope), w) ∧
      w.active = [] ∧
      ∀ active ∈ w.past, active.Nodup ∧ (active.length : Int) ≤ max maxDepth 0) ∧
    ∀ depth s site name w x w',
      f.lookupWith inputs (refusal maxDepth) depth s site name w = some (x, w') →
        w'.active = w.active := by
  have hguard : ∀ active symbol name, refusal maxDepth active symbol name = none →
      active.Nodup ∧ (active.length : Int) ≤ max maxDepth 0 →
        (symbol :: active).Nodup ∧ ((symbol :: active).length : Int) ≤ max maxDepth 0 := by
    intro active symbol name hrefusal hactive
    obtain ⟨hnew, hdepth⟩ := refusal_eq_none.mp hrefusal
    refine ⟨List.nodup_cons.mpr ⟨hnew, hactive.1⟩, ?_⟩
    rw [List.length_cons]
    omega
  refine ⟨fun depth hdepth => ?_, fun depth s site name w x w' h => lookupWith_active site name w _ h⟩
  obtain ⟨fault, -, hfalse⟩ | ⟨w, hevaluate⟩ :=
    evaluate_tracks (C := fun _ => False) (fun _ _ _ => .inl rfl) hanswers hdepth
  · exact hfalse.elim
  · have hend := e.evaluateWith_resumes (fun site name w _ =>
      lookupWith_resumes f inputs hguard depth scope site name w) {} hevaluate
    have hpast := hend.past ⟨List.nodup_nil, Int.le_max_right ..⟩ (List.forall_mem_nil _)
    exact ⟨w, hevaluate, hend.active, hpast⟩

section Example

/-- In the example, where declarations need each other, evaluation ends all the same. -/
theorem evaluate_ends_cycle :
    cycleForest.Answers [] 1 (.ofName "a") ∧
    ∀ depth, cycleForest.nodes.size < depth → ∃ w,
      cycleForest.evaluateWith [] (refusal 100) depth 1 (.ofName "a") {} =
        some ((Expr.ofName "a").evaluate (cycleForest.lookup [] 100 1), w) ∧
      w.active = [] ∧
      ∀ active ∈ w.past, active.Nodup ∧ (active.length : Int) ≤ max 100 0 :=
  ⟨cycleForest_answers [] 1 _,
    (evaluate_ends cycleForest [] 100 1 _ (cycleForest_answers [] 1 _)).1⟩

end Example

end Forest
end Wdl
