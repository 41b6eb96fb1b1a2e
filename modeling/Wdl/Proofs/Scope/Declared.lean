import Wdl.Proofs.Scope.Referent

/-!
Values of declarations.

What a declaration of an atomic type stands for has been taken for a value of that type.  The rules
for this are given twice, by what is done with values and by a relation between types; they agree
but for strings, which anything has a text for.  A value that has been taken for one of a type stays
as it is when it is taken for one again, so it makes no difference how often that is done.
-/

namespace Wdl

/-! ## Types of values -/

/-- An atomic type is the one that its own text names. -/
theorem Ty.ofText?_text {t : Ty} (h : t.base ∈ declarable) : ofText? t.text = some t := by
  obtain ⟨base, optional⟩ := t
  have hall : ∀ base ∈ declarable, ∀ optional, ofText? (Ty.text ⟨base, optional⟩) =
      some ⟨base, optional⟩ := by decide +kernel
  exact hall base h optional

theorem Ty.mem_declarable_of_ofText? {s : String} {t : Ty} (h : ofText? s = some t) :
    t.base ∈ declarable := by
  obtain ⟨base, hbase, rfl⟩ := Option.map_eq_some_iff.mp h
  exact List.mem_of_find?_eq_some hbase

/-- The table of what widens to what. -/
theorem Base.widens_iff (a b : Base) :
    a.widens b = true ↔ b = .any ∨ a = b ∨
      (a = .int ∧ b = .float) ∨ (a = .string ∧ b = .file) ∨ (a = .file ∧ b = .string) := by
  cases a <;> cases b <;> decide

namespace Value

/-- `v.Taken t w` says that `w` is what the value `v` becomes as one of the type `t`. -/
inductive Taken : Value → Ty → Value → Prop
  | missing {t : Ty} : t.optional = true ∨ t.base = .any → Taken .null t .null
  | rounded {n : Int} {x : Float} {t : Ty} :
    t.base = .float → Binary64.ofInt? n = some x → Taken (.int n) t (.float x)
  | path {s : String} {t : Ty} : t.base = .file → Taken (.string s) t (.file s)
  | written {v : Value} {t : Ty} : v ≠ .null → t.base = .string → Taken v t (.string v.text)
  | kept {v : Value} {t : Ty} : v ≠ .null → t.base = .any ∨ v.type.base = t.base → Taken v t v

variable {v w : Value} {t : Ty}

/-- The missing value is of a type that any optional one allows, and all others are of a type that
is not optional. -/
theorem coerces_null (t : Ty) :
    Value.null.type.coerces t = true ↔ t.optional = true ∨ t.base = .any := by
  obtain ⟨base, optional⟩ := t
  cases base <;> cases optional <;> decide

theorem coerces_iff_widens (hv : v ≠ .null) (t : Ty) :
    v.type.coerces t = true ↔ v.type.base.widens t.base = true := by
  cases v with
  | null => exact absurd rfl hv
  | _ => simp [type, Ty.coerces, Ty.quantifierFits, Ty.boolean, Ty.int, Ty.float, Ty.string, Ty.file]

theorem exists_int (h : v.type.base = .int) : ∃ n, v = .int n := by
  cases v with
  | int n => exact ⟨n, rfl⟩
  | _ => exact nomatch h

theorem exists_string (h : v.type.base = .string) : ∃ s, v = .string s := by
  cases v with
  | string s => exact ⟨s, rfl⟩
  | _ => exact nomatch h

theorem floatOfInt_eq_ok {n : Int} (h : floatOfInt n = .ok w) :
    ∃ x, Binary64.ofInt? n = some x ∧ w = .float x := by
  unfold floatOfInt at h
  split at h
  · next x hx => exact ⟨x, hx, (Except.ok.inj h).symm⟩
  · exact nomatch h

theorem taken_of_coerce (h : v.coerce t = .ok w) : v.Taken t w := by
  unfold coerce at h
  split at h
  · split at h
    · next hallowed =>
      obtain rfl := Except.ok.inj h
      exact .missing (by simpa using hallowed)
    · exact nomatch h
  · next hbase =>
    obtain ⟨x, hx, rfl⟩ := floatOfInt_eq_ok h
    exact .rounded hbase hx
  · next hbase =>
    obtain rfl := Except.ok.inj h
    exact .path hbase
  · next hbase =>
    obtain rfl := Except.ok.inj h
    exact .written nofun hbase
  · next hbase =>
    obtain rfl := Except.ok.inj h
    exact .kept nofun (.inr hbase.symm)
  · next hnull _ _ hbase =>
    obtain rfl := Except.ok.inj h
    exact .written hnull hbase
  · next hnull hstring hint hpath _ _ =>
    split at h
    · next hcoerces =>
      obtain rfl := Except.ok.inj h
      refine .kept hnull ?_
      rw [coerces_iff_widens hnull, Base.widens_iff] at hcoerces
      rcases hcoerces with hany | hsame | ⟨htype, hbase⟩ | ⟨htype, hbase⟩ | ⟨-, hbase⟩
      · exact .inl hany
      · exact .inr hsame
      · obtain ⟨n, hn⟩ := exists_int htype
        exact (hint n hn hbase).elim
      · obtain ⟨s, hs⟩ := exists_string htype
        exact (hpath s hs hbase).elim
      · exact absurd hbase hstring
    · exact nomatch h

theorem Taken.coerce_eq (h : Taken v t w) : v.coerce t = .ok w := by
  obtain ⟨base, optional⟩ := t
  cases h with
  | missing hallowed => cases base <;> cases optional <;> first | rfl | simp at hallowed
  | rounded hbase hx =>
    obtain rfl : base = .float := hbase
    change floatOfInt _ = _
    rw [floatOfInt, hx]
  | path hbase =>
    obtain rfl : base = .file := hbase
    rfl
  | written hnull hbase =>
    obtain rfl : base = .string := hbase
    cases v with
    | null => exact absurd rfl hnull
    | _ => rfl
  | kept hnull hbase =>
    cases v with
    | null => exact absurd rfl hnull
    | _ =>
      rcases hbase with hbase | hbase
      · obtain rfl : base = .any := hbase
        rfl
      · obtain rfl := hbase
        rfl

/-- The values that a value can be taken for. -/
theorem coerce_eq_ok_iff : v.coerce t = .ok w ↔ v.Taken t w :=
  ⟨taken_of_coerce, Taken.coerce_eq⟩

/-- What a value can be taken for, its type allows, or it is a string. -/
theorem Taken.allowed (h : Taken v t w) :
    v.type.coerces t = true ∨ (t.base = .string ∧ v ≠ .null) := by
  have hwidens : v ≠ .null → v.type.base.widens t.base = true → v.type.coerces t = true :=
    fun hv => (coerces_iff_widens hv t).mpr
  cases h with
  | missing hallowed => exact .inl ((coerces_null t).mpr hallowed)
  | rounded hbase _ => exact .inl (hwidens nofun (by rw [hbase]; rfl))
  | path hbase => exact .inl (hwidens nofun (by rw [hbase]; rfl))
  | written hnull hbase => exact .inr ⟨hbase, hnull⟩
  | kept hnull hbase =>
    exact .inl (hwidens hnull ((Base.widens_iff _ _).mpr (hbase.imp_right .inl)))

theorem Taken.finite {n : Int} (h : Taken (.int n) t w) (hbase : t.base = .float) :
    (Binary64.ofInt? n).isSome = true := by
  cases h with
  | rounded _ hx => exact Option.isSome_of_eq_some hx
  | written _ hstring => exact nomatch hstring.symm.trans hbase
  | kept _ hsame =>
    rw [hbase] at hsame
    exact hsame.elim nofun nofun

theorem exists_taken (hallowed : v.type.coerces t = true ∨ (t.base = .string ∧ v ≠ .null))
    (hfinite : ∀ n, v = .int n → t.base = .float → (Binary64.ofInt? n).isSome = true) :
    ∃ w, Taken v t w := by
  by_cases hnull : v = .null
  · subst hnull
    have hcoerces := hallowed.resolve_right fun h => h.2 rfl
    exact ⟨.null, .missing ((coerces_null t).mp hcoerces)⟩
  by_cases hstring : t.base = .string
  · exact ⟨_, .written hnull hstring⟩
  have hcoerces := hallowed.resolve_right fun h => hstring h.1
  rw [coerces_iff_widens hnull, Base.widens_iff] at hcoerces
  rcases hcoerces with hany | hsame | ⟨htype, hbase⟩ | ⟨htype, hbase⟩ | ⟨-, hbase⟩
  · exact ⟨v, .kept hnull (.inl hany)⟩
  · exact ⟨v, .kept hnull (.inr hsame)⟩
  · obtain ⟨n, rfl⟩ := exists_int htype
    obtain ⟨x, hx⟩ := Option.isSome_iff_exists.mp (hfinite n rfl hbase)
    exact ⟨.float x, .rounded hbase hx⟩
  · obtain ⟨s, rfl⟩ := exists_string htype
    exact ⟨.file s, .path hbase⟩
  · exact absurd hbase hstring

/-- Taking a value for one of a type succeeds if its own type allows it or the type is that of
strings; of the integers only those that are not too large have a floating point number. -/
theorem coerce_ok_iff (v : Value) (t : Ty) :
    (∃ w, v.coerce t = .ok w) ↔
      (v.type.coerces t = true ∨ (t.base = .string ∧ v ≠ .null)) ∧
        ∀ n, v = .int n → t.base = .float → (Binary64.ofInt? n).isSome = true := by
  simp only [coerce_eq_ok_iff]
  constructor
  · rintro ⟨w, h⟩
    refine ⟨h.allowed, ?_⟩
    rintro n rfl hbase
    exact h.finite hbase
  · rintro ⟨hallowed, hfinite⟩
    exact exists_taken hallowed hfinite

/-- What a value has been taken for is left as it is. -/
theorem Taken.again (h : Taken v t w) : Taken w t w := by
  cases h with
  | missing hallowed => exact .missing hallowed
  | rounded hbase _ => exact .kept nofun (.inr hbase.symm)
  | path hbase => exact .kept nofun (.inr hbase.symm)
  | written _ hbase => exact .kept nofun (.inr hbase.symm)
  | kept hnull hbase => exact .kept hnull hbase

/-- A value that is taken for one of an atomic type has that type, unless it is missing. -/
theorem Taken.kind (ht : t.base ∈ Ty.declarable) (h : Taken v t w) :
    w.kind = t.base.name ∨ (w = .null ∧ t.optional = true) := by
  have hany : t.base ≠ .any := fun hany => by
    rw [hany] at ht
    exact absurd ht (by decide)
  cases h with
  | missing hallowed => exact .inr ⟨rfl, hallowed.resolve_right hany⟩
  | rounded hbase _ => exact .inl (by rw [hbase]; rfl)
  | path hbase => exact .inl (by rw [hbase]; rfl)
  | written _ hbase => exact .inl (by rw [hbase]; rfl)
  | kept hnull hbase =>
    rw [← hbase.resolve_left hany]
    cases v with
    | null => exact absurd rfl hnull
    | _ => exact .inl rfl

end Value

/-! ## Declared types -/

namespace Forest

variable {f : Forest} {inputs : Bindings} {maxDepth : Int} {fuel : Nat} {active : List NodeId}
  {scope : ScopeId} {site : Option Site} {name : String} {b : Binding} {d : DeclarationBody}
  {t : Ty} {v w : Value}

theorem coerce_of_declaredValue {symbol : NodeId} (ht : Ty.ofText? d.type = some t)
    (h : f.declaredValue name symbol d.type w = .ok v) : w.coerce t = .ok v := by
  unfold declaredValue at h
  rw [ht] at h
  dsimp only at h
  split at h
  · next u hu => rw [hu, Except.ok.inj h]
  · exact nomatch h
  · exact nomatch h

theorem referent_of_declaration (hinput : inputs.lookup name = none)
    (hresolve : f.resolve [] scope (Text.splitOn '.' name) = .ok b)
    (hbody : f.body? b.symbol = some (.declaration d)) :
    (∃ p, f.referent inputs scope name = .missing p) ∨
      ∃ e, f.referent inputs scope name = .declared b d.type e := by
  unfold referent
  simp only [hinput, hresolve, hbody]
  split
  · exact .inl ⟨_, rfl⟩
  · split
    · exact .inl ⟨_, rfl⟩
    · next e _ => exact .inr ⟨e, rfl⟩

/-- The value of a name that stands for a declaration is what the value of the initializer has been
taken for. -/
theorem exists_coerce_of_lookupIn (hinput : inputs.lookup name = none)
    (hresolve : f.resolve [] scope (Text.splitOn '.' name) = .ok b)
    (hbody : f.body? b.symbol = some (.declaration d)) (ht : Ty.ofText? d.type = some t)
    (h : f.lookupIn inputs maxDepth fuel active scope site name = .ok v) :
    ∃ w : Value, w.coerce t = .ok v := by
  cases fuel with
  | zero => exact nomatch h
  | succ fuel =>
    rw [lookupIn_succ] at h
    rcases referent_of_declaration hinput hresolve hbody with ⟨p, hmissing⟩ | ⟨e, hdeclared⟩
    · rw [hmissing] at h
      exact nomatch h
    · rw [hdeclared] at h
      dsimp only at h
      split at h
      · exact nomatch h
      · generalize e.evaluate _ = outcome at h
        cases outcome with
        | error fault => exact nomatch h
        | ok w => exact ⟨w, coerce_of_declaredValue ht h⟩

/-- What a name of a declared atomic type is found to be has just that type, or is missing where the
type is optional; a value is taken for one of a type just where its type or a text allows it, and
only once. -/
theorem lookupIn_respects_type :
    (∀ (f : Forest) inputs maxDepth fuel active scope site name b d t v,
      inputs.lookup name = none →
      f.resolve [] scope (Text.splitOn '.' name) = .ok b →
      f.body? b.symbol = some (.declaration d) →
      Ty.ofText? d.type = some t →
      f.lookupIn inputs maxDepth fuel active scope site name = .ok v →
      v.kind = t.base.name ∨ (v = .null ∧ t.optional = true)) ∧
    (∀ t : Ty, t.base ∈ Ty.declarable → Ty.ofText? t.text = some t) ∧
    (∀ (v : Value) (t : Ty), (∃ w, v.coerce t = .ok w) ↔
      (v.type.coerces t = true ∨ (t.base = .string ∧ v ≠ .null)) ∧
        ∀ n, v = .int n → t.base = .float → (Binary64.ofInt? n).isSome = true) ∧
    ∀ (v w : Value) (t : Ty), v.coerce t = .ok w → w.coerce t = .ok w := by
  refine ⟨?_, fun t => Ty.ofText?_text, Value.coerce_ok_iff, fun v w t h => ?_⟩
  · intro f inputs maxDepth fuel active scope site name b d t v hinput hresolve hbody ht h
    obtain ⟨w, hw⟩ := exists_coerce_of_lookupIn hinput hresolve hbody ht h
    exact (Value.taken_of_coerce hw).kind (Ty.mem_declarable_of_ofText? ht)
  · exact (Value.taken_of_coerce h).again.coerce_eq

section Example

/-- The declarations `String s = 1` and `Int? n = None`. -/
def declaredForest : Forest where
  nodes := #[⟨.declaration { name := "s", type := "String", initializer := some 1 }, ⟨0, 11⟩, none,
      none⟩,
    ⟨.expression { items := [.literal (.int 1)] }, ⟨11, 11⟩, none, some 0⟩,
    ⟨.declaration { name := "n", type := "Int?", initializer := some 3 }, ⟨13, 25⟩, none, none⟩,
    ⟨.expression { items := [.literal .null] }, ⟨22, 25⟩, none, some 2⟩]
  scopes := #[{ symbols := [("s", 0), ("n", 2)] }]

/-- The integer is looked up as a string, and the other declaration has no value. -/
theorem lookupIn_respects_type_declared :
    (declaredForest.lookupIn [] 100 2 [] 0 none "s" = .ok (.string "1") ∧
        (Value.string "1").kind = Base.string.name) ∧
      declaredForest.lookupIn [] 100 2 [] 0 none "n" = .ok .null ∧
        (Value.null.kind = Base.int.name ∨
          (Value.null = .null ∧ (Ty.mk .int true).optional = true)) := by
  have hstring : declaredForest.lookupIn [] 100 2 [] 0 none "s" = .ok (.string "1") := rfl
  have hnull : declaredForest.lookupIn [] 100 2 [] 0 none "n" = .ok .null := rfl
  refine ⟨⟨hstring, ?_⟩, hnull, ?_⟩
  · have hkind := lookupIn_respects_type.1 declaredForest [] 100 2 [] 0 none "s" ⟨0, 0⟩
      { name := "s", type := "String", initializer := some 1 } ⟨.string, false⟩ (.string "1")
      rfl rfl rfl rfl hstring
    exact hkind.resolve_right fun h => Value.noConfusion h.1
  · exact lookupIn_respects_type.1 declaredForest [] 100 2 [] 0 none "n" ⟨0, 2⟩
      { name := "n", type := "Int?", initializer := some 3 } ⟨.int, true⟩ .null
      rfl rfl rfl rfl hnull

end Example

end Forest
end Wdl
