import Mathlib.Data.Finset.Lattice.Fold
import Mathlib.Data.Fintype.EquivFin
import Mathlib.Data.List.DropRight
import Mathlib.Data.List.TakeWhile
import Mathlib.Order.Lattice.Nat
import Wdl.Config.Expansion
import Wdl.Proofs.Occurrences

/-!
What it costs to expand a text.

A variable is a dollar sign and a name, which is in braces or as long as its characters reach,
`Begins`.  Which variable a dollar sign will name is therefore not known before those behind it have
been replaced: `$A` in front of `${B}` is `$AX` if `B` is `X`.  `mayName` says which names it may
come to have whatever is put there: what follows later leaves it no others, `mayName_of_append`, and
behind the end of a variable it does not matter at all, `mayName_append`.

If every variable weighs more than its value costs, `Weighs`, where a dollar sign costs as much as
any variable that it may come to name, then replacing variables by their values and a tilde by the
home directory makes a text cheaper or leaves it as it is, `expandOnce_lowers`.  There are such
weights where no variable may come to refer to itself, directly or through others, `Acyclic.weighs`;
a tilde refers to the variable of the home directory.
-/

namespace Wdl
namespace Config

/-! ## Variables in a text -/

theorem variableName?_braced {name : List Char} (hname : '\x7d' ∉ name) (rest : List Char) :
    variableName? ('\x7b' :: (name ++ '\x7d' :: rest)) =
      some (String.ofList name, name.length + 2) := by
  have hall : ∀ c ∈ name, (c != '\x7d') = true := by
    intro c hc
    rw [bne_iff_ne]
    rintro rfl
    exact hname hc
  have hwhile : (name ++ '\x7d' :: rest).takeWhile (· != '\x7d') = name := by
    rw [List.takeWhile_append_of_pos hall]
    exact List.append_nil name
  simp only [variableName?, hwhile]
  rw [if_pos]
  rw [List.length_append, List.length_cons]
  omega

theorem variableName?_unclosed {cs : List Char} (hcs : '\x7d' ∉ cs) :
    variableName? ('\x7b' :: cs) = none := by
  have hwhile : cs.takeWhile (· != '\x7d') = cs := by
    rw [List.takeWhile_eq_self_iff]
    intro c hc
    rw [bne_iff_ne]
    rintro rfl
    exact hcs hc
  simp only [variableName?, hwhile]
  exact if_neg (Nat.lt_irrefl _)

theorem takeWhile_isNameChar {name rest : List Char} (hname : ∀ c ∈ name, isNameChar c = true)
    (hstop : ∀ c ∈ rest.head?, isNameChar c = false) :
    (name ++ rest).takeWhile isNameChar = name := by
  rw [List.takeWhile_append_of_pos hname]
  cases rest with
  | nil => exact List.append_nil name
  | cons c rest =>
    rw [List.takeWhile_cons_of_neg, List.append_nil]
    rw [hstop c rfl]
    exact Bool.false_ne_true

/-- A text that does not begin with a brace names the variable that its first characters spell. -/
theorem variableName?_of_ne {cs : List Char} (h : cs.head? ≠ some '\x7b') :
    variableName? cs =
      if (cs.takeWhile isNameChar).isEmpty then none
      else some (String.ofList (cs.takeWhile isNameChar), (cs.takeWhile isNameChar).length) := by
  cases cs with
  | nil => rfl
  | cons c cs =>
    rw [List.head?_cons] at h
    rw [variableName?]
    intro rest heq
    cases heq
    exact h rfl

/-- The ways in which the text behind a dollar sign begins. -/
inductive Begins : List Char → Prop
  /-- with a name in braces -/
  | braced {name : List Char} (hname : '\x7d' ∉ name) (rest : List Char) :
      Begins ('\x7b' :: (name ++ '\x7d' :: rest))
  /-- with a brace that is not closed -/
  | unclosed {cs : List Char} (hcs : '\x7d' ∉ cs) : Begins ('\x7b' :: cs)
  /-- with a name that is not in braces -/
  | bare {name rest : List Char} (hne : name ≠ []) (hname : ∀ c ∈ name, isNameChar c = true)
      (hstop : ∀ c ∈ rest.head?, isNameChar c = false) : Begins (name ++ rest)
  /-- with anything else -/
  | nameless {cs : List Char} (hbrace : cs.head? ≠ some '\x7b')
      (hstop : ∀ c ∈ cs.head?, isNameChar c = false) : Begins cs

theorem begins (cs : List Char) : Begins cs := by
  by_cases hbrace : cs.head? = some '\x7b'
  · obtain ⟨cs, rfl⟩ := List.head?_eq_some_iff.mp hbrace
    by_cases hclosed : '\x7d' ∈ cs
    · obtain ⟨name, rest, rfl, hname⟩ := List.eq_append_cons_of_mem hclosed
      exact .braced hname rest
    · exact .unclosed hclosed
  · by_cases hne : cs.takeWhile isNameChar = []
    · refine .nameless hbrace fun c hc => ?_
      obtain ⟨cs, rfl⟩ := List.head?_eq_some_iff.mp hc
      by_contra hpos
      rw [Bool.not_eq_false] at hpos
      rw [List.takeWhile_cons_of_pos hpos] at hne
      cases hne
    · rw [← List.takeWhile_append_dropWhile (p := isNameChar) (l := cs)]
      refine .bare hne (fun c hc => List.mem_takeWhile_imp hc) fun c hc => ?_
      have hstop := List.head?_dropWhile_not isNameChar cs
      rw [hc] at hstop
      exact hstop

theorem head?_bare {name : List Char} (hne : name ≠ [])
    (hname : ∀ c ∈ name, isNameChar c = true) (rest : List Char) :
    (name ++ rest).head? ≠ some '\x7b' := by
  obtain ⟨c, name, rfl⟩ := List.exists_cons_of_ne_nil hne
  rintro heq
  cases heq
  exact absurd (hname '\x7b' List.mem_cons_self) (by decide)

theorem variableName?_bare {name rest : List Char} (hne : name ≠ [])
    (hname : ∀ c ∈ name, isNameChar c = true) (hstop : ∀ c ∈ rest.head?, isNameChar c = false) :
    variableName? (name ++ rest) = some (String.ofList name, name.length) := by
  rw [variableName?_of_ne (head?_bare hne hname rest), takeWhile_isNameChar hname hstop, if_neg]
  rwa [List.isEmpty_iff]

theorem variableName?_nameless {cs : List Char} (hbrace : cs.head? ≠ some '\x7b')
    (hstop : ∀ c ∈ cs.head?, isNameChar c = false) : variableName? cs = none := by
  have hwhile : ([] ++ cs).takeWhile isNameChar = [] := takeWhile_isNameChar nofun hstop
  rw [List.nil_append] at hwhile
  rw [variableName?_of_ne hbrace, hwhile]
  rfl

/-! ## Names that a variable may come to have -/

/-- Whether the variable that a dollar sign in front of a text begins may come to be called `name`.
A name in braces stays, any other may become longer, and where there is none yet any may come. -/
def mayName (cs : List Char) (name : String) : Bool :=
  match variableName? cs with
  | some (own, _) =>
    if cs.head? == some '\x7b' then own == name else own.toList.isPrefixOf name.toList
  | none => true

theorem mayName_braced {own : List Char} (hown : '\x7d' ∉ own) (rest : List Char)
    (name : String) :
    mayName ('\x7b' :: (own ++ '\x7d' :: rest)) name = (String.ofList own == name) := by
  rw [mayName, variableName?_braced hown]
  rfl

theorem mayName_of_none {cs : List Char} (h : variableName? cs = none) (name : String) :
    mayName cs name = true := by
  rw [mayName, h]

/-- The characters of a bare name stay in front whatever follows them. -/
theorem mayName_bare {own : List Char} (hne : own ≠ []) (hown : ∀ c ∈ own, isNameChar c = true)
    {rest : List Char} {name : String} (h : mayName (own ++ rest) name = true) :
    own <+: name.toList := by
  have hwhile : own <+: (own ++ rest).takeWhile isNameChar := by
    rw [List.takeWhile_append_of_pos hown]
    exact List.prefix_append _ _
  have hempty : ¬((own ++ rest).takeWhile isNameChar).isEmpty = true := by
    rw [List.isEmpty_iff]
    intro hnil
    rw [hnil] at hwhile
    exact hne (List.prefix_nil.mp hwhile)
  have hbrace := head?_bare hne hown rest
  rw [mayName, variableName?_of_ne hbrace, if_neg hempty] at h
  dsimp only at h
  rw [if_neg (by rwa [beq_iff_eq]), String.toList_ofList, List.isPrefixOf_iff_prefix] at h
  exact hwhile.trans h

theorem mayName_bare_iff {own rest : List Char} (hne : own ≠ [])
    (hown : ∀ c ∈ own, isNameChar c = true) (hstop : ∀ c ∈ rest.head?, isNameChar c = false)
    (name : String) : mayName (own ++ rest) name = true ↔ own <+: name.toList := by
  rw [mayName, variableName?_bare hne hown hstop]
  dsimp only
  rw [if_neg (by rw [beq_iff_eq]; exact head?_bare hne hown rest), String.toList_ofList,
    List.isPrefixOf_iff_prefix]

/-- What is put behind a text leaves a variable in it fewer names. -/
theorem mayName_of_append {cs rest : List Char} {name : String}
    (h : mayName (cs ++ rest) name = true) : mayName cs name = true := by
  cases begins cs with
  | @braced own hown behind =>
    rw [List.cons_append, List.append_assoc, List.cons_append, mayName_braced hown] at h
    rwa [mayName_braced hown]
  | unclosed hcs => exact mayName_of_none (variableName?_unclosed hcs) name
  | @bare own behind hne hown hstop =>
    rw [List.append_assoc] at h
    exact (mayName_bare_iff hne hown hstop name).mpr (mayName_bare hne hown h)
  | nameless hbrace hstop => exact mayName_of_none (variableName?_nameless hbrace hstop) name

/-- Nothing is changed by what is put behind a text that ends where its variables end. -/
theorem mayName_append {cs rest : List Char} (hempty : cs = [] → variableName? rest = none)
    (hbrace : cs.head? = some '\x7b' → '\x7d' ∈ cs ∨ '\x7d' ∉ rest)
    (hbare : (∀ c ∈ cs, isNameChar c = true) → ∀ c ∈ rest.head?, isNameChar c = false)
    (name : String) : mayName (cs ++ rest) name = mayName cs name := by
  refine Bool.eq_iff_iff.mpr ⟨mayName_of_append, fun h => ?_⟩
  cases begins cs with
  | @braced own hown behind =>
    rw [mayName_braced hown] at h
    rwa [List.cons_append, List.append_assoc, List.cons_append, mayName_braced hown]
  | @unclosed cs hcs =>
    have hclose : '\x7d' ∉ '\x7b' :: cs := List.not_mem_cons_of_ne_of_not_mem (by decide) hcs
    have hrest := (hbrace rfl).resolve_left hclose
    refine mayName_of_none (variableName?_unclosed fun hmem => ?_) name
    exact (List.mem_append.mp hmem).elim hcs hrest
  | @bare own behind hne hown hstop =>
    have hbehind : ∀ c ∈ (behind ++ rest).head?, isNameChar c = false := by
      cases behind with
      | nil => exact hbare (by rwa [List.append_nil])
      | cons c behind => exact hstop
    rw [List.append_assoc]
    exact (mayName_bare_iff hne hown hbehind name).mpr (mayName_bare hne hown h)
  | nameless hhead hstop =>
    cases cs with
    | nil => exact mayName_of_none (hempty rfl) name
    | cons c cs =>
      have hnone : variableName? (c :: (cs ++ rest)) = none := variableName?_nameless hhead hstop
      exact mayName_of_none hnone name

/-- A variable is a name in braces or a bare one, and what is behind it is left. -/
theorem variable_cases {cs : List Char} {own : String} {length : Nat}
    (h : variableName? cs = some (own, length)) :
    (∃ name, '\x7d' ∉ name ∧ own = String.ofList name ∧
      cs.take length = '\x7b' :: (name ++ ['\x7d'])) ∨
    ∃ name, name ≠ [] ∧ (∀ c ∈ name, isNameChar c = true) ∧
      (∀ c ∈ (cs.drop length).head?, isNameChar c = false) ∧ own = String.ofList name ∧
      cs.take length = name := by
  cases begins cs with
  | @braced name hname rest =>
    rw [variableName?_braced hname] at h
    cases h
    refine .inl ⟨name, hname, rfl, ?_⟩
    rw [List.take_succ_cons, List.take_length_add_append]
    rfl
  | unclosed hcs =>
    rw [variableName?_unclosed hcs] at h
    cases h
  | @bare name rest hne hname hstop =>
    rw [variableName?_bare hne hname hstop] at h
    cases h
    refine .inr ⟨name, hne, hname, ?_, rfl, List.take_left⟩
    rwa [List.drop_left]
  | nameless hbrace hstop =>
    rw [variableName?_nameless hbrace hstop] at h
    cases h

/-- A variable may be called what it is called. -/
theorem mayName_self {cs : List Char} {own : String} {length : Nat}
    (h : variableName? cs = some (own, length)) : mayName cs own = true := by
  rw [mayName, h]
  dsimp only
  split
  · exact beq_self_eq_true own
  · exact List.isPrefixOf_iff_prefix.mpr (List.prefix_refl _)

/-- What a variable may be called is settled by its own characters. -/
theorem mayName_take {cs : List Char} {own : String} {length : Nat}
    (h : variableName? cs = some (own, length)) (name : String) :
    mayName (cs.take length) name = mayName cs name := by
  conv => rhs; rw [← List.take_append_drop length cs]
  refine (mayName_append ?_ ?_ ?_ name).symm
  all_goals
    obtain ⟨own, hown, -, htake⟩ | ⟨own, hne, hown, hstop, -, htake⟩ := variable_cases h
    all_goals rw [htake]
  · exact nofun
  · exact fun hnil => absurd hnil hne
  · exact fun _ => .inl (List.mem_cons_of_mem _ (List.mem_append_right own List.mem_cons_self))
  · intro hbrace
    rw [← List.append_nil own] at hbrace
    exact absurd hbrace (head?_bare hne hown [])
  · intro hall
    exact absurd (hall '\x7b' List.mem_cons_self) (by decide)
  · exact fun _ => hstop

/-! ## Costs -/

variable (env : Environment) (weight : String → Nat)

/-- The names of the variables that there are. -/
def names : Finset String := (env.map Prod.fst).toFinset

/-- What a character in front of a text costs: a dollar sign as much as any variable that it may
come to name, and a tilde more than the home directory. -/
def charge (c : Char) (cs : List Char) : Nat :=
  if c = '$' then ((names env).filter fun name => mayName cs name = true).sup weight
  else if c = '~' then weight "HOME" + 1
  else 0

/-- What all the characters of a text cost. -/
def cost : List Char → Nat
  | [] => 0
  | c :: cs => charge env weight c cs + cost cs

/-- Every variable weighs more than its value costs. -/
def Weighs : Prop :=
  ∀ name v, env.lookup name = some v → cost env weight v.toList < weight name

variable {env weight}

theorem charge_mono {cs ds : List Char}
    (h : ∀ name, mayName cs name = true → mayName ds name = true) (c : Char) :
    charge env weight c cs ≤ charge env weight c ds := by
  unfold charge
  split
  · exact Finset.sup_mono (Finset.monotone_filter_right _ fun name _ => h name)
  · exact Nat.le_refl _

theorem charge_congr {cs ds : List Char} (h : ∀ name, mayName cs name = mayName ds name)
    (c : Char) : charge env weight c cs = charge env weight c ds :=
  Nat.le_antisymm (charge_mono (fun name hname => by rwa [← h]) c)
    (charge_mono (fun name hname => by rwa [h]) c)

theorem charge_of_ne {c : Char} (hdollar : c ≠ '$') (hhome : c ≠ '~') (cs : List Char) :
    charge env weight c cs = 0 := by
  rw [charge, if_neg hdollar, if_neg hhome]

theorem mem_names {name v : String} (hlookup : env.lookup name = some v) : name ∈ names env :=
  List.mem_toFinset.mpr (List.mem_map_of_mem (mem_of_lookup hlookup))

/-- A dollar sign costs no less than the variable that it names. -/
theorem weight_le_charge {cs : List Char} {name v : String}
    (hlookup : env.lookup name = some v) (hname : mayName cs name = true) :
    weight name ≤ charge env weight '$' cs := by
  rw [charge, if_pos rfl]
  exact Finset.le_sup (f := weight) (Finset.mem_filter.mpr ⟨mem_names hlookup, hname⟩)

variable (env weight) in
theorem cost_append_le (cs ds : List Char) :
    cost env weight (cs ++ ds) ≤ cost env weight cs + cost env weight ds := by
  induction cs with
  | nil => rw [List.nil_append]; exact Nat.le_add_left _ _
  | cons c cs ih =>
    have hcharge : charge env weight c (cs ++ ds) ≤ charge env weight c cs :=
      charge_mono (fun name => mayName_of_append) c
    rw [List.cons_append, cost, cost]
    omega

theorem cost_le_of_suffix {cs ds : List Char} (h : ds <:+ cs) :
    cost env weight ds ≤ cost env weight cs := by
  obtain ⟨front, rfl⟩ := h
  induction front with
  | nil => exact Nat.le_refl _
  | cons c front ih =>
    rw [List.cons_append, cost]
    omega

/-- Plain text costs nothing. -/
theorem cost_append_of_plain {cs : List Char} (hdollar : '$' ∉ cs) (hhome : '~' ∉ cs)
    (ds : List Char) : cost env weight (cs ++ ds) = cost env weight ds := by
  induction cs with
  | nil => rfl
  | cons c cs ih =>
    rw [List.mem_cons, not_or] at hdollar hhome
    rw [List.cons_append, cost, charge_of_ne (Ne.symm hdollar.1) (Ne.symm hhome.1),
      ih hdollar.2 hhome.2, Nat.zero_add]

theorem cost_of_plain {cs : List Char} (hdollar : '$' ∉ cs) (hhome : '~' ∉ cs) :
    cost env weight cs = 0 := by
  have happend : cost env weight (cs ++ []) = cost env weight [] :=
    cost_append_of_plain hdollar hhome []
  rwa [List.append_nil] at happend

/-- What stands behind a closing brace does not count for the variables before it. -/
theorem cost_append_of_closed (cs ds : List Char) :
    cost env weight (cs ++ '\x7d' :: ds) =
      cost env weight (cs ++ ['\x7d']) + cost env weight ds := by
  induction cs with
  | nil =>
    simp only [List.nil_append, cost]
    rw [charge_of_ne (by decide) (by decide), charge_of_ne (by decide) (by decide)]
  | cons c cs ih =>
    have hcharge : charge env weight c (cs ++ '\x7d' :: ds) =
        charge env weight c (cs ++ ['\x7d']) := by
      rw [List.append_cons cs]
      refine charge_congr (mayName_append ?_ (fun _ => ?_) fun hall => ?_) c
      · intro hnil
        exact absurd (List.append_eq_nil_iff.mp hnil).2 (List.cons_ne_nil _ _)
      · exact .inl (List.mem_append_right cs List.mem_cons_self)
      · have hbrace := hall '\x7d' (List.mem_append_right cs List.mem_cons_self)
        exact absurd hbrace (by decide)
    rw [List.cons_append, List.cons_append, cost, cost, hcharge, ih]
    omega

variable (env weight) in
/-- A variable and what is behind it have costs of their own. -/
theorem cost_take_add_drop {cs : List Char} {own : String} {length : Nat}
    (h : variableName? cs = some (own, length)) :
    cost env weight cs =
      cost env weight (cs.take length) + cost env weight (cs.drop length) := by
  conv => lhs; rw [← List.take_append_drop length cs]
  obtain ⟨name, -, -, htake⟩ | ⟨name, -, hname, -, -, htake⟩ := variable_cases h
  · rw [htake, List.cons_append, List.append_assoc, List.singleton_append]
    exact cost_append_of_closed ('\x7b' :: name) _
  · have hplain (c : Char) (hc : isNameChar c = false) : c ∉ name := fun hmem => by
      rw [hname c hmem] at hc
      cases hc
    rw [htake, cost_append_of_plain (hplain '$' (by decide)) (hplain '~' (by decide)),
      cost_of_plain (hplain '$' (by decide)) (hplain '~' (by decide)), Nat.zero_add]

/-! ## Expansion -/

variable (env weight) in
/-- Nothing is changed, or the cost is made smaller. -/
def Lowers (before after : List Char) : Prop :=
  after = before ∨ cost env weight after < cost env weight before

theorem Lowers.cost_le {before after : List Char} (h : Lowers env weight before after) :
    cost env weight after ≤ cost env weight before := by
  rcases h with rfl | hlt
  · exact Nat.le_refl _
  · exact Nat.le_of_lt hlt

/-- A text whose cost does not depend on what follows it may stand in front. -/
theorem Lowers.append {before after front : List Char} (h : Lowers env weight before after)
    (hfront : cost env weight (front ++ before) =
      cost env weight front + cost env weight before) :
    Lowers env weight (front ++ before) (front ++ after) := by
  rcases h with rfl | hlt
  · exact .inl rfl
  · have happend := cost_append_le env weight front after
    right
    omega

/-- A character that comes to cost no more may stand in front. -/
theorem Lowers.cons {before after : List Char} (h : Lowers env weight before after) {c : Char}
    (hcharge : charge env weight c after ≤ charge env weight c before) :
    Lowers env weight (c :: before) (c :: after) := by
  rcases h with rfl | hlt
  · exact .inl rfl
  · right
    rw [cost, cost]
    omega

/-- Replacing the variables of a text that have values lowers its cost. -/
theorem expandVariables_lowers (hweight : Weighs env weight) (fuel : Nat) (cs : List Char) :
    Lowers env weight cs (expandVariables env fuel cs) := by
  fun_induction expandVariables env fuel cs with
  | case1 => exact .inl rfl
  | case2 => exact .inl rfl
  | case3 fuel cs name length hname v hlookup ih =>
    have hself : weight name ≤ charge env weight '$' cs :=
      weight_le_charge hlookup (mayName_self hname)
    have hvalue := hweight name v hlookup
    have happend := cost_append_le env weight v.toList
      (expandVariables env fuel (cs.drop length))
    have hdrop : cost env weight (cs.drop length) ≤ cost env weight cs :=
      cost_le_of_suffix (List.drop_suffix length cs)
    have hrest := ih.cost_le
    right
    rw [cost]
    omega
  | case4 fuel cs name length hname hlookup ih =>
    have hsplit : cost env weight ('$' :: cs.take length ++ cs.drop length) =
        cost env weight ('$' :: cs.take length) + cost env weight (cs.drop length) := by
      have hcosts := cost_take_add_drop env weight hname
      have hcharge : charge env weight '$' (cs.take length) = charge env weight '$' cs :=
        charge_congr (mayName_take hname) '$'
      rw [List.cons_append, List.take_append_drop, cost, cost]
      omega
    have hlowers := ih.append hsplit
    rwa [List.cons_append, List.take_append_drop] at hlowers
  | case5 fuel cs hname ih =>
    exact ih.cons (charge_mono (fun name _ => mayName_of_none hname name) '$')
  | case6 fuel c cs hdollar ih =>
    refine ih.cons (Nat.le_of_eq ?_)
    unfold charge
    rw [if_neg hdollar, if_neg hdollar]

variable (env weight) in
/-- The slashes at the end of a path cost nothing and close what stands before them. -/
theorem cost_rdropWhile_le (cs : List Char) :
    cost env weight (cs.rdropWhile (· == '/')) ≤ cost env weight cs := by
  have hslashes : ∀ c ∈ cs.rtakeWhile (· == '/'), c = '/' := by
    intro c hc
    have hslash := List.mem_rtakeWhile_imp hc
    exact beq_iff_eq.mp hslash
  have hhead : ∀ c ∈ (cs.rtakeWhile (· == '/')).head?, isNameChar c = false := by
    intro c hc
    rw [hslashes c (List.mem_of_mem_head? hc)]
    decide
  conv => rhs; rw [← List.rdropWhile_append_rtakeWhile (p := (· == '/')) (l := cs)]
  generalize cs.rtakeWhile (· == '/') = slashes at hslashes hhead
  generalize cs.rdropWhile (· == '/') = path
  induction path with
  | nil => exact Nat.zero_le _
  | cons c path ih =>
    have hcharge : charge env weight c (path ++ slashes) = charge env weight c path := by
      refine charge_congr (mayName_append (fun _ => ?_) (fun _ => ?_) fun _ => hhead) c
      · refine variableName?_nameless (fun hbrace => ?_) hhead
        have hslash := hslashes _ (List.mem_of_mem_head? hbrace)
        exact absurd hslash (by decide)
      · refine .inr fun hmem => ?_
        have hslash := hslashes _ hmem
        exact absurd hslash (by decide)
    rw [List.cons_append, cost, cost, hcharge]
    omega

theorem cost_homes {account home : String} (h : homes.lookup account = some home) :
    cost env weight home.toList = 0 := by
  have hplain : ∀ entry ∈ homes, '$' ∉ entry.2.toList ∧ '~' ∉ entry.2.toList := by decide
  have hhome := hplain _ (mem_of_lookup h)
  exact cost_of_plain hhome.1 hhome.2

theorem cost_home_le (hweight : Weighs env weight) :
    cost env weight ((env.lookup "HOME").getD "/root").toList ≤ weight "HOME" := by
  cases hlookup : env.lookup "HOME" with
  | none =>
    rw [Option.getD_none, cost_of_plain (by decide) (by decide)]
    exact Nat.zero_le _
  | some v => exact Nat.le_of_lt (hweight "HOME" v hlookup)

/-- A tilde at the front costs more than any home directory that it is replaced by. -/
theorem expandHome_lowers (hweight : Weighs env weight) (cs : List Char) :
    Lowers env weight cs (expandHome env cs) := by
  unfold expandHome
  split
  · next rest =>
    dsimp only
    split
    · next home hhome =>
      have hcost : cost env weight home.toList ≤ weight "HOME" := by
        split at hhome
        · cases hhome
          exact cost_home_le hweight
        · rw [cost_homes hhome]
          exact Nat.zero_le _
      have htrim := cost_rdropWhile_le env weight home.toList
      have hpath : cost env weight (rest.dropWhile (· != '/')) ≤ cost env weight rest :=
        cost_le_of_suffix (List.dropWhile_suffix _)
      have happend := cost_append_le env weight
        (home.toList.rdropWhile (· == '/')) (rest.dropWhile (· != '/'))
      have htilde : charge env weight '~' rest = weight "HOME" + 1 := rfl
      right
      rw [cost, htilde]
      split
      · rw [cost_of_plain (by decide) (by decide)]
        omega
      · exact Nat.lt_of_le_of_lt happend (by omega)
    · exact .inl rfl
  · exact .inl rfl

theorem expandOnce_lowers (hweight : Weighs env weight) (s : String) :
    expandOnce env s = s ∨
      cost env weight (expandOnce env s).toList < cost env weight s.toList := by
  have hvariables := expandVariables_lowers hweight (s.toList.length + 1) s.toList
  have hhome := expandHome_lowers hweight (expandVariables env (s.toList.length + 1) s.toList)
  have htext : (expandOnce env s).toList =
      expandHome env (expandVariables env (s.toList.length + 1) s.toList) := String.toList_ofList
  rw [← String.toList_inj, htext]
  rcases hhome with heq | hlt
  · rw [heq]
    exact hvariables
  · exact .inr (Nat.lt_of_lt_of_le hlt hvariables.cost_le)

/-! ## Weights -/

/-- Whether some variable in a text may come to be called `name`; a tilde may come to be the home
directory. -/
def mentions : List Char → String → Bool
  | [], _ => false
  | c :: cs, name =>
    (c == '$' && mayName cs name) || (c == '~' && name == "HOME") || mentions cs name

variable (env) in
/-- The value of a variable may come to refer to another one that there is. -/
def Refers (name other : String) : Prop :=
  ∃ v, env.lookup name = some v ∧ mentions v.toList other = true ∧
    (env.lookup other).isSome = true

variable (env) in
/-- No variable may come to refer to itself, directly or through others. -/
def Acyclic : Prop :=
  ∀ name, ¬Relation.TransGen (Refers env) name name

/-- Variables that refer only to those of lower rank do not come to refer to themselves. -/
theorem acyclic_of_rank (rank : String → Nat)
    (hrank : ∀ entry ∈ env, ∀ other ∈ env, mentions entry.2.toList other.1 = true →
      rank other.1 < rank entry.1) : Acyclic env := by
  have hstep {name other : String} (h : Refers env name other) : rank other < rank name := by
    obtain ⟨v, hlookup, hmentions, hsome⟩ := h
    obtain ⟨w, hother⟩ := Option.isSome_iff_exists.mp hsome
    exact hrank _ (mem_of_lookup hlookup) _ (mem_of_lookup hother) hmentions
  intro name hcycle
  have hlower : ∀ other, Relation.TransGen (Refers env) name other → rank other < rank name := by
    intro other hpath
    induction hpath with
    | single h => exact hstep h
    | tail _ h ih => exact Nat.lt_trans (hstep h) ih
  exact Nat.lt_irrefl _ (hlower name hcycle)

theorem cost_congr {other : String → Nat} {cs : List Char}
    (h : ∀ name, mentions cs name = true → weight name = other name) :
    cost env weight cs = cost env other cs := by
  induction cs with
  | nil => rfl
  | cons c cs ih =>
    have hcharge : charge env weight c cs = charge env other c cs := by
      unfold charge
      split
      · next hdollar =>
        refine Finset.sup_congr rfl fun name hname => h name ?_
        rw [mentions, (Finset.mem_filter.mp hname).2, hdollar]
        rfl
      split
      · next hhome =>
        rw [h "HOME" (by rw [mentions, hhome]; rfl)]
      · rfl
    rw [cost, cost, hcharge, ih]
    intro name hname
    exact h name (by rw [mentions, hname, Bool.or_true])

namespace Acyclic

theorem wellFounded (h : Acyclic env) : WellFounded fun other name => Refers env name other := by
  let below (a b : { name // name ∈ names env }) : Prop := Relation.TransGen (Refers env) b.1 a.1
  have hmem {name other : String} (href : Refers env name other) : other ∈ names env := by
    obtain ⟨v, hother⟩ := Option.isSome_iff_exists.mp href.choose_spec.2.2
    exact mem_names hother
  have hbelow : WellFounded below := by
    have : IsTrans _ below := ⟨fun _ _ _ hab hbc => hbc.trans hab⟩
    have : Std.Irrefl below := ⟨fun a => h a.1⟩
    exact Finite.wellFounded_of_trans_of_irrefl below
  have hacc (a : { name // name ∈ names env }) :
      Acc (fun other name => Refers env name other) a.1 := by
    induction a using hbelow.induction with
    | _ a ih => exact .intro _ fun other href => ih ⟨other, hmem href⟩ (.single href)
  exact ⟨fun name => .intro _ fun other href => hacc ⟨other, hmem href⟩⟩

open Classical in
/-- The weight of a variable: one more than its value costs, where every variable in that costs what
it weighs. -/
noncomputable def weightOf (h : Acyclic env) : String → Nat :=
  h.wellFounded.fix fun name lighter =>
    match env.lookup name with
    | none => 0
    | some v =>
      cost env (fun other => if href : Refers env name other then lighter other href else 0)
        v.toList + 1

theorem weightOf_of_none (h : Acyclic env) {name : String} (hlookup : env.lookup name = none) :
    h.weightOf name = 0 := by
  rw [weightOf, WellFounded.fix_eq, hlookup]

theorem weightOf_of_some (h : Acyclic env) {name v : String} (hlookup : env.lookup name = some v) :
    h.weightOf name = cost env h.weightOf v.toList + 1 := by
  rw [weightOf, WellFounded.fix_eq, hlookup]
  dsimp only
  congr 1
  refine cost_congr fun other hmentions => ?_
  by_cases href : Refers env name other
  · rw [dif_pos href]
  · rw [dif_neg href]
    refine (h.weightOf_of_none ?_).symm
    rw [← Option.not_isSome_iff_eq_none]
    exact fun hsome => href ⟨v, hlookup, hmentions, hsome⟩

theorem weighs (h : Acyclic env) : Weighs env h.weightOf := by
  intro name v hlookup
  rw [h.weightOf_of_some hlookup]
  exact Nat.lt_succ_self _

end Acyclic

end Config
end Wdl
