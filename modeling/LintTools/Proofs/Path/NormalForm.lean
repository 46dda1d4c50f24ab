import LintTools.Proofs.Path.Components

/-! Normal form, one component at a time. What a component does to those before it is a step, and a
path is folded by its steps in a row; so a joined path is folded from the normal form of its base.
A folded path consists of names behind a root, or behind parent steps that cancel nothing, and is
its own normal form. -/
namespace LintTools.Path

def step : List Component → Component → List Component
  | done,.current => done
  | .name _ :: above,.parent => above
  | .root :: above,.parent => .root :: above
  | done,c => c :: done

theorem fold_eq_foldl (done cs : List Component) : fold done cs = (cs.foldl step done).reverse := by
  fun_induction fold done cs with
  | case1 done => rfl
  | case2 done rest ih => rw [ih]; rfl
  | case3 text above rest ih => rw [ih]; rfl
  | case4 above rest ih => rw [ih]; rfl
  | case5 done c rest notCurrent notName notRoot ih =>
    have pushed : step done c = c :: done := by
      cases c with
      | parent =>
        cases done with
        | nil => rfl
        | cons d done => cases d <;> simp_all [step]
      | current => exact absurd rfl notCurrent
      | _ => rfl
    rw [ih,List.foldl_cons,pushed]

theorem fold_append (done before after : List Component) :
    fold done (before ++ after) = fold (fold done before).reverse after := by
  simp only [fold_eq_foldl,List.foldl_append,List.reverse_reverse]

theorem fold_filter_current (done cs : List Component) :
    fold done (cs.filter (· ≠ .current)) = fold done cs := by
  induction cs generalizing done with
  | nil => rfl
  | cons c cs ih =>
    simp only [fold_eq_foldl,List.reverse_inj] at ih ⊢
    by_cases current : c = .current
    · rw [List.filter_cons,if_neg (by simp [current]),List.foldl_cons,ih,current]
      rfl
    · rw [List.filter_cons,if_pos (by simp [current]),List.foldl_cons,List.foldl_cons,ih]

/-- A relative path behind a base is folded from the normal form of the base. -/
theorem normalComponents_append (base other : Path) (relative : other.isAbsolute = false) :
    (base ++ other).normalComponents = fold base.normalComponents.reverse other.components := by
  rw [normalComponents,components_append base other relative]
  split
  · rename_i empty
    rw [normalComponents,empty]
    rfl
  · rw [fold_append,fold_filter_current,normalComponents]

theorem append_of_absolute (base other : Path) (rooted : other.isAbsolute = true) :
    base ++ other = other := by
  change append base other = other
  rw [append,if_pos rooted]

/-- What every step keeps holds of every run of steps. -/
theorem foldl_step_keeps {good : List Component → Prop}
    (keeps : ∀ done c, good done → c.Inner → good (step done c)) (done cs : List Component)
    (start : good done) (inner : ∀ c ∈ cs, c.Inner) : good (cs.foldl step done) := by
  induction cs generalizing done with
  | nil => exact start
  | cons c cs ih =>
    have first := keeps done c start (inner c List.mem_cons_self)
    exact ih (step done c) first fun d member => inner d (List.mem_cons_of_mem c member)

/-- Components that are done, nearest first: names above a root or above a run of parent steps. -/
inductive Folded : List Component → Prop
  | start : Folded []
  | root : Folded [.root]
  | parent (run : List Component) (each : ∀ c ∈ run, c = .parent) : Folded (.parent :: run)
  | name (text : String) (above : List Component) (folded : Folded above) :
      Folded (.name text :: above)

theorem Folded.step (done : List Component) (c : Component) (folded : Folded done)
    (inner : c.Inner) : Folded (step done c) := by
  cases c with
  | root => exact False.elim inner
  | current => exact folded
  | name text => cases folded <;> exact .name text _ (by constructor <;> assumption)
  | parent =>
    cases folded with
    | start => exact .parent [] (by simp)
    | root => exact .root
    | parent run each => exact .parent (.parent :: run) (by simpa using each)
    | name text above folded => exact folded

theorem normalComponents_folded (path : Path) : Folded path.normalComponents.reverse := by
  have proper := components_proper path
  rw [normalComponents,fold_eq_foldl,List.reverse_reverse]
  generalize path.components = cs at proper
  cases proper with
  | relative _ each => exact foldl_step_keeps Folded.step [] cs .start each
  | rooted inner each => exact foldl_step_keeps Folded.step [.root] inner .root each
  | dotted inner each => exact foldl_step_keeps Folded.step [] inner .start each

def Names (cs : List Component) : Prop := ∀ c ∈ cs, ∃ text, c = .name text

instance (c : Component) : Decidable (∃ text, c = .name text) :=
  match c with
  | .name text => isTrue ⟨text,rfl⟩
  | .root => isFalse (by simp)
  | .current => isFalse (by simp)
  | .parent => isFalse (by simp)

instance (cs : List Component) : Decidable (Names cs) :=
  inferInstanceAs (Decidable (∀ c ∈ cs, ∃ text, c = .name text))

theorem names_append (before after : List Component) :
    Names (before ++ after) ↔ Names before ∧ Names after := List.forall_mem_append

theorem Names.not_mem {names : List Component} (named : Names names) {c : Component}
    (unnamed : ∀ text, c ≠ .name text) : c ∉ names := by
  intro member
  obtain ⟨text,same⟩ := named c member
  exact unnamed text same

/-- Names below a path stand behind its normal form. -/
theorem fold_names (done names : List Component) (named : Names names) :
    fold done names = done.reverse ++ names := by
  induction names generalizing done with
  | nil => simp [fold_eq_foldl]
  | cons c names ih =>
    obtain ⟨text,rfl⟩ := named c List.mem_cons_self
    have behind := ih (.name text :: done) fun d member => named d (List.mem_cons_of_mem _ member)
    have pushed : step done (.name text) = .name text :: done := by
      cases done with
      | nil => rfl
      | cons d done => cases d <;> rfl
    rw [fold_eq_foldl,List.foldl_cons,pushed,← fold_eq_foldl,behind,List.reverse_cons,
      List.append_assoc,List.singleton_append]

theorem foldl_step_parents (done more : Nat) :
    (List.replicate more Component.parent).foldl step (List.replicate done .parent) =
      List.replicate (done + more) .parent := by
  induction more generalizing done with
  | zero => rfl
  | succ more ih =>
    have pushed : step (List.replicate done .parent) .parent = List.replicate (done + 1) .parent := by
      cases done <;> rfl
    rw [List.replicate_succ,List.foldl_cons,pushed,ih]
    congr 1
    omega

/-- Components with nothing to fold: names behind a root, or behind a climb that nothing cancels. -/
inductive Canonical : List Component → Prop
  | rooted (names : List Component) (named : Names names) : Canonical (.root :: names)
  | relative (climb : Nat) (names : List Component) (named : Names names) :
      Canonical (List.replicate climb .parent ++ names)

theorem Folded.canonical (done : List Component) (folded : Folded done) : Canonical done.reverse := by
  induction folded with
  | start => exact .relative 0 [] (by simp [Names])
  | root => exact .rooted [] (by simp [Names])
  | parent run each =>
    have parents : run = List.replicate run.length .parent := List.eq_replicate_of_mem each
    rw [parents,← List.replicate_succ,List.reverse_replicate,← List.append_nil (List.replicate _ _)]
    exact .relative _ [] (by simp [Names])
  | name text above folded ih =>
    have single : Names [.name text] := by simp [Names]
    rw [List.reverse_cons]
    generalize above.reverse = before at ih
    cases ih with
    | rooted names named => exact .rooted _ ((names_append _ _).mpr ⟨named,single⟩)
    | relative climb names named =>
      rw [List.append_assoc]
      exact .relative climb _ ((names_append _ _).mpr ⟨named,single⟩)

theorem normalComponents_canonical (path : Path) : Canonical path.normalComponents := by
  have canonical := Folded.canonical _ (normalComponents_folded path)
  rwa [List.reverse_reverse] at canonical

/-- Folding changes nothing where there is nothing to fold. -/
theorem Canonical.fold_eq {cs : List Component} (canonical : Canonical cs) : fold [] cs = cs := by
  cases canonical with
  | rooted names named => exact fold_names [.root] names named
  | relative climb names named =>
    have climbed := foldl_step_parents 0 climb
    rw [List.replicate_zero,Nat.zero_add] at climbed
    rw [fold_append,fold_eq_foldl [],climbed,List.reverse_reverse,fold_names _ names named,
      List.reverse_replicate]

theorem normal_normalComponents (path : Path) :
    path.normal.normalComponents = path.normalComponents := by
  rw [normalComponents,normal_components]
  exact (normalComponents_canonical path).fold_eq

theorem normal_normal (path : Path) : path.normal.normal = path.normal := by
  rw [normal,normal_normalComponents,normal]

/-- A step neither brings in a root nor takes it away. -/
theorem root_mem_step (done : List Component) (c : Component) (inner : c.Inner) :
    .root ∈ step done c ↔ .root ∈ done := by
  unfold step
  split
  · rfl
  · simp
  · rfl
  · have other : c ≠ .root := by
      rintro rfl
      exact inner
    simp [Ne.symm other]

theorem root_mem_foldl_step (done cs : List Component) (inner : ∀ c ∈ cs, c.Inner) :
    .root ∈ cs.foldl step done ↔ .root ∈ done := by
  have keeps (between : List Component) (c : Component)
      (same : .root ∈ between ↔ .root ∈ done) (inner : c.Inner) :
      .root ∈ step between c ↔ .root ∈ done := (root_mem_step between c inner).trans same
  exact foldl_step_keeps keeps done cs Iff.rfl inner

theorem root_mem_normalComponents (path : Path) :
    .root ∈ path.normalComponents ↔ path.isAbsolute = true := by
  have proper := components_proper path
  rw [isAbsolute_iff,normalComponents,fold_eq_foldl,List.mem_reverse]
  generalize path.components = cs at proper
  cases proper with
  | relative _ each =>
    rw [root_mem_foldl_step [] cs each]
    have unrooted : cs.head? ≠ some .root := fun head => each .root (List.mem_of_mem_head? head)
    simp [unrooted]
  | rooted inner each => exact (root_mem_foldl_step [.root] inner each).trans (by simp)
  | dotted inner each => exact (root_mem_foldl_step [] inner each).trans (by simp)

/-- An absolute path has names behind its root. -/
theorem normalComponents_rooted (path : Path) (rooted : path.isAbsolute = true) :
    ∃ names, path.normalComponents = .root :: names ∧ Names names := by
  have member := (root_mem_normalComponents path).mpr rooted
  have canonical := normalComponents_canonical path
  generalize path.normalComponents = cs at canonical member
  cases canonical with
  | rooted names named => exact ⟨names,rfl,named⟩
  | relative climb names named => simp [named.not_mem,List.mem_replicate] at member

/-- A relative path has no root in its normal form. -/
theorem normalComponents_relative (path : Path) (relative : path.isAbsolute = false) :
    .root ∉ path.normalComponents := by
  rw [root_mem_normalComponents,relative]
  simp

theorem normal_isAbsolute (path : Path) : path.normal.isAbsolute = path.isAbsolute := by
  rw [Bool.eq_iff_iff,← root_mem_normalComponents,← root_mem_normalComponents,
    normal_normalComponents]

theorem step_behind (done above : List Component) (c : Component) :
    (step above c).reverse.foldl step done = step (above.reverse.foldl step done) c := by
  cases c with
  | current => simp [step]
  | root => simp [step]
  | name text => simp [step]
  | parent =>
    cases above with
    | nil => rfl
    | cons last others =>
      simp only [List.reverse_cons,List.foldl_append,List.foldl_cons,List.foldl_nil]
      cases last <;> simp [step]

/-- Steps that cancel each other can be left out before the rest is taken from elsewhere. -/
theorem foldl_step_behind (done above cs : List Component) :
    (cs.foldl step above).reverse.foldl step done =
      cs.foldl step (above.reverse.foldl step done) := by
  induction cs generalizing above with
  | nil => rfl
  | cons c cs ih => rw [List.foldl_cons,ih,step_behind,List.foldl_cons]

/-- A path that leads down from where it starts stands as it is behind the normal form of a base. -/
theorem normalComponents_append_names (base other : Path) (relative : other.isAbsolute = false)
    (named : Names other.normalComponents) :
    (base ++ other).normalComponents = base.normalComponents ++ other.normalComponents := by
  have shortened : fold base.normalComponents.reverse other.normalComponents =
      fold base.normalComponents.reverse other.components := by
    simp only [normalComponents,fold_eq_foldl,foldl_step_behind,List.reverse_nil,List.foldl_nil]
  rw [normalComponents_append base other relative,← shortened,fold_names _ _ named,
    List.reverse_reverse]

end LintTools.Path
