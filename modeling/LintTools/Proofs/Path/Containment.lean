import LintTools.Proofs.Path.Below
import LintTools.Proofs.Path.Canonical

/-! Containment of paths in each other, as it is seen from their normal forms. Behind a base that has
a root or a name, only names can follow. Behind a climb of parent steps, which may be empty, the
normal form of a path elsewhere can go on too, and it counts as contained. -/
namespace LintTools.Path

/-- A path is the base itself or leads down from it: behind the base it has ordinary names only. -/
def LeadsDown (candidate base : Path) : Prop :=
  ∃ names, Names names ∧ candidate.normal.components = base.normal.components ++ names

/-- A path leads away from a base that is nothing but a climb, perhaps of no step at all: behind the
base it climbs on, or starts at the root. -/
def LeadsAway (candidate base : Path) : Prop :=
  (∃ climb, base.normal.components = List.replicate climb .parent) ∧
    ∃ c rest, candidate.normal.components = base.normal.components ++ c :: rest ∧
      (c = .parent ∨ c = .root)

/-- Where a canonical list is cut, names follow, unless it is cut within its climb or before its
root. -/
theorem Canonical.cut {before after : List Component} {c : Component}
    (canonical : Canonical (before ++ c :: after)) :
    Names (c :: after) ∨
      (∃ climb, before = List.replicate climb .parent) ∧ (c = .parent ∨ c = .root) := by
  generalize whole : before ++ c :: after = cs at canonical
  cases canonical with
  | rooted names named =>
    cases before with
    | nil => exact .inr ⟨⟨0,rfl⟩,.inr (List.cons.inj whole).1⟩
    | cons first before =>
      rw [List.cons_append,List.cons.injEq] at whole
      rw [← whole.2,names_append] at named
      exact .inl named.2
  | relative climb names named =>
    rcases List.append_eq_append_iff.mp whole with ⟨more,climbed,rest⟩ | ⟨more,_,rest⟩
    · cases more with
      | nil => exact .inl (rest ▸ named)
      | cons first more =>
        obtain ⟨_,lead,trail⟩ := List.replicate_eq_append_iff.mp climbed
        have parent := List.eq_of_mem_replicate (trail ▸ List.mem_cons_self)
        exact .inr ⟨⟨_,lead⟩,.inl ((List.cons.inj rest).1.trans parent)⟩
    · rw [rest,names_append] at named
      exact .inl named.2

theorem LeadsDown.not_leadsAway {candidate base : Path} (down : candidate.LeadsDown base) :
    ¬candidate.LeadsAway base := by
  obtain ⟨names,named,shape⟩ := down
  rintro ⟨_,c,rest,same,away⟩
  rw [shape,List.append_cancel_left_eq] at same
  rw [same] at named
  have unnamed (text : String) : c ≠ .name text := by
    rcases away with rfl | rfl <;> simp
  exact named.not_mem unnamed List.mem_cons_self

section Containment
variable (candidate base : Path)

theorem isUnder_iff_behind : candidate.isUnder base = true ↔
    ∃ behind, candidate.normal.components = base.normal.components ++ behind := by
  rw [isUnder_iff,← normal_components,← normal_components]
  exact exists_congr fun _ => eq_comm

/-- What counts as contained in a base leads down from it, or away. -/
theorem isUnder_cases (under : candidate.isUnder base = true) :
    candidate.LeadsDown base ∨ candidate.LeadsAway base := by
  obtain ⟨behind,shape⟩ := (isUnder_iff_behind candidate base).mp under
  cases behind with
  | nil => exact .inl ⟨[],by simp [Names],shape⟩
  | cons c rest =>
    have canonical := normalComponents_canonical candidate
    rw [← normal_components,shape] at canonical
    rcases canonical.cut with named | ⟨climbed,away⟩
    · exact .inl ⟨c :: rest,named,shape⟩
    · exact .inr ⟨climbed,c,rest,shape,away⟩

/-- A path counts as contained in a base exactly when it leads down from it or away from it. So the
test means what it says unless the candidate leads away, which it cannot from an absolute base. -/
theorem isUnder_iff_leadsDown :
    (candidate.isUnder base = true ↔ candidate.LeadsDown base ∨ candidate.LeadsAway base) ∧
      ((candidate.isUnder base = true ↔ candidate.LeadsDown base) ↔ ¬candidate.LeadsAway base) ∧
      ¬(base.isAbsolute = true ∧ candidate.LeadsAway base) := by
  have whole : candidate.isUnder base = true ↔
      candidate.LeadsDown base ∨ candidate.LeadsAway base := by
    refine ⟨isUnder_cases candidate base,?_⟩
    rintro (⟨names,_,shape⟩ | ⟨_,c,rest,shape,_⟩)
    · exact (isUnder_iff_behind candidate base).mpr ⟨names,shape⟩
    · exact (isUnder_iff_behind candidate base).mpr ⟨c :: rest,shape⟩
  refine ⟨whole,⟨?_,?_⟩,?_⟩
  · intro same away
    exact (same.mp (whole.mpr (.inr away))).not_leadsAway away
  · intro stays
    rw [whole]
    exact or_iff_left stays
  · rintro ⟨rooted,⟨climb,shape⟩,_⟩
    rw [← normal_isAbsolute,isAbsolute_iff,shape] at rooted
    have parent := List.eq_of_mem_replicate (List.mem_of_mem_head? rooted)
    cases parent

end Containment

/-- A path beside the current directory, and one at the root, count as contained in it. -/
theorem sibling_under_current :
    isUnder ⟨"../x.py"⟩ ⟨"."⟩ = true ∧ ¬LeadsDown ⟨"../x.py"⟩ ⟨"."⟩ ∧
      isUnder ⟨"/etc/x.py"⟩ ⟨"."⟩ = true ∧ ¬LeadsDown ⟨"/etc/x.py"⟩ ⟨"."⟩ := by
  have beside : LeadsAway ⟨"../x.py"⟩ ⟨"."⟩ :=
    ⟨⟨0,by decide +kernel⟩,.parent,[.name "x.py"],by decide +kernel,.inl rfl⟩
  have rooted : LeadsAway ⟨"/etc/x.py"⟩ ⟨"."⟩ :=
    ⟨⟨0,by decide +kernel⟩,.root,[.name "etc",.name "x.py"],by decide +kernel,.inr rfl⟩
  exact ⟨by decide +kernel,fun down => down.not_leadsAway beside,by decide +kernel,
    fun down => down.not_leadsAway rooted⟩

end LintTools.Path
