import LintTools.Invocation.Context
import LintTools.Proofs.Path.Anchoring
import LintTools.Proofs.Path.Canonical
import LintTools.Proofs.Text.Run

/-! Texts that are resolved in a run under an absolute root. Apart from a tilde for the home directory
they mean what is anchored there, brought into normal form; and a resolved path means itself
wherever its text is resolved again. -/
namespace LintTools

namespace Path

/-- Only a tilde that stands alone or before a separator stands for the home directory. -/
theorem behindTilde?_eq_none_iff (text : String) : behindTilde? text = none ↔
    text ≠ "~" ∧ ¬['~','/'] <+: text.toList ∧ ¬['~','\\'] <+: text.toList := by
  have alone : text.toList = ['~'] ↔ text = "~" := by
    rw [← String.toList_inj]
    rfl
  rw [behindTilde?]
  split
  · rename_i tilde
    simp [alone.mp tilde]
  · rename_i other
    rw [alone] at other
    rw [Option.map_eq_none_iff,Option.or_eq_none_iff,Text.after?_eq_none_iff,Text.after?_eq_none_iff]
    exact (and_iff_right other).symm

theorem expandHome_plain (s : Surroundings) (text : String) (plain : behindTilde? text = none) :
    expandHome s text = ⟨text⟩ := by
  rw [expandHome,plain]

theorem expandHome_absolute (s : Surroundings) (path : Path) (rooted : path.isAbsolute = true) :
    expandHome s path.text = path := by
  obtain ⟨cs,shape⟩ := List.head?_eq_some_iff.mp (beq_iff_eq.mp rooted)
  have alone : path.text ≠ "~" := by
    intro tilde
    rw [tilde] at shape
    exact absurd (List.cons.inj shape).1 (by decide)
  exact expandHome_plain s path.text
    ((behindTilde?_eq_none_iff path.text).mpr ⟨alone,by simp [shape],by simp [shape]⟩)

/-- Under an absolute root a text means what stands behind the root, in normal form. -/
theorem resolve_of_rooted (s : Surroundings) (root : Path) (text : String)
    (rooted : root.isAbsolute = true) :
    resolve s root text = (root ++ expandHome s text).normal := by
  rw [resolve,absolute_of_rooted s _ (append_rooted root _ rooted)]

/-- The text of an absolute path means its normal form, under every root. -/
theorem resolve_absolute (s : Surroundings) (root path : Path) (rooted : path.isAbsolute = true) :
    resolve s root path.text = path.normal := by
  rw [resolve,expandHome_absolute s path rooted,append_of_absolute root path rooted,
    absolute_of_rooted s path rooted]

end Path

namespace Context

/-- Under an absolute root, a text that names no home directory means the normal form of what it
anchors there. Whatever a text means is absolute, has no dots and no parent steps, and means itself
again under every root. -/
theorem resolve_anchored (ctx : Context) (text : String) (rooted : ctx.root.isAbsolute = true) :
    (text ≠ "~" → ¬['~','/'] <+: text.toList → ¬['~','\\'] <+: text.toList →
        Path.resolve ctx.surroundings ctx.root text = (ctx.anchor ⟨text⟩).normal) ∧
      (Path.resolve ctx.surroundings ctx.root text).isAbsolute = true ∧
      .current ∉ (Path.resolve ctx.surroundings ctx.root text).components ∧
      .parent ∉ (Path.resolve ctx.surroundings ctx.root text).components ∧
      ∀ s root, Path.resolve s root (Path.resolve ctx.surroundings ctx.root text).text =
        Path.resolve ctx.surroundings ctx.root text := by
  have absolute := Path.resolve_rooted ctx.surroundings ctx.root text rooted
  have joined := Path.append_rooted ctx.root (Path.expandHome ctx.surroundings text) rooted
  have meaning := Path.resolve_of_rooted ctx.surroundings ctx.root text rooted
  refine ⟨?_,absolute,?_,?_,?_⟩
  · intro alone slash backslash
    have plain := (Path.behindTilde?_eq_none_iff text).mpr ⟨alone,slash,backslash⟩
    rw [meaning,Path.expandHome_plain _ text plain]
    rfl
  · rw [meaning,Path.normal_components]
    exact (Path.normalComponents_canonical _).dotless
  · rw [meaning,Path.normal_components]
    exact Path.parent_not_mem_normal _ joined
  · intro s root
    rw [Path.resolve_absolute s root _ absolute,meaning,Path.normal_normal]

def slantedRun : Context where
  root := ⟨"/repo/./app"⟩
  settings := []
  config := Config.stock
  files := []
  surroundings := ⟨some ⟨"/home/me"⟩,⟨"/work"⟩,fun _ => false⟩

/-- A tilde that is a name in a path, and one for the home directory that is left again. -/
theorem slantedRun_anchored :
    slantedRun.root.isAbsolute = true ∧ "../~/lib" ≠ "~" ∧ ¬['~','/'] <+: "../~/lib".toList ∧
      ¬['~','\\'] <+: "../~/lib".toList ∧
      Path.resolve slantedRun.surroundings slantedRun.root "../~/lib" =
        (slantedRun.anchor ⟨"../~/lib"⟩).normal ∧
      (Path.resolve slantedRun.surroundings slantedRun.root "~/..//x").isAbsolute = true ∧
      .parent ∉ (Path.resolve slantedRun.surroundings slantedRun.root "~/..//x").components ∧
      ∀ s root, Path.resolve s root
          (Path.resolve slantedRun.surroundings slantedRun.root "~/..//x").text =
        Path.resolve slantedRun.surroundings slantedRun.root "~/..//x" := by
  have rooted : slantedRun.root.isAbsolute = true := rfl
  have alone : "../~/lib" ≠ "~" := by decide
  have slash : ¬['~','/'] <+: "../~/lib".toList := by decide
  have backslash : ¬['~','\\'] <+: "../~/lib".toList := by decide
  obtain ⟨_,absolute,_,level,settled⟩ := resolve_anchored slantedRun "~/..//x" rooted
  exact ⟨rooted,alone,slash,backslash,
    (resolve_anchored slantedRun "../~/lib" rooted).1 alone slash backslash,absolute,level,settled⟩

end Context
end LintTools
