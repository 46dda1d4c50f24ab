import LintTools.Proofs.Command.Layout

/-! The placeholder in the start of a command. It stands for the binary where it is an argument of its
own, and a start that has no such argument gets one in front. Within a larger argument it is plain
text: it neither counts as a mention nor is replaced. -/
namespace LintTools.DownloadedBinary

def Contains (placeholder text : String) : Prop := placeholder.toList <:+: text.toList

structure Started (binary : DownloadedBinary) (given : List String) (path : Path)
    (start : List String) : Prop where
  replaced : List.Forall₂
    (fun part argument => argument = if part = binary.placeholder then path.text else part)
    (if binary.placeholder ∈ given then given else binary.placeholder :: given) start
  present : path.text ∈ start
  gone : binary.placeholder ∉ start
  kept : ∀ argument ∈ start, Contains binary.placeholder argument →
    argument ∈ given ∧ argument ≠ binary.placeholder
  clear_iff : (∀ argument ∈ start, ¬Contains binary.placeholder argument) ↔
    ∀ part ∈ given, Contains binary.placeholder part → part = binary.placeholder

theorem withPlaceholder_eq (placeholder : String) (given : List String) :
    withPlaceholder placeholder given =
      if placeholder ∈ given then given else placeholder :: given := by
  simp only [withPlaceholder,List.contains_iff_mem]

theorem mem_start (binary : DownloadedBinary) (path : Path) (argument : String) :
    argument ∈ binary.start path ↔
      binary.placeholder ∈ binary.base ∧ argument = path.text ∨
        argument ∈ binary.base ∧ argument ≠ binary.placeholder := by
  simp only [start,List.mem_map]
  constructor
  · rintro ⟨part,listed,rfl⟩
    split
    · rename_i same
      exact .inl ⟨same ▸ listed,rfl⟩
    · rename_i other
      exact .inr ⟨listed,other⟩
  · rintro (⟨mentioned,rfl⟩ | ⟨listed,other⟩)
    · exact ⟨binary.placeholder,mentioned,if_pos rfl⟩
    · exact ⟨argument,listed,if_neg other⟩

theorem started (binary : DownloadedBinary) (given : List String) (path : Path)
    (based : binary.base = withPlaceholder binary.placeholder given)
    (free : ¬Contains binary.placeholder path.text) :
    binary.Started given path (binary.start path) := by
  have mentioned : binary.placeholder ∈ binary.base := by
    rw [based,mem_withPlaceholder]
    exact .inl rfl
  have other : path.text ≠ binary.placeholder := by
    intro same
    exact free (same ▸ List.infix_rfl)
  have kept : ∀ argument ∈ binary.start path, Contains binary.placeholder argument →
      argument ∈ given ∧ argument ≠ binary.placeholder := by
    intro argument member contained
    rcases (mem_start binary path argument).mp member with ⟨_,rfl⟩ | ⟨listed,different⟩
    · exact absurd contained free
    · rw [based,mem_withPlaceholder] at listed
      exact ⟨listed.resolve_left different,different⟩
  refine ⟨?_,(mem_start binary path _).mpr (.inl ⟨mentioned,rfl⟩),?_,kept,?_⟩
  · rw [← withPlaceholder_eq,← based,start,List.forall₂_map_right_iff]
    exact List.forall₂_same.mpr fun _ _ => rfl
  · intro member
    rcases (mem_start binary path _).mp member with ⟨_,same⟩ | ⟨_,different⟩
    · exact other same.symm
    · exact different rfl
  · constructor
    · intro clear part listed contained
      by_contra different
      have inBase : part ∈ binary.base := by
        rw [based,mem_withPlaceholder]
        exact .inr listed
      exact clear part ((mem_start binary path part).mpr (.inr ⟨inBase,different⟩)) contained
    · intro whole argument member contained
      obtain ⟨listed,different⟩ := kept argument member contained
      exact different (whole argument listed contained)

theorem build_start (provider : ArtifactProvider) (binary : DownloadedBinary) (ctx : Context)
    (path : Path) (provided : provider (binary.request ctx) = .ok path) (resolver : Resolver) :
    ∃ rest, ((binary.build (Resolver.lookup ctx.surroundings) provider ctx).run resolver).1 =
      .ok (binary.start path ++ rest) := by
  rw [build,provided]
  exact ⟨_,congrArg Except.ok (List.append_assoc _ _ _)⟩

/-- In every command that is built, each argument that is the placeholder has become the path of the
binary. What still contains the placeholder was given with it in a larger argument. -/
theorem placeholder_replaced (config : Json) (binary : DownloadedBinary)
    (compiled : read config = .ok binary) (provider : ArtifactProvider) (ctx : Context)
    (path : Path) (provided : provider (binary.request ctx) = .ok path)
    (free : ¬Contains binary.placeholder path.text) (resolver : Resolver) :
    ∃ entry given start rest, config = .obj entry ∧ readBase entry = .ok given ∧
      ((binary.build (Resolver.lookup ctx.surroundings) provider ctx).run resolver).1 =
        .ok (start ++ rest) ∧
      binary.Started given path start := by
  obtain ⟨entry,given,object,listed,based,_⟩ := read_success config binary compiled
  obtain ⟨rest,built⟩ := build_start provider binary ctx path provided resolver
  exact ⟨entry,given,binary.start path,rest,object,listed,built,
    started binary given path based free⟩

def mentionConfig : Json := .obj [
  ("base",.arr [.str "BIN",.null,.num (.whole 7 (by decide)),.str "--tool=BIN",.str "BIN"]),
  ("binaryPlaceholder",.str "BIN"),("download",.obj [])]

def mentionBinary : DownloadedBinary where
  download := []
  version := none
  placeholder := "BIN"
  base := ["BIN","7","--tool=BIN","BIN"]
  options := []
  selector := none

def bareRun : Context where
  root := ⟨"/repo"⟩
  settings := []
  config := Config.stock
  files := []
  surroundings := ⟨none,⟨"/"⟩,fun _ => false⟩

theorem mention_free : ¬Contains mentionBinary.placeholder "/cache/bin" := by
  intro found
  have letter : 'B' ∈ "/cache/bin".toList := found.subset (by decide)
  exact absurd letter (by decide)

theorem mentionBinary_replaced : read mentionConfig = .ok mentionBinary ∧
    ¬Contains mentionBinary.placeholder "/cache/bin" ∧
    ∃ entry given start rest, mentionConfig = .obj entry ∧ readBase entry = .ok given ∧
      ((mentionBinary.build (Resolver.lookup bareRun.surroundings) (fun _ => .ok ⟨"/cache/bin"⟩)
        bareRun).run (Resolver.fresh 8)).1 = .ok (start ++ rest) ∧
      mentionBinary.Started given ⟨"/cache/bin"⟩ start := by
  have compiled : read mentionConfig = .ok mentionBinary := rfl
  exact ⟨compiled,mention_free,placeholder_replaced mentionConfig mentionBinary compiled
    (fun _ => .ok ⟨"/cache/bin"⟩) bareRun ⟨"/cache/bin"⟩ rfl mention_free (Resolver.fresh 8)⟩

/-- Not every occurrence is replaced: the one within an argument stays. -/
theorem mention_within_kept : read mentionConfig = .ok mentionBinary ∧
    ¬Contains mentionBinary.placeholder "/cache/bin" ∧
    ((mentionBinary.build (Resolver.lookup bareRun.surroundings) (fun _ => .ok ⟨"/cache/bin"⟩)
      bareRun).run (Resolver.fresh 8)).1.toOption =
        some ["/cache/bin","7","--tool=BIN","/cache/bin"] ∧
    Contains mentionBinary.placeholder "--tool=BIN" := by
  refine ⟨rfl,mention_free,by decide +kernel,?_⟩
  exact ⟨"--tool=".toList,[],rfl⟩

end LintTools.DownloadedBinary
