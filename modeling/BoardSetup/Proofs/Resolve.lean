import BoardSetup.Layout
import BoardSetup.Proofs.NormalForm

/-!
# Where a layout lies

Each directory of a layout is an offset joined onto the base and put in lexical normal form.
Under a working directory that starts at the root, each one starts at the root and holds names
only; it is the collapse of the working directory, the base and the offset read one after the
other; and it depends on the base only through the base's normal form, so `b`, `b/`, `b/.` and
`b/x/..` give one layout. The files a run reads below the directories are their children by
name.
-/

open BoardSetup.Path

namespace BoardSetup

namespace Layout

/-- A base directory made absolute: as it is when it starts at the root, else under `cwd`. -/
def absoluteBase (cwd b : String) : String :=
  if isAbsolute b then b else join cwd b

theorem resolve_eq (cwd b : String) (s : Settings) :
    resolve cwd b s =
      { sdk := normalize (join (absoluteBase cwd b) s.sdkRelative)
        toolchain := normalize (join (absoluteBase cwd b) s.toolchainRelative)
        project := normalize (join (absoluteBase cwd b) s.projectRelative) } := rfl

/-- What resolving an offset against a base under a working directory gives: a path that starts
at the root and holds no `.` or `..`, the collapse of the working directory, the base and the
offset read in turn, and the offset's own normal form when the offset starts at the root. -/
structure Resolved (cwd b off q : String) : Prop where
  absolute : isAbsolute q = true
  plain : ∀ c ∈ components q, c ≠ .here ∧ c ≠ .up
  evaluated : q = (collapse (components cwd ++ components b ++ components off)).render
  alone : isAbsolute off = true → q = normalize off

section Base

variable {cwd : String} (b : String)

theorem isAbsolute_absoluteBase (hcwd : isAbsolute cwd = true) :
    isAbsolute (absoluteBase cwd b) = true := by
  unfold absoluteBase
  split
  · assumption
  · exact isAbsolute_join hcwd b

theorem collapse_absoluteBase :
    collapse (components (absoluteBase cwd b)) = collapse (components cwd ++ components b) := by
  unfold absoluteBase
  split
  · -- a base that starts at the root starts the stack afresh
    rename_i hb
    simp only [collapse, List.foldl_append]
    exact (foldl_components_absolute hb _).symm
  · rw [collapse_components_join, collapse, collapse, List.foldl_append]

theorem normalize_join_absoluteBase (off : String) :
    normalize (join (absoluteBase cwd b) off) =
      (collapse (components cwd ++ components b ++ components off)).render := by
  rw [Path.normalize, collapse_components_join, collapse_absoluteBase]
  simp only [collapse, List.foldl_append]

theorem resolved_offset (hcwd : isAbsolute cwd = true) (off : String) :
    Resolved cwd b off (normalize (join (absoluteBase cwd b) off)) := by
  have habs := isAbsolute_join (isAbsolute_absoluteBase b hcwd) off
  refine ⟨isAbsolute_normalize habs, plain_normalize habs, normalize_join_absoluteBase b off,
    fun hoff => ?_⟩
  rw [show join (absoluteBase cwd b) off = off by simp [join, hoff]]

theorem resolve_of_normalize_eq {b' : String} (s : Settings)
    (h : normalize (absoluteBase cwd b') = normalize (absoluteBase cwd b)) :
    resolve cwd b' s = resolve cwd b s := by
  have hoff : ∀ off, normalize (join (absoluteBase cwd b') off) =
      normalize (join (absoluteBase cwd b) off) := fun off => by
    rw [← normalize_join_normalize, h, normalize_join_normalize]
  rw [resolve_eq, resolve_eq, hoff, hoff, hoff]

end Base

section Children

variable (l : Layout)

theorem components_toolchainBin (hx : isAbsolute l.toolchain = true) :
    components l.toolchainBin = components l.toolchain ++ [.name "bin"] :=
  components_join_name hx ⟨by decide, by decide, by decide, by decide⟩

theorem components_makefile (hx : isAbsolute l.project = true) :
    components l.makefile = components l.project ++ [.name "Makefile"] :=
  components_join_name hx ⟨by decide, by decide, by decide, by decide⟩

theorem components_projectMk (hx : isAbsolute l.sdk = true) :
    components l.projectMk =
      components l.sdk ++ [.name "make_scripts_riscv", .name "project.mk"] := by
  have hscripts : IsName "make_scripts_riscv" := ⟨by decide, by decide, by decide, by decide⟩
  have hmk : IsName "project.mk" := ⟨by decide, by decide, by decide, by decide⟩
  rw [projectMk, components_join_name (isAbsolute_join hx _) hmk, components_join_name hx hscripts,
    List.append_assoc]
  rfl

end Children

/-- Under a working directory that starts at the root, the SDK, toolchain and project
directories each start at the root and hold names only, and are the collapse of the working
directory, the base and their offset read in turn (the offset's own normal form when it starts at
the root). A base counts only by its normal form, no base in the settings means the working
directory, and the toolchain's programs, the Makefile and the SDK's build rules are the children
of these directories by name. -/
theorem resolve_normal_layout (cwd b : String) (s : Settings) (hcwd : isAbsolute cwd = true) :
    Resolved cwd b s.sdkRelative (resolve cwd b s).sdk ∧
    Resolved cwd b s.toolchainRelative (resolve cwd b s).toolchain ∧
    Resolved cwd b s.projectRelative (resolve cwd b s).project ∧
    (∀ b', normalize (absoluteBase cwd b') = normalize (absoluteBase cwd b) →
      resolve cwd b' s = resolve cwd b s) ∧
    (s.baseDir = none → ofSettings cwd s = resolve cwd cwd s) ∧
    components (resolve cwd b s).toolchainBin =
      components (resolve cwd b s).toolchain ++ [.name "bin"] ∧
    components (resolve cwd b s).makefile =
      components (resolve cwd b s).project ++ [.name "Makefile"] ∧
    components (resolve cwd b s).projectMk =
      components (resolve cwd b s).sdk ++ [.name "make_scripts_riscv", .name "project.mk"] := by
  have sdk := resolved_offset b hcwd s.sdkRelative
  have toolchain := resolved_offset b hcwd s.toolchainRelative
  have project := resolved_offset b hcwd s.projectRelative
  refine ⟨sdk, toolchain, project, fun b' h => resolve_of_normalize_eq b s h,
    fun h => by simp [ofSettings, h], ?_, ?_, ?_⟩
  · exact components_toolchainBin _ toolchain.absolute
  · exact components_makefile _ project.absolute
  · exact components_projectMk _ sdk.absolute

/-- The layout of the stock settings from a relative base spelled with `.` and doubled and
trailing separators. -/
theorem resolve_normal_layout_spelled_base :
    isAbsolute "/repo/src" = true ∧
    Resolved "/repo/src" "port/./bsp//bl602/" Settings.stock.sdkRelative
      (resolve "/repo/src" "port/./bsp//bl602/" Settings.stock).sdk ∧
    Resolved "/repo/src" "port/./bsp//bl602/" Settings.stock.toolchainRelative
      (resolve "/repo/src" "port/./bsp//bl602/" Settings.stock).toolchain ∧
    Resolved "/repo/src" "port/./bsp//bl602/" Settings.stock.projectRelative
      (resolve "/repo/src" "port/./bsp//bl602/" Settings.stock).project ∧
    (∀ b', normalize (absoluteBase "/repo/src" b') =
        normalize (absoluteBase "/repo/src" "port/./bsp//bl602/") →
      resolve "/repo/src" b' Settings.stock =
        resolve "/repo/src" "port/./bsp//bl602/" Settings.stock) ∧
    (Settings.stock.baseDir = none →
      ofSettings "/repo/src" Settings.stock = resolve "/repo/src" "/repo/src" Settings.stock) ∧
    components (resolve "/repo/src" "port/./bsp//bl602/" Settings.stock).toolchainBin =
      components (resolve "/repo/src" "port/./bsp//bl602/" Settings.stock).toolchain ++
        [.name "bin"] ∧
    components (resolve "/repo/src" "port/./bsp//bl602/" Settings.stock).makefile =
      components (resolve "/repo/src" "port/./bsp//bl602/" Settings.stock).project ++
        [.name "Makefile"] ∧
    components (resolve "/repo/src" "port/./bsp//bl602/" Settings.stock).projectMk =
      components (resolve "/repo/src" "port/./bsp//bl602/" Settings.stock).sdk ++
        [.name "make_scripts_riscv", .name "project.mk"] :=
  ⟨by decide, resolve_normal_layout "/repo/src" "port/./bsp//bl602/" Settings.stock (by decide)⟩

end Layout

end BoardSetup
