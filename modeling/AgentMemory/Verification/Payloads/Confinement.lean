import AgentMemory.Verification.Payloads.Names

/-! # Reading stays in the payload directory

Whatever a ref names, the file that is read lies below the payload directory, as long as the path
that the check has canonicalised leads to the file without links. -/

namespace AgentMemory

open Foundation

/-- The names in a path. -/
def pathNames (path : Text) : List Text :=
  (path.splitOn 0x2F).filter fun component => !component.isEmpty

/-- The path is one that the system gives back for a file: absolute, without dot segments and NUL
bytes, and no link lies on the way. -/
structure IsCanonical (tree : FileTree Text (Option Text)) (path : Text) : Prop where
  absolute : path.head? = some 0x2F
  noNul : 0 ∉ path
  noDots : ∀ component ∈ path.splitOn 0x2F, component ≠ ascii "." ∧ component ≠ ascii ".."
  noLinks : ∀ front, front <+: pathNames path → ∀ target, tree.entry front ≠ some (.link target)

/-- The components of the directory are the first ones of the path, which has more of them. -/
def StrictlyInside (path directory : Text) : Prop :=
  ∃ rest, rest ≠ [] ∧ pathComponents path = pathComponents directory ++ rest

/-- A path is canonicalised to one inside of the canonical payload directory. -/
def CanonicallyInside (weaklyCanonical : Text → Option Text) (path directory : Text) : Prop :=
  ∃ canonicalPath canonicalDirectory, weaklyCanonical path = some canonicalPath ∧
    weaklyCanonical directory = some canonicalDirectory ∧
      StrictlyInside canonicalPath canonicalDirectory

/-! ## The file that a canonical path leads to -/

section Locate

variable {system : FileSystem} {path : Text}

theorem pathSegment_of_noDots {component : Text}
    (h : component ≠ ascii "." ∧ component ≠ ascii "..") :
    pathSegment component ≠ .up ∧
      (pathSegment component).name? = if component.isEmpty then none else some component := by
  unfold pathSegment
  cases component with
  | nil => exact ⟨by simp, rfl⟩
  | cons b rest => simp [h.1, h.2, Segment.name?]

theorem IsCanonical.names (h : IsCanonical system.tree path) :
    (walkPath path).segments.filterMap Segment.name? = pathNames path := by
  have hnames := h.noDots
  simp only [walkPath, pathNames]
  generalize path.splitOn 0x2F = components at hnames
  induction components with
  | nil => rfl
  | cons component rest ih =>
      have hrest := ih fun c hc => hnames c (List.mem_cons_of_mem _ hc)
      have hname := (pathSegment_of_noDots (hnames component List.mem_cons_self)).2
      rw [List.map_cons, List.filterMap_cons, hname, hrest]
      cases component with
      | nil => rfl
      | cons b rest => rfl

/-- The file at a canonical path is reached by its names, and the path does not end with a
separator. -/
theorem IsCanonical.located (h : IsCanonical system.tree path) {names : List Text}
    {content : Option Text} (hlocate : system.locate path = some names)
    (hfile : system.tree.entry names = some (.file content)) :
    pathComponents path = [0x2F] :: names := by
  have hwalk : system.tree.walk system.linkLimit system.workingDirectory (walkPath path) =
      some names := by
    unfold FileSystem.locate at hlocate
    rw [cStr_eq_self h.noNul] at hlocate
    split at hlocate
    · cases hlocate
    · exact hlocate
  have hup : .up ∉ (walkPath path).segments := by
    intro hmem
    obtain ⟨component, hcomponent, hup⟩ := List.mem_map.mp hmem
    exact (pathSegment_of_noDots (h.noDots component hcomponent)).1 hup
  obtain ⟨hnames, front, name, hsegments⟩ := FileTree.walk_file hwalk
    (by simp [walkPath, h.absolute]) hfile hup (by rw [h.names]; exact h.noLinks)
  rw [h.names] at hnames
  have hlast : path.getLast? ≠ some 0x2F := by
    intro hlast
    obtain ⟨init, rfl⟩ := List.getLast?_eq_some_iff.mp hlast
    have hsplit : (init ++ [0x2F]).splitOn 0x2F = init.splitOn 0x2F ++ [[]] := by
      rw [List.splitOn_append_cons_self, List.splitOn_nil]
    have hend := congrArg List.getLast? hsegments
    simp [walkPath, hsplit, pathSegment] at hend
  rw [hnames]
  simp [pathComponents, pathNames, h.absolute, hlast]

end Locate

/-! ## Reading -/

section Read

variable {system : FileSystem} {weaklyCanonical : Text → Option Text} {service : PayloadService}
  {ref : Text} {r : MemoryPayloadReadResult}

theorem isPathInsideDirectory_iff_inside {path directory : Text} :
    isPathInsideDirectory weaklyCanonical path directory = true ↔
      CanonicallyInside weaklyCanonical path directory :=
  isPathInsideDirectory_iff

/-- Content is returned only of a file that the canonical path leads to. -/
theorem loadTextFile_of_content {path content : Text}
    (h : system.loadTextFile path = .ok (some content)) :
    ∃ names, system.locate path = some names ∧
      system.tree.entry names = some (.file (some content)) := by
  unfold FileSystem.loadTextFile at h
  split at h
  · next file hentry =>
    cases h
    exact Option.bind_eq_some_iff.mp hentry
  · split at h
    · cases h
    · cases h
  · cases h

/-- A read fails without content, or has the scheme, lies inside, and has loaded its content. -/
theorem readPayload_cases (h : system.readPayload weaklyCanonical service ref = .ok r) :
    (r.succeeded = false ∧ r.content = []) ∨
      (r.succeeded = true ∧ ascii "file://" <+: ref ∧
        CanonicallyInside weaklyCanonical (ref.drop 7) service.canonicalPayloadDirectory ∧
          system.loadTextFile (canonicalPath weaklyCanonical (ref.drop 7)) = .ok (some r.content) ∧
            r.content ≠ []) := by
  unfold FileSystem.readPayload readPayloadWith at h
  split at h
  · cases h
    exact .inl ⟨rfl, rfl⟩
  next hscheme =>
  dsimp only at h
  split at h
  · cases h
    exact .inl ⟨rfl, rfl⟩
  split at h
  · cases h
    exact .inl ⟨rfl, rfl⟩
  next hinside =>
  simp only [Bool.not_eq_true', Bool.not_eq_false, isPathInsideDirectory_iff_inside,
    List.isPrefixOf_iff_prefix] at hscheme hinside
  obtain ⟨loaded, hload, h⟩ := except_bind_eq_ok h
  cases loaded with
  | none =>
      cases h
      exact .inl ⟨rfl, rfl⟩
  | some content =>
      dsimp only at h
      split at h
      · cases h
        exact .inl ⟨rfl, rfl⟩
      · next hcontent =>
        cases h
        exact .inr ⟨rfl, hscheme, hinside, hload, by simpa using hcontent⟩

/-- A path that is not inside is rejected before anything is opened. -/
theorem readPayload_of_not_inside
    (h : ¬CanonicallyInside weaklyCanonical (ref.drop 7) service.canonicalPayloadDirectory) :
    ∃ r, system.readPayload weaklyCanonical service ref = .ok r ∧ r.succeeded = false ∧
      r.content = [] := by
  have hinside : isPathInsideDirectory weaklyCanonical (ref.drop 7)
      service.canonicalPayloadDirectory = false := by
    rw [Bool.eq_false_iff, ne_eq, isPathInsideDirectory_iff_inside]
    exact h
  unfold FileSystem.readPayload readPayloadWith
  split
  · exact ⟨_, rfl, rfl, rfl⟩
  dsimp only
  split
  · exact ⟨_, rfl, rfl, rfl⟩
  rw [hinside]
  exact ⟨_, rfl, rfl, rfl⟩

end Read

/-- If a read succeeds, the ref has the scheme, and the content is the whole of a file whose
canonical path has the components of the payload directory as its first ones and more besides; a ref
whose path is canonicalised to anywhere else is rejected without content. -/
theorem readPayload_confined (system : FileSystem) (weaklyCanonical : Text → Option Text)
    (service : PayloadService) (ref : Text)
    (hcanonical : ∀ path names content, weaklyCanonical (ref.drop 7) = some path →
      system.locate path = some names → system.tree.entry names = some (.file content) →
        IsCanonical system.tree path) :
    (∀ r, system.readPayload weaklyCanonical service ref = .ok r → r.succeeded = true →
      ascii "file://" <+: ref ∧ r.content ≠ [] ∧ ∃ names directory rest,
        system.tree.entry names = some (.file (some r.content)) ∧
          weaklyCanonical service.canonicalPayloadDirectory = some directory ∧
            rest ≠ [] ∧ [0x2F] :: names = pathComponents directory ++ rest) ∧
      (¬CanonicallyInside weaklyCanonical (ref.drop 7) service.canonicalPayloadDirectory →
        ∃ r, system.readPayload weaklyCanonical service ref = .ok r ∧ r.succeeded = false ∧
          r.content = []) := by
  refine ⟨fun r hread hok => ?_, readPayload_of_not_inside⟩
  rcases readPayload_cases hread with ⟨hfailed, -⟩ | ⟨-, hscheme, hinside, hload, hcontent⟩
  · rw [hfailed] at hok
    cases hok
  obtain ⟨path, directory, hpath, hdirectory, rest, hrest, hcomponents⟩ := hinside
  rw [canonicalPath, hpath, Option.getD_some] at hload
  obtain ⟨names, hlocate, hfile⟩ := loadTextFile_of_content hload
  have hlocated := (hcanonical path names _ hpath hlocate hfile).located hlocate hfile
  exact ⟨hscheme, hcontent, names, directory, rest, hfile, hdirectory, hrest,
    hlocated ▸ hcomponents⟩

/-! ## A link inside of the directory, and one that leads out -/

/-- The payload directory holds a file, a link to it, and a link to a file elsewhere. -/
def linkedSystem : FileSystem where
  tree := .ofTable [([], .directory), ([ascii "etc"], .directory),
    ([ascii "etc", ascii "passwd"], .file (some (ascii "secret"))),
    ([ascii "payloads"], .directory),
    ([ascii "payloads", ascii "a.txt"], .file (some (ascii "hello"))),
    ([ascii "payloads", ascii "latest"],
      .link { absolute := false, segments := [.name (ascii "a.txt")] }),
    ([ascii "payloads", ascii "out"],
      .link { absolute := true, segments := [.name (ascii "etc"), .name (ascii "passwd")] })]
    (by decide) (by decide)

/-- The canonical path of a file or directory that exists. -/
def FileSystem.realPath (system : FileSystem) (path : Text) : Option Text :=
  (system.locate path).map fun names => (names.map fun name => 0x2F :: name).flatten

def linkedService : PayloadService where
  dataPath := ⟨ascii "/", by decide⟩
  canonicalPayloadDirectory := ascii "/payloads"

theorem isCanonical_linked : IsCanonical linkedSystem.tree (ascii "/payloads/a.txt") where
  absolute := by decide
  noNul := by decide
  noDots := by decide +kernel
  noLinks := by
    have hnone : ∀ front ∈ (pathNames (ascii "/payloads/a.txt")).inits,
        (linkedSystem.tree.entry front).any Entry.isLink = false := by
      decide +kernel
    intro front hfront target hlink
    have hfalse := hnone front ((List.mem_inits front _).mpr hfront)
    rw [hlink] at hfalse
    cases hfalse

/-- The link inside of the directory is followed. -/
theorem readPayload_confined_linked :
    let ref := ascii "file:///payloads/../payloads/./latest"
    linkedSystem.readPayload linkedSystem.realPath linkedService ref =
        .ok { succeeded := true, content := ascii "hello" } ∧
      ∃ names directory rest, linkedSystem.tree.entry names = some (.file (some (ascii "hello"))) ∧
        linkedSystem.realPath linkedService.canonicalPayloadDirectory = some directory ∧
          rest ≠ [] ∧ [0x2F] :: names = pathComponents directory ++ rest := by
  intro ref
  have hread : linkedSystem.readPayload linkedSystem.realPath linkedService ref =
      .ok { succeeded := true, content := ascii "hello" } := by
    decide +kernel
  have hpath : linkedSystem.realPath (ref.drop 7) = some (ascii "/payloads/a.txt") := by
    decide +kernel
  have hconfined := (readPayload_confined linkedSystem linkedSystem.realPath linkedService ref
    fun path names content hcanonical _ _ => by
      rw [hpath] at hcanonical
      cases hcanonical
      exact isCanonical_linked).1 _ hread rfl
  exact ⟨hread, hconfined.2.2⟩

/-- The link that leads out is not. -/
example : ∃ r, linkedSystem.readPayload linkedSystem.realPath linkedService
    (ascii "file:///payloads/out") = .ok r ∧ r.succeeded = false :=
  ⟨_, rfl, rfl⟩

end AgentMemory
