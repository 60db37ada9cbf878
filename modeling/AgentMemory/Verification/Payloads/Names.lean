import AgentMemory.Model.Payload

/-! # Names of payload files

A payload ref is sanitised, so the name of a final file has one dot and no separator. The name test
of the cleanup asks for three dots, which only names of temporary files have. -/

namespace AgentMemory

open Foundation

/-- The name of a final payload file: a sanitised ref with its extension. -/
def FinalName (name : Text) : Prop :=
  ∃ ref : Text, (∀ b ∈ ref, isRefByte b = true) ∧ name = ref ++ ascii ".txt"

theorem isRefByte_buildPayloadRef (request : MemoryPayloadWriteRequest) (first second : UInt64) :
    ∀ b ∈ buildPayloadRef request first second, isRefByte b = true := by
  intro b hb
  obtain ⟨a, -, rfl⟩ := List.mem_map.mp hb
  split
  · assumption
  · decide

theorem finalName_buildPayloadRef (request : MemoryPayloadWriteRequest) (first second : UInt64) :
    FinalName (buildPayloadRef request first second ++ ascii ".txt") :=
  ⟨_, isRefByte_buildPayloadRef request first second, rfl⟩

/-- A byte of a final name is one of a ref or of the extension. -/
theorem FinalName.mem {name : Text} (h : FinalName name) {b : UInt8} (hb : b ∈ name) :
    isRefByte b = true ∨ b ∈ ascii ".txt" := by
  obtain ⟨ref, href, rfl⟩ := h
  exact (List.mem_append.mp hb).imp (href b) id

theorem FinalName.zero_notMem {name : Text} (h : FinalName name) : 0 ∉ name := by
  intro hb
  have hcases := h.mem hb
  revert hcases
  decide

theorem FinalName.slash_notMem {name : Text} (h : FinalName name) : 0x2F ∉ name := by
  intro hb
  have hcases := h.mem hb
  revert hcases
  decide

theorem FinalName.ne_nil {name : Text} (h : FinalName name) : name ≠ [] := by
  obtain ⟨ref, -, rfl⟩ := h
  intro hnil
  have htxt := (List.append_eq_nil_iff.mp hnil).2
  revert htxt
  decide

/-! ## The name test of the cleanup -/

theorem count_dot_finalName {name : Text} (h : FinalName name) : name.count 0x2E = 1 := by
  obtain ⟨ref, href, rfl⟩ := h
  have hnone : ref.count 0x2E = 0 := by
    rw [List.count_eq_zero]
    intro hdot
    have hbyte := href _ hdot
    revert hbyte
    decide
  rw [List.count_append, hnone]
  decide

theorem infix_of_contains {s pattern : Text} (h : contains s pattern = true) : pattern <:+: s := by
  obtain ⟨rest, hrest, hfront⟩ := List.any_eq_true.mp h
  exact (List.isPrefixOf_iff_prefix.mp hfront).isInfix.trans
    ((List.mem_tails rest s).mp hrest).isInfix

theorem contains_of_infix {s pattern : Text} (h : pattern <:+: s) : contains s pattern = true := by
  obtain ⟨before, after, rfl⟩ := h
  refine List.any_eq_true.mpr ⟨pattern ++ after, ?_, ?_⟩
  · rw [List.mem_tails, List.append_assoc]
    exact List.suffix_append _ _
  · exact List.isPrefixOf_iff_prefix.mpr (List.prefix_append _ _)

/-- The cleanup never takes a final file for a temporary one. -/
theorem isTempName_finalName {name : Text} (h : FinalName name) : isTempName name = false := by
  rw [Bool.eq_false_iff]
  intro htemp
  have hcount := (infix_of_contains htemp).sublist.count_le 0x2E
  rw [count_dot_finalName h] at hcount
  revert hcount
  decide

theorem isTempName_temp {name : Text} (h : FinalName name) (suffix : Text) :
    isTempName (name ++ ascii ".tmp." ++ suffix) = true := by
  obtain ⟨ref, -, rfl⟩ := h
  refine contains_of_infix ⟨ref, suffix, ?_⟩
  have hsplit : ascii ".txt.tmp." = ascii ".txt" ++ ascii ".tmp." := by decide
  rw [hsplit]
  simp

/-! ## Paths -/

theorem appendPath_eq (path name : Text) : ∃ front : Text, appendPath path name = front ++ name := by
  unfold appendPath
  split
  · exact ⟨path, rfl⟩
  · exact ⟨path ++ [0x2F], by simp⟩

theorem payloadPath_eq (service : PayloadService) (name : Text) :
    service.payloadPath name = service.payloadDirectory ++ 0x2F :: name := by
  obtain ⟨front, hfront⟩ := appendPath_eq
    (appendPath service.dataPath.bytes (ascii "memory_runtime")) (ascii "payloads")
  have hdirectory : service.payloadDirectory = front ++ ascii "payload" ++ [115] := by
    rw [PayloadService.payloadDirectory, hfront, List.append_assoc]
    rfl
  unfold PayloadService.payloadPath appendPath
  rw [hdirectory]
  simp

theorem zero_notMem_payloadDirectory (service : PayloadService) :
    0 ∉ service.payloadDirectory := by
  have happend : ∀ path name : Text, 0 ∉ path → 0 ∉ name → 0 ∉ appendPath path name := by
    intro path name hpath hname
    unfold appendPath
    split
    · simp [hpath, hname]
    · simp [hpath, hname]
  exact happend _ _ (happend _ _ service.dataPath.noNul (by decide)) (by decide)

theorem zero_notMem_uri (service : PayloadService) {name : Text} (h : FinalName name) :
    0 ∉ service.uri name := by
  unfold PayloadService.uri
  rw [payloadPath_eq]
  have hscheme : (0 : UInt8) ∉ ascii "file://" := by decide
  simp [hscheme, zero_notMem_payloadDirectory service, h.zero_notMem]

theorem uri_injective (service : PayloadService) : Function.Injective service.uri := by
  intro name name' h
  simpa [PayloadService.uri, payloadPath_eq] using h

/-- The ref column holds the whole URI, and different files have different refs. -/
theorem bindText_uri_inj (service : PayloadService) {name name' : Text} (h : FinalName name)
    (h' : FinalName name') :
    bindText (service.uri name) = bindText (service.uri name') ↔ name = name' := by
  rw [bindText_injOn (zero_notMem_uri service h) (zero_notMem_uri service h')]
  exact (uri_injective service).eq_iff

theorem pathComponents_concat {directory name : Text} (hdirectory : directory ≠ [])
    (hslash' : directory.getLast? ≠ some 0x2F) (hname : name ≠ []) (hslash : 0x2F ∉ name) :
    pathComponents (directory ++ 0x2F :: name) = pathComponents directory ++ [name] := by
  have hhead : (directory ++ 0x2F :: name).head? = directory.head? := by
    cases directory with
    | nil => exact absurd rfl hdirectory
    | cons b rest => rfl
  have hlast : (0x2F :: name).getLast? ≠ some 0x2F := by
    rw [← List.singleton_append, List.getLast?_append_of_ne_nil _ hname]
    intro hlast
    exact hslash (List.mem_of_getLast? hlast)
  unfold pathComponents
  rw [hhead, List.splitOn_append_cons_self, List.splitOn_eq_singleton hslash]
  simp [hname, hslash', hlast]

theorem componentsInside_iff {directory path : List Text} :
    componentsInside directory path = true ↔ directory <+: path := by
  induction directory generalizing path with
  | nil => simp [componentsInside]
  | cons dir directory ih =>
      cases path with
      | nil => simp [componentsInside]
      | cons component path =>
          rw [List.cons_prefix_cons, ← ih]
          by_cases heq : dir = component
          · simp [componentsInside, heq]
          · simp [componentsInside, heq]

/-- The components of the directory are the first ones of the path, which has more of them. -/
theorem isPathInsideDirectory_iff {weaklyCanonical : Text → Option Text} {path directory : Text} :
    isPathInsideDirectory weaklyCanonical path directory = true ↔
      ∃ canonicalPath canonicalDirectory, weaklyCanonical path = some canonicalPath ∧
        weaklyCanonical directory = some canonicalDirectory ∧ ∃ rest, rest ≠ [] ∧
          pathComponents canonicalPath = pathComponents canonicalDirectory ++ rest := by
  unfold isPathInsideDirectory
  cases weaklyCanonical path with
  | none => simp
  | some canonicalPath =>
      cases weaklyCanonical directory with
      | none => simp
      | some canonicalDirectory =>
          dsimp only
          split
          · next heq =>
            rw [beq_iff_eq] at heq
            simp [heq]
          · next hne =>
            rw [componentsInside_iff]
            constructor
            · rintro ⟨rest, hrest⟩
              refine ⟨_, _, rfl, rfl, rest, ?_, hrest.symm⟩
              rintro rfl
              rw [List.append_nil] at hrest
              exact hne (by simp [hrest])
            · rintro ⟨_, _, ⟨⟩, ⟨⟩, rest, -, hrest⟩
              exact ⟨rest, hrest.symm⟩

end AgentMemory
