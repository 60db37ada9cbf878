import AgentMemory.Model.Http

/-! # The token of the server

The comparison looks at every byte of the longer text, with zeros after the end of the shorter one.
What tells texts apart that differ in zeros only are the lengths. -/

namespace AgentMemory

open Httplib

/-! ## The comparison -/

/-- Nothing that is accumulated is lost. -/
theorem foldl_or_eq_zero_iff {α : Type} (f : α → ℕ) (xs : List α) (diff : ℕ) :
    xs.foldl (fun diff x => diff ||| f x) diff = 0 ↔ diff = 0 ∧ ∀ x ∈ xs, f x = 0 := by
  induction xs generalizing diff with
  | nil => simp
  | cons x xs ih => rw [List.foldl_cons, ih, Nat.or_eq_zero_iff, List.forall_mem_cons, and_assoc]

theorem nat_xor_eq_zero_iff {m n : ℕ} : m ^^^ n = 0 ↔ m = n := by
  constructor
  · intro h
    calc
      m = m ^^^ (m ^^^ n) := by rw [h, Nat.xor_zero]
      _ = n := by rw [← Nat.xor_assoc, Nat.xor_self, Nat.zero_xor]
  · rintro rfl
    exact Nat.xor_self m

theorem xor_toNat_eq_zero_iff (l r : UInt8) : (l ^^^ r).toNat = 0 ↔ l = r := by
  rw [← UInt8.xor_eq_zero_iff, ← UInt8.toNat_inj]
  rfl

theorem constantTimeEquals_iff (lhs rhs : Text) : constantTimeEquals lhs rhs = true ↔ lhs = rhs := by
  unfold constantTimeEquals
  dsimp only
  rw [beq_iff_eq, foldl_or_eq_zero_iff, nat_xor_eq_zero_iff]
  constructor
  · rintro ⟨hlength, hbytes⟩
    refine List.ext_getElem hlength fun i hl hr => ?_
    have hbyte := hbytes i (List.mem_range.mpr (by split <;> omega))
    rw [xor_toNat_eq_zero_iff, if_pos hl, if_pos hr] at hbyte
    simpa [hl, hr] using hbyte
  · rintro rfl
    refine ⟨rfl, fun i _ => ?_⟩
    rw [xor_toNat_eq_zero_iff]

/-! ## The values of header fields -/

theorem isFieldVchar_ne_zero {b : UInt8} (h : isFieldVchar b = true) : b ≠ 0 := by
  rintro rfl
  exact absurd h (by decide)

theorem zero_notMem_value (field : HeaderField) : 0 ∉ field.value := by
  intro hmem
  have hvalid := field.valid
  simp only [isFieldValue, Bool.and_eq_true, List.all_eq_true, Bool.or_eq_true, beq_iff_eq]
    at hvalid
  rcases hvalid.2 0 hmem with (h | h) | h
  · exact absurd h (by decide)
  · exact absurd h (by decide)
  · exact isFieldVchar_ne_zero h rfl

/-- A value is not cut off where it is read. -/
theorem getHeaderValue_eq_iff (req : Request) (key : String) {value : Text} (hvalue : value ≠ []) :
    req.getHeaderValue key = value ↔ ∃ field, req.header? key = some field ∧ field.value = value := by
  unfold Request.getHeaderValue
  cases hfield : req.header? key with
  | none => simp [hvalue.symm]
  | some field => simp [cStr_eq_self (zero_notMem_value field)]

/-! ## The handler -/

/-- The request is for the health of the server, or it has the token. -/
def MemoryHttpServer.Authorized (server : MemoryHttpServer) (req : Request) : Prop :=
  req.path = ascii "/health" ∨ ∃ field, req.header? "Authorization" = some field ∧
    field.value = ascii "Bearer " ++ server.apiToken

/-- The response to a request that is not let through. -/
def unauthorized : Response where
  status := 401
  body := ascii "\x7b\"error\":\"unauthorized\",\"ok\":false\x7d"
  contentType := some (ascii "application/json")

theorem dump_unauthorized : (Json.ofMembers [("ok", .boolean false),
    ("error", .string (ascii "unauthorized"))]).dump = .ok unauthorized.body := rfl

section Handler

variable {server : MemoryHttpServer} {req : Request}

theorem preRoutingHandler_authorized (h : server.Authorized req) (res : Response) :
    server.preRoutingHandler req res = .ok (.unhandled, res) := by
  unfold MemoryHttpServer.preRoutingHandler
  rcases h with hpath | hfield
  · rw [if_pos hpath]
    rfl
  · have hvalue := (getHeaderValue_eq_iff req "Authorization" (by simp [ascii])).mpr hfield
    split
    · rfl
    · rw [if_pos ((constantTimeEquals_iff _ _).mpr hvalue)]
      rfl

theorem preRoutingHandler_unauthorized (h : ¬server.Authorized req) (res : Response) :
    server.preRoutingHandler req res = .ok (.handled, unauthorized) := by
  rw [MemoryHttpServer.Authorized, not_or] at h
  have hvalue : ¬constantTimeEquals (req.getHeaderValue "Authorization")
      (ascii "Bearer " ++ server.apiToken) = true := by
    rw [constantTimeEquals_iff, getHeaderValue_eq_iff req "Authorization" (by simp [ascii])]
    exact h.2
  unfold MemoryHttpServer.preRoutingHandler
  rw [if_neg h.1]
  dsimp only
  rw [if_neg hvalue, dump_unauthorized]
  rfl

end Handler

/-- The server lets through what is authorized, and nothing else gets to a route. -/
structure ChecksToken (server : MemoryHttpServer) : Prop where
  passes : ∀ req res, (∃ res', server.preRoutingHandler req res = .ok (.unhandled, res')) ↔
    server.Authorized req
  routes : ∀ dispatch req res, server.Authorized req →
    routing server.registerAuth dispatch req res = dispatch req res
  refuses : ∀ dispatch req res, ¬server.Authorized req →
    routing server.registerAuth dispatch req res = .ok (true, unauthorized)

/-- The comparison is equality, so a server with a token checks it. -/
theorem memoryHttpServer_checksToken :
    (∀ lhs rhs, constantTimeEquals lhs rhs = true ↔ lhs = rhs) ∧
      ∀ server : MemoryHttpServer, server.apiToken ≠ [] → ChecksToken server := by
  refine ⟨constantTimeEquals_iff, fun server htoken => ?_⟩
  have hset : server.registerAuth = some server.preRoutingHandler := by
    simp [MemoryHttpServer.registerAuth, htoken]
  constructor
  · intro req res
    constructor
    · rintro ⟨res', hpasses⟩
      by_contra hnot
      rw [preRoutingHandler_unauthorized hnot] at hpasses
      cases hpasses
    · exact fun h => ⟨res, preRoutingHandler_authorized h res⟩
  · intro dispatch req res h
    rw [hset, routing, preRoutingHandler_authorized h]
    rfl
  · intro dispatch req res h
    rw [hset, routing, preRoutingHandler_unauthorized h]
    rfl

theorem memoryHttpServer_checksToken_secret :
    constantTimeEquals (ascii "a") [97, 0] = false ∧
      ChecksToken { apiToken := ascii "secret" } :=
  ⟨by decide, memoryHttpServer_checksToken.2 _ (by decide)⟩

end AgentMemory
