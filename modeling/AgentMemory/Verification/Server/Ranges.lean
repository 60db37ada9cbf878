import AgentMemory.Model.HttpRoutes

/-! # Ranges of a response

A success is cut to the ranges that its request asks for: what is left of its body are the
positions of these, or nothing. Other responses are whole, and so are those to a request without
ranges. -/

namespace AgentMemory

namespace Httplib

/-! ## Positions -/

namespace Range

/-- The position is in the range. -/
def Holds (r : Range) (i : ℤ) : Prop :=
  r.1 ≤ i ∧ i ≤ r.2

theorem isWithin_iff {contentLength : ℤ} {r : Range} :
    r.isWithin contentLength = true ↔ 0 ≤ r.1 ∧ r.1 ≤ r.2 ∧ r.2 < contentLength := by
  simp [isWithin, and_assoc]

/-- Positions stand for themselves. -/
theorem resolve_of_isWithin {contentLength : ℤ} {r : Range}
    (h : r.isWithin contentLength = true) : r.resolve contentLength = r := by
  obtain ⟨hfirst, hle, hlast⟩ := isWithin_iff.mp h
  have hmissing : ¬(r.1 = -1 ∧ r.2 = -1) := by omega
  have hstart : ¬r.1 = -1 := by omega
  have hend : ¬(r.2 = -1 ∨ contentLength ≤ r.2) := by omega
  unfold resolve
  simp only [if_neg hmissing, if_neg hstart, if_neg hend]

end Range

/-- The ranges that are asked for are within a content, and so are those that hold their
positions. -/
structure Keeps (contentLength : ℤ) (asked kept : List Range) : Prop where
  fits : ∀ r ∈ asked, (r.resolve contentLength).isWithin contentLength = true
  within : ∀ r ∈ kept, r.isWithin contentLength = true
  positions : ∀ i, (∃ r ∈ kept, r.Holds i) ↔ ∃ r ∈ asked, (r.resolve contentLength).Holds i

section Ranges

variable {contentLength : ℤ}

theorem processRanges_spec {ranges processed kept : List Range} {count : ℕ}
    (h : processRanges contentLength ranges processed count = some kept) :
    kept = processed ++ ranges.map (·.resolve contentLength) ∧
      ∀ r ∈ ranges, (r.resolve contentLength).isWithin contentLength = true := by
  induction ranges generalizing processed count with
  | nil =>
      cases h
      exact ⟨by simp, by simp⟩
  | cons r rest ih =>
      rw [processRanges] at h
      generalize (if processed.any (r.resolve contentLength).overlaps then count + 1 else count) =
        count' at h
      split_ifs at h with hrefused
      obtain ⟨hkept, hrest⟩ := ih h
      simp only [Bool.or_eq_true, Bool.not_eq_true', not_or, Bool.not_eq_false] at hrefused
      refine ⟨by simp [hkept], fun s hs => ?_⟩
      rcases List.mem_cons.mp hs with rfl | hs
      · exact hrefused.1
      · exact hrest s hs

/-- One range more. The last of the others may be extended to hold it. -/
theorem coalesceRange_keeps {coalesced : List Range} {r : Range}
    (hwithin : ∀ s ∈ coalesced, s.isWithin contentLength = true)
    (hr : r.isWithin contentLength = true) (hbefore : ∀ s ∈ coalesced, s.1 ≤ r.1) :
    (∀ s ∈ coalesceRange contentLength coalesced r, s.isWithin contentLength = true ∧ s.1 ≤ r.1) ∧
      ∀ i, (∃ s ∈ coalesceRange contentLength coalesced r, s.Holds i) ↔
        (∃ s ∈ coalesced, s.Holds i) ∨ r.Holds i := by
  have hreads : (!r.isWithin contentLength) = false := by simp [hr]
  have hadded : (∀ s ∈ coalesced ++ [r], s.isWithin contentLength = true ∧ s.1 ≤ r.1) ∧
      ∀ i, (∃ s ∈ coalesced ++ [r], s.Holds i) ↔ (∃ s ∈ coalesced, s.Holds i) ∨ r.Holds i := by
    refine ⟨fun s hs => ?_, fun i => by simp [or_and_right, exists_or]⟩
    rcases List.mem_append.mp hs with hs | hs
    · exact ⟨hwithin s hs, hbefore s hs⟩
    · rw [List.mem_singleton.mp hs]
      exact ⟨hr, le_refl _⟩
  unfold coalesceRange
  simp only [Range.resolve_of_isWithin hr, hreads, Bool.false_eq_true, if_false]
  cases hlast : coalesced.getLast? with
  | none =>
      rw [List.getLast?_eq_none_iff] at hlast
      subst hlast
      exact hadded
  | some prev =>
      dsimp only
      split_ifs with hextends
      · obtain ⟨front, rfl⟩ := List.getLast?_eq_some_iff.mp hlast
        obtain ⟨hprevFirst, hprevLe, hprevLast⟩ :=
          Range.isWithin_iff.mp (hwithin prev (by simp))
        obtain ⟨hfirst, hle, hlt⟩ := Range.isWithin_iff.mp hr
        have hprev : prev.1 ≤ r.1 := hbefore prev (by simp)
        rw [List.dropLast_concat]
        refine ⟨fun s hs => ?_, fun i => ?_⟩
        · rcases List.mem_append.mp hs with hs | hs
          · exact ⟨hwithin s (by simp [hs]), hbefore s (by simp [hs])⟩
          · rw [List.mem_singleton.mp hs]
            refine ⟨Range.isWithin_iff.mpr ?_, hprev⟩
            dsimp only
            omega
        · have hmerged : Range.Holds (prev.1, max prev.2 r.2) i ↔ prev.Holds i ∨ r.Holds i := by
            simp only [Range.Holds]
            omega
          simp only [List.mem_append, List.mem_singleton, or_and_right, exists_or, exists_eq_left,
            hmerged, or_assoc]
      · exact hadded

theorem foldl_coalesceRange_keeps {ranges coalesced : List Range}
    (hsorted : ranges.Pairwise fun r s => r.1 ≤ s.1)
    (hranges : ∀ r ∈ ranges, r.isWithin contentLength = true)
    (hwithin : ∀ s ∈ coalesced, s.isWithin contentLength = true)
    (hbefore : ∀ s ∈ coalesced, ∀ r ∈ ranges, s.1 ≤ r.1) :
    (∀ s ∈ ranges.foldl (coalesceRange contentLength) coalesced,
        s.isWithin contentLength = true) ∧
      ∀ i, (∃ s ∈ ranges.foldl (coalesceRange contentLength) coalesced, s.Holds i) ↔
        (∃ s ∈ coalesced, s.Holds i) ∨ ∃ r ∈ ranges, r.Holds i := by
  induction ranges generalizing coalesced with
  | nil => exact ⟨hwithin, by simp⟩
  | cons r rest ih =>
      obtain ⟨hle, hsorted⟩ := List.pairwise_cons.mp hsorted
      obtain ⟨hkept, hpositions⟩ := coalesceRange_keeps hwithin (hranges r List.mem_cons_self)
        fun s hs => hbefore s hs r List.mem_cons_self
      obtain ⟨hall, hrest⟩ := ih hsorted (fun s hs => hranges s (List.mem_cons_of_mem r hs))
        (fun s hs => (hkept s hs).1) fun s hs t ht => (hkept s hs).2.trans (hle t ht)
      refine ⟨hall, fun i => ?_⟩
      rw [List.foldl_cons, hrest, hpositions, or_assoc]
      simp only [List.mem_cons, or_and_right, exists_or, exists_eq_left]

theorem coalesceRanges_keeps (rangeSort : RangeSort) {ranges : List Range}
    (hranges : ∀ r ∈ ranges, r.isWithin contentLength = true) :
    (∀ s ∈ coalesceRanges rangeSort contentLength ranges, s.isWithin contentLength = true) ∧
      ∀ i, (∃ s ∈ coalesceRanges rangeSort contentLength ranges, s.Holds i) ↔
        ∃ r ∈ ranges, r.Holds i := by
  unfold coalesceRanges
  split_ifs
  · exact ⟨hranges, fun i => Iff.rfl⟩
  · have hmem {r : Range} : r ∈ rangeSort.sort ranges ↔ r ∈ ranges :=
      (rangeSort.perm ranges).mem_iff
    obtain ⟨hwithin, hpositions⟩ := @foldl_coalesceRange_keeps contentLength _ []
      (rangeSort.sorted ranges) (fun r hr => hranges r (hmem.mp hr)) (by simp) (by simp)
    exact ⟨hwithin, fun i => by simp [hpositions, hmem]⟩

/-- What is left of the ranges of a success. -/
theorem keeps_of_rangeError {rangeSort : RangeSort} {ranges kept : List Range} {res : Response}
    (hsuccess : 200 ≤ res.status ∧ res.status < 300)
    (h : rangeError rangeSort ranges res = some kept) : Keeps res.body.length ranges kept := by
  by_cases hnone : ranges = []
  · subst hnone
    cases h
    exact ⟨by simp, by simp, by simp⟩
  · unfold rangeError at h
    rw [if_pos ⟨hnone, hsuccess⟩] at h
    split_ifs at h
    obtain ⟨processed, hprocessed, rfl⟩ := Option.map_eq_some_iff.mp h
    obtain ⟨hmapped, hranges⟩ := processRanges_spec hprocessed
    rw [List.nil_append] at hmapped
    subst hmapped
    obtain ⟨hwithin, hpositions⟩ := coalesceRanges_keeps rangeSort (List.forall_mem_map.mpr hranges)
    refine ⟨hranges, hwithin, fun i => (hpositions i).trans ⟨?_, ?_⟩⟩
    · rintro ⟨s, hs, hi⟩
      obtain ⟨r, hr, rfl⟩ := List.mem_map.mp hs
      exact ⟨r, hr, hi⟩
    · rintro ⟨r, hr, hi⟩
      exact ⟨_, List.mem_map_of_mem hr, hi⟩

/-- The second range overlaps with the first, and the third follows neither. -/
example : (parseRangeHeader (ascii "bytes=0-3, 2-5,-1")).bind (fun ranges =>
    rangeError .stable ranges { status := 206, body := ascii "0123456789" }) =
      some [(0, 5), (9, 9)] := by decide +kernel

/-- No range is within an empty content. -/
theorem Keeps.contentLength_pos {asked kept : List Range} (h : Keeps contentLength asked kept)
    (hasked : asked ≠ []) : 0 < contentLength := by
  obtain ⟨r, hr⟩ := List.exists_mem_of_ne_nil asked hasked
  obtain ⟨hfirst, hle, hlast⟩ := Range.isWithin_iff.mp (h.fits r hr)
  omega

theorem Keeps.kept_ne_nil {asked kept : List Range} (h : Keeps contentLength asked kept)
    (hasked : asked ≠ []) : kept ≠ [] := by
  obtain ⟨r, hr⟩ := List.exists_mem_of_ne_nil asked hasked
  obtain ⟨-, hle, -⟩ := Range.isWithin_iff.mp (h.fits r hr)
  obtain ⟨s, hs, -⟩ := (h.positions _).mpr ⟨r, hr, le_refl _, hle⟩
  exact List.ne_nil_of_mem hs

end Ranges

/-! ## Responses -/

/-- A response without a status of its own stands for a success, or for a missing route. -/
def Response.settled (res : Response) (routed : Bool) : Response :=
  if res.status = -1 then { res with status := if routed then 200 else 404 } else res

/-- What is left of a response when its request asks for ranges: the response unless it is a
success, one part or several of it, or nothing. -/
inductive Cut : List Range → Response → Response → Prop where
  | unasked (whole : Response) : Cut [] whole whole
  | failed {ranges : List Range} {whole : Response} (status : 300 ≤ whole.status) :
      Cut ranges whole whole
  | part {first : Range} {rest : List Range} {whole : Response} {r : Range}
      (status : whole.status < 300) (keeps : Keeps whole.body.length (first :: rest) [r]) :
      Cut (first :: rest) whole { whole with status := 206, body := r.substr whole.body }
  | parts {first : Range} {rest : List Range} {whole : Response} {boundary : Text}
      {kept : List Range} (status : whole.status < 300) (several : 2 ≤ kept.length)
      (keeps : Keeps whole.body.length (first :: rest) kept) :
      Cut (first :: rest) whole {
        status := 206
        contentType := some (ascii "multipart/byteranges; boundary=" ++ boundary)
        body := multipartRangesData boundary (whole.contentType.getD []) kept whole.body }
  | unsatisfied {first : Range} {rest : List Range} {whole : Response}
      (status : whole.status < 300) :
      Cut (first :: rest) whole { whole with status := 416, body := [] }

section Cuts

variable {ranges : List Range} (platform : Platform) (boundary : Text)

/-- A response that is no success is not cut. -/
theorem completed_of_status {res : Response} (hstatus : 300 ≤ res.status) (routed : Bool) :
    completed platform boundary ranges routed res = res := by
  have hset : res.status ≠ -1 := by omega
  cases routed with
  | true =>
      have hranges : rangeError platform.rangeSort ranges res = some ranges := by
        unfold rangeError
        exact if_neg (by omega)
      have hwhole : res.status ≠ 206 := by omega
      simp only [completed, if_true, if_neg hset, hranges, applyRanges, if_pos hwhole]
  | false => simp only [completed, Bool.false_eq_true, if_false, if_neg hset]

theorem rangeError_nil (rangeSort : RangeSort) (res : Response) :
    rangeError rangeSort [] res = some [] := by
  simp [rangeError]

theorem cut_completed {res : Response} (hres : res.status = -1) :
    Cut ranges (res.settled true) (completed platform boundary ranges true res) := by
  have hsettled : res.settled true = { res with status := 200 } := if_pos hres
  rw [hsettled]
  cases ranges with
  | nil =>
      simp only [completed, if_true, if_pos hres, List.isEmpty_nil, rangeError_nil]
      exact .unasked _
  | cons first rest =>
      have hasked : first :: rest ≠ [] := List.cons_ne_nil first rest
      have hstatus : (200 : ℤ) < 300 := by decide
      simp only [completed, if_true, if_pos hres, List.isEmpty_cons, Bool.false_eq_true, if_false]
      cases hkept : rangeError platform.rangeSort (first :: rest) { res with status := 206 } with
      | none => exact .unsatisfied hstatus
      | some kept =>
          have hkeeps := keeps_of_rangeError (by dsimp only; omega) hkept
          have hbody : res.body.isEmpty = false := by
            have hpos := hkeeps.contentLength_pos hasked
            simpa [← List.length_pos_iff] using hpos
          simp only [applyRanges]
          match kept, hkeeps with
          | [], hkeeps => exact absurd rfl (hkeeps.kept_ne_nil hasked)
          | [r], hkeeps =>
              simp only [hbody]
              exact .part hstatus hkeeps
          | r :: s :: rest, hkeeps =>
              simp only [hbody]
              exact .parts hstatus (by simp) hkeeps

/-- There is no range of an empty content. -/
theorem cut_completed_empty {res : Response} (hres : 200 ≤ res.status ∧ res.status < 300)
    (hfull : res.status ≠ 206) (hbody : res.body = []) :
    Cut ranges res (completed platform boundary ranges true res) := by
  have hset : res.status ≠ -1 := by omega
  cases ranges with
  | nil =>
      simp only [completed, if_true, if_neg hset, rangeError_nil, applyRanges, if_pos hfull]
      exact .unasked _
  | cons first rest =>
      have hrefused : rangeError platform.rangeSort (first :: rest) res = none := by
        rw [Option.eq_none_iff_forall_ne_some]
        intro kept hkept
        have hpos := (keeps_of_rangeError hres hkept).contentLength_pos
          (List.cons_ne_nil first rest)
        simp [hbody] at hpos
      simp only [completed, if_true, if_neg hset, hrefused]
      exact .unsatisfied hres.2

end Cuts

/-- The ranges that a request asks for. -/
def RoutedRequest.ranges (platform : Platform) (req : RoutedRequest) : List Range :=
  match req.parseHead platform with
  | .ok ranges => ranges
  | .error _ => []

/-- What is sent of a response to a request. -/
def Sent (platform : Platform) (req : RoutedRequest) (whole res : Response) : Prop :=
  ∃ cut, Cut (req.ranges platform) whole cut ∧ res = req.written cut

theorem ranges_of_parseHead {platform : Platform} {req : RoutedRequest} {ranges : List Range}
    (h : req.parseHead platform = .ok ranges) : req.ranges platform = ranges := by
  rw [RoutedRequest.ranges, h]

/-- Nothing is refused of a request that asks for no ranges and whose `Accept` header is read. -/
theorem parseHead_eq_nil {platform : Platform} {req : RoutedRequest}
    (haccept : req.hasHeader "Accept" = true →
      parseAcceptHeader platform.readsQuality (req.getHeaderValue "Accept") = true)
    (hranges : req.hasHeader "Range" = false) : req.parseHead platform = .ok [] := by
  unfold RoutedRequest.parseHead
  rw [if_neg, if_neg (by simp [hranges])]
  intro h
  obtain ⟨hhas, hrefused⟩ := (Bool.and_eq_true _ _).mp h
  simp [haccept hhas] at hrefused

theorem ranges_eq_nil (platform : Platform) {req : RoutedRequest}
    (h : req.hasHeader "Range" = false) : req.ranges platform = [] := by
  unfold RoutedRequest.ranges RoutedRequest.parseHead
  rw [h, if_neg Bool.false_ne_true]
  split_ifs <;> rfl

theorem status_written (req : RoutedRequest) (res : Response) :
    (req.written res).status = res.status := by
  unfold RoutedRequest.written
  split_ifs <;> rfl

theorem Cut.status_of_failed {ranges : List Range} {whole res : Response}
    (h : Cut ranges whole res) (hstatus : 300 ≤ whole.status) : res.status = whole.status := by
  cases h with
  | unasked | failed => rfl
  | part hsuccess | parts hsuccess | unsatisfied hsuccess => omega

/-- A failure stays one. -/
theorem Sent.status_of_failed {platform : Platform} {req : RoutedRequest} {whole res : Response}
    (h : Sent platform req whole res) (hstatus : 300 ≤ whole.status) :
    res.status = whole.status := by
  obtain ⟨cut, hcut, rfl⟩ := h
  rw [status_written, hcut.status_of_failed hstatus]

/-- A request that asks for no ranges is sent a response as it is. -/
theorem Sent.eq_whole {platform : Platform} {req : RoutedRequest} {whole res : Response}
    (h : Sent platform req whole res) (hranges : req.hasHeader "Range" = false)
    (hmethod : req.method ≠ ascii "HEAD") : res = whole := by
  obtain ⟨cut, hcut, rfl⟩ := h
  rw [ranges_eq_nil platform hranges] at hcut
  rw [RoutedRequest.written, if_neg hmethod]
  cases hcut <;> rfl

end Httplib

end AgentMemory
