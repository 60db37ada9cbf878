import AgentMemory.Model.Http
import Mathlib.Data.List.Sort
import Mathlib.Data.List.DropRight

/-! # The `Accept` and `Range` headers

What `httplib` makes of the two headers before it routes a request, and of the ranges when the
response is written. -/

namespace AgentMemory

namespace Httplib

/-! ## Parts of a header -/

def isSpaceOrTab (b : UInt8) : Bool :=
  b == 0x20 || b == 0x09

/-- `detail::trim_copy`. -/
def trimCopy (s : Text) : Text :=
  (s.dropWhile isSpaceOrTab).rdropWhile isSpaceOrTab

/-- `detail::split`: the parts between the delimiters without blanks around them. A part that is
blank is passed over. -/
def split (d : UInt8) (s : Text) : List Text :=
  ((s.splitOn d).map trimCopy).filter fun part => !part.isEmpty

/-- `detail::divide`: what is before the first delimiter, and what is after it. -/
def divide (d : UInt8) (s : Text) : Text × Text :=
  (s.takeWhile (· != d), (s.dropWhile (· != d)).tail)

/-! ## `Accept` -/

/-- A parameter that begins with `q=`, from there on. -/
def qualityOf : Text → Option Text
  | letter :: 0x3D :: value => if letter = 0x71 ∨ letter = 0x51 then some (trimCopy value) else none
  | _ => none

/-- Whether `detail::parse_quality` reads an entry. The first quality among its parameters counts;
`readsQuality` says whether `strtod` reads a number there that is not below 0 nor above 1. -/
def parseQuality (readsQuality : Text → Bool) (entry : Text) : Bool :=
  let (token, params) := divide 0x3B entry
  !(trimCopy token).isEmpty &&
    match (split 0x3B params).findSome? qualityOf with
    | some value => !value.isEmpty && readsQuality value
    | none => true

/-- A media type holds a slash or is a star. -/
def isMediaType (mediaType : Text) : Bool :=
  mediaType == ascii "*" || mediaType.contains 0x2F

/-- Whether `detail::parse_accept_header` accepts a header. The media types are not read by any
handler. -/
def parseAcceptHeader (readsQuality : Text → Bool) (s : Text) : Bool :=
  s.isEmpty ||
    (s.head? != some 0x2C && s.getLast? != some 0x2C && !contains s (ascii ",,") &&
      (split 0x2C s).all fun entry =>
        parseQuality readsQuality entry && isMediaType (trimCopy (divide 0x3B entry).1))

/-! ## `Range` -/

/-- The first and the last position of a range. A position that is not there is -1. -/
abbrev Range := ℤ × ℤ

/-- `detail::from_chars` of a position, for digits only. -/
def positionOf (digits : Text) : ℤ :=
  if digits = [] ∨ 2 ^ 63 ≤ digitsValue digits then -1 else digitsValue digits

def parseRange (part : Text) : Option Range :=
  if part.contains 0x2D then
    let (lhs, rhs) := divide 0x2D part
    if lhs.all isDigit && rhs.all isDigit then
      let first := positionOf lhs
      let last := positionOf rhs
      if (first = -1 ∧ last = -1) ∨ (first ≠ -1 ∧ last ≠ -1 ∧ last < first) then none
      else some (first, last)
    else none
  else none

/-- `detail::parse_range_header`. -/
def parseRangeHeader (s : Text) : Option (List Range) :=
  if 7 < s.length ∧ (ascii "bytes=").isPrefixOf s then
    match (split 0x2C (s.drop 6)).mapM parseRange with
    | some [] => none
    | ranges => ranges
  else none

/-- The positions that a range stands for in a content. -/
def Range.resolve (contentLength : ℤ) (r : Range) : Range :=
  let (first, last) := if r.1 = -1 ∧ r.2 = -1 then (0, contentLength) else r
  let (first, last) :=
    if first = -1 then (contentLength - last, contentLength - 1) else (first, last)
  (first, if last = -1 ∨ contentLength ≤ last then contentLength - 1 else last)

/-- The range is within the content. -/
def Range.isWithin (contentLength : ℤ) (r : Range) : Bool :=
  0 ≤ r.1 && r.1 ≤ r.2 && r.2 < contentLength

def Range.overlaps (r processed : Range) : Bool :=
  !(r.2 < processed.1 || processed.2 < r.1)

/-- The loop of `detail::range_error`: the ranges as positions, unless one is not within the content
or more than two of them overlap with one before. -/
def processRanges (contentLength : ℤ) :
    List Range → (processed : List Range) → (overwrappingCount : ℕ) → Option (List Range)
  | [], processed, _ => some processed
  | r :: rest, processed, overwrappingCount =>
      let r := r.resolve contentLength
      let overwrappingCount :=
        if processed.any r.overlaps then overwrappingCount + 1 else overwrappingCount
      if !r.isWithin contentLength || 2 < overwrappingCount then none
      else processRanges contentLength rest (processed ++ [r]) overwrappingCount

/-- `std::sort` by the first position. It is left open how ranges with the same one are ordered. -/
structure RangeSort where
  sort : List Range → List Range
  perm : ∀ ranges, (sort ranges).Perm ranges
  sorted : ∀ ranges, (sort ranges).Pairwise fun r s => r.1 ≤ s.1

/-- Ranges with the same first position stay in order. -/
def RangeSort.stable : RangeSort where
  sort ranges := ranges.insertionSort fun r s => r.1 ≤ s.1
  perm ranges := List.perm_insertionSort _ ranges
  sorted ranges := by
    have : IsTrans Range fun r s => r.1 ≤ s.1 := ⟨fun _ _ _ => le_trans⟩
    have : Std.Total fun r s : Range => r.1 ≤ s.1 := ⟨fun r s => le_total r.1 s.1⟩
    exact List.pairwise_insertionSort _ ranges

/-- One range of `detail::coalesce_ranges`. It extends the last one where it overlaps with it or
follows it, unless it is the same. -/
def coalesceRange (contentLength : ℤ) (coalesced : List Range) (r : Range) : List Range :=
  let r := r.resolve contentLength
  if !r.isWithin contentLength then coalesced
  else
    match coalesced.getLast? with
    | some prev =>
        if r.1 ≤ prev.2 + 1 ∧ r ≠ prev then coalesced.dropLast ++ [(prev.1, max prev.2 r.2)]
        else coalesced ++ [r]
    | none => [r]

/-- `detail::coalesce_ranges`. -/
def coalesceRanges (rangeSort : RangeSort) (contentLength : ℤ) (ranges : List Range) : List Range :=
  if ranges.length ≤ 1 then ranges
  else (rangeSort.sort ranges).foldl (coalesceRange contentLength) []

/-- `detail::range_error`: the ranges that are left, or an error. -/
def rangeError (rangeSort : RangeSort) (ranges : List Range) (res : Response) :
    Option (List Range) :=
  if ranges ≠ [] ∧ 200 ≤ res.status ∧ res.status < 300 then
    if 1024 < ranges.length then none
    else (processRanges res.body.length ranges [] 0).map (coalesceRanges rangeSort res.body.length)
  else some ranges

/-- What the library has of its platform. -/
structure Platform where
  readsQuality : Text → Bool
  rangeSort : RangeSort

/-! ## Partial content -/

/-- `res.body.substr` of a range. -/
def Range.substr (r : Range) (body : Text) : Text :=
  (body.drop r.1.toNat).take ((r.2 - r.1).toNat + 1)

/-- `detail::make_content_range_header_field`. -/
def Range.contentRange (r : Range) (contentLength : ℕ) : Text :=
  ascii "bytes " ++ decimal r.1 ++ ascii "-" ++ decimal r.2 ++ ascii "/" ++ decimal contentLength

/-- `detail::make_multipart_ranges_data`. -/
def multipartRangesData (boundary : Text) (contentType : Text) (ranges : List Range)
    (body : Text) : Text :=
  (ranges.map fun r => ascii "--" ++ boundary ++ ascii "\r\n" ++
    (if contentType.isEmpty then []
      else ascii "Content-Type: " ++ contentType ++ ascii "\r\n") ++
    ascii "Content-Range: " ++ r.contentRange body.length ++ ascii "\r\n\r\n" ++
    r.substr body ++ ascii "\r\n").flatten ++ ascii "--" ++ boundary ++ ascii "--"

/-- `Server::apply_ranges`, for a build without compressors. The header `Content-Range` of a single
range is left out, as `Content-Length` is. -/
def applyRanges (boundary : Text) (ranges : List Range) (res : Response) : Response :=
  if res.status ≠ 206 then res
  else
    match ranges with
    | [] => res
    | [r] =>
        if res.body.isEmpty then res
        else { res with body := r.substr res.body }
    | ranges =>
        let contentType := some (ascii "multipart/byteranges; boundary=" ++ boundary)
        if res.body.isEmpty then { res with contentType }
        else { res with
          contentType
          body := multipartRangesData boundary (res.contentType.getD []) ranges res.body }

end Httplib

end AgentMemory
