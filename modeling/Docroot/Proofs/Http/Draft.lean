import Docroot.Http.Draft

/-!
# A response is built whole or not at all

One value that cannot be one fails the draft, in whatever place it stands: the fields before it are
gone (`ofFields_eq`), and those after it are not put in (`foldl_field_error`). With room for all of
them there is no other failure.
-/

namespace Docroot.Http

theorem Headers.isFull_of_length_lt {h : Headers} (hlen : h.length < maxNames) :
    isFull h = false := by
  unfold isFull
  rw [decide_eq_false (Nat.not_le.2 hlen), Bool.false_and]

namespace Draft

/-- **A failed draft stays failed**, with its first error. -/
theorem foldl_field_error (e : BuildError) (fields : List (HeaderName × Option HeaderValue)) :
    fields.foldl (fun d f => field d f.1 f.2) (.error e) = .error e := by
  induction fields with
  | nil => rfl
  | cons f fields ih => exact ih

/-- A field with a value is put at the end of a section that has room. -/
theorem field_ok (status : Status) {h : Headers} (hlen : h.length < Headers.maxNames)
    (n : HeaderName) (v : HeaderValue) :
    field (.ok (status, h)) n (some v) = .ok (status, h ++ [(n, v)]) := by
  have hroom := Headers.isFull_of_length_lt hlen
  unfold field
  dsimp only [bind, Except.bind]
  rw [hroom]
  rfl

/-- The section of the fields; none where one of them has no value. -/
def sectionOf? : List (HeaderName × Option HeaderValue) → Option Headers
  | [] => some []
  | (_, none) :: _ => none
  | (n, some v) :: fields => (sectionOf? fields).map ((n, v) :: ·)

/-- What fields come to that are put behind a section with room for all. -/
theorem foldl_field_ok (status : Status) (h : Headers)
    (fields : List (HeaderName × Option HeaderValue))
    (hlen : h.length + fields.length ≤ Headers.maxNames) :
    fields.foldl (fun d f => field d f.1 f.2) (.ok (status, h))
      = match sectionOf? fields with
        | some headers => .ok (status, h ++ headers)
        | none => .error .illegalValue := by
  induction fields generalizing h with
  | nil => simp [sectionOf?]
  | cons f fields ih =>
    obtain ⟨n, value⟩ := f
    rw [List.length_cons] at hlen
    cases value with
    | none => exact foldl_field_error .illegalValue fields
    | some v =>
      rw [List.foldl_cons, field_ok status (by omega)]
      rw [ih _ (by rw [List.length_append, List.length_singleton]; omega), sectionOf?]
      cases sectionOf? fields with
      | none => rfl
      | some headers => exact congrArg (fun l => Except.ok (status, l)) (List.append_assoc h _ headers)

/-- **Fields come to their section, or to an error that says nothing of where it was.** -/
theorem ofFields_eq (status : Status) {fields : List (HeaderName × Option HeaderValue)}
    (hlen : fields.length ≤ Headers.maxNames) :
    ofFields status fields
      = match sectionOf? fields with
        | some headers => .ok (status, headers)
        | none => .error .illegalValue := by
  have h := foldl_field_ok status [] fields (by simpa using hlen)
  simpa [ofFields] using h

end Draft

end Docroot.Http
