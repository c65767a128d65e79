import Docroot.Http.Wire
import Docroot.Proofs.Http.Header
import Docroot.Proofs.Http.Message

/-!
# What is sent of a response

A message holds the fields of its response and those that come with the way it is sent, and it has
one length or none. Where the response gives no length of its own or the right one, the message is
framed (`isFramed_fields`), so a client reads it in one piece. Where it gives exactly one, the
message has the fields of the response and the connection and the date, and no other
(`perm_fields`): the length is at most moved to another place.
-/

namespace Docroot.Http

open Headers (values values_filter_ne)
open scoped List

/-! ## 1. Values of appended sections -/

theorem Headers.values_append (h k : Headers) (n : HeaderName) :
    values (h ++ k) n = values h n ++ values k n := by
  unfold values
  rw [List.filter_append, List.map_append]

theorem values_connectionFields (d : Delivery) {n : HeaderName} (hn : n ≠ .connection) :
    values d.connectionFields n = [] := by
  unfold Delivery.connectionFields
  split
  · rw [Headers.values_cons, if_neg hn.symm]
    rfl
  · rfl

theorem values_dateFields (d : Delivery) {n : HeaderName} (hn : n ≠ .date) :
    values d.dateFields n = [] := by
  unfold Delivery.dateFields
  split
  · rw [Headers.values_cons, if_neg hn.symm]
    rfl
  · rfl

theorem values_lengthFields (d : Delivery) (r : Response) {n : HeaderName}
    (hn : n ≠ .contentLength) : values (d.lengthFields r) n = [] := by
  unfold Delivery.lengthFields
  split
  · rfl
  · rw [Headers.values_cons, if_neg hn.symm]
    rfl

/-- There is a field of a name exactly if the name has a value. -/
theorem any_eq_false_iff {h : Headers} {n : HeaderName} :
    h.any (·.1 = n) = false ↔ values h n = [] := by
  unfold values
  rw [List.any_eq_false, List.map_eq_nil_iff, List.filter_eq_nil_iff]

theorem filter_eq_of_values {h : Headers} {n : HeaderName} {v : HeaderValue}
    (hv : values h n = [v]) : h.filter (·.1 = n) = [(n, v)] := by
  unfold values at hv
  obtain ⟨f, hf, rfl⟩ := List.map_eq_singleton_iff.1 hv
  rw [hf]
  have hmem : f ∈ h.filter (·.1 = n) := by
    rw [hf]
    exact List.mem_singleton_self f
  rw [← of_decide_eq_true (List.mem_filter.1 hmem).2]

/-! ## 2. The length -/

/-- The response gives no length or the right one. -/
def HasOwnLength (r : Response) : Prop :=
  values r.headers .contentLength = []
    ∨ values r.headers .contentLength = [.ofNat r.body.length]

section

variable {d : Delivery} {r : Response}

/-- The length of a message that has a body: the response's own or the one that is added. -/
theorem values_length_fields (hhead : d.isHead = false) (hbody : r.status.isBodiless = false)
    (h : HasOwnLength r) : values (d.fields r) .contentLength = [.ofNat r.body.length] := by
  have hrest : values (d.fields r) .contentLength
      = values (d.ownFields r) .contentLength ++ values (d.lengthFields r) .contentLength := by
    unfold Delivery.fields
    rw [Headers.values_append, Headers.values_append, Headers.values_append,
      values_connectionFields d (by decide), values_dateFields d (by decide), List.append_nil,
      List.append_nil]
  have hown : values (d.ownFields r) .contentLength = []
      ∨ values (d.ownFields r) .contentLength = [.ofNat r.body.length] := by
    unfold Delivery.ownFields
    split
    · rw [values_filter_ne, if_pos rfl]
      exact Or.inl rfl
    · exact h
  rw [hrest]
  unfold Delivery.lengthFields
  rcases hown with hown | hown
  · rw [any_eq_false_iff.2 hown, hown, hhead, hbody]
    rfl
  · have hany : (d.ownFields r).any (·.1 = .contentLength) = true := by
      rw [← Bool.not_eq_false, any_eq_false_iff, hown]
      exact List.cons_ne_nil _ _
    rw [hany, hown, if_pos (Or.inr (Or.inr rfl))]
    rfl

/-- **What is sent is framed**, if the response names no coding and, unless the head alone is sent,
    gives no length or the right one. -/
theorem isFramed_fields (hcoding : values r.headers .transferEncoding = [])
    (h : d.isHead = false → HasOwnLength r) :
    IsFramed d.isHead r.status (d.fields r) (d.body r) := by
  have hown : values (d.ownFields r) .transferEncoding = [] := by
    unfold Delivery.ownFields
    split
    · rw [values_filter_ne, if_neg (by decide), hcoding]
    · exact hcoding
  unfold IsFramed Delivery.body
  split
  · rfl
  · next hsome =>
    obtain ⟨hhead, hbody⟩ := not_or.1 hsome
    rw [Bool.not_eq_true] at hhead hbody
    refine ⟨?_, values_length_fields hhead hbody (h hhead)⟩
    unfold Delivery.fields
    rw [Headers.values_append, Headers.values_append, Headers.values_append, hown,
      values_connectionFields d (by decide), values_lengthFields d r (by decide),
      values_dateFields d (by decide)]
    rfl

/-! ## 3. The fields -/

/-- **A response that needs no length added**: it gives one exactly if its status may have a body,
    and unless it is for the head alone, it is the right one. -/
def IsMeasured (isHead : Bool) (r : Response) : Prop :=
  if r.status.isBodiless then values r.headers .contentLength = []
  else ∃ n, values r.headers .contentLength = [.ofNat n]
    ∧ (isHead = false → n = r.body.length)

theorem isMeasured_of_isBodiless {isHead : Bool} (hbody : r.status.isBodiless = true)
    (hvalues : values r.headers .contentLength = []) : IsMeasured isHead r := by
  unfold IsMeasured
  rwa [if_pos hbody]

theorem isMeasured_of_values {isHead : Bool} {n : Nat} (hbody : r.status.isBodiless = false)
    (hvalues : values r.headers .contentLength = [.ofNat n])
    (hn : isHead = false → n = r.body.length) : IsMeasured isHead r := by
  unfold IsMeasured
  rw [hbody, if_neg Bool.false_ne_true]
  exact ⟨n, hvalues, hn⟩

theorem IsMeasured.hasOwnLength (h : IsMeasured false r) : HasOwnLength r := by
  unfold IsMeasured at h
  split at h
  · exact Or.inl h
  · obtain ⟨n, hn, hbody⟩ := h
    exact Or.inr (hbody rfl ▸ hn)

/-- A section with its one length taken out and put behind it. -/
theorem perm_filter_ne {h : Headers} {n : HeaderName} {v : HeaderValue} (hv : values h n = [v]) :
    (h.filter (·.1 ≠ n) ++ [(n, v)]).Perm h := by
  have hparts := List.filter_append_perm (fun f : HeaderName × HeaderValue => decide (f.1 ≠ n)) h
  have hrest : h.filter (fun f => !decide (f.1 ≠ n)) = [(n, v)] := by
    rw [← filter_eq_of_values hv]
    exact List.filter_congr fun f _ => by simp
  rwa [hrest] at hparts

/-- The fields in their place and the length behind them are those of the response. -/
theorem perm_ownFields (h : IsMeasured d.isHead r) :
    (d.ownFields r ++ d.lengthFields r).Perm r.headers := by
  unfold IsMeasured at h
  by_cases hempty : r.body = [] ∧ d.isHead = false
  · -- with nothing to measure, a length is taken from its place and put at the end
    obtain ⟨hbody, hhead⟩ := hempty
    have hown : d.ownFields r = r.headers.filter (·.1 ≠ .contentLength) := if_pos ⟨hbody, hhead⟩
    cases hstatus : r.status.isBodiless with
    | true =>
      rw [hstatus, if_pos rfl] at h
      have hall : r.headers.filter (·.1 ≠ .contentLength) = r.headers := by
        rw [← any_eq_false_iff, List.any_eq_false] at h
        exact List.filter_eq_self.2 fun f hf => by simpa using h f hf
      have hlength : d.lengthFields r = [] := if_pos (Or.inr (Or.inl hstatus))
      rw [hown, hall, hlength, List.append_nil]
    | false =>
      rw [hstatus, if_neg Bool.false_ne_true] at h
      obtain ⟨n, hvalues, hn⟩ := h
      obtain rfl := hn hhead
      have hnone : (d.ownFields r).any (·.1 = .contentLength) = false := by
        rw [any_eq_false_iff, hown, values_filter_ne, if_pos rfl]
      have hlength : d.lengthFields r = [(.contentLength, .ofNat r.body.length)] := by
        unfold Delivery.lengthFields
        rw [hnone, hhead, hstatus]
        rfl
      rw [hown, hlength]
      exact perm_filter_ne hvalues
  · -- otherwise all fields stay in their place, and none is added
    have hown : d.ownFields r = r.headers := if_neg hempty
    have hlength : d.lengthFields r = [] := by
      unfold Delivery.lengthFields
      rw [hown]
      apply if_pos
      cases hstatus : r.status.isBodiless with
      | true => exact Or.inr (Or.inl rfl)
      | false =>
        rw [hstatus, if_neg Bool.false_ne_true] at h
        obtain ⟨n, hvalues, -⟩ := h
        refine Or.inr (Or.inr ?_)
        rw [← Bool.not_eq_false, any_eq_false_iff, hvalues]
        exact List.cons_ne_nil _ _
    rw [hown, hlength, List.append_nil]

/-- **A message has the fields of its response, the connection and the date**, if the response needs
    no length added. -/
theorem perm_fields (h : IsMeasured d.isHead r) :
    (d.fields r).Perm (r.headers ++ d.connectionFields ++ d.dateFields) := by
  unfold Delivery.fields
  refine List.Perm.append_right _ ?_
  calc d.ownFields r ++ d.connectionFields ++ d.lengthFields r
      = d.ownFields r ++ (d.connectionFields ++ d.lengthFields r) := List.append_assoc _ _ _
    _ ~ d.ownFields r ++ (d.lengthFields r ++ d.connectionFields) :=
      List.perm_append_comm.append_left _
    _ = d.ownFields r ++ d.lengthFields r ++ d.connectionFields := (List.append_assoc _ _ _).symm
    _ ~ r.headers ++ d.connectionFields := (perm_ownFields h).append_right _

end

end Docroot.Http
