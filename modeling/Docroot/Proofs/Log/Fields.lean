import Docroot.Proofs.Log.AccessEntry
import Mathlib.Data.List.Infix

/-!
# The fields of a line

What stands in front of the referer is read back from a line field by field, each up to the mark
that ends it: the request has no space in its parts, and the version no quote (`IsDelimited`). So
entries with equal lines agree on all of it (`common_append_inj`).

Referer and user agent stand between quotes and may hold quotes themselves. A line tells the two and
what stands between them as one text (`combined_eq_iff`). Where one ends and the other begins is told
exactly if the three characters that separate them occur in that text at one place only
(`cut_unique_iff`). In JSON they are told apart in any case (`read?_json`).
-/

namespace Docroot

/-! ## 1. The common format -/

namespace Log.AccessEntry

/-- **The marks end what they are meant to end**: the client's address and the parts of the request
    have no space, and the version has no quote. -/
structure IsDelimited (e : AccessEntry) : Prop where
  remoteAddr : ' ' ∉ e.remoteAddr
  method : ' ' ∉ e.method
  uri : ' ' ∉ e.uri
  httpVersion : '"' ∉ e.httpVersion

/-- **The entries agree on all that stands in front of the referer.** -/
structure Agree (e₁ e₂ : AccessEntry) : Prop where
  remoteAddr : e₁.remoteAddr = e₂.remoteAddr
  time : e₁.time.commonLog = e₂.time.commonLog
  method : e₁.method = e₂.method
  uri : e₁.uri = e₂.uri
  httpVersion : e₁.httpVersion = e₂.httpVersion
  status : e₁.status = e₂.status
  bodyBytes : e₁.bodyBytes = e₂.bodyBytes

variable {e₁ e₂ : AccessEntry}

/-- The common format, with the marks that end the fields. -/
theorem common_append (e : AccessEntry) (rest : Text) :
    e.common ++ ' ' :: rest
      = e.remoteAddr ++ ' ' :: ("- - [".toList ++ (e.time.commonLog ++ ']' :: (" \"".toList
        ++ (e.method ++ ' ' :: (e.uri ++ ' ' :: ("HTTP/".toList ++ (e.httpVersion ++ '"' :: (' ' ::
          (Digits.decimal e.status ++ ' ' :: (e.bodyBytesOrDash ++ ' ' :: rest)))))))))) := by
  have haddress : " - - [".toList = ' ' :: "- - [".toList := rfl
  have htime : "] \"".toList = ']' :: " \"".toList := rfl
  have htarget : " HTTP/".toList = ' ' :: "HTTP/".toList := rfl
  have hversion : "\" ".toList = ['"', ' '] := rfl
  unfold common requestLine
  rw [haddress, htime, htarget, hversion]
  simp only [List.append_assoc, List.cons_append, List.nil_append]

theorem not_mem_bodyBytesOrDash (e : AccessEntry) : ' ' ∉ e.bodyBytesOrDash := by
  unfold bodyBytesOrDash
  split
  · decide
  · exact Text.not_mem_of_all (Digits.all_isDigit_decimal _) (by decide)

/-- A dash is no number, so the length of the body is told. -/
theorem bodyBytes_eq (h : e₁.bodyBytesOrDash = e₂.bodyBytesOrDash) :
    e₁.bodyBytes = e₂.bodyBytes := by
  have hdash (n : Nat) : ['-'] ≠ Digits.decimal n := fun h =>
    Text.not_mem_of_all (Digits.all_isDigit_decimal n) (by decide) (h ▸ List.mem_singleton_self '-')
  unfold bodyBytesOrDash at h
  split at h
  · next h₁ =>
    split at h
    · next h₂ => rw [h₁, h₂]
    · exact absurd h (hdash _)
  · split at h
    · exact absurd h.symm (hdash _)
    · exact Digits.decimal_injective h

/-- **Up to its end, and on behind a space**, a line in the common format tells all its fields. -/
theorem common_append_inj (h₁ : e₁.IsDelimited) (h₂ : e₂.IsDelimited) {rest₁ rest₂ : Text}
    (h : e₁.common ++ ' ' :: rest₁ = e₂.common ++ ' ' :: rest₂) :
    e₁.Agree e₂ ∧ rest₁ = rest₂ := by
  have hbracket (e : AccessEntry) : ']' ∉ e.time.commonLog :=
    Text.not_mem_of_all e.time.all_isStampChar_commonLog (by decide)
  have hstatus (e : AccessEntry) : ' ' ∉ Digits.decimal e.status :=
    Text.not_mem_of_all (Digits.all_isDigit_decimal _) (by decide)
  rw [common_append, common_append] at h
  obtain ⟨haddress, h⟩ := append_mark_inj h₁.remoteAddr h₂.remoteAddr h
  obtain ⟨htime, h⟩ := append_mark_inj (hbracket e₁) (hbracket e₂) (List.append_cancel_left h)
  obtain ⟨hmethod, h⟩ := append_mark_inj h₁.method h₂.method (List.append_cancel_left h)
  obtain ⟨huri, h⟩ := append_mark_inj h₁.uri h₂.uri h
  obtain ⟨hversion, h⟩ :=
    append_mark_inj h₁.httpVersion h₂.httpVersion (List.append_cancel_left h)
  obtain ⟨hcode, h⟩ := append_mark_inj (hstatus e₁) (hstatus e₂) (List.cons.inj h).2
  obtain ⟨hbody, h⟩ :=
    append_mark_inj e₁.not_mem_bodyBytesOrDash e₂.not_mem_bodyBytesOrDash h
  exact ⟨⟨haddress, htime, hmethod, huri, hversion, Digits.decimal_injective hcode,
    bodyBytes_eq hbody⟩, h⟩

theorem Agree.common_eq (h : e₁.Agree e₂) : e₁.common = e₂.common := by
  unfold common requestLine bodyBytesOrDash
  rw [h.remoteAddr, h.time, h.method, h.uri, h.httpVersion, h.status, h.bodyBytes]

/-- **Lines in the common format are equal exactly if the entries agree.** -/
theorem common_eq_iff (h₁ : e₁.IsDelimited) (h₂ : e₂.IsDelimited) :
    e₁.common = e₂.common ↔ e₁.Agree e₂ :=
  ⟨fun h => (common_append_inj h₁ h₂ (congrArg (· ++ [' ']) h)).1, Agree.common_eq⟩

/-! ## 2. The combined format -/

/-- What stands between a referer and a user agent: a quote that ends the one, and a quote that
    begins the other. -/
def gap : Text := ['"', ' ', '"']

/-- The text from the first character of the referer to the last one of the user agent. -/
def quoted (e : AccessEntry) : Text := orDash e.referer ++ gap ++ orDash e.userAgent

theorem combined_eq_append (e : AccessEntry) :
    e.combined = e.common ++ ' ' :: '"' :: (e.quoted ++ ['"']) := by
  have hopen : " \"".toList = [' ', '"'] := rfl
  have hgap : "\" \"".toList = gap := rfl
  unfold combined quoted
  rw [hopen, hgap]
  simp only [List.append_assoc, List.cons_append, List.nil_append]

/-- **Lines in the combined format are equal exactly if the entries agree**, and have the same text
    from the referer to the user agent. -/
theorem combined_eq_iff (h₁ : e₁.IsDelimited) (h₂ : e₂.IsDelimited) :
    e₁.combined = e₂.combined ↔ e₁.Agree e₂ ∧ e₁.quoted = e₂.quoted := by
  rw [combined_eq_append, combined_eq_append]
  constructor
  · intro h
    obtain ⟨hagree, hrest⟩ := common_append_inj h₁ h₂ h
    exact ⟨hagree, List.append_cancel_right (List.cons.inj hrest).2⟩
  · rintro ⟨hagree, hquoted⟩
    rw [hagree.common_eq, hquoted]

/-- **Nothing looks like the place between** a referer and a user agent but that place: it stands in
    neither of them, nor does either begin or end as if it did. -/
structure IsClear (referer userAgent : Text) : Prop where
  referer_holds : ¬gap <:+: referer
  referer_ends : ¬['"', ' '] <:+ referer
  userAgent_holds : ¬gap <:+: userAgent
  userAgent_begins : ¬[' ', '"'] <+: userAgent

instance (referer userAgent : Text) : Decidable (IsClear referer userAgent) :=
  decidable_of_iff
    (¬gap <:+: referer ∧ ¬['"', ' '] <:+ referer
      ∧ ¬gap <:+: userAgent ∧ ¬[' ', '"'] <+: userAgent)
    ⟨fun ⟨h1, h2, h3, h4⟩ => ⟨h1, h2, h3, h4⟩, fun ⟨h1, h2, h3, h4⟩ => ⟨h1, h2, h3, h4⟩⟩

/-- What a place further on looks like: it is the same place, it begins with the quote in which the
    first one ends, or it lies behind. -/
theorem gap_append_cases {a t t' : Text} (h : gap ++ t = a ++ (gap ++ t')) :
    a = [] ∨ (a = ['"', ' '] ∧ t = [' ', '"'] ++ t')
      ∨ ∃ rest, a = gap ++ rest ∧ t = rest ++ gap ++ t' := by
  rcases List.append_eq_append_iff.1 h with ⟨rest, ha, ht⟩ | ⟨end_, hgap, hrest⟩
  · exact Or.inr (Or.inr ⟨rest, ha, by rw [ht, List.append_assoc]⟩)
  · match a, hgap with
    | [], _ => exact Or.inl rfl
    | [x], hgap =>
      cases hgap
      have hspace := congrArg List.head? hrest
      cases hspace
    | [x, y], hgap =>
      cases hgap
      exact Or.inr (Or.inl ⟨rfl, (List.cons.inj hrest).2.symm⟩)
    | [x, y, z], hgap =>
      cases hgap
      exact Or.inr (Or.inr ⟨[], rfl, hrest.symm⟩)
    | _ :: _ :: _ :: _ :: _, hgap => cases hgap

/-- **Where the referer ends is told exactly if the pair is clear.** -/
theorem cut_unique_iff {r u : Text} :
    (∀ r' u', r ++ gap ++ u = r' ++ gap ++ u' → r = r' ∧ u = u') ↔ IsClear r u := by
  constructor
  · intro hunique
    refine ⟨?_, ?_, ?_, ?_⟩
    · rintro ⟨front, back, rfl⟩
      have h := (hunique front (back ++ gap ++ u) (by simp only [List.append_assoc])).1
      exact absurd (congrArg List.length h) (by simp [gap])
    · rintro ⟨front, rfl⟩
      have h := (hunique front ([' ', '"'] ++ u) (by simp [gap])).1
      exact absurd (congrArg List.length h) (by simp)
    · rintro ⟨front, back, rfl⟩
      have h := (hunique (r ++ gap ++ front) back (by simp only [List.append_assoc])).1
      exact absurd (congrArg List.length h) (by simp [gap])
    · rintro ⟨back, rfl⟩
      have h := (hunique (r ++ ['"', ' ']) back (by simp [gap])).1
      exact absurd (congrArg List.length h) (by simp)
  · intro hclear r' u' h
    rw [List.append_assoc, List.append_assoc] at h
    rcases List.append_eq_append_iff.1 h with ⟨a, hr, hrest⟩ | ⟨a, hr, hrest⟩
    · -- the other cut lies further on, in the user agent
      rcases gap_append_cases hrest with rfl | ⟨-, hu⟩ | ⟨rest, -, hu⟩
      · rw [List.append_nil] at hr
        exact ⟨hr.symm, List.append_cancel_left hrest⟩
      · exact absurd ⟨u', hu.symm⟩ hclear.userAgent_begins
      · exact absurd ⟨rest, u', hu.symm⟩ hclear.userAgent_holds
    · rcases gap_append_cases hrest with rfl | ⟨ha, -⟩ | ⟨rest, ha, -⟩
      · rw [List.append_nil] at hr
        exact ⟨hr, (List.append_cancel_left hrest).symm⟩
      · exact absurd ⟨r', (hr.trans (by rw [ha])).symm⟩ hclear.referer_ends
      · exact absurd ⟨r', rest, by rw [hr, ha, List.append_assoc]⟩ hclear.referer_holds

/-! ## 3. The JSON format -/

/-- A text; null where there is none. -/
def textOrNull : Option Text → Json.Value
  | none => .null
  | some t => .text t

/-- **The ten members of an entry** in JSON, by the alphabet. -/
def asMembers (e : AccessEntry) : List (Text × Json.Value) := [
  ("body_bytes".toList, .number e.bodyBytes 0),
  ("http_version".toList, .text e.httpVersion),
  ("method".toList, .text e.method),
  ("referer".toList, textOrNull e.referer),
  ("remote_addr".toList, .text e.remoteAddr),
  ("request_time_us".toList, .number e.micros 0),
  ("status".toList, .number e.status 0),
  ("time".toList, .text e.time.iso),
  ("uri".toList, .text e.uri),
  ("user_agent".toList, textOrNull e.userAgent)]

theorem ofScalar_ofOption (t : Option Text) :
    Json.Value.ofScalar (.ofOption t) = textOrNull t := by
  cases t <;> rfl

theorem values_members (e : AccessEntry) : Json.values e.members = e.asMembers := by
  unfold Json.values members asMembers
  simp only [List.map_cons, List.map_nil, ofScalar_ofOption]
  rfl

/-- **The JSON format loses nothing.** The line of an entry holds no character below the space, so it
    is one line, and what is read of it is an object with the ten members of the entry and no
    others. -/
theorem read?_json (e : AccessEntry) :
    (∀ c ∈ e.line "json".toList, 0x20 ≤ c.toNat)
      ∧ Json.read? (e.line "json".toList) = some (.object e.asMembers) := by
  have hline : e.line "json".toList = Json.object e.members := rfl
  rw [hline, Json.read?_object, values_members]
  refine ⟨fun c hc => ?_, rfl⟩
  exact of_decide_eq_true (List.all_eq_true.1 (Json.all_isPrinted_object e.members) c hc)

end Log.AccessEntry

end Docroot
