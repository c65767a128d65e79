import Docroot.Proofs.Site.Reply

/-!
# A reply is whole or bare

Texts from outside go into the headers of redirects, of files and of the answer that a copy is good.
If all of them can be header values, the reply has the headers that were meant, with those values
(`isBuilt_ofDraft`). If any of them cannot, nothing is left of the reply but a status, and one line
says so (`isGivenUp_ofDraft`); which of them it was, and how many, makes no difference. Pages have no
such text and are always built.
-/

namespace Docroot.Site

open Docroot.Http
open Docroot.Log (Notice)

/-! ## 1. Whole and bare replies -/

/-- The text is made of octets that a header value may have. -/
def IsLegal (s : Text) : Prop := (Utf8.encode s).all isValueByte = true

instance (s : Text) : Decidable (IsLegal s) := inferInstanceAs (Decidable (_ = true))

/-- **A reply that was built**: the status that was meant, the fields with their texts as values and
    no others, the body, and nothing to notice. -/
structure IsBuilt (reply : Reply) (status : Status) (fields : List (HeaderName × Text))
    (body : Bytes) : Prop where
  status : reply.response.status = status
  fields : reply.response.headers.map (fun f => (f.1, f.2.bytes))
    = fields.map fun f => (f.1, Utf8.encode f.2)
  body : reply.response.body = body
  quiet : reply.notices = []

/-- **A reply that was given up**: a status without headers and body, and one error, in one line,
    that says what could not be built. -/
structure IsGivenUp (reply : Reply) (what : Text) (fallback : Status) : Prop where
  bare : reply.response = ⟨fallback, [], []⟩
  told : ∃ notice, reply.notices = [notice] ∧ notice.severity = .error
    ∧ notice.message = "Failed to build ".toList ++ what
      ++ " response: failed to parse header value".toList
    ∧ '\n' ∉ notice.line

/-- **All or nothing**: the reply is built if all texts that were given for its headers are legal, and
    given up if one of them is not. -/
structure IsWholeOrBare (reply : Reply) (given : List Text) (what : Text) (status fallback : Status)
    (fields : List (HeaderName × Text)) (body : Bytes) : Prop where
  whole : (∀ s ∈ given, IsLegal s) → IsBuilt reply status fields body
  bare : (∃ s ∈ given, ¬IsLegal s) → IsGivenUp reply what fallback

theorem message_buildFailed (what : Text) :
    (Notice.buildFailed what .illegalValue).message
      = "Failed to build ".toList ++ what ++ " response: failed to parse header value".toList :=
  List.append_assoc _ _ _

/-- The error is one line if what it is about is. -/
theorem newline_notMem_buildFailed {what : Text} (h : '\n' ∉ what) :
    '\n' ∉ (Notice.buildFailed what .illegalValue).line := by
  have hlabel : '\n' ∉ "[ERROR]".toList := by decide
  have hbegin : '\n' ∉ "Failed to build ".toList := by decide
  have hend : '\n' ∉ " response: failed to parse header value".toList := by decide
  have hline : (Notice.buildFailed what .illegalValue).line
      = "[ERROR]".toList ++ ' ' :: (Notice.buildFailed what .illegalValue).message := rfl
  rw [hline, message_buildFailed]
  intro hmem
  rw [List.mem_append, List.mem_cons, List.mem_append, List.mem_append] at hmem
  rcases hmem with hmem | hmem | (hmem | hmem) | hmem
  · exact hlabel hmem
  · exact absurd hmem (by decide)
  · exact hbegin hmem
  · exact h hmem
  · exact hend hmem

/-! ## 2. Fields from texts -/

/-- The fields of texts, as a draft takes them. -/
def ofTexts (fields : List (HeaderName × Text)) : List (HeaderName × Option HeaderValue) :=
  fields.map fun f => (f.1, HeaderValue.ofText? f.2)

/-- A number is put in as its digits. -/
theorem some_ofNat (n : Nat) :
    some (HeaderValue.ofNat n) = HeaderValue.ofText? (Digits.decimal n) :=
  (HeaderValue.ofText?_of_all (all_isValueChar_decimal n)).symm

theorem isLegal_decimal (n : Nat) : IsLegal (Digits.decimal n) := by
  unfold IsLegal
  rw [all_isValueByte_encode, all_isValueChar_decimal]

theorem ofText?_of_isLegal {s : Text} (h : IsLegal s) :
    HeaderValue.ofText? s = some ⟨Utf8.encode s, h⟩ := dif_pos h

theorem ofText?_of_not_isLegal {s : Text} (h : ¬IsLegal s) : HeaderValue.ofText? s = none :=
  dif_neg h

/-- **Legal texts become the values**, field by field. -/
theorem exists_sectionOf?_ofTexts {fields : List (HeaderName × Text)}
    (h : ∀ f ∈ fields, IsLegal f.2) :
    ∃ headers, Draft.sectionOf? (ofTexts fields) = some headers
      ∧ headers.map (fun f => (f.1, f.2.bytes)) = fields.map fun f => (f.1, Utf8.encode f.2) := by
  induction fields with
  | nil => exact ⟨[], rfl, rfl⟩
  | cons f fields ih =>
    rw [List.forall_mem_cons] at h
    obtain ⟨headers, hsection, hvalues⟩ := ih h.2
    refine ⟨(f.1, ⟨Utf8.encode f.2, h.1⟩) :: headers, ?_, ?_⟩
    · unfold ofTexts at hsection ⊢
      rw [List.map_cons, ofText?_of_isLegal h.1, Draft.sectionOf?, hsection]
      rfl
    · rw [List.map_cons, List.map_cons, hvalues]

/-- **One text that is not legal** is enough for there to be no section, wherever it stands. -/
theorem sectionOf?_ofTexts_eq_none {fields : List (HeaderName × Text)}
    (h : ¬∀ f ∈ fields, IsLegal f.2) : Draft.sectionOf? (ofTexts fields) = none := by
  induction fields with
  | nil => exact absurd (List.forall_mem_nil _) h
  | cons f fields ih =>
    unfold ofTexts at ih ⊢
    rw [List.map_cons]
    by_cases hf : IsLegal f.2
    · have hrest : ¬∀ f ∈ fields, IsLegal f.2 := fun hrest =>
        h (List.forall_mem_cons.2 ⟨hf, hrest⟩)
      rw [ofText?_of_isLegal hf, Draft.sectionOf?, ih hrest]
      rfl
    · rw [ofText?_of_not_isLegal hf, Draft.sectionOf?]

section

variable (what : Text) (status fallback : Status) (body : Bytes)
  {fields : List (HeaderName × Text)} (hlen : fields.length ≤ 3)
include hlen

theorem isBuilt_ofDraft (h : ∀ f ∈ fields, IsLegal f.2) :
    IsBuilt (.ofDraft what fallback body (.ofFields status (ofTexts fields))) status fields body := by
  obtain ⟨headers, hsection, hvalues⟩ := exists_sectionOf?_ofTexts h
  rw [ofDraft_ofFields _ _ _ _ (by rwa [ofTexts, List.length_map]), hsection]
  exact ⟨rfl, hvalues, rfl, rfl⟩

theorem isGivenUp_ofDraft (hwhat : '\n' ∉ what) (h : ¬∀ f ∈ fields, IsLegal f.2) :
    IsGivenUp (.ofDraft what fallback body (.ofFields status (ofTexts fields))) what fallback := by
  rw [ofDraft_ofFields _ _ _ _ (by rwa [ofTexts, List.length_map]), sectionOf?_ofTexts_eq_none h]
  exact ⟨rfl, _, rfl, rfl, message_buildFailed what, newline_notMem_buildFailed hwhat⟩

/-- What the site puts in beside the texts given is legal. -/
theorem isWholeOrBare_ofDraft (hwhat : '\n' ∉ what) {given : List Text}
    (hgiven : (∀ f ∈ fields, IsLegal f.2) ↔ ∀ s ∈ given, IsLegal s) :
    IsWholeOrBare (.ofDraft what fallback body (.ofFields status (ofTexts fields))) given what status
      fallback fields body where
  whole h := isBuilt_ofDraft what status fallback body hlen (hgiven.2 h)
  bare h := by
    obtain ⟨s, hs, hillegal⟩ := h
    exact isGivenUp_ofDraft what status fallback body hlen hwhat
      fun hall => hillegal (hgiven.1 hall s hs)

end

/-! ## 3. The replies of the site -/

theorem isWholeOrBare_redirectReply (location : Text) :
    IsWholeOrBare (redirectReply location) [location] "301".toList .movedPermanently
      .movedPermanently [(.location, location), (.contentLength, Digits.decimal 0)] [] := by
  have hfields : redirectReply location = .ofDraft "301".toList .movedPermanently []
      (.ofFields .movedPermanently
        (ofTexts [(.location, location), (.contentLength, Digits.decimal 0)])) := by
    unfold redirectReply
    rw [some_ofNat]
    rfl
  rw [hfields]
  exact isWholeOrBare_ofDraft _ _ _ _ (by simp) (by decide) (by simp [isLegal_decimal])

theorem isWholeOrBare_notModifiedReply (date : Text) :
    IsWholeOrBare (notModifiedReply date) [date] "304".toList .notModified .notModified
      [(.lastModified, date)] [] := by
  have hfields : notModifiedReply date = .ofDraft "304".toList .notModified []
      (.ofFields .notModified (ofTexts [(.lastModified, date)])) := rfl
  rw [hfields]
  exact isWholeOrBare_ofDraft _ _ _ _ (by simp) (by decide) (by simp)

theorem isWholeOrBare_fileReply (data : Bytes) (type : Text) (date : Option Text) (isHead : Bool) :
    IsWholeOrBare (fileReply data type date isHead) (type :: date.toList) "200".toList .ok
      .serverError
      ([(.contentType, type), (.contentLength, Digits.decimal data.length)]
        ++ date.toList.map (.lastModified, ·))
      (bodyFor isHead data) := by
  have hfields : fileReply data type date isHead
      = .ofDraft "200".toList .serverError (bodyFor isHead data) (.ofFields .ok
        (ofTexts ([(.contentType, type), (.contentLength, Digits.decimal data.length)]
          ++ date.toList.map (.lastModified, ·)))) := by
    unfold fileReply
    rw [some_ofNat]
    cases date <;> rfl
  rw [hfields]
  refine isWholeOrBare_ofDraft _ _ _ _ ?_ (by decide) ?_
  · cases date <;> simp
  · cases date <;> simp [isLegal_decimal]

/-- A page with a legal type is built. -/
theorem isBuilt_pageReply (what : Text) (status fallback : Status) {type : Text}
    (htype : IsLegal type) (page : Text) (isHead : Bool) :
    IsBuilt (pageReply what status fallback type page isHead) status
      [(.contentType, type), (.contentLength, Digits.decimal (Utf8.encode page).length)]
      (bodyFor isHead (Utf8.encode page)) := by
  have hfields : pageReply what status fallback type page isHead
      = .ofDraft what fallback (bodyFor isHead (Utf8.encode page)) (.ofFields status (ofTexts
        [(.contentType, type), (.contentLength, Digits.decimal (Utf8.encode page).length)])) := by
    unfold pageReply
    dsimp only
    rw [some_ofNat]
    rfl
  rw [hfields]
  exact isBuilt_ofDraft _ _ _ _ (by simp) (by simp [htype, isLegal_decimal])

/-- The reply that brings a page is the page as response, and no more. -/
theorem pageReply_eq (what : Text) (status fallback : Status) {type : Text}
    (htype : type.all isValueChar = true) (page : Text) (isHead : Bool) :
    pageReply what status fallback type page isHead
      = { response := pageResponse status (.ofText type htype) page isHead } := by
  unfold pageReply
  dsimp only
  rw [ofDraft_ofFields _ _ _ _ (by simp), HeaderValue.ofText?_of_all htype]
  rfl

/-- **Every reply is whole or bare.** A redirect, the answer that a copy is good, and a file have the
    headers that were meant, with the texts given as their values, and leave no notice, if these
    texts are legal. If one is not, there are no headers and no body, the status is 301, 304 or 500,
    and one error says so. Error pages and pages made on the spot are built whatever they say, and are
    what the site gives in their place. -/
theorem replies_are_whole_or_bare :
    (∀ location, IsWholeOrBare (redirectReply location) [location] "301".toList .movedPermanently
      .movedPermanently [(.location, location), (.contentLength, Digits.decimal 0)] [])
    ∧ (∀ date, IsWholeOrBare (notModifiedReply date) [date] "304".toList .notModified .notModified
      [(.lastModified, date)] [])
    ∧ (∀ data type date isHead, IsWholeOrBare (fileReply data type date isHead)
      (type :: date.toList) "200".toList .ok .serverError
      ([(.contentType, type), (.contentLength, Digits.decimal data.length)]
        ++ date.toList.map (.lastModified, ·))
      (bodyFor isHead data))
    ∧ (∀ status message isHead,
      let page := Utf8.encode (errorPage status message)
      IsBuilt (errorReply status message isHead) status
          [(.contentType, "text/html;charset=utf-8".toList),
            (.contentLength, Digits.decimal page.length)] (bodyFor isHead page)
        ∧ (errorReply status message isHead).response = errorResponse status message isHead)
    ∧ ∀ content isHead,
      let page := Utf8.encode content
      IsBuilt (htmlReply content isHead) .ok
          [(.contentType, "text/html; charset=utf-8".toList),
            (.contentLength, Digits.decimal page.length)] (bodyFor isHead page)
        ∧ (htmlReply content isHead).response = htmlResponse content isHead := by
  refine ⟨isWholeOrBare_redirectReply, isWholeOrBare_notModifiedReply, isWholeOrBare_fileReply,
    fun status message isHead => ⟨?_, ?_⟩, fun content isHead => ⟨?_, ?_⟩⟩
  · exact isBuilt_pageReply _ _ _ (by decide) _ _
  · exact congrArg Reply.response (pageReply_eq _ _ _ (by decide) _ _)
  · exact isBuilt_pageReply _ _ _ (by decide) _ _
  · exact congrArg Reply.response (pageReply_eq _ _ _ (by decide) _ _)

/-- A place beyond ASCII is sent as it is; one with a line break is not, and a file whose type and
    whose date are both no header values is given up once. -/
theorem replies_with_breaks :
    IsBuilt (redirectReply "/levels/?ä".toList) .movedPermanently
        [(.location, "/levels/?ä".toList), (.contentLength, ['0'])] []
      ∧ IsGivenUp (redirectReply "/\nset-cookie: a".toList) "301".toList .movedPermanently
      ∧ IsGivenUp (fileReply [0x61] "text/\nplain".toList (some "\x7f".toList) false) "200".toList
        .serverError := by
  obtain ⟨hredirect, -, hfile, -⟩ := replies_are_whole_or_bare
  refine ⟨(hredirect _).whole ?_, (hredirect _).bare ?_, (hfile _ _ _ _).bare ?_⟩
  · exact List.forall_mem_singleton.2 (by decide)
  · exact ⟨_, List.mem_singleton_self _, by decide⟩
  · exact ⟨_, List.mem_cons_self, by decide⟩

end Docroot.Site
