import Docroot.Http.MediaType
import Docroot.Proofs.Http.Draft
import Docroot.Proofs.Http.Value
import Docroot.Proofs.Time.HttpDate
import Docroot.Site.Reply

/-!
# Replies keep their headers

A reply fails as a whole when a text meant for a header cannot be one (`ofDraft_ofFields`). The
texts that the site itself puts into headers always can: dates, which are visible text
(`all_isVisible_ofCivil`), and media types (`all_isValueChar_ofPath`). With legal texts each reply is
the response that was meant (`fileReply_eq`, `notModifiedReply_eq`, `redirectReply_eq`), and nothing
is noticed.
-/

namespace Docroot

open Docroot.Http (isValueChar isVisible all_isVisible_padded all_isValueChar_of_isVisible
  HeaderValue HeaderName Headers)

/-! ## 1. Dates and media types -/

namespace Time

theorem all_isVisible_getD {names : List Text} (h : ∀ name ∈ names, name.all isVisible = true)
    (i : Nat) : (names.getD i []).all isVisible = true := by
  rw [List.getD_eq_getElem?_getD]
  cases hi : names[i]? with
  | none => rfl
  | some name => exact h name (List.mem_of_getElem? hi)

theorem all_isVisible_yearText (y : Int) : (yearText y).all isVisible = true := by
  unfold yearText
  split
  · exact all_isVisible_padded _ _
  · unfold Digits.signedPadded
    rw [List.all_cons, all_isVisible_padded]
    split <;> decide

/-- **A date in the form of HTTP is visible text.** -/
theorem all_isVisible_ofCivil (c : Civil) : (HttpDate.ofCivil c).all isVisible = true := by
  have hday : (dayName c.weekday).all isVisible = true := all_isVisible_getD (by decide) _
  have hmonth : (monthName c.date.month).all isVisible = true := all_isVisible_getD (by decide) _
  have htwo (n : Nat) : (twoDigits n).all isVisible = true := all_isVisible_padded 2 n
  have hspace : isVisible ' ' = true := by decide
  have hcomma : isVisible ',' = true := by decide
  have hcolon : isVisible ':' = true := by decide
  have hgmt : (" GMT".toList).all isVisible = true := by decide
  unfold HttpDate.ofCivil HttpDate.clock
  simp only [List.all_append, List.all_cons, List.all_nil, hday, hmonth, htwo, hspace, hcomma,
    hcolon, hgmt, all_isVisible_yearText, Bool.and_self]

theorem all_isValueChar_ofCivil (c : Civil) : (HttpDate.ofCivil c).all isValueChar = true :=
  all_isValueChar_of_isVisible (all_isVisible_ofCivil c)

end Time

/-- **A media type can be a header value.** -/
theorem MediaType.all_isValueChar_ofPath (p : Path) :
    (MediaType.ofPath p).all isValueChar = true := by
  have htable : ∀ entry ∈ table, entry.2.toList.all isValueChar = true := by decide
  have hother : octetStream.all isValueChar = true := by decide
  unfold ofPath ofExtension
  split
  · exact hother
  · split
    · next names type hfind => exact htable _ (List.mem_of_find?_eq_some hfind)
    · exact hother

namespace Site

open Docroot.Http

/-! ## 2. Replies from drafts -/

/-- **A reply has all the fields put into it, or it is bare.** No reply has more than three. -/
theorem ofDraft_ofFields (what : Text) (status fallback : Status) (body : Bytes)
    {fields : List (HeaderName × Option HeaderValue)} (hlen : fields.length ≤ 3) :
    Reply.ofDraft what fallback body (.ofFields status fields)
      = match Draft.sectionOf? fields with
        | some headers => { response := ⟨status, headers, body⟩ }
        | none => bareReply what .illegalValue fallback := by
  rw [Draft.ofFields_eq status (Nat.le_trans hlen (by decide))]
  cases Draft.sectionOf? fields <;> rfl

theorem redirectReply_cases (location : Text) :
    redirectReply location
      = match HeaderValue.ofText? location with
        | some l =>
          { response := ⟨.movedPermanently, [(.location, l), (.contentLength, .ofNat 0)], []⟩ }
        | none => bareReply "301".toList .illegalValue .movedPermanently := by
  unfold redirectReply
  rw [ofDraft_ofFields _ _ _ _ (by simp)]
  cases HeaderValue.ofText? location <;> rfl

/-! ## 3. Replies with legal texts -/

theorem redirectReply_eq {location : Text} (h : location.all isValueChar = true) :
    redirectReply location = { response :=
      ⟨.movedPermanently, [(.location, .ofText location h), (.contentLength, .ofNat 0)], []⟩ } := by
  rw [redirectReply_cases, HeaderValue.ofText?_of_all h]

theorem notModifiedReply_eq {date : Text} (h : date.all isValueChar = true) :
    notModifiedReply date
      = { response := ⟨.notModified, [(.lastModified, .ofText date h)], []⟩ } := by
  unfold notModifiedReply
  rw [ofDraft_ofFields _ _ _ _ (by simp), HeaderValue.ofText?_of_all h]
  rfl

theorem fileReply_eq (data : Bytes) {type date : Text} (htype : type.all isValueChar = true)
    (hdate : date.all isValueChar = true) (isHead : Bool) :
    fileReply data type (some date) isHead = { response :=
      ⟨.ok, [(.contentType, .ofText type htype), (.contentLength, .ofNat data.length),
        (.lastModified, .ofText date hdate)], bodyFor isHead data⟩ } := by
  unfold fileReply
  rw [ofDraft_ofFields _ _ _ _ (by simp)]
  dsimp only [Option.toList, List.map]
  rw [HeaderValue.ofText?_of_all htype, HeaderValue.ofText?_of_all hdate]
  rfl

end Site

end Docroot
