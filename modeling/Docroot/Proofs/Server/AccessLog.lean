import Docroot.Proofs.Http.Target
import Docroot.Proofs.Log.AccessEntry
import Docroot.Proofs.Server.Address
import Docroot.Proofs.Server.Connection

/-!
# One request, one line

Where the access log is on, a request that is answered gets one line in it, and the line is true
(`one_truthful_line`). It has the line breaks of the format and no others, so that no client can make
one line look like two; and in the formats `common` and `combined` it tells the request, the status of
the response and the length of its body. A request that is not answered gets no line: that is a GET or
HEAD request for a file whose time is beyond the calendar, and nothing else.

That no break comes with a request is a matter of what the types of a request let in. A method is a
token, a target holds what a path and a query may hold, and a header is read as text only if it is
printable. None of these kinds of character ends a line.
-/

namespace Docroot

open Docroot.Text (breaks breaks_of_all)

/-! ## 1. No line break comes with a request -/

namespace Http

theorem Method.breaks_name (m : Method) : breaks m.name = [] := by
  have htoken := m.isToken_name
  unfold isToken at htoken
  rw [Bool.and_eq_true] at htoken
  exact breaks_of_all (by decide) (by decide) htoken.2

theorem Version.breaks_label (v : Version) : breaks v.label = [] := by
  cases v <;> rfl

theorem Target.breaks_shown (t : Target) : breaks t.shown = [] :=
  breaks_of_all (by decide) (by decide) t.all_isTargetChar_shown

theorem HeaderValue.breaks_toText? {v : HeaderValue} {t : Text} (h : v.toText? = some t) :
    breaks t = [] :=
  breaks_of_all (by decide) (by decide) (all_isTextChar_of_toText? h)

theorem Headers.breaks_getText? {h : Headers} {n : HeaderName} :
    ∀ t ∈ Headers.getText? h n, breaks t = [] := by
  intro t ht
  obtain ⟨v, -, hv⟩ := Option.bind_eq_some_iff.1 ht
  exact HeaderValue.breaks_toText? hv

end Http

namespace Server

open Docroot.Files
open Docroot.Http
open Docroot.Log (AccessEntry Item)
open Docroot.Site (Timing Handled handle accessEntry IsDated askOf)
open Docroot.Time (OutOfRange)

theorem IpAddress.breaks_toText (ip : IpAddress) : breaks ip.toText = [] :=
  breaks_of_all (by decide) (by decide) ip.all_isAddressChar_toText

/-- **No text of the entry for a request holds a line break.** -/
theorem isUnbroken_accessEntry (r : Request) (ip : IpAddress) (timing : Timing)
    (response : Response) : (accessEntry r ip.toText timing response).IsUnbroken where
  remoteAddr := ip.breaks_toText
  method := r.method.breaks_name
  uri := r.target.breaks_shown
  httpVersion := r.version.breaks_label
  referer := Headers.breaks_getText?
  userAgent := Headers.breaks_getText?

/-! ## 2. What a line tells -/

/-- The length of a body; a dash for an empty one. -/
def sizeText (body : Bytes) : Text := if body = [] then ['-'] else Digits.decimal body.length

/-- **The line tells the truth about a request and its response.** -/
structure IsTruthful (format : Text) (r : Request) (response : Response) (line : Text) : Prop where
  /-- Every line break in it is one of the format. -/
  unforged : breaks line = breaks format
  oneLine : '\n' ∉ format → '\n' ∉ line
  /-- The request in quotes, the status and the size stand in it one after another, and what follows
      begins with a space. -/
  tells : format = "common".toList ∨ format = "combined".toList →
    ∃ before after, line = before
        ++ '"' :: (r.method.name ++ ' ' :: r.target.shown ++ " HTTP/".toList ++ r.version.label)
        ++ "\" ".toList ++ Digits.decimal response.status.code ++ ' ' :: sizeText response.body
        ++ after
      ∧ (after = [] ∨ ∃ more, after = ' ' :: more)
  bodiless : r.method = .head ∨ response.status = .notModified → response.body = []

theorem bodyBytesOrDash_accessEntry (r : Request) (peer : Text) (timing : Timing)
    (response : Response) :
    (accessEntry r peer timing response).bodyBytesOrDash = sizeText response.body := by
  unfold AccessEntry.bodyBytesOrDash accessEntry sizeText
  simp only [List.length_eq_zero_iff]

theorem shows_line (e : AccessEntry) {format : Text}
    (h : format = "common".toList ∨ format = "combined".toList) : e.Shows (e.line format) := by
  unfold AccessEntry.line
  rcases h with rfl | rfl
  · exact e.shows_common
  · exact e.shows_combined

/-- **A line for an answer is true**, in any format. -/
theorem isTruthful_line {fs : FileSystem} {site : Site} {ip : IpAddress} {timing : Timing}
    {r : Request} {answer : Handled} (h : handle fs site ip.toText timing r = .ok answer)
    (format : Text) :
    IsTruthful format r answer.response
      ((accessEntry r ip.toText timing answer.response).line format) := by
  have hbreaks := (isUnbroken_accessEntry r ip timing answer.response).breaks_line format
  refine ⟨hbreaks, ?_, ?_, ?_⟩
  · intro hformat hline
    have hbreak : '\n' ∈ breaks format := by
      rw [← hbreaks]
      exact List.mem_filter.2 ⟨hline, rfl⟩
    exact hformat (List.mem_filter.1 hbreak).1
  · intro hnamed
    obtain ⟨before, after, hline, hafter⟩ :=
      shows_line (accessEntry r ip.toText timing answer.response) hnamed
    refine ⟨before, after, ?_, hafter⟩
    rw [hline, AccessEntry.told, AccessEntry.requestLine, bodyBytesOrDash_accessEntry]
    simp only [List.append_assoc, List.cons_append]
    rfl
  · intro hnone
    obtain ⟨reply, hreply, hresponse⟩ := Site.exists_reply_of_handle h
    rw [hresponse, Site.body_finish]
    rw [hresponse, Site.status_finish] at hnone
    refine (Site.isMade_of_respond hreply).body_eq_nil (hnone.imp decide_eq_true ?_)
    intro hstatus
    rw [hstatus]
    rfl

/-! ## 3. What is written -/

/-- The lines for the access log among some items. -/
def accessLines (items : List Item) : List Text :=
  items.filterMap fun
    | .access line => some line
    | .notice _ => none

theorem accessLines_itemsOf (answer : Handled) :
    accessLines (itemsOf answer) = answer.accessLine.toList := by
  have hnotices : accessLines (answer.notices.map .notice) = [] := by
    unfold accessLines
    rw [List.filterMap_map]
    exact List.filterMap_eq_nil_iff.2 fun n _ => rfl
  unfold accessLines at hnotices ⊢
  unfold itemsOf
  rw [List.filterMap_append, hnotices]
  cases answer.accessLine <;> rfl

/-- What the access log gets for a request; nothing where serving gives up. -/
def logged (fs : FileSystem) (site : Site) (ip : IpAddress) (timing : Timing) (r : Request) :
    List Text :=
  match handle fs site ip.toText timing r with
  | .ok answer => accessLines (itemsOf answer)
  | .error _ => []

/-- The request is answered, and the access log gets one line for it, which is true. -/
def LogsTruthfully (fs : FileSystem) (site : Site) (ip : IpAddress) (timing : Timing)
    (r : Request) : Prop :=
  ∃ answer line, handle fs site ip.toText timing r = .ok answer
    ∧ logged fs site ip timing r = [line]
    ∧ IsTruthful site.settings.logging.accessLogFormat r answer.response line

section

variable {fs : FileSystem} {site : Site} {ip : IpAddress} {timing : Timing} {r : Request}

/-- Every answer comes with a line, or none does. -/
theorem accessLine_of_handle {peer : Text} {answer : Handled}
    (h : handle fs site peer timing r = .ok answer) :
    answer.accessLine = if site.settings.logging.accessLog then
        some ((accessEntry r peer timing answer.response).line site.settings.logging.accessLogFormat)
      else none := by
  unfold handle at h
  cases hrespond : Site.respond fs site r with
  | error e =>
    rw [hrespond] at h
    cases h
  | ok reply =>
    rw [hrespond] at h
    cases h
    rfl

theorem logged_of_handle {answer : Handled}
    (h : handle fs site ip.toText timing r = .ok answer) :
    logged fs site ip timing r = answer.accessLine.toList := by
  unfold logged
  rw [h]
  exact accessLines_itemsOf _

theorem logsTruthfully_of_handle (hon : site.settings.logging.accessLog = true) {answer : Handled}
    (h : handle fs site ip.toText timing r = .ok answer) : LogsTruthfully fs site ip timing r := by
  refine ⟨answer, _, h, ?_, isTruthful_line h _⟩
  rw [logged_of_handle h, accessLine_of_handle h, if_pos hon]
  rfl

theorem logged_of_off (hoff : site.settings.logging.accessLog = false) :
    logged fs site ip timing r = [] := by
  cases h : handle fs site ip.toText timing r with
  | error e =>
    unfold logged
    rw [h]
  | ok answer =>
    rw [logged_of_handle h, accessLine_of_handle h, hoff]
    rfl

theorem exists_answer_of_isDated {peer : Text}
    (h : r.method = .get ∨ r.method = .head → IsDated fs site (askOf r)) :
    ∃ answer, handle fs site peer timing r = .ok answer := by
  refine Site.exists_answer_iff.2 ?_
  by_cases hmethod : r.method = .get ∨ r.method = .head
  · rw [Site.respond_eq_servePath fs site hmethod, Site.exists_servePath_iff]
    exact h hmethod
  · unfold Site.respond
    rw [if_neg hmethod]
    exact ⟨_, rfl⟩

theorem isDated_of_answer {peer : Text} {answer : Handled}
    (h : handle fs site peer timing r = .ok answer) (hmethod : r.method = .get ∨ r.method = .head) :
    IsDated fs site (askOf r) := by
  have hresponse := Site.exists_answer_iff.1 ⟨answer, h⟩
  rwa [Site.respond_eq_servePath fs site hmethod, Site.exists_servePath_iff] at hresponse

end

/-- **One request, one truthful line.** Where the access log is on, it gets one line for a request,
    which is true, exactly if the request is answered: always, unless it is a GET or HEAD request to
    be answered from a regular file whose time has no date. Where the access log is off, it gets no
    line. The target in the line is the path and the query as they were read. -/
theorem one_truthful_line (fs : FileSystem) (site : Site) (ip : IpAddress) (timing : Timing)
    (r : Request) :
    (site.settings.logging.accessLog = true →
      (LogsTruthfully fs site ip timing r
        ↔ (r.method = .get ∨ r.method = .head → IsDated fs site (askOf r))))
      ∧ (site.settings.logging.accessLog = false → logged fs site ip timing r = [])
      ∧ ∀ octets, Target.ofBytes octets = .ok r.target →
          r.target.shown = r.target.pathAndQuery := by
  refine ⟨fun hon => ⟨?_, fun hdated => ?_⟩, logged_of_off, fun octets hread =>
    (Target.isRooted_of_ofBytes hread).shown_eq⟩
  · rintro ⟨answer, -, hanswer, -⟩ hmethod
    exact isDated_of_answer hanswer hmethod
  · obtain ⟨answer, hanswer⟩ := exists_answer_of_isDated hdated
    exact logsTruthfully_of_handle hon hanswer

/-- The settings that hold where nothing is set, but for the access log. -/
def silentSettings : Settings :=
  { Settings.default with logging := { Settings.default.logging with accessLog := false } }

/-- A file of the last second of the calendar gets its line, and none where the log is off. -/
theorem one_truthful_line_lastSecond :
    LogsTruthfully (Site.timedFile ⟨8210266876799, 999999999⟩) ⟨.default, [0x77], .indexOnly⟩
        (.v4 127 0 0 1) ⟨⟨⟨0, 0⟩, 0⟩, 0⟩ Site.fileRequest
      ∧ logged (Site.timedFile ⟨8210266876799, 999999999⟩) ⟨silentSettings, [0x77], .indexOnly⟩
          (.v4 127 0 0 1) ⟨⟨⟨0, 0⟩, 0⟩, 0⟩ Site.fileRequest = []
      ∧ Site.fileRequest.target.shown = Site.fileRequest.target.pathAndQuery := by
  have hread : Target.ofBytes (Utf8.encode "/f".toList) = .ok Site.fileRequest.target :=
    Target.ofBytes_written (p := ['f']) (q := none) (by decide) rfl (by decide)
  obtain ⟨hon, -, hverbatim⟩ := one_truthful_line (Site.timedFile ⟨8210266876799, 999999999⟩)
    ⟨.default, [0x77], .indexOnly⟩ (.v4 127 0 0 1) ⟨⟨⟨0, 0⟩, 0⟩, 0⟩ Site.fileRequest
  obtain ⟨-, hoff, -⟩ := one_truthful_line (Site.timedFile ⟨8210266876799, 999999999⟩)
    ⟨silentSettings, [0x77], .indexOnly⟩ (.v4 127 0 0 1) ⟨⟨⟨0, 0⟩, 0⟩, 0⟩ Site.fileRequest
  exact ⟨(hon rfl).2 fun _ => Site.isDated_timedFile (by decide), hoff rfl,
    hverbatim _ hread⟩

/-- A file of the second after that is not answered, and the request leaves no line, though the
    access log is on. -/
theorem no_line_afterLastSecond :
    Settings.default.logging.accessLog = true
      ∧ logged (Site.timedFile ⟨8210266876800, 0⟩) ⟨.default, [0x77], .indexOnly⟩
          (.v4 127 0 0 1) ⟨⟨⟨0, 0⟩, 0⟩, 0⟩ Site.fileRequest = [] := by
  refine ⟨rfl, ?_⟩
  cases hanswer : handle (Site.timedFile ⟨8210266876800, 0⟩) ⟨.default, [0x77], .indexOnly⟩
      (IpAddress.v4 127 0 0 1).toText ⟨⟨⟨0, 0⟩, 0⟩, 0⟩ Site.fileRequest with
  | error e =>
    unfold logged
    rw [hanswer]
  | ok answer =>
    have hdate := isDated_of_answer hanswer (Or.inl rfl) _ _ (Site.servedFile?_timedFile _)
      (Site.stat_timedFile _)
    exact absurd hdate (by decide)

end Server

end Docroot
