import Docroot.Proofs.Http.Target
import Docroot.Proofs.Http.Value
import Docroot.Proofs.Log.Fields
import Docroot.Proofs.Server.Address
import Docroot.Proofs.Site.Finish
import Docroot.Site.Handle

/-!
# No request imitates another, but for the quotes

Of the entries that requests leave, those with equal lines agree on the request, the status and the
size (`lines_tell_fields`): a method is a token, a target holds no space, and so each ends where the
line says. That is all there is in the common format.

In the combined format the referer and the user agent follow, which a client writes as it likes, and
their quotes are shown like those around them. So a line tells the text from the one to the other, and
where it is cut only if nothing in it looks like the place between the two. Otherwise there is always
a request with other headers that is answered alike and leaves the same line.
-/

namespace Docroot.Server

open Docroot.Files
open Docroot.Http
open Docroot.Log (AccessEntry)
open Docroot.Log.AccessEntry (orDash IsDelimited Agree IsClear gap cut_unique_iff)
open Docroot.Site (Timing handle accessEntry askOf respond)

/-! ## 1. Entries of requests -/

/-- An entry that some answered request leaves. -/
def IsLogged (e : AccessEntry) : Prop :=
  ∃ fs site ip timing r answer, handle fs site (IpAddress.toText ip) timing r = .ok answer
    ∧ e = accessEntry r ip.toText timing answer.response

/-- The parts of a request end where its line says. -/
theorem isDelimited_of_isLogged {e : AccessEntry} (h : IsLogged e) : e.IsDelimited := by
  obtain ⟨-, -, ip, -, r, -, -, rfl⟩ := h
  have htoken := r.method.isToken_name
  unfold isToken at htoken
  rw [Bool.and_eq_true] at htoken
  refine ⟨?_, ?_, ?_, ?_⟩
  · exact Text.not_mem_of_all ip.all_isAddressChar_toText (by decide)
  · exact Text.not_mem_of_all htoken.2 (by decide)
  · exact Text.not_mem_of_all r.target.all_isTargetChar_shown (by decide)
  · show '"' ∉ r.version.label
    cases r.version <;> decide

/-- The text of a header that an entry shows can be that of some value, also a dash. -/
theorem all_isTextChar_orDash {h : Headers} {n : HeaderName} :
    (orDash (Headers.getText? h n)).all HeaderValue.isTextChar = true := by
  cases ht : Headers.getText? h n with
  | none => decide
  | some t =>
    obtain ⟨v, -, hv⟩ := Option.bind_eq_some_iff.1 ht
    exact HeaderValue.all_isTextChar_of_toText? hv

/-! ## 2. Other headers -/

/-- The request with another referer and another user agent. -/
def withClient (r : Request) (referer userAgent : HeaderValue) : Request :=
  { r with headers := Headers.insert (Headers.insert r.headers .referer referer) .userAgent userAgent }

section

variable (r : Request) (referer userAgent : HeaderValue)

theorem values_withClient (n : HeaderName) :
    Headers.values (withClient r referer userAgent).headers n
      = if n = .userAgent then [userAgent] else if n = .referer then [referer]
        else Headers.values r.headers n := by
  unfold withClient
  rw [Headers.values_insert, Headers.values_insert]

theorem getText?_withClient {n : HeaderName} (hreferer : n ≠ .referer)
    (huserAgent : n ≠ .userAgent) :
    Headers.getText? (withClient r referer userAgent).headers n = Headers.getText? r.headers n := by
  unfold Headers.getText? Headers.get?
  rw [values_withClient, if_neg huserAgent, if_neg hreferer]

/-- **It is answered alike**: serving looks at neither of the two. -/
theorem respond_withClient (fs : FileSystem) (site : Site) :
    respond fs site (withClient r referer userAgent) = respond fs site r := by
  have hask : askOf (withClient r referer userAgent) = askOf r := by
    unfold askOf
    rw [getText?_withClient r _ _ (by decide) (by decide),
      getText?_withClient r _ _ (by decide) (by decide)]
    rfl
  unfold respond
  rw [hask]
  rfl

theorem exists_answer_withClient {fs : FileSystem} {site : Site} {peer : Text} {timing : Timing}
    {answer : Site.Handled} (h : handle fs site peer timing r = .ok answer) :
    ∃ other, handle fs site peer timing (withClient r referer userAgent) = .ok other
      ∧ other.response = answer.response := by
  unfold handle at h ⊢
  rw [respond_withClient]
  cases hrespond : respond fs site r with
  | error e =>
    rw [hrespond] at h
    cases h
  | ok reply =>
    rw [hrespond] at h
    cases h
    exact ⟨_, rfl, rfl⟩

end

/-- **The two texts can be exchanged for any that a client can send**, and all else stays. -/
theorem exists_isLogged_with {e : AccessEntry} (h : IsLogged e) {referer userAgent : Text}
    (hreferer : referer.all HeaderValue.isTextChar = true)
    (huserAgent : userAgent.all HeaderValue.isTextChar = true) :
    IsLogged { e with referer := some referer, userAgent := some userAgent } := by
  obtain ⟨fs, site, ip, timing, r, answer, hanswer, rfl⟩ := h
  obtain ⟨v, hv⟩ := HeaderValue.exists_toText? hreferer
  obtain ⟨w, hw⟩ := HeaderValue.exists_toText? huserAgent
  obtain ⟨other, hother, hresponse⟩ := exists_answer_withClient r v w hanswer
  refine ⟨fs, site, ip, timing, withClient r v w, other, hother, ?_⟩
  have hshownReferer :
      Headers.getText? (withClient r v w).headers .referer = some referer := by
    unfold Headers.getText? Headers.get?
    rw [values_withClient, if_neg (by decide), if_pos rfl]
    exact hv
  have hshownUserAgent :
      Headers.getText? (withClient r v w).headers .userAgent = some userAgent := by
    unfold Headers.getText? Headers.get?
    rw [values_withClient, if_pos rfl]
    exact hw
  unfold accessEntry
  rw [hshownReferer, hshownUserAgent, hresponse]
  rfl

/-! ## 3. Lines -/

/-- The entries show the same referer and the same user agent, one that is missing as a dash. -/
def SameClient (e₁ e₂ : AccessEntry) : Prop :=
  orDash e₁.referer = orDash e₂.referer ∧ orDash e₁.userAgent = orDash e₂.userAgent

/-- **When a line tells the referer and the user agent**: exactly if nothing in them looks like the
    place between them. -/
theorem sameClient_iff {e₁ : AccessEntry} (h₁ : IsLogged e₁) :
    (∀ e₂, IsLogged e₂ → e₁.combined = e₂.combined → SameClient e₁ e₂)
      ↔ IsClear (orDash e₁.referer) (orDash e₁.userAgent) := by
  have hdelimited := isDelimited_of_isLogged h₁
  rw [← cut_unique_iff]
  constructor
  · intro hsame referer userAgent hcut
    have htext : (orDash e₁.referer ++ gap ++ orDash e₁.userAgent).all
        HeaderValue.isTextChar = true := by
      obtain ⟨-, -, -, -, r, -, -, rfl⟩ := h₁
      have hgap : gap.all HeaderValue.isTextChar = true := by decide
      unfold accessEntry
      rw [List.all_append, List.all_append, all_isTextChar_orDash, hgap, all_isTextChar_orDash]
      rfl
    rw [hcut, List.all_append, List.all_append, Bool.and_eq_true, Bool.and_eq_true] at htext
    have hother := exists_isLogged_with h₁ htext.1.1 htext.2
    refine hsame _ hother ((AccessEntry.combined_eq_iff hdelimited
      (isDelimited_of_isLogged hother)).2 ⟨⟨rfl, rfl, rfl, rfl, rfl, rfl, rfl⟩, hcut⟩)
  · intro hunique e₂ h₂ hline
    obtain ⟨-, hquoted⟩ :=
      (AccessEntry.combined_eq_iff hdelimited (isDelimited_of_isLogged h₂)).1 hline
    exact hunique _ _ hquoted

/-- **What a line tells of its request.** Entries with equal lines in the common format agree on
    method, target, version, status and size, and on the client's address and the time shown. In the
    combined format they also have the same text from the referer to the user agent. They have the
    same referer and the same user agent if in one of them nothing looks like the place between the
    two, and where something does, there is another entry with that line. -/
theorem lines_tell_fields {e₁ e₂ : AccessEntry} (h₁ : IsLogged e₁) (h₂ : IsLogged e₂) :
    (e₁.common = e₂.common → e₁.Agree e₂)
      ∧ (e₁.combined = e₂.combined → e₁.Agree e₂ ∧ e₁.quoted = e₂.quoted)
      ∧ ((∀ e, IsLogged e → e₁.combined = e.combined → SameClient e₁ e)
        ↔ IsClear (orDash e₁.referer) (orDash e₁.userAgent)) := by
  have hdelimited₁ := isDelimited_of_isLogged h₁
  have hdelimited₂ := isDelimited_of_isLogged h₂
  exact ⟨(AccessEntry.common_eq_iff hdelimited₁ hdelimited₂).1,
    (AccessEntry.combined_eq_iff hdelimited₁ hdelimited₂).1, sameClient_iff h₁⟩

/-! ## 4. Quotes -/

/-- A POST request for the root with the given headers. -/
def postRequestWith (h : Headers) : Request := { Site.postRequest with headers := h }

/-- The entry that it leaves. -/
def postEntry (h : Headers) : AccessEntry :=
  accessEntry (postRequestWith h) (IpAddress.v4 127 0 0 1).toText ⟨⟨⟨0, 0⟩, 0⟩, 0⟩
    (Site.finish Settings.default.serverName (Site.notImplementedResponse "POST".toList false))

theorem isLogged_postEntry (h : Headers) : IsLogged (postEntry h) :=
  ⟨⟨.directory [], []⟩, ⟨.default, [0x77], .indexOnly⟩, .v4 127 0 0 1, ⟨⟨⟨0, 0⟩, 0⟩, 0⟩,
    postRequestWith h, _, rfl, rfl⟩

theorem agree_postEntry (h₁ h₂ : Headers) : (postEntry h₁).Agree (postEntry h₂) :=
  ⟨rfl, rfl, rfl, rfl, rfl, rfl, rfl⟩

/-- A referer and a user agent. -/
def clientHeaders (referer userAgent : HeaderValue) : Headers :=
  [(.referer, referer), (.userAgent, userAgent)]

/-- `-` -/
def dash : HeaderValue := .ofText ['-'] (by decide)

/-- A referer that is missing and one that is a dash leave one line; it tells that the one shown is
    a dash, and the user agent. -/
theorem lines_tell_fields_dash :
    (postEntry [(.userAgent, dash)]).combined = (postEntry (clientHeaders dash dash)).combined
      ∧ (postEntry [(.userAgent, dash)]).Agree (postEntry (clientHeaders dash dash))
      ∧ SameClient (postEntry [(.userAgent, dash)]) (postEntry (clientHeaders dash dash)) := by
  have hmissing := isLogged_postEntry [(.userAgent, dash)]
  have hdash := isLogged_postEntry (clientHeaders dash dash)
  have hline : (postEntry [(.userAgent, dash)]).combined
      = (postEntry (clientHeaders dash dash)).combined :=
    (AccessEntry.combined_eq_iff (isDelimited_of_isLogged hmissing)
      (isDelimited_of_isLogged hdash)).2 ⟨agree_postEntry _ _, by decide⟩
  obtain ⟨-, hagree, hsame⟩ := lines_tell_fields hmissing hdash
  exact ⟨hline, (hagree hline).1, hsame.2 (by decide) _ hdash hline⟩

/-- A referer with the place between in it leaves the line of a shorter one with a longer user
    agent. -/
theorem quotes_imitated :
    (postEntry (clientHeaders (.ofText "a\" \"b".toList (by decide)) dash)).combined
        = (postEntry (clientHeaders (.ofText ['a'] (by decide))
            (.ofText "b\" \"-".toList (by decide)))).combined
      ∧ IsLogged (postEntry (clientHeaders (.ofText "a\" \"b".toList (by decide)) dash))
      ∧ IsLogged (postEntry (clientHeaders (.ofText ['a'] (by decide))
          (.ofText "b\" \"-".toList (by decide))))
      ∧ ¬SameClient (postEntry (clientHeaders (.ofText "a\" \"b".toList (by decide)) dash))
          (postEntry (clientHeaders (.ofText ['a'] (by decide))
            (.ofText "b\" \"-".toList (by decide)))) := by
  refine ⟨?_, isLogged_postEntry _, isLogged_postEntry _, fun h => absurd h.1 (by decide)⟩
  exact (AccessEntry.combined_eq_iff (isDelimited_of_isLogged (isLogged_postEntry _))
    (isDelimited_of_isLogged (isLogged_postEntry _))).2 ⟨agree_postEntry _ _, by decide⟩

end Docroot.Server
