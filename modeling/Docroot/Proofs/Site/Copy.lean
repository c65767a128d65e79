import Docroot.Proofs.Site.Head
import Docroot.Proofs.Site.Revalidation
import Docroot.Proofs.Site.Serving
import Docroot.Proofs.Time.HttpDate

/-!
# A client's copy and the file since

A file is sent with the date of its last change. A client that names this date later learns whether
the file has changed since, to the second and exactly (`revalidation_exact`): the date is read back
as the instant it was written for, rounded down (`Time.HttpDate.read?_ofCivil`), so the comparison
is that of the two times rounded down, on both sides of 1970.
-/

namespace Docroot.Site

open Docroot.Files
open Docroot.Http
open Docroot.Time (Instant HttpDate.format HttpDate.ofCivil HttpDate.read? Civil)

/-! ## 1. Files that are found -/

/-- **A request that is answered from a file**: a regular one that can be read, and the year of its
    time has four digits. -/
structure Finds (fs : FileSystem) (site : Site) (r : Request) (file : Path) (modified : Instant)
    (data : Bytes) : Prop where
  served : servedFile? fs site (askOf r) = some file
  stat : fs.stat file = .ok (.regular modified)
  read : fs.read file = .ok data
  year : modified.HasFourDigitYear

/-- The response made for a file that is found. -/
def foundResponse (a : Ask) (file : Path) (modified : Instant) (data : Bytes) : Response :=
  if a.isUnchanged modified then unchangedResponse modified
  else broughtResponse file data modified a.isHead

theorem lastModified_foundResponse (a : Ask) (file : Path) (modified : Instant) (data : Bytes) :
    Headers.values (foundResponse a file modified data).headers .lastModified
      = [dateValue modified] := by
  unfold foundResponse
  split <;> rfl

section

variable {fs : FileSystem} {site : Site} {r : Request} {file : Path} {modified : Instant}
  {data : Bytes}

/-- **A request that finds a file is answered from it.** -/
theorem Finds.handle (h : Finds fs site r file modified data)
    (hmethod : r.method = .get ∨ r.method = .head) (peer : Text) (timing : Timing) :
    ∃ answer, handle fs site peer timing r = .ok answer
      ∧ answer.response
        = finish site.settings.serverName (foundResponse (askOf r) file modified data) := by
  rw [exists_handle_iff (P := fun response => response
      = finish site.settings.serverName (foundResponse (askOf r) file modified data)),
    respond_eq_servePath fs site hmethod, servePath_of_servedFile? h.served, serveFile_response]
  obtain ⟨content, rights, hnode, hdata⟩ := node_of_stat_of_read h.stat h.read
  rw [hnode]
  dsimp only [Except.toOption, fileResponse]
  rw [if_pos h.year.hasDate, hdata]
  exact ⟨_, rfl, rfl⟩

/-! ## 2. Dates that were given -/

/-- A date is read back from its header value. -/
theorem toText?_dateValue (modified : Instant) :
    (dateValue modified).toText? = some (HttpDate.ofCivil (Civil.ofSecs modified.secs)) :=
  HeaderValue.toText?_ofText (Time.all_isVisible_ofCivil _) _

/-- Rounded down, times compare by their seconds. -/
theorem le_floor_iff {s t : Instant} : s.floor.le t.floor = true ↔ s.secs ≤ t.secs := by
  show (decide (s.secs < t.secs) || s.secs == t.secs && true) = true ↔ s.secs ≤ t.secs
  rw [Bool.and_true, Bool.or_eq_true, decide_eq_true_eq, beq_iff_eq]
  omega

/-- **A copy is good exactly if the file has not changed after it**, in whole seconds. -/
theorem isUnchanged_of_dateValue (modified : Instant) {since : Instant}
    (hyear : since.HasFourDigitYear) {rest : List HeaderValue}
    (hsince : Headers.values r.headers .ifModifiedSince = dateValue since :: rest)
    (htag : Headers.values r.headers .ifNoneMatch = []) :
    (askOf r).isUnchanged modified = true ↔ modified.secs ≤ since.secs := by
  have hnone : Headers.getText? r.headers .ifNoneMatch = none :=
    Headers.getText?_of_values_nil htag
  have hread : (Headers.getText? r.headers .ifModifiedSince).bind HttpDate.read?
      = some since.floor := by
    rw [getText?_of_values hsince, toText?_dateValue, Option.bind_some,
      Time.HttpDate.read?_ofCivil hyear]
  rw [isUnchanged_askOf_iff, hnone, hread]
  constructor
  · rintro ⟨-, _, hsome, h⟩
    cases hsome
    exact le_floor_iff.1 h
  · exact fun h => ⟨rfl, _, rfl, le_floor_iff.2 h⟩

/-! ## 3. The answer to a client with a copy -/

/-- **The client's copy is good**: no body, and the date of the file as it is now. -/
structure SaysUnchanged (modified : Instant) (r : Response) : Prop where
  status : r.status = .notModified
  body : r.body = []
  date : ∃ text, HttpDate.format modified = .ok text
    ∧ (Headers.values r.headers .lastModified).map (·.bytes) = [Utf8.encode text]

/-- **The client gets the file as it is now**; by HEAD, all but the body. -/
def BringsAgain (isHead : Bool) (file : Path) (modified : Instant) (data : Bytes) (r : Response) :
    Prop :=
  ∃ full, Brings file modified data full ∧ r = if isHead then full.withoutBody else full

theorem saysUnchanged_finish (serverName : Text) {modified : Instant}
    (h : modified.hasDate = true) :
    SaysUnchanged modified (finish serverName (unchangedResponse modified)) where
  status := status_finish serverName _
  body := body_finish serverName _
  date := by
    rw [values_finish serverName _ (by decide)]
    exact ⟨_, Time.HttpDate.format_of_hasDate h, rfl⟩

theorem bringsAgain_finish (serverName : Text) (isHead : Bool) (file : Path) {modified : Instant}
    (data : Bytes) (h : modified.hasDate = true) :
    BringsAgain isHead file modified data
      (finish serverName (broughtResponse file data modified isHead)) := by
  refine ⟨finish serverName (broughtResponse file data modified false),
    (brings_broughtResponse file data h).finish serverName, ?_⟩
  cases isHead with
  | false => rfl
  | true =>
    rw [if_pos rfl, ← finish_withoutBody]
    rfl

theorem not_saysUnchanged_of_bringsAgain {isHead : Bool} {response : Response}
    (h : BringsAgain isHead file modified data response) : ¬SaysUnchanged modified response := by
  obtain ⟨full, hfull, rfl⟩ := h
  intro hsays
  have hstatus : (if isHead then full.withoutBody else full).status = full.status := by
    split <;> rfl
  have := hsays.status
  rw [hstatus, hfull.status] at this
  cases this

end

/-- **Revalidation is exact.** A request that finds a file is answered, in full if it names no
    date. Whenever it is answered in full, the answer has one date, and any later request that
    names this date and no entity tag, and finds a file, is told that the copy is good exactly if
    the time of the file it finds, rounded down to the second, is not after that of the first; and
    otherwise it gets the file as it is now. -/
theorem revalidation_exact {fs : FileSystem} {site : Site} {r : Request} {file : Path}
    {modified : Instant} {data : Bytes} (h : Finds fs site r file modified data)
    (hmethod : r.method = .get ∨ r.method = .head) (peer : Text) (timing : Timing) :
    (∃ answer, handle fs site peer timing r = .ok answer
        ∧ (Headers.values r.headers .ifModifiedSince = [] → answer.response.status = .ok))
      ∧ ∀ answer, handle fs site peer timing r = .ok answer → answer.response.status = .ok →
        ∃ date, Headers.values answer.response.headers .lastModified = [date]
          ∧ ∀ (later : FileSystem) (again : Request) (file' : Path) (modified' : Instant)
              (data' : Bytes), Finds later site again file' modified' data' →
            again.method = .get ∨ again.method = .head →
            Headers.values again.headers .ifModifiedSince = [date] →
            Headers.values again.headers .ifNoneMatch = [] →
            ∀ (peer' : Text) (timing' : Timing),
              ∃ answer', handle later site peer' timing' again = .ok answer'
                ∧ (SaysUnchanged modified' answer'.response ↔ modified'.secs ≤ modified.secs)
                ∧ (¬modified'.secs ≤ modified.secs →
                    BringsAgain (decide (again.method = .head)) file' modified' data'
                      answer'.response) := by
  obtain ⟨answer, hanswer, hresponse⟩ := h.handle hmethod peer timing
  constructor
  · refine ⟨answer, hanswer, fun hnone => ?_⟩
    rw [hresponse, status_finish, foundResponse, isUnchanged_askOf hnone]
    rfl
  · rintro other hother -
    cases hanswer.symm.trans hother
    refine ⟨dateValue modified, ?_, ?_⟩
    · rw [hresponse, values_finish _ _ (by decide), lastModified_foundResponse]
    · intro later again file' modified' data' hfinds hmethod' hsince htag peer' timing'
      obtain ⟨answer', hanswer', hresponse'⟩ := hfinds.handle hmethod' peer' timing'
      have hgood := isUnchanged_of_dateValue modified' h.year hsince htag
      refine ⟨answer', hanswer', ?_⟩
      rw [hresponse', foundResponse]
      by_cases hle : modified'.secs ≤ modified.secs
      · rw [if_pos (hgood.2 hle)]
        exact ⟨iff_of_true (saysUnchanged_finish _ hfinds.year.hasDate) hle,
          fun hnot => absurd hle hnot⟩
      · rw [if_neg fun hsame => hle (hgood.1 hsame)]
        have hbrings := bringsAgain_finish site.settings.serverName (askOf again).isHead file' data'
          hfinds.year.hasDate
        exact ⟨iff_of_false (not_saysUnchanged_of_bringsAgain hbrings) hle, fun _ => hbrings⟩

theorem finds_timedFile (modified : Instant) (h : modified.HasFourDigitYear) (method : Method)
    (headers : Headers) :
    Finds (timedFile modified) ⟨.default, [0x77], .indexOnly⟩
      { fileRequest with method, headers } [0x77, 0x2F, 0x66] modified [0x68, 0x69] where
  served := by
    have hpath : (askOf { fileRequest with method, headers }).path = (askOf fileRequest).path := rfl
    rw [servedFile?_congr _ _ hpath, servedFile?_timedFile]
  stat := stat_timedFile modified
  read := read_eq_of_node (node_loneFile modified (by decide) (by decide) (by decide) true)
  year := h

/-- A copy from the last second before 1970 is good for a file that was changed later in the same
    second, and not for one changed in the next. -/
theorem revalidation_at_1970 :
    ∃ first date,
      handle (timedFile ⟨-1, 1⟩) ⟨.default, [0x77], .indexOnly⟩ [] ⟨⟨⟨0, 0⟩, 0⟩, 0⟩ fileRequest
          = .ok first
        ∧ Headers.values first.response.headers .lastModified = [date]
        ∧ (∃ second,
            handle (timedFile ⟨-1, 999999999⟩) ⟨.default, [0x77], .indexOnly⟩ []
                ⟨⟨⟨0, 0⟩, 0⟩, 0⟩ { fileRequest with headers := [(.ifModifiedSince, date)] }
              = .ok second
            ∧ SaysUnchanged ⟨-1, 999999999⟩ second.response)
        ∧ ∃ third,
            handle (timedFile ⟨0, 0⟩) ⟨.default, [0x77], .indexOnly⟩ [] ⟨⟨⟨0, 0⟩, 0⟩, 0⟩
                { fileRequest with method := .head, headers := [(.ifModifiedSince, date)] }
              = .ok third
            ∧ BringsAgain true [0x77, 0x2F, 0x66] ⟨0, 0⟩ [0x68, 0x69] third.response := by
  obtain ⟨⟨first, hfirst, hfull⟩, hlater⟩ := revalidation_exact
    (finds_timedFile ⟨-1, 1⟩ (by decide) .get []) (Or.inl rfl) [] ⟨⟨⟨0, 0⟩, 0⟩, 0⟩
  obtain ⟨date, hdate, hagain⟩ := hlater first hfirst (hfull rfl)
  obtain ⟨second, hsecond, hsame, -⟩ := hagain _ _ _ _ _
    (finds_timedFile ⟨-1, 999999999⟩ (by decide) .get [(.ifModifiedSince, date)])
    (Or.inl rfl) rfl rfl [] ⟨⟨⟨0, 0⟩, 0⟩, 0⟩
  obtain ⟨third, hthird, -, hchanged⟩ := hagain _ _ _ _ _
    (finds_timedFile ⟨0, 0⟩ (by decide) .head [(.ifModifiedSince, date)])
    (Or.inr rfl) rfl rfl [] ⟨⟨⟨0, 0⟩, 0⟩, 0⟩
  exact ⟨first, date, hfirst, hdate, ⟨second, hsecond, hsame.2 (by decide)⟩, third, hthird,
    hchanged (by decide)⟩

end Docroot.Site
