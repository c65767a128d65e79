import Docroot.Proofs.Http.Target
import Docroot.Proofs.Site.Answers
import Docroot.Proofs.Site.Convergence

/-!
# Replies are what was meant

A reply whose header cannot take the text meant for it is given up for a bare one, and a notice says
so. This never happens to a request whose target was read (`built_as_intended`): every character
that is read in a path or in a query can be in a header value, and so can every date and every media
type. It would happen to one that is to be redirected and has the delete character in its target
(`LosesPlace`), and to no other. What else is noticed while a request is answered is of four kinds
(`IsOfServing`).
-/

namespace Docroot.Files

/-! ## 1. Trees with dates -/

/-- **A tree of which every file has a date**: its time lies within the calendar. -/
def Node.HasDates (n : Node) : Prop :=
  ∀ place content modified rights, n.at? place = some (.file content modified rights) →
    modified.hasDate = true

theorem Node.hasDates_file (content : Content) {modified : Time.Instant}
    (h : modified.hasDate = true) (rights : Rights) :
    (Node.file content modified rights).HasDates
  | [], _, _, _, e => by
    cases e
    exact h
  | _ :: _, _, _, _, e => by
    rw [at?_cons] at e
    cases e

theorem Node.hasDates_directory {children : List (Bytes × Node)} {rights : Rights}
    (h : ∀ entry ∈ children, entry.2.HasDates) : (Node.directory children rights).HasDates
  | [], _, _, _, e => by cases e
  | _ :: rest, content, modified, given, e => by
    obtain ⟨entry, hentry, e⟩ := exists_entry_of_at? e
    exact h entry hentry rest content modified given e

/-- A regular file that a path leads to has a date. -/
theorem FileSystem.hasDate_of_stat {fs : FileSystem} (h : fs.top.HasDates) {p : Path}
    {modified : Time.Instant} (hstat : fs.stat p = .ok (.regular modified)) :
    modified.hasDate = true := by
  obtain ⟨content, rights, hnode⟩ := Site.stat_regular_iff.1 hstat
  obtain ⟨place, hplace⟩ := exists_place_of_node (toOption_eq_some_iff.1 hnode)
  exact h place content modified rights hplace

end Docroot.Files

namespace Docroot.Site

open Docroot.Files
open Docroot.Http
open Docroot.Log (Notice)
open Docroot.Time (Instant OutOfRange HttpDate.format)

/-! ## 2. What is noticed -/

/-- **A notice of serving**: nothing is there, the method is refused, a file cannot be read, or a
    directory cannot be listed. -/
inductive IsOfServing : Notice → Prop where
  | notFound (p : Path) : IsOfServing (.notFound p)
  | unsupportedMethod (m : Method) : IsOfServing (.unsupportedMethod m)
  | readFailed (p : Path) (e : IoError) : IsOfServing (.readFailed p e)
  | listFailed (p : Path) (e : IoError) : IsOfServing (.listFailed p e)

/-- How the notice begins that a response was given up. -/
def failedToBuild : Text := "Failed to build".toList

theorem not_prefix_append {a b c : Text} (hlen : a.length ≤ b.length) (h : ¬a <+: b) :
    ¬a <+: b ++ c := by
  rwa [List.isPrefix_append_of_length hlen]

/-- **No notice of serving says that a response was given up.** -/
theorem IsOfServing.not_failedToBuild {n : Notice} (h : IsOfServing n) :
    ¬failedToBuild <+: n.message := by
  -- eleven letters are compared, as many as the shortest fixed beginning of the four has
  have hshort : "Failed to b".toList <+: failedToBuild := by decide
  refine fun hprefix => absurd (hshort.trans hprefix) ?_
  cases h with
  | notFound p => exact not_prefix_append (by decide) (by decide)
  | unsupportedMethod m => exact not_prefix_append (by decide) (by decide)
  | readFailed p e =>
    exact not_prefix_append (by simp) (not_prefix_append (by simp)
      (not_prefix_append (by decide) (by decide)))
  | listFailed p e =>
    exact not_prefix_append (by simp) (not_prefix_append (by simp)
      (not_prefix_append (by decide) (by decide)))

/-- **A reply as it was meant**: what it notices is of serving, so it was not given up. -/
def Reply.IsIntended (reply : Reply) : Prop := ∀ n ∈ reply.notices, IsOfServing n

theorem isIntended_of_nil {reply : Reply} (h : reply.notices = []) : reply.IsIntended := by
  intro n hn
  rw [h] at hn
  cases hn

theorem isIntended_of_singleton {reply : Reply} {notice : Notice} (h : reply.notices = [notice])
    (hnotice : IsOfServing notice) : reply.IsIntended := by
  intro n hn
  rw [h, List.mem_singleton] at hn
  rwa [hn]

theorem isIntended_serveFile {fs : FileSystem} {a : Ask} {file : Path} {reply : Reply}
    (h : serveFile fs a file = .ok reply) : reply.IsIntended := by
  unfold serveFile at h
  split at h
  · next modified hstat =>
    by_cases hdate : modified.hasDate = true
    · rw [Time.HttpDate.format_of_hasDate hdate, isNotModified_of_hasDate hdate] at h
      dsimp only [bind, Except.bind] at h
      split at h
      · cases h
        rw [notModifiedReply_eq (Time.all_isValueChar_ofCivil _)]
        exact isIntended_of_nil rfl
      · split at h
        · next data hread =>
          cases h
          rw [fileReply_eq data (MediaType.all_isValueChar_ofPath file)
            (Time.all_isValueChar_ofCivil _)]
          exact isIntended_of_nil rfl
        · next e hread =>
          cases h
          exact isIntended_of_singleton rfl (.readFailed file e)
    · rw [Time.HttpDate.format_of_not_hasDate (by simpa using hdate)] at h
      cases h
  · cases h
    exact isIntended_of_nil rfl

theorem isIntended_listDirectory (fs : FileSystem) (a : Ask) (dir : Path) :
    (listDirectory fs a dir).IsIntended := by
  unfold listDirectory
  split
  · exact isIntended_of_nil rfl
  · next e hread => exact isIntended_of_singleton rfl (.listFailed dir e)

/-- A path is answered as it was meant, if its place with a slash can be a header value where it is
    asked for. -/
theorem isIntended_servePath {fs : FileSystem} {site : Site} {a : Ask}
    (hplace : LacksSlash fs (translate site.root a.path) →
      a.directoryLocation.all isValueChar = true)
    {reply : Reply} (h : servePath fs site a = .ok reply) : reply.IsIntended := by
  cases hserved : servedFile? fs site a with
  | some file => exact isIntended_serveFile ((servePath_of_servedFile? hserved).symm.trans h)
  | none =>
    obtain ⟨other, hother, hwithout⟩ := exists_withoutFile hserved
    cases h.symm.trans hother
    cases hwithout with
    | missing place => exact isIntended_of_singleton rfl (.notFound place)
    | notFound => exact isIntended_of_nil rfl
    | listing dir => exact isIntended_listDirectory fs a dir
    | redirect hstat hslash =>
      rw [redirectReply_eq (hplace ⟨hstat, hslash⟩)]
      exact isIntended_of_nil rfl

/-- **A redirect that cannot name its place**: a directory is asked for without its slash, and the
    delete character is in the path or in the query. -/
structure LosesPlace (fs : FileSystem) (site : Site) (r : Request) : Prop where
  served : r.method = .get ∨ r.method = .head
  lacks : LacksSlash fs (translate site.root r.target.path)
  unnameable : ¬r.target.IsNameable

/-- **A redirect that cannot name its place is given up.** -/
theorem LosesPlace.respond_eq {fs : FileSystem} {site : Site} {r : Request}
    (h : LosesPlace fs site r) :
    respond fs site r = .ok (bareReply "301".toList .illegalValue .movedPermanently) := by
  rw [respond_eq_servePath fs site h.served, servePath_of_lacksSlash (a := askOf r) h.lacks,
    redirectReply_cases, ofText?_directoryLocation, dif_neg h.unnameable]

/-- **No other reply to a request is given up.** -/
theorem isIntended_respond {fs : FileSystem} {site : Site} {r : Request} {reply : Reply}
    (hkeeps : ¬LosesPlace fs site r) (h : respond fs site r = .ok reply) : reply.IsIntended := by
  unfold respond at h
  split at h
  · next hserved =>
    refine isIntended_servePath (fun hlacks => ?_) h
    refine (all_isValueChar_directoryLocation_iff r).2 (Classical.byContradiction fun hno => ?_)
    exact hkeeps ⟨hserved, hlacks, hno⟩
  · cases h
    exact isIntended_of_singleton rfl (.unsupportedMethod r.method)

/-! ## 3. Dates of files -/

/-- **The response tells the date of the file.** -/
def TellsDate (fs : FileSystem) (file : Path) (r : Response) : Prop :=
  ∃ modified text, fs.stat file = .ok (.regular modified) ∧ HttpDate.format modified = .ok text
    ∧ (Headers.values r.headers .lastModified).map (·.bytes) = [Utf8.encode text]

theorem tellsDate_fileResponse {fs : FileSystem} {a : Ask} {file : Path} {r : Response}
    (h : fileResponse a file (fs.node true file).toOption = .ok r) (hfound : r.status ≠ .notFound) :
    TellsDate fs file r := by
  unfold fileResponse at h
  split at h
  · next content modified rights hnode =>
    split at h
    · next hdate =>
      refine ⟨modified, _, stat_regular_iff.2 ⟨content, rights, hnode⟩,
        Time.HttpDate.format_of_hasDate hdate, ?_⟩
      split at h
      · cases h
        rfl
      · cases hread : content.read rights with
        | ok data =>
          rw [hread] at h
          cases h
          rfl
        | error e =>
          rw [hread] at h
          cases h
          exact absurd rfl hfound
    · cases h
  · cases h
    exact absurd rfl hfound

theorem TellsDate.finish {fs : FileSystem} {file : Path} {r : Response} (h : TellsDate fs file r)
    (serverName : Text) : TellsDate fs file (finish serverName r) := by
  unfold TellsDate
  rw [values_finish serverName r (by decide)]
  exact h

/-! ## 4. Requests -/

section

variable {fs : FileSystem} {site : Site} {r : Request} {reply : Reply}

/-- Methods other than GET and HEAD are refused. -/
theorem status_respond_of_other (hmethod : ¬(r.method = .get ∨ r.method = .head))
    (h : respond fs site r = .ok reply) : reply.response.status = .notImplemented := by
  unfold respond at h
  rw [if_neg hmethod] at h
  cases h
  rfl

theorem method_of_status (h : respond fs site r = .ok reply)
    (hstatus : reply.response.status ≠ .notImplemented) : r.method = .get ∨ r.method = .head := by
  apply Classical.byContradiction
  exact fun hmethod => hstatus (status_respond_of_other hmethod h)

theorem response_of_servedFile? (h : respond fs site r = .ok reply)
    (hmethod : r.method = .get ∨ r.method = .head) {file : Path}
    (hserved : servedFile? fs site (askOf r) = some file) :
    fileResponse (askOf r) file (fs.node true file).toOption = .ok reply.response := by
  rw [respond_eq_servePath fs site hmethod, servePath_of_servedFile? hserved] at h
  rw [← serveFile_response, h]
  rfl

/-- **A redirect names one place**, the path with a slash behind it and the query as it was, if it can
    name it. -/
theorem location_of_status (h : respond fs site r = .ok reply)
    (hstatus : reply.response.status = .movedPermanently) :
    (Headers.values reply.response.headers .location).map (·.bytes)
      = if r.target.IsNameable
        then [Utf8.encode (Target.written (r.target.path ++ ['/']) r.target.query)] else [] := by
  have hmethod := method_of_status h (by rw [hstatus]; decide)
  rw [respond_eq_servePath fs site hmethod] at h
  cases h.symm.trans (servePath_of_lacksSlash (lacksSlash_of_servePath h hstatus))
  have hplace : (askOf r).directoryLocation
      = Target.written (r.target.path ++ ['/']) r.target.query := by
    rw [← (askOf r).target_withSlash]
    unfold Ask.target Target.written Ask.withSlash askOf
    dsimp only
    cases r.target.query <;> rfl
  rw [location_redirectReply, ofText?_directoryLocation, ← hplace]
  split <;> rfl

/-- The answer that the client's copy is good tells the date of a file. -/
theorem tellsDate_of_notModified (h : respond fs site r = .ok reply)
    (hstatus : reply.response.status = .notModified) :
    ∃ file, servedFile? fs site (askOf r) = some file ∧ TellsDate fs file reply.response := by
  have hmethod := method_of_status h (by rw [hstatus]; decide)
  cases hserved : servedFile? fs site (askOf r) with
  | none =>
    obtain ⟨other, hother, hmem⟩ := servePath_of_no_file hserved
    rw [respond_eq_servePath fs site hmethod] at h
    cases hother.symm.trans h
    rw [hstatus] at hmem
    exact absurd hmem (by decide)
  | some file =>
    exact ⟨file, rfl, tellsDate_fileResponse (response_of_servedFile? h hmethod hserved)
      (by rw [hstatus]; decide)⟩

/-- A file that is sent is sent with its date. -/
theorem tellsDate_of_ok (h : respond fs site r = .ok reply) (hstatus : reply.response.status = .ok)
    {file : Path} (hserved : servedFile? fs site (askOf r) = some file) :
    TellsDate fs file reply.response :=
  tellsDate_fileResponse
    (response_of_servedFile? h (method_of_status h (by rw [hstatus]; decide)) hserved)
    (by rw [hstatus]; decide)

/-- Where all files have dates, the responder always has a reply. -/
theorem exists_respond (hdates : fs.top.HasDates) (site : Site) (r : Request) :
    ∃ reply, respond fs site r = .ok reply := by
  by_cases hmethod : r.method = .get ∨ r.method = .head
  · have hdated : IsDated fs site (askOf r) := fun _ _ _ hstat =>
      FileSystem.hasDate_of_stat hdates hstat
    obtain ⟨response, hresponse⟩ := exists_servePath_iff.2 hdated
    rw [respond_eq_servePath fs site hmethod]
    cases hserve : servePath fs site (askOf r) with
    | error e =>
      rw [hserve] at hresponse
      cases hresponse
    | ok reply => exact ⟨reply, rfl⟩
  · unfold respond
    rw [if_neg hmethod]
    exact ⟨_, rfl⟩

/-- **No reply is given up for want of a header.** Where all files have dates, every request is
    answered, and if its target was read of octets, no notice says that a response could not be built;
    whatever the target is, one says so exactly if it is that of a redirect that cannot name its place.
    A redirect names one place, if it can name it, the path of the request with a slash behind it and
    the query as it was; and the answer that a copy is good and the one that brings a file have the
    date of the file. -/
theorem built_as_intended (hdates : fs.top.HasDates) (site : Site) (peer : Text) (timing : Timing)
    (r : Request) :
    ∃ answer, handle fs site peer timing r = .ok answer
      ∧ (∀ octets, Target.ofBytes octets = .ok r.target →
          r.target.IsNameable ∧ ∀ n ∈ answer.notices, ¬failedToBuild <+: n.message)
      ∧ ((∃ n ∈ answer.notices, failedToBuild <+: n.message) ↔ LosesPlace fs site r)
      ∧ (answer.response.status = .movedPermanently →
          (Headers.values answer.response.headers .location).map (·.bytes)
            = if r.target.IsNameable
              then [Utf8.encode (Target.written (r.target.path ++ ['/']) r.target.query)] else [])
      ∧ (answer.response.status = .notModified →
          ∃ file, servedFile? fs site (askOf r) = some file ∧ TellsDate fs file answer.response)
      ∧ (answer.response.status = .ok → ∀ file, servedFile? fs site (askOf r) = some file →
          TellsDate fs file answer.response) := by
  obtain ⟨reply, hreply⟩ := exists_respond hdates site r
  have hquiet : ¬LosesPlace fs site r → ∀ n ∈ reply.notices, ¬failedToBuild <+: n.message :=
    fun hkeeps n hn => (isIntended_respond hkeeps hreply n hn).not_failedToBuild
  unfold handle
  rw [hreply]
  refine ⟨_, rfl, ?_, ⟨?_, ?_⟩, ?_, ?_, ?_⟩
  · intro octets hread
    have hnameable := Target.isNameable_of_ofBytes hread
    exact ⟨hnameable, hquiet fun hloses => hloses.unnameable hnameable⟩
  · rintro ⟨n, hn, hprefix⟩
    exact Classical.byContradiction fun hkeeps => hquiet hkeeps n hn hprefix
  · intro hloses
    cases hreply.symm.trans hloses.respond_eq
    exact ⟨_, List.mem_singleton_self _, by decide⟩
  · intro hstatus
    rw [status_finish] at hstatus
    rw [values_finish _ _ (by decide)]
    exact location_of_status hreply hstatus
  · intro hstatus
    rw [status_finish] at hstatus
    obtain ⟨file, hserved, htells⟩ := tellsDate_of_notModified hreply hstatus
    exact ⟨file, hserved, htells.finish _⟩
  · intro hstatus file hserved
    rw [status_finish] at hstatus
    exact (tellsDate_of_ok hreply hstatus hserved).finish _

end

/-- `GET` for the directory `levels` without its slash, with a query. -/
def levelsRequest (query : Text) (legal : Target.mayHold isQueryChar query = true) : Request :=
  ⟨.get, ⟨false, "/levels".toList, some query, by decide, legal⟩, .http11, []⟩

theorem hasDates_levels : levels.top.HasDates :=
  Node.hasDates_directory (List.forall_mem_singleton.2
    (Node.hasDates_directory (List.forall_mem_singleton.2
      (Node.hasDates_directory (List.forall_mem_nil _)))))

theorem lacksSlash_levelsRequest (query : Text) (legal : Target.mayHold isQueryChar query = true) :
    LacksSlash levels (translate [0x77] (levelsRequest query legal).target.path) := by
  have hpath : (levelsRequest query legal).target.path = "/levels".toList := rfl
  have hsame : translate [0x77] "/levels".toList = translate [0x77] "//levels".toList := by decide
  rw [hpath, hsame]
  exact lacksSlash_levels

theorem hasDates_timedFile {modified : Instant} (h : modified.hasDate = true) :
    (timedFile modified).top.HasDates :=
  Node.hasDates_directory (List.forall_mem_singleton.2
    (Node.hasDates_directory (List.forall_mem_singleton.2 (Node.hasDates_file _ h _))))

/-- A redirect keeps a query beyond ASCII as it was, a file is sent with its date, and with the delete
    character in the query a redirect would name no place. -/
theorem built_as_intended_levels :
    (∃ answer, handle levels ⟨.default, [0x77], .indexOnly⟩ [] ⟨⟨⟨0, 0⟩, 0⟩, 0⟩
        (levelsRequest "ä".toList (by decide)) = .ok answer
      ∧ (∀ n ∈ answer.notices, ¬failedToBuild <+: n.message)
      ∧ (Headers.values answer.response.headers .location).map (·.bytes)
        = [Utf8.encode "/levels/?ä".toList])
    ∧ (∃ answer, handle (timedFile ⟨0, 0⟩) ⟨.default, [0x77], .indexOnly⟩ [] ⟨⟨⟨0, 0⟩, 0⟩, 0⟩
        fileRequest = .ok answer
      ∧ (answer.response.status = .ok →
          TellsDate (timedFile ⟨0, 0⟩) [0x77, 0x2F, 0x66] answer.response))
    ∧ ∃ answer, handle levels ⟨.default, [0x77], .indexOnly⟩ [] ⟨⟨⟨0, 0⟩, 0⟩, 0⟩
        (levelsRequest "\x7f".toList (by decide)) = .ok answer
      ∧ (∃ n ∈ answer.notices, failedToBuild <+: n.message)
      ∧ (Headers.values answer.response.headers .location).map (·.bytes) = [] := by
  -- the answer for the directory is a redirect
  have hmoved (query : Text) (legal : Target.mayHold isQueryChar query = true) :
      ∃ answer, handle levels ⟨.default, [0x77], .indexOnly⟩ [] ⟨⟨⟨0, 0⟩, 0⟩, 0⟩
          (levelsRequest query legal) = .ok answer
        ∧ answer.response.status = .movedPermanently := by
    obtain ⟨answer, hanswer, hstatus, -⟩ := handle_of_lacksSlash levels
      ⟨.default, [0x77], .indexOnly⟩ [] ⟨⟨⟨0, 0⟩, 0⟩, 0⟩ (Or.inl rfl)
      (lacksSlash_levelsRequest query legal)
    exact ⟨answer, hanswer, hstatus⟩
  refine ⟨?_, ?_, ?_⟩
  · obtain ⟨answer, hanswer, hread, -, hplace, -⟩ := built_as_intended hasDates_levels
      ⟨.default, [0x77], .indexOnly⟩ [] ⟨⟨⟨0, 0⟩, 0⟩, 0⟩ (levelsRequest "ä".toList (by decide))
    obtain ⟨same, hsame, hstatus⟩ := hmoved "ä".toList (by decide)
    cases hanswer.symm.trans hsame
    have htarget : Target.ofBytes
          (Utf8.encode (Target.written "/levels".toList (some "ä".toList)))
        = .ok (levelsRequest "ä".toList (by decide)).target :=
      Target.ofBytes_written (p := "levels".toList) (by decide) (by decide) (by decide)
    obtain ⟨hnameable, hnotices⟩ := hread _ htarget
    refine ⟨answer, hanswer, hnotices, (hplace hstatus).trans ?_⟩
    rw [if_pos hnameable]
    rfl
  · obtain ⟨answer, hanswer, -, -, -, -, hbrought⟩ := built_as_intended
      (hasDates_timedFile (show (⟨0, 0⟩ : Instant).hasDate = true by decide))
      ⟨.default, [0x77], .indexOnly⟩ [] ⟨⟨⟨0, 0⟩, 0⟩, 0⟩ fileRequest
    exact ⟨answer, hanswer, fun hstatus => hbrought hstatus _ (servedFile?_timedFile _)⟩
  · obtain ⟨answer, hanswer, -, hgiven, hplace, -⟩ := built_as_intended hasDates_levels
      ⟨.default, [0x77], .indexOnly⟩ [] ⟨⟨⟨0, 0⟩, 0⟩, 0⟩ (levelsRequest "\x7f".toList (by decide))
    obtain ⟨same, hsame, hstatus⟩ := hmoved "\x7f".toList (by decide)
    cases hanswer.symm.trans hsame
    have hunnameable : ¬(levelsRequest "\x7f".toList (by decide)).target.IsNameable := by decide
    refine ⟨answer, hanswer, hgiven.2 ⟨Or.inl rfl, lacksSlash_levelsRequest _ _, hunnameable⟩,
      (hplace hstatus).trans ?_⟩
    rw [if_neg hunnameable]

end Docroot.Site
