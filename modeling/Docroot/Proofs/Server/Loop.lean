import Docroot.Proofs.Log.Journal
import Docroot.Proofs.Server.Ending
import Docroot.Server.Loop

/-!
# Connections are served in turn

Clients arrive, attempts to accept them fail, the word to stop comes, and the server gets free, in
any order. Whatever the order is, every arrival is taken once and in its turn or is left waiting;
what is taken is over before the next is taken; and once the server finds, being free, that it is
told to stop, it takes nothing more and closes its listener, which is the only way out of the loop
(`serves_in_turn`). What a client gets depends on the client and on the files at that time, so it
gets what it would get as the only one.

The order of what happens is settled first, as the rounds that it gives (`taken_append_waiting`,
`exists_turn_of_leaving`), then what the loop makes of any rounds (`acceptLoop_cases`).
-/

namespace Docroot.Site

open Docroot.Log (Notice)

/-! ## 1. Notices of serving -/

/-- No notice of serving is that the listener is closed. -/
theorem IsOfServing.ne_listenerClosed {n : Notice} (h : IsOfServing n) : n ≠ .listenerClosed := by
  intro heq
  have hletter : n.message.head? = some 'L' := by
    rw [heq]
    rfl
  cases h with
  | notFound p => cases hletter
  | unsupportedMethod m => cases hletter
  | readFailed p e => cases congrArg Notice.severity heq
  | listFailed p e => cases congrArg Notice.severity heq

theorem isOfServing_of_handle {fs : Files.FileSystem} {site : Site} {peer : Text} {timing : Timing}
    {r : Http.Request} {answer : Handled} (h : handle fs site peer timing r = .ok answer)
    (hnameable : r.target.IsNameable) : ∀ n ∈ answer.notices, IsOfServing n := by
  unfold handle at h
  cases hrespond : respond fs site r with
  | error e =>
    rw [hrespond] at h
    cases h
  | ok reply =>
    rw [hrespond] at h
    cases h
    exact isIntended_respond (fun hloses => hloses.unnameable hnameable) hrespond

end Docroot.Site

namespace Docroot.Server

open Docroot.Files
open Docroot.Http
open Docroot.Log (Severity Notice Item Journal)
open Docroot.Site (Timing)

/-! ## 2. No connection closes the listener -/

section

variable {fs : FileSystem} {site : Site} {timing : Timing} {client : Client}

theorem Sends.listenerClosed_notMem {message : Bytes} {items : List Item} {about : Option Failure}
    (h : Sends fs site timing client message items about) :
    Item.notice .listenerClosed ∉ items := by
  intro hmem
  cases h with
  | fault fault hread => cases hmem
  | answer r answer hread hearly hanswer =>
    rcases List.mem_append.1 hmem with hnotice | haccess
    · obtain ⟨n, hn, hclosed⟩ := List.mem_map.1 hnotice
      have hserving := Site.isOfServing_of_handle hanswer (isNameable_of_readHead hread) n hn
      exact hserving.ne_listenerClosed (Item.notice.inj hclosed)
    · rw [Option.mem_toList, Option.map_eq_some_iff] at haccess
      obtain ⟨line, -, hline⟩ := haccess
      cases hline

theorem Fails.listenerClosed_notMem {reply : Bytes} {before : List Item} {n : Notice}
    {waited : Nat} (h : Fails fs site timing client reply before n waited) :
    Item.notice .listenerClosed ∉ before := by
  cases h with
  | faulty hsends => exact hsends.listenerClosed_notMem
  | stalled taken hsends => exact hsends.listenerClosed_notMem
  | cut taken loss hsends => exact hsends.listenerClosed_notMem
  | refused taken code hsends => exact hsends.listenerClosed_notMem
  | _ => exact List.not_mem_nil

/-- **A failure is no debug message**, so it is written as one line, whatever the log level is. -/
theorem Fails.severity {reply : Bytes} {before : List Item} {n : Notice} {waited : Nat}
    (h : Fails fs site timing client reply before n waited) : n.severity ≠ .debug := by
  intro hdebug
  cases h <;> cases hdebug

theorem EndsAs.listenerClosed_notMem {s : Served} (h : EndsAs fs site timing client s) :
    Item.notice .listenerClosed ∉ s.items := by
  cases h with
  | answered hsends => exact hsends.listenerClosed_notMem
  | asksNothing => exact List.not_mem_nil
  | failed hfails =>
    intro hmem
    rcases List.mem_append.1 hmem with hbefore | hlast
    · exact hfails.listenerClosed_notMem hbefore
    · have hsame := Item.notice.inj (List.mem_singleton.1 hlast)
      exact hfails.severity (hsame ▸ rfl)

end

/-! ## 3. What happens to a server -/

/-- What happens to a server, as it happens. -/
inductive Event where
  | arrives (a : Arrival)
  | stops (s : Stop)
  /-- The server is free, and looks what is there. -/
  | turn

/-- What is there for a server: who waits to be taken, and whether it was told to stop. -/
structure Pending where
  waiting : List Arrival := []
  told : Option Stop := none

/-- What is there after an event. Being told to stop a second time changes nothing, and a server
    that was told takes nothing. -/
def Pending.after (p : Pending) : Event → Pending
  | .arrives a => { p with waiting := p.waiting ++ [a] }
  | .stops s => { p with told := p.told.or (some s) }
  | .turn => if p.told.isSome then p else { p with waiting := p.waiting.tail }

/-- What is there after events, one after the other. -/
def Pending.afterAll (p : Pending) (events : List Event) : Pending := events.foldl Pending.after p

/-- The rounds that the events give: one for each time that the server is free, with what is there
    at that time. -/
def rounds (p : Pending) : List Event → List Round
  | [] => []
  | .turn :: events => ⟨p.told, p.waiting.head?⟩ :: rounds (p.after .turn) events
  | event :: events => rounds (p.after event) events

/-- Those who arrive, in order. -/
def arrivals : List Event → List Arrival :=
  List.filterMap fun
    | .arrives a => some a
    | _ => none

/-- What is taken in rounds: all that is there until there is the word to stop. -/
def taken : List Round → List Arrival
  | [] => []
  | ⟨some _, _⟩ :: _ => []
  | ⟨none, arrival⟩ :: rounds => arrival.toList ++ taken rounds

/-- The word to stop by which the rounds end, if they do. -/
def leaving (rounds : List Round) : Option Stop := rounds.findSome? (·.stop)

section

variable {p : Pending}

theorem rounds_turn (p : Pending) (events : List Event) :
    rounds p (.turn :: events) = ⟨p.told, p.waiting.head?⟩ :: rounds (p.after .turn) events :=
  rfl

theorem rounds_append (before after : List Event) :
    rounds p (before ++ after) = rounds p before ++ rounds (p.afterAll before) after := by
  induction before generalizing p with
  | nil => rfl
  | cons event before ih =>
    cases event with
    | turn => exact congrArg (⟨p.told, p.waiting.head?⟩ :: ·) ih
    | _ => exact ih

theorem told_afterAll {s : Stop} (h : p.told = some s) (events : List Event) :
    (p.afterAll events).told = some s := by
  induction events generalizing p with
  | nil => exact h
  | cons event events ih =>
    refine @ih (p.after event) ?_
    cases event with
    | arrives a => exact h
    | stops s' => exact (congrArg (·.or (some s')) h).trans rfl
    | turn =>
      unfold Pending.after
      dsimp only
      rw [h]
      exact h

theorem told_after_turn (p : Pending) : (p.after .turn).told = p.told := by
  unfold Pending.after
  dsimp only
  split <;> rfl

/-- A server that is told to stop was told so. -/
theorem mem_of_told {s : Stop} {events : List Event} (h : (p.afterAll events).told = some s) :
    p.told = some s ∨ .stops s ∈ events := by
  induction events generalizing p with
  | nil => exact Or.inl h
  | cons event events ih =>
    rcases @ih (p.after event) h with htold | hmem
    · cases event with
      | arrives a => exact Or.inl htold
      | stops s' =>
        rcases Option.or_eq_some_iff.1 htold with hbefore | ⟨-, hnow⟩
        · exact Or.inl hbefore
        · cases hnow
          exact Or.inr List.mem_cons_self
      | turn =>
        rw [told_after_turn] at htold
        exact Or.inl htold
    · exact Or.inr (List.mem_cons_of_mem _ hmem)

/-- The word to stop is not lost, whenever it comes. -/
theorem isSome_told_of_mem {s : Stop} {events : List Event} (h : .stops s ∈ events) :
    (p.afterAll events).told.isSome := by
  obtain ⟨before, after, rfl⟩ := List.append_of_mem h
  have hnow : ((p.afterAll before).after (.stops s)).told.isSome := by
    unfold Pending.after
    cases (p.afterAll before).told <;> rfl
  obtain ⟨s', hs'⟩ := Option.isSome_iff_exists.1 hnow
  have hlater := told_afterAll hs' after
  unfold Pending.afterAll at hlater ⊢
  rw [List.foldl_append, List.foldl_cons, hlater]
  rfl

theorem taken_append_of_leaving {rs : List Round} (h : (leaving rs).isSome) (rs' : List Round) :
    taken (rs ++ rs') = taken rs := by
  induction rs with
  | nil => cases h
  | cons round rs ih =>
    obtain ⟨stop, arrival⟩ := round
    cases stop with
    | some s => rfl
    | none => exact congrArg (arrival.toList ++ ·) (ih h)

theorem taken_append {rs : List Round} (h : leaving rs = none) (rs' : List Round) :
    taken (rs ++ rs') = taken rs ++ taken rs' := by
  induction rs with
  | nil => rfl
  | cons round rs ih =>
    obtain ⟨stop, arrival⟩ := round
    cases stop with
    | some s => cases h
    | none =>
      have hcons := congrArg (arrival.toList ++ ·) (ih h)
      exact hcons.trans (List.append_assoc _ _ _).symm

/-- Nothing is taken by a server that was told to stop. -/
theorem taken_of_told {s : Stop} (h : p.told = some s) (events : List Event) :
    taken (rounds p events) = [] := by
  induction events generalizing p with
  | nil => rfl
  | cons event events ih =>
    have hafter : (p.after event).told = some s := told_afterAll h [event]
    cases event with
    | turn =>
      unfold rounds
      rw [h]
      rfl
    | _ => exact ih hafter

/-- **Every arrival is taken once and in its turn, or is left waiting.** -/
theorem taken_append_waiting (events : List Event) :
    taken (rounds p events) ++ (p.afterAll events).waiting = p.waiting ++ arrivals events := by
  induction events generalizing p with
  | nil => exact (List.append_nil _).symm
  | cons event events ih =>
    have htail := @ih (p.after event)
    cases event with
    | arrives a => exact htail.trans (List.append_assoc _ [a] _)
    | stops s => exact htail
    | turn =>
      obtain ⟨waiting, told⟩ := p
      cases told with
      | some s =>
        rw [taken_of_told rfl] at htail
        exact htail
      | none =>
        cases waiting with
        | nil => exact htail
        | cons a waiting => exact congrArg (a :: ·) htail

/-- Rounds that end by the word to stop do so in a turn by which it has come. -/
theorem exists_turn_of_leaving {s : Stop} {events : List Event}
    (h : leaving (rounds p events) = some s) :
    ∃ before after, events = before ++ .turn :: after ∧ (p.afterAll before).told = some s := by
  induction events generalizing p with
  | nil => cases h
  | cons event events ih =>
    -- the turn is the first event, or one of those behind it
    have hlater : leaving (rounds (p.after event) events) = some s → ∃ before after,
        event :: events = before ++ .turn :: after ∧ (p.afterAll before).told = some s := by
      intro hleaving
      obtain ⟨before, after, rfl, htold⟩ := ih hleaving
      exact ⟨event :: before, after, rfl, htold⟩
    cases event with
    | turn =>
      obtain ⟨waiting, told⟩ := p
      cases told with
      | some s' => exact ⟨[], events, rfl, h⟩
      | none => exact hlater h
    | _ => exact hlater h

/-- Who waits first is taken in a turn by which the word to stop has not come. -/
theorem taken_of_turn {before : List Event} (h : (p.afterAll before).told = none) {a : Arrival}
    {rest : List Arrival} (hwaiting : (p.afterAll before).waiting = a :: rest)
    (after : List Event) :
    taken (rounds p before) ++ [a] <+: taken (rounds p (before ++ .turn :: after)) := by
  have hgoes : leaving (rounds p before) = none := by
    cases hleaving : leaving (rounds p before) with
    | none => rfl
    | some s =>
      obtain ⟨earlier, later, rfl, htold⟩ := exists_turn_of_leaving hleaving
      have hstays := told_afterAll htold (.turn :: later)
      unfold Pending.afterAll at h hstays
      rw [List.foldl_append, hstays] at h
      cases h
  rw [rounds_append, taken_append hgoes, rounds_turn, h, hwaiting]
  exact ⟨taken (rounds ((p.afterAll before).after .turn) after), List.append_assoc _ [a] _⟩

/-- A turn by which the word to stop has come ends the rounds: what is taken was taken before. -/
theorem leaving_of_turn {before : List Event} (h : (p.afterAll before).told.isSome)
    (after : List Event) : (leaving (rounds p (before ++ .turn :: after))).isSome
      ∧ taken (rounds p (before ++ .turn :: after)) = taken (rounds p before) := by
  obtain ⟨s, hs⟩ := Option.isSome_iff_exists.1 h
  rw [rounds_append, rounds_turn, hs]
  cases hleaving : leaving (rounds p before) with
  | some s' =>
    have hsome : (leaving (rounds p before)).isSome := by
      rw [hleaving]
      rfl
    refine ⟨?_, taken_append_of_leaving hsome _⟩
    unfold leaving at hleaving ⊢
    rw [List.findSome?_append, hleaving]
    rfl
  | none =>
    constructor
    · unfold leaving at hleaving ⊢
      rw [List.findSome?_append, hleaving]
      rfl
    · rw [taken_append hleaving]
      exact List.append_nil _

end

/-! ## 4. What the loop makes of it -/

/-- What becomes of someone who is taken: the connection is not accepted, or it is served, with the
    files as they are then. -/
inductive Outcome where
  | refused (e : IoError)
  | served (files : FileSystem) (timing : Timing) (client : Client) (s : Served)

namespace Outcome

/-- Who was taken. -/
def arrival : Outcome → Arrival
  | .refused e => .failure e
  | .served _ timing client _ => .client timing client

/-- What is logged. -/
def items : Outcome → List Item
  | .refused e => [.notice (.acceptFailed e)]
  | .served _ _ client s => .notice (.accepted client.peer.toText) :: s.items

/-- What is sent. -/
def reply? : Outcome → Option Bytes
  | .refused _ => none
  | .served _ _ _ s => some s.reply

/-- The outcome is the one that serving has, with the files that are there. -/
def IsDue (site : Site) (j : Journal) : Outcome → Prop
  | .refused _ => True
  | .served files timing client s => files = (j.notice (.accepted client.peer.toText)).files
      ∧ serveConnection files site timing client = .ok s

/-- **The outcome is a failure**, by what was to be accepted or served: what there is to log before, and
    the notice of the failure. -/
inductive FailsWith (site : Site) : Outcome → List Item → Notice → Prop where
  | refused (e : IoError) : FailsWith site (.refused e) [] (.acceptFailed e)
  | served {files : FileSystem} {timing : Timing} {client : Client} {reply : Bytes}
      {before : List Item} {n : Notice} {waited : Nat} (s : Served)
      (fails : Fails files site timing client reply before n waited) :
      FailsWith site (.served files timing client s)
        (.notice (.accepted client.peer.toText) :: before) n

/-- The connection was served with these files. -/
def FindsFiles (fs : FileSystem) : Outcome → Prop
  | .refused _ => True
  | .served files .. => files = fs

end Outcome

/-- **Outcomes one after the other**: each is over, and logged, before the next. -/
def InTurn (site : Site) : Journal → List Outcome → Prop
  | _, [] => True
  | j, o :: os => o.IsDue site j ∧ InTurn site (j.items o.items) os

/-- What is logged when the loop is left. -/
def closing : Option Stop → List Item
  | none => []
  | some s => (s.notices ++ [Notice.listenerClosed]).map .notice

/-- What the loop has come to, by the outcomes and the word to stop. -/
def courseOf (j : Journal) (os : List Outcome) (stop : Option Stop) : Course where
  journal := j.items (os.flatMap Outcome.items ++ closing stop)
  replies := os.filterMap Outcome.reply?
  ended := stop.isSome

/-- **The loop takes what is there in turn**, until it is told to stop. -/
structure TakesInTurn (site : Site) (j : Journal) (rs : List Round) (os : List Outcome) : Prop where
  taken : os.map Outcome.arrival = taken rs
  inTurn : InTurn site j os
  course : acceptLoop site j rs = .ok (courseOf j os (leaving rs))

/-- **The loop breaks off in a connection that has no end**, which comes after the outcomes. -/
structure BreaksOff (site : Site) (j : Journal) (rs : List Round) (os : List Outcome)
    (timing : Timing) (client : Client) (u : Unserved) : Prop where
  taken : os.map Outcome.arrival ++ [.client timing client] <+: taken rs
  inTurn : InTurn site j os
  neverEnds : NeverEnds
    ((j.items (os.flatMap Outcome.items)).notice (.accepted client.peer.toText)).files site timing
    client u
  course : acceptLoop site j rs = .error u

section

variable {site : Site} {j : Journal} {o : Outcome}

/-- The course with an outcome in front. -/
def Outcome.before (o : Outcome) (c : Course) : Course :=
  match o.reply? with
  | none => c
  | some reply => c.after reply

theorem courseOf_cons (j : Journal) (o : Outcome) (os : List Outcome) (stop : Option Stop) :
    courseOf j (o :: os) stop = o.before (courseOf (j.items o.items) os stop) := by
  unfold courseOf
  rw [List.flatMap_cons, List.append_assoc, Journal.items_append]
  cases o <;> rfl

/-- **One who is there is taken**, and the loop goes on when the outcome is over. -/
theorem acceptLoop_cons (h : o.IsDue site j) (rs : List Round) :
    acceptLoop site j (⟨none, some o.arrival⟩ :: rs)
      = (acceptLoop site (j.items o.items) rs).map o.before := by
  cases o with
  | refused e =>
    have hgoes : acceptLoop site j (⟨none, some (.failure e)⟩ :: rs)
        = acceptLoop site (j.items (Outcome.refused e).items) rs := rfl
    refine hgoes.trans ?_
    cases acceptLoop site (j.items (Outcome.refused e).items) rs <;> rfl
  | served files timing client s =>
    obtain ⟨rfl, hs⟩ := h
    have hgoes : acceptLoop site j (⟨none, some (.client timing client)⟩ :: rs)
        = (serveConnection (j.notice (.accepted client.peer.toText)).files site timing client).bind
            fun served => (acceptLoop site
              ((j.notice (.accepted client.peer.toText)).items served.items) rs).bind
                fun course => .ok (course.after served.reply) := rfl
    have hitems : j.items (Outcome.served (j.notice (.accepted client.peer.toText)).files timing
        client s).items = (j.notice (.accepted client.peer.toText)).items s.items := rfl
    refine hgoes.trans ?_
    rw [hs, hitems]
    change (acceptLoop site ((j.notice (.accepted client.peer.toText)).items s.items) rs).bind
      (fun course => .ok (course.after s.reply)) = _
    cases acceptLoop site ((j.notice (.accepted client.peer.toText)).items s.items) rs <;> rfl

/-- Everyone who is there has an outcome, or a connection without an end. -/
theorem exists_isDue_or (site : Site) (j : Journal) (a : Arrival) :
    (∃ o : Outcome, o.arrival = a ∧ o.IsDue site j)
      ∨ ∃ timing client u, ∀ rs, BreaksOff site j (⟨none, some a⟩ :: rs) [] timing client u := by
  cases a with
  | failure e => exact Or.inl ⟨.refused e, rfl, trivial⟩
  | client timing client =>
    cases hserve : serveConnection (j.notice (.accepted client.peer.toText)).files site timing
        client with
    | ok s => exact Or.inl ⟨.served _ timing client s, rfl, rfl, hserve⟩
    | error u =>
      refine Or.inr ⟨timing, client, u,
        fun rs => ⟨?_, trivial, serveConnection_eq_error_iff.1 hserve, ?_⟩⟩
      · exact List.prefix_append [Arrival.client timing client] (taken rs)
      · unfold acceptLoop
        dsimp only
        rw [hserve]
        rfl

theorem TakesInTurn.cons {rs : List Round} {os : List Outcome} (h : o.IsDue site j)
    (htail : TakesInTurn site (j.items o.items) rs os) :
    TakesInTurn site j (⟨none, some o.arrival⟩ :: rs) (o :: os) where
  taken := congrArg (o.arrival :: ·) htail.taken
  inTurn := ⟨h, htail.inTurn⟩
  course := by
    rw [acceptLoop_cons h, htail.course, courseOf_cons]
    rfl

theorem BreaksOff.cons {rs : List Round} {os : List Outcome} {timing : Timing} {client : Client}
    {u : Unserved} (h : o.IsDue site j)
    (htail : BreaksOff site (j.items o.items) rs os timing client u) :
    BreaksOff site j (⟨none, some o.arrival⟩ :: rs) (o :: os) timing client u where
  taken := (List.prefix_cons_inj o.arrival).2 htail.taken
  inTurn := ⟨h, htail.inTurn⟩
  neverEnds := by
    rw [List.flatMap_cons, Journal.items_append]
    exact htail.neverEnds
  course := by
    rw [acceptLoop_cons h, htail.course]
    rfl

/-- **What the loop makes of its rounds.** -/
theorem acceptLoop_cases (site : Site) (j : Journal) (rs : List Round) :
    (∃ os, TakesInTurn site j rs os)
      ∨ ∃ os timing client u, BreaksOff site j rs os timing client u := by
  induction rs generalizing j with
  | nil => exact Or.inl ⟨[], rfl, trivial, rfl⟩
  | cons round rs ih =>
    obtain ⟨stop, arrival⟩ := round
    cases stop with
    | some s =>
      refine Or.inl ⟨[], rfl, trivial, ?_⟩
      have hleft : acceptLoop site j (⟨some s, arrival⟩ :: rs)
          = .ok ⟨j.notices (s.notices ++ [.listenerClosed]), [], true⟩ := rfl
      rw [hleft, Journal.notices_eq_items]
      rfl
    | none =>
      cases arrival with
      | none =>
        rcases ih j with ⟨os, h⟩ | ⟨os, timing, client, u, h⟩
        · exact Or.inl ⟨os, h.taken, h.inTurn, h.course⟩
        · exact Or.inr ⟨os, timing, client, u, h.taken, h.inTurn, h.neverEnds, h.course⟩
      | some a =>
        rcases exists_isDue_or site j a with ⟨o, rfl, hdue⟩ | ⟨timing, client, u, h⟩
        · rcases ih (j.items o.items) with ⟨os, h⟩ | ⟨os, timing, client, u, h⟩
          · exact Or.inl ⟨o :: os, h.cons hdue⟩
          · exact Or.inr ⟨o :: os, timing, client, u, h.cons hdue⟩
        · exact Or.inr ⟨[], timing, client, u, h rs⟩

/-! ## 5. The loop as a whole -/

theorem InTurn.serveConnection {os : List Outcome} (h : InTurn site j os) {files : FileSystem}
    {timing : Timing} {client : Client} {s : Served} (hmem : .served files timing client s ∈ os) :
    serveConnection files site timing client = .ok s := by
  induction os generalizing j with
  | nil => cases hmem
  | cons o os ih =>
    rcases List.mem_cons.1 hmem with rfl | hlater
    · exact h.1.2
    · exact ih h.2 hlater

/-- **A failure is one line of the error log**, behind what there is to log before. -/
theorem InTurn.line {os : List Outcome} (h : InTurn site j os) {o : Outcome} (hmem : o ∈ os)
    {before : List Item} {n : Notice} (hfails : o.FailsWith site before n) :
    o.items = before ++ [.notice n] ∧ ∀ k : Journal, k.notice n = k.putLine k.errorSink n.line := by
  cases hfails with
  | refused e => exact ⟨rfl, fun k => if_neg fun hdebug => Severity.noConfusion hdebug.1⟩
  | served s hfails =>
    refine ⟨?_, fun k => if_neg fun hdebug => hfails.severity hdebug.1⟩
    have hserved := h.serveConnection hmem
    rw [hfails.serveConnection_eq] at hserved
    cases hserved
    rfl

/-- **Where neither log is written to a file, everyone finds the files as they were.** -/
theorem InTurn.findsFiles {os : List Outcome} (h : InTurn site j os) (hlogs : j.WritesNoFile) :
    ∀ o ∈ os, o.FindsFiles j.files := by
  induction os generalizing j with
  | nil => exact fun o hmem => by cases hmem
  | cons o os ih =>
    obtain ⟨hkept, hfiles⟩ := hlogs.items o.items
    refine List.forall_mem_cons.2 ⟨?_, ?_⟩
    · cases o with
      | refused e => trivial
      | served files timing client s =>
        exact h.1.1.trans (hlogs.items [.notice (.accepted client.peer.toText)]).2
    · rw [← hfiles]
      exact ih h.2 hkept

theorem InTurn.count_listenerClosed {os : List Outcome} (h : InTurn site j os) :
    (os.flatMap Outcome.items).count (.notice .listenerClosed) = 0 := by
  refine List.count_eq_zero.2 fun hmem => ?_
  obtain ⟨o, ho, hitem⟩ := List.mem_flatMap.1 hmem
  cases o with
  | refused e =>
    have hsame := Item.notice.inj (List.mem_singleton.1 hitem)
    cases congrArg Notice.severity hsame
  | served files timing client s =>
    rcases List.mem_cons.1 hitem with hfirst | hlater
    · have hletter := congrArg (·.message.head?) (Item.notice.inj hfirst)
      cases hletter
    · exact (serveConnection_eq_ok_iff.1 (h.serveConnection ho)).listenerClosed_notMem hlater

theorem count_listenerClosed_closing (stop : Option Stop) :
    (closing stop).count (.notice .listenerClosed) = if stop.isSome then 1 else 0 := by
  cases stop with
  | none => rfl
  | some s =>
    cases s with
    | quiet => decide
    | signal s => cases s <;> decide

end

/-- **A server that serves in turn**, over all that happens to it. -/
structure ServesInTurn (site : Site) (j : Journal) (events : List Event) (os : List Outcome)
    (stop : Option Stop) : Prop where
  course : acceptLoop site j (rounds {} events) = .ok (courseOf j os stop)
  /-- Each one taken is served to its end, and what is logged of it is written, before the next. -/
  inTurn : InTurn site j os
  /-- Each one who arrives is taken once, in the order of arrival, or is left waiting. -/
  once : os.map Outcome.arrival ++ (Pending.afterAll {} events).waiting = arrivals events
  /-- The first who waits is taken when the server gets free and was not told to stop. -/
  takes : ∀ before after a rest, events = before ++ .turn :: after → (∀ s, .stops s ∉ before) →
    (Pending.afterAll {} before).waiting = a :: rest →
      ∃ earlier, arrivals before = earlier ++ a :: rest ∧ earlier ++ [a] <+: os.map Outcome.arrival
  /-- Nobody is taken after a turn by which the word to stop has come, also of those who wait. -/
  stops : ∀ before after s, events = before ++ .turn :: after → .stops s ∈ before →
    os.map Outcome.arrival ++ (Pending.afterAll {} before).waiting = arrivals before
  /-- The loop is left in such a turn, and in no other way. -/
  leaves : stop.isSome ↔ ∃ before after s, events = before ++ .turn :: after ∧ .stops s ∈ before
  told : ∀ s, stop = some s → .stops s ∈ events
  /-- The listener is closed once when the loop is left, and not before. -/
  closes : (os.flatMap Outcome.items ++ closing stop).count (.notice .listenerClosed)
    = if stop.isSome then 1 else 0
  /-- Each connection ends as it must, by what the client sends and what happens to it. -/
  ends : ∀ files timing client s, .served files timing client s ∈ os →
    EndsAs files site timing client s
  /-- A failure, to accept or in a connection, adds one notice, which is one line of the error log. -/
  lines : ∀ o ∈ os, ∀ before n, o.FailsWith site before n →
    o.items = before ++ [.notice n] ∧ ∀ k : Journal, k.notice n = k.putLine k.errorSink n.line
  /-- What a client gets is what it gets as the only one, with the files as it found them. -/
  alone : ∀ files timing client s, .served files timing client s ∈ os → ∀ k : Journal,
    (k.notice (.accepted client.peer.toText)).files = files →
      acceptLoop site k (rounds {} [.arrives (.client timing client), .turn])
        = .ok (courseOf k [.served files timing client s] none)
  /-- With the logs on the standard streams all find the files as they were. -/
  undisturbed : j.WritesNoFile → ∀ o ∈ os, o.FindsFiles j.files

theorem taken_prefix_arrivals (events : List Event) :
    taken (rounds {} events) <+: arrivals events :=
  ⟨_, taken_append_waiting (p := {}) events⟩

section

variable {site : Site} {j : Journal} {events : List Event} {os : List Outcome}

/-- A server that nobody told to stop was not told so. -/
theorem told_eq_none (hquiet : ∀ s, .stops s ∉ events) :
    (Pending.afterAll {} events).told = none := by
  cases htold : (Pending.afterAll {} events).told with
  | none => rfl
  | some s =>
    rcases mem_of_told htold with hbefore | hmem
    · cases hbefore
    · exact absurd hmem (hquiet s)

/-- The loop is left in a turn by which the word came by which it is left. -/
theorem exists_stops_of_leaving {s : Stop} (h : leaving (rounds {} events) = some s) :
    ∃ before after, events = before ++ .turn :: after ∧ .stops s ∈ before := by
  obtain ⟨before, after, hsplit, htold⟩ := exists_turn_of_leaving h
  rcases mem_of_told htold with hbefore | hmem
  · cases hbefore
  · exact ⟨before, after, hsplit, hmem⟩

theorem isSome_leaving_iff : (leaving (rounds {} events)).isSome
    ↔ ∃ before after s, events = before ++ .turn :: after ∧ .stops s ∈ before := by
  constructor
  · intro hleft
    obtain ⟨s, hs⟩ := Option.isSome_iff_exists.1 hleft
    obtain ⟨before, after, hsplit, hmem⟩ := exists_stops_of_leaving hs
    exact ⟨before, after, s, hsplit, hmem⟩
  · rintro ⟨before, after, s, rfl, hmem⟩
    exact (leaving_of_turn (isSome_told_of_mem hmem) after).1

/-- A client that is the only one gets what it gets in its turn. -/
theorem InTurn.alone (h : InTurn site j os) {files : FileSystem} {timing : Timing} {client : Client}
    {s : Served} (hmem : .served files timing client s ∈ os) {k : Journal}
    (hfiles : (k.notice (.accepted client.peer.toText)).files = files) :
    acceptLoop site k (rounds {} [.arrives (.client timing client), .turn])
      = .ok (courseOf k [.served files timing client s] none) := by
  have hdue : (Outcome.served files timing client s).IsDue site k :=
    ⟨hfiles.symm, h.serveConnection hmem⟩
  have hlast : ∀ k', TakesInTurn site k' [] [] := fun k' => ⟨rfl, trivial, rfl⟩
  exact ((hlast _).cons hdue).course

/-- **A loop that takes what is there in turn serves in turn.** -/
theorem TakesInTurn.serves (h : TakesInTurn site j (rounds {} events) os) :
    ServesInTurn site j events os (leaving (rounds {} events)) where
  course := h.course
  inTurn := h.inTurn
  once := by
    rw [h.taken]
    exact taken_append_waiting events
  takes := by
    rintro before after a rest rfl hquiet hwaiting
    refine ⟨Server.taken (rounds {} before), ?_, ?_⟩
    · rw [← hwaiting]
      exact (taken_append_waiting (p := {}) before).symm
    · rw [h.taken]
      exact taken_of_turn (told_eq_none hquiet) hwaiting after
  stops := by
    rintro before after s rfl hstop
    rw [h.taken, (leaving_of_turn (isSome_told_of_mem hstop) after).2]
    exact taken_append_waiting before
  leaves := isSome_leaving_iff
  told := by
    intro s hs
    obtain ⟨before, after, rfl, hmem⟩ := exists_stops_of_leaving hs
    exact List.mem_append_left _ hmem
  closes := by
    rw [List.count_append, h.inTurn.count_listenerClosed, Nat.zero_add, count_listenerClosed_closing]
  ends files timing client s hmem := serveConnection_eq_ok_iff.1 (h.inTurn.serveConnection hmem)
  lines o hmem before n hfails := h.inTurn.line hmem hfails
  alone files timing client s hmem k hfiles := h.inTurn.alone hmem hfiles
  undisturbed := h.inTurn.findsFiles

end

/-- **Connections are served in turn**, whatever happens in whatever order; or the loop breaks off in
    a connection that has no end, up to which it was so. -/
theorem serves_in_turn (site : Site) (j : Journal) (events : List Event) :
    (∃ os stop, ServesInTurn site j events os stop)
      ∨ ∃ os timing client u, BreaksOff site j (rounds {} events) os timing client u
        ∧ os.map Outcome.arrival ++ [.client timing client] <+: arrivals events := by
  rcases acceptLoop_cases site j (rounds {} events) with ⟨os, h⟩ | ⟨os, timing, client, u, h⟩
  · exact Or.inl ⟨os, _, h.serves⟩
  · exact Or.inr ⟨os, timing, client, u, h, h.taken.trans (taken_prefix_arrivals events)⟩

end Docroot.Server
