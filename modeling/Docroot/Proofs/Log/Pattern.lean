import Docroot.Proofs.Log.AccessEntry
import Docroot.Proofs.Text.Replace
import Mathlib.Data.List.Chain
import Mathlib.Data.List.MinMax

/-!
# Filling in a pattern

What a pattern means is told by one pass over it from the left (`pieces`, `expand`): where a variable
begins, the one with the longest name is taken, and all else is copied. The log replaces the variables
one after another instead, each in the line that the ones before it have left.

The two come to the same exactly as long as each variable is found at its own places alone
(`FillsOwnPlaces`): a value can bring the name of a later variable with it, or make one together with
what stands beside it, and that is replaced as well (`target_expanded`). Dollar signs are the marks
that decide it. Where the values that are followed by another replacement have none, and every dollar
sign of the pattern begins a variable, nothing of the kind happens (`fillsOwnPlaces_of_isPlain`).
-/

namespace Docroot.Log

open Docroot.Text (Form fill HasStray IsMarked replaceAll)

/-! ## 1. Variables -/

/-- The variables of a pattern. -/
inductive Variable where
  | remoteAddr
  | timeLocal
  | timeIso8601
  | request
  | requestMethod
  | requestUri
  | requestTime
  | status
  | bodyBytesSent
  | httpReferer
  | httpUserAgent
  deriving DecidableEq, Repr

namespace Variable

/-- The variables in the order in which they are replaced. -/
def order : List Variable := [.remoteAddr, .timeLocal, .timeIso8601, .requestTime, .requestMethod,
  .requestUri, .request, .status, .bodyBytesSent, .httpReferer, .httpUserAgent]

theorem mem_order (v : Variable) : v ∈ order := by
  cases v <;> decide

/-- The variables that are replaced before this one. -/
def earlier (v : Variable) : List Variable := order.takeWhile (· ≠ v)

/-- How a variable is written. -/
def name : Variable → Text
  | remoteAddr => "$remote_addr".toList
  | timeLocal => "$time_local".toList
  | timeIso8601 => "$time_iso8601".toList
  | request => "$request".toList
  | requestMethod => "$request_method".toList
  | requestUri => "$request_uri".toList
  | requestTime => "$request_time".toList
  | status => "$status".toList
  | bodyBytesSent => "$body_bytes_sent".toList
  | httpReferer => "$http_referer".toList
  | httpUserAgent => "$http_user_agent".toList

/-- What a variable stands for: the request line, a field of the entry, or how it is written in the
    common format where it can be missing. -/
def value (e : AccessEntry) : Variable → Text
  | remoteAddr => e.remoteAddr
  | timeLocal => e.time.commonLog
  | timeIso8601 => e.time.iso
  | request => e.requestLine
  | requestMethod => e.method
  | requestUri => e.uri
  | requestTime => AccessEntry.secondsText e.micros
  | status => Digits.decimal e.status
  | bodyBytesSent => Digits.decimal e.bodyBytes
  | httpReferer => AccessEntry.orDash e.referer
  | httpUserAgent => AccessEntry.orDash e.userAgent

theorem substitutions_eq_map (e : AccessEntry) :
    e.substitutions = order.map fun v => (v.name, v.value e) := rfl

/-- Every name is a dollar sign and something without one. -/
theorem exists_name_eq_cons (v : Variable) : ∃ rest, v.name = '$' :: rest ∧ '$' ∉ rest := by
  refine ⟨v.name.tail, ?_⟩
  cases v <;> decide

theorem isMarked_name (v : Variable) : IsMarked v.name := ⟨'$', v.exists_name_eq_cons⟩

/-- What is replaced before a variable that stands in the order at the end of a part of it. -/
theorem earlier_of_prefix {done : List Variable} {v : Variable} (h : done ++ [v] <+: order) :
    earlier v = done := by
  have hnodup : order.Nodup := by decide
  obtain ⟨rest, horder⟩ := h
  rw [← horder, List.append_assoc] at hnodup
  have hnot : ∀ w ∈ done, w ≠ v := fun w hw =>
    (List.nodup_append.1 hnodup).2.2 w hw v (List.mem_cons_self ..)
  unfold earlier
  rw [← horder, List.append_assoc,
    List.takeWhile_append_of_pos fun w hw => decide_eq_true (hnot w hw), List.singleton_append,
    List.takeWhile_cons_of_neg (by simp), List.append_nil]

/-- And every variable stands at the end of such a part. -/
theorem earlier_append_prefix (v : Variable) : earlier v ++ [v] <+: order := by
  cases v <;> decide

theorem not_mem_earlier (v : Variable) : v ∉ earlier v := by
  cases v <;> decide

/-- A name begins with another only if that is the shorter one, replaced later. -/
theorem eq_or_mem_earlier_of_prefix {v w : Variable} (h : v.name <+: w.name) :
    w = v ∨ w ∈ earlier v := by
  have hall : ∀ v ∈ order, ∀ w ∈ order, v.name <+: w.name → w = v ∨ w ∈ earlier v := by decide
  exact hall v v.mem_order w w.mem_order h

/-- Only the request has a name that others begin with, and they go on with an underscore. -/
theorem request_of_prefix {v w : Variable} (h : w.name <+: v.name) (hne : w ≠ v) :
    w = .request ∧ request.name ++ ['_'] <+: v.name := by
  have hall : ∀ v ∈ order, ∀ w ∈ order, w.name <+: v.name → w ≠ v →
      w = .request ∧ request.name ++ ['_'] <+: v.name := by decide
  exact hall v v.mem_order w w.mem_order h hne

/-- The longest variable that begins a text. -/
def longest? (s : Text) : Option Variable :=
  (order.filter (·.name.isPrefixOf s)).argmax (·.name.length)

theorem name_injective {v w : Variable} (h : v.name = w.name) : v = w := by
  have hall : ∀ v ∈ order, ∀ w ∈ order, v.name = w.name → v = w := by decide
  exact hall v v.mem_order w w.mem_order h

theorem longest?_eq_some_iff {s : Text} {v : Variable} :
    longest? s = some v
      ↔ v.name <+: s ∧ ∀ w : Variable, w.name <+: s → w.name.length ≤ v.name.length := by
  unfold longest?
  rw [← Option.mem_def, List.mem_argmax_iff]
  simp only [List.mem_filter, mem_order, true_and, List.isPrefixOf_iff_prefix]
  constructor
  · rintro ⟨hv, hlongest, -⟩
    exact ⟨hv, hlongest⟩
  · rintro ⟨hv, hlongest⟩
    refine ⟨hv, hlongest, fun w hw hle => ?_⟩
    -- two names of one length at one place are the same
    have hbegins := List.prefix_of_prefix_length_le hw hv (hlongest w hw)
    rw [name_injective (hbegins.eq_of_length (Nat.le_antisymm (hlongest w hw) hle))]

end Variable

/-! ## 2. One pass over the pattern -/

/-- A piece of a pattern: a character to be copied, or a variable. -/
inductive Piece where
  | char (c : Char)
  | var (v : Variable)
  deriving DecidableEq, Repr

/-- The pieces, where the next `skip` characters belong to a name that has been read. -/
def piecesAfter : Nat → Text → List Piece
  | _, [] => []
  | skip + 1, _ :: rest => piecesAfter skip rest
  | 0, c :: rest =>
    match Variable.longest? (c :: rest) with
    | some v => .var v :: piecesAfter (v.name.length - 1) rest
    | none => .char c :: piecesAfter 0 rest

/-- **The pieces of a pattern**, read from the left. -/
def pieces (pattern : Text) : List Piece := piecesAfter 0 pattern

variable {e : AccessEntry} {v w : Variable} {pattern : Text}

/-- The pieces with the variables in `done` filled in, and the others by name. -/
def fillIn (e : AccessEntry) (done : List Variable) (ps : List Piece) : Text :=
  ps.flatMap fun
    | .char c => [c]
    | .var v => if v ∈ done then v.value e else v.name

theorem fillIn_char (done : List Variable) (c : Char) (ps : List Piece) :
    fillIn e done (.char c :: ps) = c :: fillIn e done ps := rfl

theorem fillIn_var (done : List Variable) (v : Variable) (ps : List Piece) :
    fillIn e done (.var v :: ps) = (if v ∈ done then v.value e else v.name) ++ fillIn e done ps :=
  rfl

/-- **The single pass**: every variable of the pattern gives way to its value, and all else is
    copied. -/
def expand (e : AccessEntry) (pattern : Text) : Text :=
  (pieces pattern).flatMap fun
    | .char c => [c]
    | .var v => v.value e

/-- The induction is on the text that is left; the rest of a name that has been read is skipped. -/
theorem fillIn_piecesAfter (s : Text) :
    ∀ skip, fillIn e [] (piecesAfter skip s) = s.drop skip := by
  induction s with
  | nil =>
    intro skip
    cases skip <;> rfl
  | cons c rest ih =>
    rintro (_ | skip)
    · rw [piecesAfter, List.drop_zero]
      split
      · next v hv =>
        obtain ⟨tail, hname, -⟩ := v.exists_name_eq_cons
        have hprefix := (Variable.longest?_eq_some_iff.1 hv).1
        rw [hname] at hprefix
        obtain ⟨rfl, after, rfl⟩ := List.cons_prefix_cons.1 hprefix
        rw [fillIn_var, if_neg (List.not_mem_nil), ih, hname, List.length_cons, Nat.add_sub_cancel,
          List.drop_left]
        rfl
      · rw [fillIn_char, ih, List.drop_zero]
    · rw [piecesAfter, ih, List.drop_succ_cons]

/-- Nothing of the pattern is lost in its pieces. -/
theorem fillIn_nil (e : AccessEntry) (pattern : Text) : fillIn e [] (pieces pattern) = pattern :=
  fillIn_piecesAfter pattern 0

theorem fillIn_order (e : AccessEntry) (pattern : Text) :
    fillIn e Variable.order (pieces pattern) = expand e pattern := by
  unfold fillIn expand
  refine congrArg (List.flatMap · (pieces pattern)) (funext fun p => ?_)
  cases p with
  | char c => rfl
  | var v => exact if_pos v.mem_order

/-! ## 3. One variable after another -/

/-- The line once the variables in `done` have been replaced in it, one after another. -/
def replaced (e : AccessEntry) (done : List Variable) (pattern : Text) : Text :=
  done.foldl (fun line v => replaceAll v.name (v.value e) line) pattern

theorem custom_eq_replaced (e : AccessEntry) (pattern : Text) :
    e.custom pattern = replaced e Variable.order pattern := by
  unfold AccessEntry.custom replaced
  rw [Variable.substitutions_eq_map, List.foldl_map]

theorem replaced_append_singleton (e : AccessEntry) (done : List Variable) (v : Variable)
    (pattern : Text) :
    replaced e (done ++ [v]) pattern = replaceAll v.name (v.value e) (replaced e done pattern) := by
  unfold replaced
  rw [List.foldl_append, List.foldl_cons, List.foldl_nil]

/-- The line in which a variable is replaced, as it should be: its own places are held open, the
    variables before it are filled in, and those behind it stand there by name. -/
def formOf (e : AccessEntry) (v : Variable) (ps : List Piece) : Form :=
  ps.flatMap fun
    | .char c => [some c]
    | .var w => if w = v then [none] else (if w ∈ v.earlier then w.value e else w.name).map some

theorem fill_formOf (e : AccessEntry) (v : Variable) (t : Text) (ps : List Piece) :
    fill t (formOf e v ps) = ps.flatMap fun
      | .char c => [c]
      | .var w => if w = v then t else if w ∈ v.earlier then w.value e else w.name := by
  induction ps with
  | nil => rfl
  | cons p ps ih =>
    unfold formOf at ih ⊢
    rw [List.flatMap_cons, List.flatMap_cons, Text.fill_append, ih]
    cases p with
    | char c => rfl
    | var w =>
      dsimp only
      split
      · rw [Text.fill_place, Text.fill, List.flatMap_nil, List.append_nil]
      · rw [Text.fill_map_some]

theorem fill_name_formOf (e : AccessEntry) (v : Variable) (ps : List Piece) :
    fill v.name (formOf e v ps) = fillIn e v.earlier ps := by
  rw [fill_formOf]
  refine congrArg (List.flatMap · ps) (funext fun p => ?_)
  cases p with
  | char c => rfl
  | var w =>
    dsimp only
    split
    · next h => rw [h, if_neg v.not_mem_earlier]
    · rfl

theorem fill_value_formOf (e : AccessEntry) (v : Variable) (ps : List Piece) :
    fill (v.value e) (formOf e v ps) = fillIn e (v.earlier ++ [v]) ps := by
  rw [fill_formOf]
  refine congrArg (List.flatMap · ps) (funext fun p => ?_)
  cases p with
  | char c => rfl
  | var w =>
    dsimp only
    split
    · next h => rw [h, if_pos (List.mem_append_right _ (List.mem_singleton_self v))]
    · next h => simp only [List.mem_append, List.mem_singleton, h, or_false]

/-- **Each variable is found at its own places alone** when its turn comes, or has its own name for a
    value. -/
def FillsOwnPlaces (e : AccessEntry) (pattern : Text) : Prop :=
  ∀ v : Variable, v.value e = v.name ∨ ¬HasStray v.name (formOf e v (pieces pattern))

/-- One replacement, in a line that is as it should be. -/
theorem replaceAll_fillIn_iff (e : AccessEntry) (v : Variable) (ps : List Piece) :
    replaceAll v.name (v.value e) (fillIn e v.earlier ps) = fillIn e (v.earlier ++ [v]) ps
      ↔ v.value e = v.name ∨ ¬HasStray v.name (formOf e v ps) := by
  rw [← fill_name_formOf, ← fill_value_formOf, Text.replaceAll_fill_iff v.isMarked_name]

/-- **The lines on the way are as they should be**, exactly if each variable is found at its own
    places alone. -/
theorem replaced_eq_fillIn_iff (e : AccessEntry) (pattern : Text) :
    (∀ done, done <+: Variable.order → replaced e done pattern = fillIn e done (pieces pattern))
      ↔ FillsOwnPlaces e pattern := by
  constructor
  · intro h v
    have hbefore := h v.earlier ((List.prefix_append ..).trans v.earlier_append_prefix)
    have hafter := h (v.earlier ++ [v]) v.earlier_append_prefix
    rw [replaced_append_singleton, hbefore] at hafter
    exact (replaceAll_fillIn_iff e v _).1 hafter
  · intro h done
    induction done using List.reverseRecOn with
    | nil => exact fun _ => (fillIn_nil e pattern).symm
    | append_singleton done v ih =>
      intro hprefix
      have hdone := ih ((List.prefix_append ..).trans hprefix)
      have hstep := (replaceAll_fillIn_iff e v _).2 (h v)
      rw [Variable.earlier_of_prefix hprefix] at hstep
      rw [replaced_append_singleton, hdone, hstep]

theorem FillsOwnPlaces.custom_eq (h : FillsOwnPlaces e pattern) :
    e.custom pattern = expand e pattern := by
  rw [custom_eq_replaced, (replaced_eq_fillIn_iff e pattern).2 h _ List.prefix_rfl, fillIn_order]

/-! ## 4. Values without dollar signs -/

/-- **No value that is followed by another replacement holds a dollar sign.** The user agent comes
    last, so it may. -/
structure IsPlain (e : AccessEntry) : Prop where
  remoteAddr : '$' ∉ e.remoteAddr
  method : '$' ∉ e.method
  uri : '$' ∉ e.uri
  httpVersion : '$' ∉ e.httpVersion
  referer : ∀ t ∈ e.referer, '$' ∉ t

/-- What may stand behind a piece: the request ends at a character that no longer name goes on
    with. -/
def Piece.Parted : Piece → Piece → Prop
  | .var .request, .char c => c ≠ '_'
  | .var .request, .var _ => False
  | _, _ => True

instance (p q : Piece) : Decidable (p.Parted q) := by
  unfold Piece.Parted
  split <;> infer_instance

/-- **Every dollar sign begins a variable, and none runs into what is behind it.** -/
structure IsSeparated (ps : List Piece) : Prop where
  dollars : Piece.char '$' ∉ ps
  parted : ps.IsChain Piece.Parted

theorem IsSeparated.tail {p : Piece} {ps : List Piece} (h : IsSeparated (p :: ps)) :
    IsSeparated ps :=
  ⟨fun hp => h.dollars (List.mem_cons_of_mem _ hp), h.parted.tail⟩

/-- Behind the request no underscore can follow, whatever the variables are filled in with. -/
theorem IsSeparated.not_underscore_prefix {ps : List Piece}
    (h : IsSeparated (.var .request :: ps)) (done : List Variable) :
    ¬['_'] <+: fillIn e done ps := by
  rintro ⟨after, hafter⟩
  cases ps with
  | nil => cases hafter
  | cons p ps =>
    have hparted : Piece.Parted (.var .request) p := (List.isChain_cons_cons.1 h.parted).1
    cases p with
    | char c => exact hparted (List.cons.inj hafter).1.symm
    | var w => exact hparted

theorem IsPlain.requestLine (h : IsPlain e) : '$' ∉ e.requestLine := by
  have hversion : '$' ∉ " HTTP/".toList := by decide
  unfold AccessEntry.requestLine
  simp only [List.mem_append, List.mem_cons, h.method, h.uri, h.httpVersion, hversion, or_false,
    false_or]
  decide

theorem IsPlain.value (h : IsPlain e) (hw : w ∈ v.earlier) : '$' ∉ w.value e := by
  have hlast : ∀ v : Variable, .httpUserAgent ∉ v.earlier := fun v => by cases v <;> decide
  cases w with
  | remoteAddr => exact h.remoteAddr
  | timeLocal => exact Text.not_mem_of_all e.time.all_isStampChar_commonLog (by decide)
  | timeIso8601 => exact Text.not_mem_of_all e.time.all_isStampChar_iso (by decide)
  | request => exact h.requestLine
  | requestMethod => exact h.method
  | requestUri => exact h.uri
  | requestTime =>
    exact Text.not_mem_of_all (AccessEntry.all_isStampChar_secondsText e.micros) (by decide)
  | status => exact Text.not_mem_of_all (Digits.all_isDigit_decimal e.status) (by decide)
  | bodyBytesSent => exact Text.not_mem_of_all (Digits.all_isDigit_decimal e.bodyBytes) (by decide)
  | httpReferer =>
    cases hreferer : e.referer with
    | none =>
      rw [Variable.value, hreferer]
      decide
    | some t =>
      rw [Variable.value, hreferer]
      exact h.referer t hreferer
  | httpUserAgent => exact absurd hw (hlast v)

/-- No name begins where another variable stands that is still to come, if that is parted from what is
    behind it. -/
theorem not_prefix_name_append {ps : List Piece} (h : IsSeparated (.var w :: ps)) (hne : w ≠ v)
    (hlater : w ∉ v.earlier) : ¬v.name <+: w.name ++ fillIn e v.earlier ps := by
  intro hprefix
  rcases List.prefix_or_prefix_of_prefix hprefix (List.prefix_append ..) with hshorter | hlonger
  · exact (Variable.eq_or_mem_earlier_of_prefix hshorter).elim hne hlater
  · obtain ⟨rfl, hunderscore⟩ := Variable.request_of_prefix hlonger hne
    exact h.not_underscore_prefix _ ((List.prefix_append_right_inj _).1 (hunderscore.trans hprefix))

/-- **Where no such value holds a dollar sign**, each variable of a separated pattern is found at its
    own places alone. The induction is on the pieces: what is filled in or still to come holds no mark
    but the first, and that one begins another name. -/
theorem not_hasStray_formOf (h : IsPlain e) {ps : List Piece} (hps : IsSeparated ps) :
    ¬HasStray v.name (formOf e v ps) := by
  obtain ⟨tail, hname, -⟩ := v.exists_name_eq_cons
  induction ps with
  | nil => exact Text.not_hasStray_nil v.isMarked_name.ne_nil
  | cons p ps ih =>
    have hrest := ih hps.tail
    cases p with
    | char c =>
      have hc : '$' ∉ [c] := fun hc => hps.dollars (List.mem_singleton.1 hc ▸ List.mem_cons_self ..)
      change ¬HasStray v.name ([c].map some ++ formOf e v ps)
      rwa [Text.hasStray_text_iff hname hc]
    | var w =>
      change ¬HasStray v.name ((if w = v then [none] else _) ++ formOf e v ps)
      by_cases hown : w = v
      · rw [if_pos hown]
        change ¬HasStray v.name (none :: formOf e v ps)
        rwa [Text.hasStray_place_iff v.isMarked_name]
      rw [if_neg hown]
      by_cases hw : w ∈ v.earlier
      · rwa [if_pos hw, Text.hasStray_text_iff hname (h.value hw)]
      · rw [if_neg hw]
        obtain ⟨others, hother, hothers⟩ := w.exists_name_eq_cons
        have hbegins := not_prefix_name_append hps hown hw (e := e)
        rw [← fill_name_formOf, hother] at hbegins
        rw [hother, List.map_cons, List.cons_append, Text.hasStray_char_iff, Text.fill_append,
          Text.fill_map_some, Text.hasStray_text_iff hname hothers, not_or]
        exact ⟨hbegins, hrest⟩

theorem fillsOwnPlaces_of_isPlain (h : IsPlain e) (hps : IsSeparated (pieces pattern)) :
    FillsOwnPlaces e pattern :=
  fun _ => Or.inr (not_hasStray_formOf h hps)

/-! ## 5. The line of a pattern -/

/-- **A pattern is filled in as in a single pass** where each variable is found at its own places
    alone. It is at every step on the way as it should be exactly then; and it is so for every
    separated pattern and every entry without dollar signs in address, request and referer, whatever
    the user agent holds. -/
theorem custom_fills_in_once (e : AccessEntry) (pattern : Text) :
    ((∀ done, done <+: Variable.order → replaced e done pattern = fillIn e done (pieces pattern))
        ↔ FillsOwnPlaces e pattern)
      ∧ (FillsOwnPlaces e pattern → e.custom pattern = expand e pattern)
      ∧ (IsPlain e → IsSeparated (pieces pattern) → FillsOwnPlaces e pattern) :=
  ⟨replaced_eq_fillIn_iff e pattern, FillsOwnPlaces.custom_eq, fillsOwnPlaces_of_isPlain⟩

/-- A GET request from the same machine, in the year 1994. -/
def getEntry (uri : Text) (userAgent : Option Text) : AccessEntry where
  remoteAddr := "127.0.0.1".toList
  time := ⟨⟨784111777, 0⟩, 0⟩
  method := "GET".toList
  uri := uri
  httpVersion := "1.1".toList
  status := 200
  bodyBytes := 5
  referer := none
  userAgent := userAgent
  micros := 1250

/-- A user agent that names a variable is copied as it is. -/
theorem custom_fills_in_once_userAgent :
    let e := getEntry "/x?y=1".toList (some "$http_user_agent".toList)
    let pattern := "$request_method $request $http_user_agent $http_referer".toList
    IsPlain e ∧ IsSeparated (pieces pattern)
      ∧ e.custom pattern = "GET GET /x?y=1 HTTP/1.1 $http_user_agent -".toList := by
  intro e pattern
  have hplain : IsPlain e :=
    ⟨by decide, by decide, by decide, by decide, fun t ht => nomatch ht⟩
  have hseparated : IsSeparated (pieces pattern) := ⟨by decide +kernel, by decide +kernel⟩
  have honce := custom_fills_in_once e pattern
  exact ⟨hplain, hseparated,
    (honce.2.1 (honce.2.2 hplain hseparated)).trans (by decide +kernel)⟩

/-- **A target that names a variable is expanded**: the single pass copies it, but the log replaces
    the status in it. -/
theorem target_expanded :
    let e := getEntry "/x?$status".toList none
    expand e "$request_uri".toList = "/x?$status".toList
      ∧ e.custom "$request_uri".toList = "/x?200".toList := by
  decide +kernel

end Docroot.Log
