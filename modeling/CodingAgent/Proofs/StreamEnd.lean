import CodingAgent.Model.Http

/-!
# Where the reading of a streamed answer stops

A streamed answer is read line by line. The aggregator takes a line for the end sentinel when it
is a data line whose data, without surrounding blanks, is `[DONE]` (`isSentinelLine`); the
reading of the answer has a test of its own and stops after any line whose text, without
surrounding blanks, ends with `[DONE]` (`endsStream`). Every sentinel line passes the second
test (`endsStream_of_isSentinelLine`), but not conversely.

Main statement: when no line before the aggregator's first sentinel ends with `[DONE]`, the events
of a streamed answer are those of its lines up to and including that sentinel (or all of them),
fed in order to a fresh aggregator, followed by the end of the stream, which adds nothing after
a sentinel (`Aggregator.onEnd_after_onEnd`). A keep-alive comment ending in `[DONE]` before the
sentinel stops the reading early: the pending call and the end chunk are lost.
-/

namespace CodingAgent.Text

/-! ## Blanks at the end of a text -/

/-- Characters whose last one, if any, is no blank. -/
def NoTrailingBlank (cs : List Char) : Prop :=
  ∀ c ∈ cs.getLast?, isSpace c = false

theorem NoTrailingBlank.of_suffix {cs ds : List Char} (h : NoTrailingBlank ds) (hs : cs <:+ ds) :
    NoTrailingBlank cs := by
  obtain ⟨t, rfl⟩ := hs
  intro c hc
  rcases List.eq_nil_or_concat cs with rfl | ⟨init, last, rfl⟩
  · simp at hc
  · have hlast : (t ++ init.concat last).getLast? = (init.concat last).getLast? := by simp
    exact h c (by rw [hlast]; exact hc)

theorem noTrailingBlank_trim (s : String) : NoTrailingBlank (trim s).toList := by
  intro c hc
  simp only [trim, trimEnd, String.toList_ofList, List.getLast?_reverse] at hc
  generalize (trimStart s).toList.reverse = cs at hc
  have hnot := List.head?_dropWhile_not isSpace cs
  rw [Option.mem_def] at hc
  rw [hc] at hnot
  exact hnot

/-- Without blanks at its end, a text loses only its leading blanks to `trim`. -/
theorem trim_ofList_of_noTrailingBlank {cs : List Char} (h : NoTrailingBlank cs) :
    (trim (String.ofList cs)).toList = cs.dropWhile isSpace := by
  have hds : NoTrailingBlank (cs.dropWhile isSpace) := h.of_suffix (List.dropWhile_suffix _)
  simp only [trim, trimEnd, trimStart, String.toList_ofList]
  -- the reversed text starts with its last character, which `dropWhile` keeps
  generalize hr : (cs.dropWhile isSpace).reverse = r
  cases r with
  | nil => simpa using hr
  | cons x xs =>
    have hx : isSpace x = false :=
      hds x (by rw [← List.head?_reverse, hr]; rfl)
    rw [List.dropWhile_cons_of_neg (by simp [hx]), ← hr, List.reverse_reverse]

end CodingAgent.Text

namespace CodingAgent

open CodingAgent.Json CodingAgent.Text

/-! ## The aggregator's end sentinel -/

/-- Whether the aggregator takes a line for the end sentinel: a data line whose data, without
surrounding blanks, is `[DONE]`. -/
def isSentinelLine (line : String) : Bool :=
  "data:".toList.isPrefixOf (trim line).toList &&
    trim (String.ofList ((trim line).toList.drop 5)) == doneSentinel

theorem Aggregator.feedLine_of_isSentinelLine (room : Nat) (a : Aggregator) {line : String}
    (ids : IdSource) (h : isSentinelLine line = true) :
    a.feedLine room line ids = a.onEnd (room - 1) .null ids := by
  simp only [isSentinelLine, Bool.and_eq_true] at h
  simp only [Aggregator.feedLine, h.1, h.2, Bool.not_true, Bool.false_eq_true, if_false, if_true]

/-! ## The end of a stream, twice -/

theorem Aggregator.flush_agg {room : Nat} {a : Aggregator} {ids : IdSource} {fed : Fed}
    (h : a.flush room ids = .ok fed) : fed.agg = { a with builders := [] } := by
  simp only [Aggregator.flush, bind, Except.bind] at h
  split at h
  · cases h
  · cases h
    rfl

theorem Aggregator.flush_of_builders_nil (room : Nat) {a : Aggregator} (ids : IdSource)
    (h : a.builders = []) : a.flush room ids = .ok ⟨[], a, ids⟩ := by
  cases a with
  | mk builders finished =>
    subst h
    simp [Aggregator.flush, buildAll, bind, Except.bind, pure, Except.pure]

/-- After the end of a stream, nothing is pending and the response is finished. -/
theorem Aggregator.onEnd_ended {room : Nat} {a : Aggregator} {usage : Value} {ids : IdSource}
    {fed : Fed} (h : a.onEnd room usage ids = .ok fed) :
    fed.agg.builders = [] ∧ fed.agg.finished = true := by
  simp only [Aggregator.onEnd, bind, Except.bind] at h
  split at h
  · cases h
  · rename_i released hflush
    cases h
    simp [Aggregator.flush_agg hflush]

/-- The end of a stream, once more, adds nothing. -/
theorem Aggregator.onEnd_after_onEnd {room room' : Nat} {a : Aggregator} {usage : Value}
    {ids : IdSource} {fed : Fed} (h : a.onEnd room usage ids = .ok fed) :
    fed.agg.onEnd room' .null fed.ids = .ok ⟨[], fed.agg, fed.ids⟩ := by
  obtain ⟨hnil, hfin⟩ := Aggregator.onEnd_ended h
  generalize fed.agg = b at hnil hfin ⊢
  cases b with
  | mk builders finished =>
    subst hnil hfin
    simp [Aggregator.onEnd, Aggregator.flush_of_builders_nil, bind, Except.bind, pure,
      Except.pure, Value.truthy]

/-! ## Finishing only with an end chunk -/

theorem Aggregator.applyDelta_finished {a a' : Aggregator} {d : Delta}
    (h : a.applyDelta d = .ok a') : a'.finished = a.finished := by
  simp only [Aggregator.applyDelta, bind, Except.bind] at h
  split at h <;> split at h <;> cases h <;> rfl

theorem Aggregator.onDeltas_finished {a a' : Aggregator} {ds : List Delta}
    (h : a.onDeltas ds = .ok a') : a'.finished = a.finished := by
  induction ds generalizing a with
  | nil =>
    cases h
    rfl
  | cons d ds ih =>
    simp only [Aggregator.onDeltas, bind, Except.bind] at h
    split at h
    · cases h
    · rename_i b hb
      rw [ih h, Aggregator.applyDelta_finished hb]

theorem Aggregator.onFinish_done {room : Nat} {a : Aggregator} {reason : String}
    {ids : IdSource} {fin : Fed} (h : a.onFinish room reason ids = .ok fin) :
    Chunk.done (.str reason) .null ∈ fin.chunks := by
  simp only [Aggregator.onFinish, bind, Except.bind] at h
  split at h
  · split at h
    · cases h
    · cases h
      simp
  · cases h
    simp

theorem Aggregator.onEnd_done {room : Nat} {a : Aggregator} {usage : Value} {ids : IdSource}
    {fed : Fed} (h : a.onEnd room usage ids = .ok fed) (hfin : a.finished = false) :
    Chunk.done .null usage ∈ fed.chunks := by
  simp only [Aggregator.onEnd, bind, Except.bind] at h
  split at h
  · cases h
  · cases h
    simp [hfin]

/-- A chunk object finishes the response only with an end chunk. -/
theorem Aggregator.feed_finished {room : Nat} {a : Aggregator} {p : Value} {ids : IdSource}
    {fed : Fed} (h : a.feed room p ids = .ok fed) :
    fed.agg.finished = a.finished ∨ ∃ u v, Chunk.done u v ∈ fed.chunks := by
  simp only [Aggregator.feed, bind, Except.bind, pure, Except.pure] at h
  -- each reading either fails, keeps the state, takes in fragments, or finishes with its reason
  repeat' (split at h)
  all_goals first
    | (cases h; done)
    | (cases h; exact .inl rfl)
    | (rename_i hfin; cases h
       exact .inr ⟨_, _, List.mem_append_right _ (Aggregator.onFinish_done hfin)⟩)
    | (cases h; exact .inl (Aggregator.onDeltas_finished ‹_›))

/-- A line finishes the response only with an end chunk. -/
theorem Aggregator.feedLine_finished {room : Nat} {a : Aggregator} {line : String}
    {ids : IdSource} {fed : Fed} (h : a.feedLine room line ids = .ok fed) :
    fed.agg.finished = a.finished ∨ ∃ u v, Chunk.done u v ∈ fed.chunks := by
  simp only [Aggregator.feedLine] at h
  split at h
  · cases h
    exact .inl rfl
  · split at h
    · -- the end sentinel: an end chunk unless the response was finished already
      cases hfin : a.finished with
      | false => exact .inr ⟨_, _, Aggregator.onEnd_done h hfin⟩
      | true => exact .inl (Aggregator.onEnd_ended h).2
    · split at h
      · exact Aggregator.feed_finished h
      · cases h
        exact .inl rfl
      · cases h

end CodingAgent

namespace CodingAgent.Model

open CodingAgent CodingAgent.Json CodingAgent.Text

/-! ## The two tests of the end -/

/-- A sentinel line ends the reading of the answer too: its data is a suffix of the line. -/
theorem endsStream_of_isSentinelLine {line : String} (h : isSentinelLine line = true) :
    endsStream line = true := by
  simp only [isSentinelLine, Bool.and_eq_true, beq_iff_eq] at h
  have hdata : NoTrailingBlank ((trim line).toList.drop 5) :=
    (noTrailingBlank_trim line).of_suffix (List.drop_suffix _ _)
  have hdone : doneSentinel.toList = ((trim line).toList.drop 5).dropWhile isSpace := by
    rw [← h.2, trim_ofList_of_noTrailingBlank hdata]
  rw [endsStream, List.isSuffixOf_iff_suffix, hdone]
  exact (List.dropWhile_suffix _).trans (List.drop_suffix _ _)

/-! ## The lines the aggregator reads -/

/-- The lines up to and including the first end sentinel, or all of them. -/
def untilSentinel : List String → List String
  | [] => []
  | line :: rest => if isSentinelLine line then [line] else line :: untilSentinel rest

/-- The events of what a line or the end of a stream gave, then `next` of it; or the failure to
take it in. -/
def eventsThen (r : Except ShapeError Fed) (ids : IdSource) (next : Fed → List Event × IdSource) :
    List Event × IdSource :=
  match r with
  | .error e => ([.failure (.other e.className e.message)], ids)
  | .ok fed =>
    let more := next fed
    (Event.ofChunks fed.chunks ++ more.1, more.2)

@[simp] theorem eventsThen_error (e : ShapeError) (ids : IdSource)
    (next : Fed → List Event × IdSource) :
    eventsThen (.error e) ids next = ([.failure (.other e.className e.message)], ids) := rfl

@[simp] theorem eventsThen_ok (fed : Fed) (ids : IdSource) (next : Fed → List Event × IdSource) :
    eventsThen (.ok fed) ids next = (Event.ofChunks fed.chunks ++ (next fed).1, (next fed).2) :=
  rfl

/-- The events of lines fed in order to an aggregator, then of the end of the stream. -/
def feedEvents (room : Nat) : List String → Aggregator → IdSource → List Event × IdSource
  | [], agg, ids => eventsThen (agg.onEnd room .null ids) ids fun fed => ([], fed.ids)
  | line :: rest, agg, ids =>
    eventsThen (agg.feedLine room line ids) ids fun fed => feedEvents room rest fed.agg fed.ids

theorem streamEvents_cons_error {room : Nat} {broken : Option String} {line : String}
    {rest : List String} {agg : Aggregator} {ids : IdSource} {e : ShapeError}
    (h : agg.feedLine room line ids = .error e) :
    streamEvents room broken (line :: rest) agg ids =
      ([.failure (.other e.className e.message)], ids) := by
  rw [streamEvents.eq_def]
  simp only [h]

theorem streamEvents_cons_ok {room : Nat} {broken : Option String} {line : String}
    {rest : List String} {agg : Aggregator} {ids : IdSource} {fed : Fed}
    (h : agg.feedLine room line ids = .ok fed) :
    streamEvents room broken (line :: rest) agg ids =
      if endsStream line then (Event.ofChunks fed.chunks, fed.ids)
      else (Event.ofChunks fed.chunks ++ (streamEvents room broken rest fed.agg fed.ids).1,
        (streamEvents room broken rest fed.agg fed.ids).2) := by
  rw [streamEvents.eq_def]
  simp only [h]

/-- Whether an event is an end chunk. -/
def Event.isDone : Event → Bool
  | .chunk (.done _ _) => true
  | _ => false

/-- Whether an event is a failure. -/
def Event.isFailure : Event → Bool
  | .failure _ => true
  | _ => false

/-- Lines fed to an unfinished response, then its end, yield an end chunk unless they fail. -/
theorem feedEvents_done (room : Nat) (lines : List String) (agg : Aggregator) (ids : IdSource)
    (hfin : agg.finished = false)
    (hok : (feedEvents room lines agg ids).1.all (!·.isFailure) = true) :
    (feedEvents room lines agg ids).1.any Event.isDone = true := by
  -- induction on the lines; the response stays unfinished until a line yields an end chunk
  induction lines generalizing agg ids with
  | nil =>
    cases hend : agg.onEnd room .null ids with
    | error e => simp [feedEvents, hend, Event.isFailure] at hok
    | ok fed =>
      simp only [feedEvents, hend, eventsThen_ok, List.append_nil, Event.ofChunks, List.any_map]
      exact List.any_eq_true.2 ⟨_, Aggregator.onEnd_done hend hfin, rfl⟩
  | cons line rest ih =>
    cases hfed : agg.feedLine room line ids with
    | error e => simp [feedEvents, hfed, Event.isFailure] at hok
    | ok fed =>
      simp only [feedEvents, hfed, eventsThen_ok, List.all_append, List.any_append,
        Bool.and_eq_true, Bool.or_eq_true] at hok ⊢
      rcases Aggregator.feedLine_finished hfed with hsame | ⟨u, v, hdone⟩
      · exact .inr (ih fed.agg fed.ids (hsame.trans hfin) hok.2)
      · simp only [Event.ofChunks, List.any_map]
        exact .inl (List.any_eq_true.2 ⟨_, hdone, rfl⟩)

/-- Lines read to their end stop where the aggregator's own sentinel stands, as long as no line
before it ends with `[DONE]`. -/
theorem streamEvents_until_sentinel (room : Nat) (lines : List String) (agg : Aggregator)
    (ids : IdSource)
    (hstop : ∀ l ∈ lines.takeWhile (!isSentinelLine ·), endsStream l = false) :
    streamEvents room none lines agg ids = feedEvents room (untilSentinel lines) agg ids := by
  induction lines generalizing agg ids with
  | nil =>
    rw [streamEvents.eq_def, untilSentinel, feedEvents]
    cases hend : agg.onEnd room .null ids <;> simp [hend]
  | cons line rest ih =>
    by_cases hs : isSentinelLine line = true
    · -- both stop at the sentinel; the end of the stream that follows it adds nothing
      have hline := Aggregator.feedLine_of_isSentinelLine room agg ids hs
      rw [untilSentinel, if_pos hs, feedEvents, hline]
      cases hend : agg.onEnd (room - 1) .null ids with
      | error e => rw [streamEvents_cons_error (hline.trans hend), eventsThen_error]
      | ok fed =>
        rw [streamEvents_cons_ok (hline.trans hend), if_pos (endsStream_of_isSentinelLine hs)]
        simp [feedEvents, Aggregator.onEnd_after_onEnd hend, Event.ofChunks]
    · have hline : endsStream line = false := hstop line (by simp [hs])
      have hrest : ∀ l ∈ rest.takeWhile (!isSentinelLine ·), endsStream l = false :=
        fun l hl => hstop l (by simp [hs, hl])
      rw [untilSentinel, if_neg hs, feedEvents]
      cases hfed : agg.feedLine room line ids with
      | error e => rw [streamEvents_cons_error hfed, eventsThen_error]
      | ok fed =>
        rw [streamEvents_cons_ok hfed, if_neg (by simp [hline]), eventsThen_ok,
          ih fed.agg fed.ids hrest]

/-- The events of a streamed answer, whole and successful, are those of its lines up to and
including the aggregator's first end sentinel (or all of them), fed in order to a fresh
aggregator, then the end of the stream, as long as no line before that sentinel ends with
`[DONE]`; and unless they hold a failure, they hold an end chunk. -/
theorem streamed_answer_reads_until_sentinel (room : Nat) (r : HttpResponse) (ids : IdSource)
    (hok : r.isSuccess = true) (hwhole : r.breaksAfter = none)
    (hstop : ∀ l ∈ (splitLines r.text).takeWhile (!isSentinelLine ·), endsStream l = false) :
    r.events room true false ids = feedEvents room (untilSentinel (splitLines r.text)) {} ids ∧
      ((r.events room true false ids).1.all (!·.isFailure) = true →
        (r.events room true false ids).1.any Event.isDone = true) := by
  have hread : r.events room true false ids =
      feedEvents room (untilSentinel (splitLines r.text)) {} ids := by
    simp only [HttpResponse.events, hok, hwhole, Bool.not_true, Bool.false_eq_true, if_false]
    exact streamEvents_until_sentinel room _ {} ids hstop
  refine ⟨hread, ?_⟩
  rw [hread]
  exact feedEvents_done room _ {} ids rfl

/-- An answer with a comment line, then the end sentinel. -/
def commentThenSentinel : HttpResponse :=
  { body := ": ping\ndata: [DONE]\n".toUTF8.toList }

theorem comment_then_sentinel_reads_until_sentinel :
    commentThenSentinel.isSuccess = true ∧ commentThenSentinel.breaksAfter = none ∧
      (∀ l ∈ (splitLines commentThenSentinel.text).takeWhile (!isSentinelLine ·),
        endsStream l = false) ∧
      (commentThenSentinel.events providerRoom true false {} =
          feedEvents providerRoom (untilSentinel (splitLines commentThenSentinel.text)) {} {} ∧
        ((commentThenSentinel.events providerRoom true false {}).1.all (!·.isFailure) = true →
          (commentThenSentinel.events providerRoom true false {}).1.any Event.isDone = true)) := by
  have hok : commentThenSentinel.isSuccess = true := by decide
  have hstop : ∀ l ∈ (splitLines commentThenSentinel.text).takeWhile (!isSentinelLine ·),
      endsStream l = false := by decide +kernel
  exact ⟨hok, rfl, hstop,
    streamed_answer_reads_until_sentinel providerRoom commentThenSentinel {} hok rfl hstop⟩

/-- An answer streaming one call, then a keep-alive comment that ends with `[DONE]`. -/
def keepAliveAnswer : HttpResponse :=
  { body := "data: \x7b\"choices\": [\x7b\"delta\": \x7b\"tool_calls\": [\x7b\"index\": 0, \"id\": \"a\", \"function\": \x7b\"name\": \"f\", \"arguments\": \"\x7b\x7d\"\x7d\x7d]\x7d\x7d]\x7d\n\n: keep-alive [DONE]\n\n".toUTF8.toList }

/-- A keep-alive comment ending with `[DONE]` stops the reading before the aggregator's end:
the answer yields no event at all, while its lines fed to the aggregator, then the end of the
stream, yield the call and an end chunk. -/
theorem keep_alive_comment_stops_stream :
    ((splitLines keepAliveAnswer.text).takeWhile (!isSentinelLine ·)).any endsStream = true ∧
      (keepAliveAnswer.events providerRoom true false {}).1.isEmpty = true ∧
      (feedEvents providerRoom (untilSentinel (splitLines keepAliveAnswer.text)) {} {}).1.map
        Event.isDone = [false, true] := by
  decide +kernel

end CodingAgent.Model
