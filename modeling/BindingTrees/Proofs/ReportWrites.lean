import BindingTrees.Scenario.Report

/-!
# The writes of a report

A report is written piece by piece, and ends at the first piece that is refused.  It follows from
two facts about sinks that the output is then cut off at that piece, and the count of failures
with it.

**Writing texts in sequence** (`Sink.writeAll`) adds as many of them as there is room for, and is
complete if there is room for all (`Sink.writeAll_eq`).

**Writing two sequences** is writing the first and, if that is complete, the second
(`Sink.writeAll_append`).  The loop over the results therefore writes `chunks`, although it stops
in the middle of them at two places (`Layout.reportResults_cons`, `Layout.reportResults_eq`).

**A result is reached** when there is room for everything written before its line
(`Layout.reached`).  Results are counted when they are reached, whether or not there is room for
their line.
-/

set_option autoImplicit false

namespace BindingTrees.Scenario

/-! ## Writing texts in sequence -/

/-- Writes texts until one is refused: the sink then, and whether all were accepted. -/
def Sink.writeAll (sink : Sink) : List String → Sink × Bool
  | [] => (sink, true)
  | text :: rest =>
      match sink.write text with
      | none => (sink, false)
      | some next => next.writeAll rest

/-- There is room for a number of writes. -/
def Sink.accepts (sink : Sink) (count : Nat) : Bool :=
  sink.room.all fun room => count ≤ room

/-- As many texts as there is room for. -/
def Sink.accepted (sink : Sink) (texts : List String) : List String :=
  match sink.room with
  | none => texts
  | some room => texts.take room

theorem Sink.accepts_zero (sink : Sink) : sink.accepts 0 = true := by
  cases room : sink.room <;> simp [Sink.accepts, room]

/-- **Texts in sequence**: those there is room for are added, and the others are refused. -/
theorem Sink.writeAll_eq (texts : List String) : ∀ sink : Sink,
    sink.writeAll texts =
      (⟨sink.written ++ String.join (sink.accepted texts),
        sink.room.map (· - texts.length)⟩, sink.accepts texts.length) := by
  induction texts with
  | nil =>
      rintro ⟨written, room⟩
      cases room <;> simp [Sink.writeAll, Sink.accepted, Sink.accepts]
  | cons text rest ih =>
      rintro ⟨written, room⟩
      match room with
      | none =>
          simp [Sink.writeAll, Sink.write, ih, Sink.accepted, Sink.accepts, String.append_assoc]
      | some 0 => simp [Sink.writeAll, Sink.write, Sink.accepted, Sink.accepts]
      | some (room + 1) =>
          simp [Sink.writeAll, Sink.write, ih, Sink.accepted, Sink.accepts, String.append_assoc]

/-- There is room for texts and more writes if all texts are accepted, and more writes then. -/
theorem Sink.accepts_add (sink : Sink) (texts : List String) (more : Nat) :
    sink.accepts (texts.length + more) =
      ((sink.writeAll texts).2 && (sink.writeAll texts).1.accepts more) := by
  rw [Sink.writeAll_eq]
  obtain ⟨written, _ | room⟩ := sink
  · simp [Sink.accepts]
  · have split : texts.length + more ≤ room ↔
        texts.length ≤ room ∧ more ≤ room - texts.length := by omega
    simp [Sink.accepts, split]

/-- **Two sequences**: the second is written if the first is complete. -/
theorem Sink.writeAll_append (texts others : List String) : ∀ sink : Sink,
    sink.writeAll (texts ++ others) =
      if (sink.writeAll texts).2 then (sink.writeAll texts).1.writeAll others
      else sink.writeAll texts := by
  induction texts with
  | nil =>
      intro sink
      simp [Sink.writeAll]
  | cons text rest ih =>
      intro sink
      rw [List.cons_append, Sink.writeAll, Sink.writeAll]
      cases sink.write text with
      | none => simp
      | some next => exact ih next

variable {ε : Type}

/-! ## Counting failures -/

theorem failures_cons (result : Result ε) (results : List (Result ε)) :
    failures (result :: results) = (if result.passed then 0 else 1) + failures results := by
  cases passed : result.passed with
  | false => simp [failures, passed, Nat.add_comm]
  | true => simp [failures, passed]

theorem failures_append (results others : List (Result ε)) :
    failures (results ++ others) = failures results + failures others := by
  simp [failures]

/-- There are no failures when every result passed. -/
theorem failures_eq_zero_iff {results : List (Result ε)} :
    failures results = 0 ↔ ∀ result ∈ results, result.passed = true := by
  simp [failures, List.filter_eq_nil_iff]

theorem failures_le_length (results : List (Result ε)) : failures results ≤ results.length :=
  List.length_filter_le _ results

/-! ## The results that are reached -/

section Writes

variable (layout : Layout) (message : ε → String)

/-- The number of writes before the line of the result at a place. -/
def Layout.writesBefore (results : List (Result ε)) (place : Nat) : Nat :=
  ((results.take place).flatMap (layout.resultChunks message)).length

/-- The results whose line is tried, as there is room for all that is written before it. -/
def Layout.reached (sink : Sink) (results : List (Result ε)) : List (Result ε) :=
  (results.zipIdx.filter fun entry =>
    sink.accepts (layout.writesBefore message results entry.2)).map Prod.fst

theorem Layout.writesBefore_succ (result : Result ε) (rest : List (Result ε)) (place : Nat) :
    layout.writesBefore message (result :: rest) (place + 1) =
      (layout.resultChunks message result).length + layout.writesBefore message rest place := by
  simp [Layout.writesBefore]

/-- The first result is reached, and the others are if there is room for its writes. -/
theorem Layout.reached_cons (sink : Sink) (result : Result ε) (rest : List (Result ε)) :
    layout.reached message sink (result :: rest) =
      result :: if (sink.writeAll (layout.resultChunks message result)).2
        then layout.reached message (sink.writeAll (layout.resultChunks message result)).1 rest
        else [] := by
  have first : sink.accepts (layout.writesBefore message (result :: rest) 0) = true :=
    sink.accepts_zero
  rw [Layout.reached, List.zipIdx_cons, List.filter_cons, if_pos first, List.map_cons,
    List.zipIdx_succ, List.filter_map, List.map_map]
  simp only [Function.comp_def, Layout.writesBefore_succ, Sink.accepts_add]
  cases (sink.writeAll (layout.resultChunks message result)).2 with
  | false => simp
  | true => simp [Layout.reached]

/-! ## Writing the results -/

/-- One result: its writes are made, and if they are accepted, those of the others. -/
theorem Layout.reportResults_cons (sink : Sink) (failed : Nat) (result : Result ε)
    (rest : List (Result ε)) :
    layout.reportResults message sink failed (result :: rest) =
      let failed := failed + if result.passed then 0 else 1
      let (next, complete) := sink.writeAll (layout.resultChunks message result)
      if complete then layout.reportResults message next failed rest
      else ⟨next, failed, false⟩ := by
  have count : (if result.passed then failed else failed + 1) =
      failed + if result.passed then 0 else 1 := by
    split <;> rfl
  rw [Layout.reportResults, count, Layout.resultChunks, Sink.writeAll]
  cases sink.write (layout.resultLine message result) with
  | none => rfl
  | some next =>
      cases !result.passed && layout.verbose with
      | false => rfl
      | true =>
          simp only [Sink.writeAll, if_true]
          cases next.write (layout.dumpLines result) <;> rfl

/-- **The results** are written like their texts in sequence, and the failures among those that
are reached are counted. -/
theorem Layout.reportResults_eq (results : List (Result ε)) : ∀ (sink : Sink) (failed : Nat),
    layout.reportResults message sink failed results =
      let (next, complete) := sink.writeAll (results.flatMap (layout.resultChunks message))
      ⟨next, failed + failures (layout.reached message sink results), complete⟩ := by
  induction results with
  | nil =>
      intro sink failed
      rfl
  | cons result rest ih =>
      intro sink failed
      rw [Layout.reportResults_cons, Layout.reached_cons, failures_cons, ← Nat.add_assoc,
        List.flatMap_cons, Sink.writeAll_append]
      obtain ⟨next, complete⟩ := sink.writeAll (layout.resultChunks message result)
      cases complete with
      | false => simp [failures]
      | true => simp [ih]

/-- All results are reached when there is room for all their writes. -/
theorem Layout.reached_of_complete (results : List (Result ε)) : ∀ sink : Sink,
    (sink.writeAll (results.flatMap (layout.resultChunks message))).2 = true →
    layout.reached message sink results = results := by
  induction results with
  | nil => exact fun _ _ => rfl
  | cons result rest ih =>
      intro sink complete
      rw [List.flatMap_cons, Sink.writeAll_append] at complete
      rw [Layout.reached_cons]
      split at complete
      · next accepted => rw [if_pos accepted, ih _ complete]
      · next refused => exact absurd complete refused

/-! ## Writing the report -/

/-- **The report** is written like its texts in sequence, and the failures among the results that
are reached are counted. -/
theorem Layout.report_eq (sink : Sink) (name : String) (results : List (Result ε)) :
    layout.report message sink name results =
      let (next, complete) := sink.writeAll (layout.chunks message name results)
      ⟨next, failures (layout.reached message sink results), complete⟩ := by
  have all := layout.reached_of_complete message results sink
  rw [Layout.report, Layout.reportResults_eq, Layout.chunks, Sink.writeAll_append, Nat.zero_add]
  cases lines : sink.writeAll (results.flatMap (layout.resultChunks message)) with
  | mk next complete =>
      cases complete with
      | false => rfl
      | true =>
          -- The summary gives the failures counted on the way, which are all there are.
          rw [all (by rw [lines])]
          simp only [if_true, Sink.writeAll]
          cases next.write _ <;> rfl

/-- A report to a sink that accepts every write. -/
theorem Layout.report_unlimited (written name : String) (results : List (Result ε)) :
    layout.report message ⟨written, none⟩ name results =
      ⟨⟨written ++ String.join (layout.chunks message name results), none⟩, failures results,
        true⟩ := by
  have all : layout.reached message ⟨written, none⟩ results = results := by
    apply Layout.reached_of_complete
    rw [Sink.writeAll_eq]
    rfl
  rw [Layout.report_eq, Sink.writeAll_eq, all]
  rfl

/-- A report to a sink that accepts a number of writes. -/
theorem Layout.report_limited (written name : String) (room : Nat) (results : List (Result ε)) :
    layout.report message ⟨written, some room⟩ name results =
      ⟨⟨written ++ String.join ((layout.chunks message name results).take room),
          some (room - (layout.chunks message name results).length)⟩,
        failures (layout.reached message ⟨written, some room⟩ results),
        (layout.chunks message name results).length ≤ room⟩ := by
  rw [Layout.report_eq, Sink.writeAll_eq]
  rfl

/-! ## Where the lines are -/

/-- The line of a result, and the full check if there is one, stand after the writes before it. -/
theorem Layout.resultChunks_prefix_drop (name : String) {results : List (Result ε)} {place : Nat}
    {result : Result ε} (here : results[place]? = some result) :
    layout.resultChunks message result <+:
      (layout.chunks message name results).drop (layout.writesBefore message results place) := by
  have split : results = results.take place ++ result :: results.drop (place + 1) := by
    obtain ⟨bound, rfl⟩ := List.getElem?_eq_some_iff.mp here
    rw [List.getElem_cons_drop, List.take_append_drop]
  have writes : results.flatMap (layout.resultChunks message) =
      (results.take place).flatMap (layout.resultChunks message) ++
        (layout.resultChunks message result ++
          (results.drop (place + 1)).flatMap (layout.resultChunks message)) := by
    rw [← List.flatMap_cons, ← List.flatMap_append, ← split]
  rw [Layout.chunks, writes, List.append_assoc, List.append_assoc, Layout.writesBefore,
    List.drop_left]
  exact List.prefix_append _ _

theorem Layout.chunks_length (name : String) (results : List (Result ε)) :
    (layout.chunks message name results).length =
      results.length + (if layout.verbose then failures results else 0) + 1 := by
  rw [Layout.chunks, List.length_append, List.length_singleton]
  congr 1
  induction results with
  | nil => simp [failures]
  | cons result rest ih =>
      rw [List.flatMap_cons, List.length_append, ih, failures_cons, Layout.resultChunks]
      cases result.passed <;> cases layout.verbose <;> simp <;> omega

/-- **A report is cut off at the first write that is refused.**  For any layout, whatever its styles
and its full checks look like, and any name and results, consider the writes of the report to a
sink that refuses nothing.  The failures are then those of all results, and the writes are, for each
result in order, its line and the full check if it failed and the layout is verbose, and at last the
summary, which gives the number of results that passed and of those that failed.

A sink with room for a number of writes gets that many of them, or all if there are not more.  The
report is incomplete exactly if there are more, and the failures are those among the results that
have no more writes before their line than there is room for. -/
theorem Layout.report_cut_off (written name : String) (results : List (Result ε)) :
    let writes := layout.chunks message name results
    let before := layout.writesBefore message results
    layout.report message ⟨written, none⟩ name results =
      ⟨⟨written ++ String.join writes, none⟩, failures results, true⟩ ∧
    (∀ place result, results[place]? = some result →
      (layout.resultLine message result ::
        if !result.passed && layout.verbose then [layout.dumpLines result] else []) <+:
          writes.drop (before place)) ∧
    (∃ passed, passed + failures results = results.length ∧
      writes.getLast? = some (layout.paint (if failures results = 0 then passStyle else failStyle)
        (name ++ ": " ++ toString passed ++ " passed, " ++ toString (failures results)
          ++ " failed") ++ "\n")) ∧
    writes.length = results.length + (if layout.verbose then failures results else 0) + 1 ∧
    ∀ room,
      let reported := layout.report message ⟨written, some room⟩ name results
      reported.sink.written = written ++ String.join (writes.take (min room writes.length)) ∧
      (reported.complete = false ↔ room < writes.length) ∧
      reported.failed =
        failures ((results.zipIdx.filter fun entry => before entry.2 ≤ room).map Prod.fst) := by
  intro writes before
  refine ⟨layout.report_unlimited message written name results, ?_, ?_,
    layout.chunks_length message name results, ?_⟩
  · intro place result here
    exact layout.resultChunks_prefix_drop message name here
  · refine ⟨results.length - failures results, Nat.sub_add_cancel (failures_le_length results), ?_⟩
    exact List.getLast?_concat
  · intro room reported
    have cut : reported = _ := layout.report_limited message written name room results
    rw [cut, ← List.take_eq_take_min]
    refine ⟨rfl, ?_, rfl⟩
    rw [decide_eq_false_iff_not, Nat.not_le]

end Writes

end BindingTrees.Scenario
