import Mathlib.Tactic
import OptionChainSimulator.Api.ExportStream

namespace OptionChainSimulator.Api

open Foundation Foundation.Delimited Utils Domain Session Infrastructure

/-! An export that stops before its end, as its client sees it. -/

section Statement

variable {Chain : Type} (service : Service) (options : Chain → List OptionData)
  (encoders : Encoders) (parameters : SimulationParametersV2) (dataset : Dataset)
  (format : Format) (range : StepRange)

/-- The document of the whole range, and all of it sent. -/
structure ExportRun.Whole (run : ExportRun Chain) : Prop where
  steps : run.groups.map StepGroup.step = range.steps
  sent : documentPieces service options encoders parameters dataset format run.groups =
    .ok run.sent

/-- The body as one JSON array. -/
def ExportRun.array (decode : Bytes → Option (JsonValue × Bytes)) (run : ExportRun Chain) :
    Option (List JsonValue) :=
  decodeBracketed (jsonCodec encoders decode) ','.toUInt8 ']'.toUInt8 '['.toUInt8
    run.sent.flatten

end Statement

section Ends

variable {Chain : Type} {service : Service} {upstream : Upstream Chain}
  {options : Chain → List OptionData} {encoders : Encoders}
  {parameters : SimulationParametersV2} {dataset : Dataset} {format : Format}
  {range : StepRange} {receiver : Nat → Bool} {simulation : Uuid}
  {warehouse : Option SnapshotReads}

/-- Nothing was sent, or the document of the groups short of its closing, or all of the
document of a range that is done. -/
theorem sent_cases (ordered : range.fromStep ≤ range.toStep)
    (contract : ∀ repository, warehouse = some repository → repository.Contract)
    {run : ExportRun Chain}
    (ran : exportOver service upstream options encoders parameters dataset format range receiver
      simulation warehouse = run) :
    run.sent = [] ∨ ∃ opening chunks writer closing,
      (Writer.new format dataset).prologue encoders = .ok opening ∧
      writeGroups service options encoders parameters (.new format dataset) run.groups =
        .ok (chunks, writer) ∧
      writer.epilogue = .ok closing ∧
      (run.sent = opening.toList ++ chunks.filter (fun chunk => !chunk.isEmpty) ∨
        run.groups.map StepGroup.step = range.steps ∧
          run.sent =
            opening.toList ++ chunks.filter (fun chunk => !chunk.isEmpty) ++ closing.toList) := by
  subst ran
  obtain ⟨opening, prologue⟩ := prologue_eq_ok encoders format dataset
  unfold exportOver
  cases prepared : prepare service upstream parameters dataset with
  | error fault =>
      rw [produce_unprepared prepared]
      exact .inl rfl
  | ok pair =>
      obtain ⟨tape, builder⟩ := pair
      obtain ⟨built, made⟩ := prepare_eq_ok prepared
      obtain delivered | refused := sendSome_cases receiver [] opening
      · rw [produce_opened prepared prologue delivered]
        cases walked : produceSteps service upstream options encoders parameters range receiver
            tape builder range.steps (openedOver format dataset
              (warehouse.map fun repository => .new repository simulation) opening) with
        | mk last result =>
            obtain ⟨stop, within, walking, whole⟩ := walking_of_run built made (by omega)
              (walking_opened contract) walked
            obtain ⟨groups, -, closing, epilogue, ending⟩ :=
              @closeDocument_eq _ receiver last result
            obtain ⟨chunks, written, sent⟩ := walking.written
            refine .inr ⟨opening, chunks, last.writer, closing, prologue, ?_, epilogue, ?_⟩
            · rw [groups]
              exact written
            · obtain ⟨done, delivered, -⟩ | ⟨-, -, same, -⟩ | ⟨halt, -, same, -⟩ := ending
              · refine .inr ⟨?_, ?_⟩
                · rw [groups, walking.groups, whole done]
                  rfl
                · rw [sendSome_eq_ok delivered, sent]
              · exact .inl (same.trans sent)
              · exact .inl (same.trans sent)
      · rw [produce_refused prepared prologue refused]
        exact .inl rfl

section Arrays

variable {decodeJson : Bytes → Option (JsonValue × Bytes)} {groups : List (StepGroup Chain)}
  {pieces chunks : List Bytes} {writer : Writer}

/-- The whole document reads as the table. -/
theorem decodes_whole
    (serde : SerdeFaithful encoders decodeJson
      ((exportTable options service.numerics dataset parameters.symbol groups).map
        (TableRow.json dataset)))
    (document : documentPieces service options encoders parameters dataset .json groups =
      .ok pieces) :
    decodeBracketed (jsonCodec encoders decodeJson) ','.toUInt8 ']'.toUInt8 '['.toUInt8
      pieces.flatten =
        some ((exportTable options service.numerics dataset parameters.symbol groups).map
          (TableRow.json dataset)) := by
  obtain ⟨written, same, flat⟩ := @documentPieces_json encoders _ service options parameters
    dataset groups decodeJson fun row member => serde.encodes _ (List.mem_map_of_mem member)
  rw [document] at same
  cases same
  rw [flat]
  exact decodeBracketed_encoded (by decide) serde.faithful _

/-- Short of its closing, the document reads as nothing. -/
theorem decodes_cut
    (serde : SerdeFaithful encoders decodeJson
      ((exportTable options service.numerics dataset parameters.symbol groups).map
        (TableRow.json dataset)))
    (opens : ∀ members bytes, encoders.toVec (.object members) = .ok bytes →
      bytes.head? = some '\x7b'.toUInt8)
    (written : writeGroups service options encoders parameters (.json dataset true) groups =
      .ok (chunks, writer)) :
    decodeBracketed (jsonCodec encoders decodeJson) ','.toUInt8 ']'.toUInt8 '['.toUInt8
      ([['['.toUInt8]] ++ chunks.filter fun chunk => !chunk.isEmpty).flatten = none := by
  have unlike : ∀ value ∈ (exportTable options service.numerics dataset parameters.symbol
      groups).map (TableRow.json dataset),
        (jsonCodec encoders decodeJson).encode value ≠ [']'.toUInt8] := by
    intro value member closed
    obtain ⟨row, -, rfl⟩ := List.mem_map.mp member
    obtain ⟨bytes, encoded⟩ := serde.encodes _ member
    have first := opens _ bytes encoded
    simp only [jsonCodec, encoded, Except.toOption, Option.getD_some] at closed
    rw [closed] at first
    revert first
    decide
  obtain ⟨_, last, again, listed⟩ := @writeGroups_json encoders _ service options parameters
    dataset groups decodeJson true fun row member => serde.encodes _ (List.mem_map_of_mem member)
  rw [written] at again
  cases again
  have unclosed : ([['['.toUInt8]] ++ chunks.filter fun chunk => !chunk.isEmpty).flatten =
      '['.toUInt8 :: separated ','.toUInt8 true
        (((exportTable options service.numerics dataset parameters.symbol groups).map
          (TableRow.json dataset)).map (jsonCodec encoders decodeJson).encode) := by
    rw [List.flatten_append, List.flatten_filter_not_isEmpty, listed]
    rfl
  have apart : ','.toUInt8 ≠ ']'.toUInt8 := by decide
  rw [unclosed, decodeBracketed_unclosed apart serde.faithful unlike]

end Arrays

/-- A JSON body is an array exactly where it is the whole document, and then it is the whole
table. -/
theorem array_eq_some {decodeJson : Bytes → Option (JsonValue × Bytes)}
    {run : ExportRun Chain} {values : List JsonValue}
    (ordered : range.fromStep ≤ range.toStep)
    (contract : ∀ repository, warehouse = some repository → repository.Contract)
    (ran : exportOver service upstream options encoders parameters dataset .json range receiver
      simulation warehouse = run)
    (serde : SerdeFaithful encoders decodeJson
      ((exportTable options service.numerics dataset parameters.symbol run.groups).map
        (TableRow.json dataset)))
    (opens : ∀ members bytes, encoders.toVec (.object members) = .ok bytes →
      bytes.head? = some '\x7b'.toUInt8) :
    run.array encoders decodeJson = some values ↔
      run.Whole service options encoders parameters dataset .json range ∧
        values = (exportTable options service.numerics dataset parameters.symbol run.groups).map
          (TableRow.json dataset) := by
  constructor
  · intro shown
    obtain nothing | ⟨opening, chunks, writer, closing, prologue, written, epilogue, sent⟩ :=
      sent_cases ordered contract ran
    · rw [ExportRun.array, nothing] at shown
      cases shown
    · cases prologue
      obtain cut | ⟨steps, same⟩ := sent
      · rw [ExportRun.array, cut, Option.toList_some, decodes_cut serde opens written] at shown
        cases shown
      · have whole : documentPieces service options encoders parameters dataset .json run.groups =
            .ok run.sent := by
          rw [same]
          simp only [documentPieces, Writer.new, Writer.prologue, bind, Except.bind] at written ⊢
          rw [written]
          simp only [epilogue, pure, Except.pure]
        rw [ExportRun.array, decodes_whole serde whole, Option.some.injEq] at shown
        exact ⟨⟨steps, whole⟩, shown.symm⟩
  · intro whole
    obtain ⟨whole, rfl⟩ := whole
    exact decodes_whole serde whole.sent

/-! Without a warehouse, a step does not depend on where the range ends. -/

variable {tape : FactorTape} {builder : Option SeriesBuilder} {step : Nat}
  {state next last : Producing Chain}

theorem step_of_shorter (bare : state.stored = none)
    (completed : produceStep service upstream options encoders parameters range receiver tape
      builder step state = .ok next) (shorter : StepRange) :
    next.stored = none ∧ next.groups.length = state.groups.length + 1 ∧
      produceStep service upstream options encoders parameters shorter (fun _ => true) tape builder
        step state = .ok next := by
  obtain ⟨row, replayed, chunk, stepped⟩ := stepped_of_ok completed
  have missing := stepped.missing
  have counted := stepped.counted
  have written := stepped.written
  have stored := stepped.stored
  have groups := stepped.groups
  have sent := sendSome_eq_ok stepped.sent
  rw [bare] at missing counted written stored groups
  refine ⟨stored, ?_, ?_⟩
  · rw [groups, List.length_append, List.length_singleton]
  · apply bind_eq_ok.mpr
    refine ⟨row, mapError_eq_ok.mpr (okOr_eq_ok.mpr stepped.held), ?_⟩
    rw [bare]
    refine bind_eq_ok.mpr ⟨replayed, mapError_eq_ok.mpr missing, bind_eq_ok.mpr
      ⟨next.servedFromStorage, mapError_eq_ok.mpr counted, bind_eq_ok.mpr ⟨(chunk, next.writer),
        mapError_eq_ok.mpr written, bind_eq_ok.mpr ⟨_, sendSome_open (fun _ => rfl), ?_⟩⟩⟩⟩
    rw [← sent]
    cases next with
    | mk writer held served listed delivered =>
        dsimp only at stored groups
        subst stored groups
        rfl

theorem steps_of_shorter (shorter : StepRange) {steps : List Nat} {result : Except Halt Unit}
    (bare : state.stored = none)
    (ran : produceSteps service upstream options encoders parameters range receiver tape builder
      steps state = (last, result)) :
    last.stored = none ∧ ∃ count ≤ steps.length,
      last.groups.length = state.groups.length + count ∧
        produceSteps service upstream options encoders parameters shorter (fun _ => true) tape
          builder (steps.take count) state = (last, .ok ()) := by
  induction steps generalizing state with
  | nil =>
      cases ran
      exact ⟨bare, 0, le_refl _, rfl, rfl⟩
  | cons step rest ih =>
      rw [produceSteps] at ran
      cases completed : produceStep service upstream options encoders parameters range receiver
          tape builder step state with
      | error halt =>
          rw [completed] at ran
          cases ran
          exact ⟨bare, 0, Nat.zero_le _, rfl, rfl⟩
      | ok next =>
          rw [completed] at ran
          obtain ⟨stored, grown, again⟩ := step_of_shorter bare completed shorter
          obtain ⟨gone, count, within, counted, taken⟩ := ih stored ran
          refine ⟨gone, count + 1, Nat.succ_le_succ within, by omega, ?_⟩
          rw [List.take_succ_cons, produceSteps, again]
          exact taken

theorem closeDocument_csv {result : Except Halt Unit} (writer : last.writer = .csv dataset) :
    (closeDocument receiver (last, result)).sent = last.sent ∧
      (result = .ok () → (closeDocument receiver (last, result)).result = .ok ()) := by
  obtain ⟨-, -, closing, epilogue, ending⟩ := @closeDocument_eq _ receiver last result
  rw [writer] at epilogue
  cases epilogue
  obtain ⟨-, delivered, succeeded⟩ | ⟨-, refused, -⟩ | ⟨halt, stopped, same, -⟩ := ending
  · exact ⟨(sendSome_eq_ok delivered).trans (List.append_nil _), fun _ => succeeded⟩
  · cases refused
  · refine ⟨same, ?_⟩
    rw [stopped]
    intro impossible
    cases impossible

theorem csv_of_shorter_bare (ordered : range.fromStep ≤ range.toStep)
    (begun : 1 < (exportOver service upstream options encoders parameters dataset .csv range
      receiver simulation none).sent.length) :
    ∃ stop, range.fromStep ≤ stop ∧ stop ≤ range.toStep ∧
      (exportOver service upstream options encoders parameters dataset .csv
        ⟨range.fromStep, stop⟩ (fun _ => true) simulation none).sent =
          (exportOver service upstream options encoders parameters dataset .csv range receiver
            simulation none).sent ∧
      (exportOver service upstream options encoders parameters dataset .csv
        ⟨range.fromStep, stop⟩ (fun _ => true) simulation none).result = .ok () := by
  obtain ⟨opening, prologue⟩ := prologue_eq_ok encoders .csv dataset
  unfold exportOver at begun ⊢
  rw [Option.map_none] at begun ⊢
  cases prepared : prepare service upstream parameters dataset with
  | error fault =>
      rw [produce_unprepared prepared] at begun
      cases begun
  | ok pair =>
      obtain ⟨tape, builder⟩ := pair
      obtain ⟨built, made⟩ := prepare_eq_ok prepared
      obtain delivered | refused := sendSome_cases receiver [] opening
      · rw [produce_opened prepared prologue delivered] at begun ⊢
        cases walked : produceSteps service upstream options encoders parameters range receiver
            tape builder range.steps (openedOver .csv dataset none opening) with
        | mk last result =>
            obtain ⟨stop, within, walking, -⟩ := walking_of_run built made (by omega)
              (@walking_opened _ service upstream options encoders parameters dataset .csv range
                tape opening none simulation (fun _ absent => by cases absent)) walked
            have writer : last.writer = .csv dataset := by
              obtain ⟨chunks, written, -⟩ := walking.written
              obtain ⟨again, rewritten, -⟩ := @writeGroups_csv encoders _ service options parameters
                dataset last.groups
              rw [Writer.new, rewritten] at written
              exact (Prod.mk.inj (Except.ok.inj written)).2.symm
            obtain ⟨-, count, taken, counted, shorter⟩ := steps_of_shorter
              ⟨range.fromStep, range.fromStep + (last.groups.length - 1)⟩ rfl walked
            rw [walked, (closeDocument_csv writer).1] at begun
            rw [(closeDocument_csv writer).1]
            have counted : last.groups.length = count := by simpa [openedOver] using counted
            have positive : 1 ≤ count := by
              by_contra none
              obtain rfl : count = 0 := by omega
              cases shorter
              cases opening <;> simp [openedOver] at begun
            rw [StepRange.steps, List.length_range'] at taken
            have listed : (⟨range.fromStep, range.fromStep + (last.groups.length - 1)⟩ :
                StepRange).steps = range.steps.take count := by
              rw [StepRange.steps, StepRange.steps, List.take_range'_of_length_ge taken]
              congr 1
              dsimp only
              omega
            refine ⟨range.fromStep + (last.groups.length - 1), Nat.le_add_right _ _, by omega, ?_⟩
            rw [produce_opened prepared prologue (sendSome_open fun _ => rfl), listed, shorter]
            exact ⟨(closeDocument_csv writer).1, (closeDocument_csv writer).2 rfl⟩
      · rw [produce_refused prepared prologue refused] at begun
        cases begun

theorem resolve_shorter {query : ExportQuery} {steps maxRows stop : Nat}
    (accepted : StepRange.resolve query steps maxRows = .ok range)
    (started : range.fromStep ≤ stop) (within : stop ≤ range.toStep) :
    StepRange.resolve { query with toStep := some stop } steps maxRows =
      .ok ⟨range.fromStep, stop⟩ := by
  obtain ⟨ordered, below, small, few⟩ := resolve_eq_ok accepted
  unfold StepRange.resolve at accepted ⊢
  cases steps with
  | zero => cases accepted
  | succ last =>
      simp only at accepted
      split_ifs at accepted with early late reversed
      split at accepted
      next => cases accepted
      next span fits =>
        split_ifs at accepted with wide
        cases accepted
        dsimp only [Option.getD_some] at started within below small few ⊢
        have fits : unsigned? u64Limit (stop - query.fromStep.getD 0 + 1) =
            some (stop - query.fromStep.getD 0 + 1) := if_pos (by omega)
        rw [if_neg early, if_neg (by omega), if_neg (by omega), fits]
        exact if_neg (by omega)

end Ends

section Promises

variable {Chain : Type} {service : Service} {upstream : Upstream Chain}
  {options : Chain → List OptionData} {encoders : Encoders}
  {parameters : SimulationParametersV2} {dataset : Dataset} {range : StepRange}
  {receiver : Nat → Bool} {simulation : Uuid} {warehouse : Option SnapshotReads}
  {decodeJson : Bytes → Option (JsonValue × Bytes)} {run : ExportRun Chain}

/-- Wherever an export stops, its JSON body is an array only if nothing of the range is missing;
its CSV body is, over a warehouse that replays, byte for byte what a shorter range is answered
with. -/
theorem cut_shows_only_in_json {query : ExportQuery} {maxRows : Nat}
    (accepted : StepRange.resolve query parameters.steps maxRows = .ok range)
    (contract : ∀ repository, warehouse = some repository → repository.Contract)
    (ran : exportOver service upstream options encoders parameters dataset .json range receiver
      simulation warehouse = run)
    (serde : SerdeFaithful encoders decodeJson
      ((exportTable options service.numerics dataset parameters.symbol run.groups).map
        (TableRow.json dataset)))
    (opens : ∀ members bytes, encoders.toVec (.object members) = .ok bytes →
      bytes.head? = some '\x7b'.toUInt8) :
    (∀ values, run.array encoders decodeJson = some values ↔
      run.Whole service options encoders parameters dataset .json range ∧
        values = (exportTable options service.numerics dataset parameters.symbol run.groups).map
          (TableRow.json dataset)) ∧
    ((∀ repository, warehouse = some repository →
        repository.Replays service upstream options parameters simulation) →
      ∀ cut, exportOver service upstream options encoders parameters dataset .csv range receiver
          simulation warehouse = cut → 1 < cut.sent.length →
      ∃ stop shorter, stop ≤ range.toStep ∧
        StepRange.resolve { query with toStep := some stop } parameters.steps maxRows =
          .ok shorter ∧
        ∃ completed, exportOver service upstream options encoders parameters dataset .csv shorter
            (fun _ => true) simulation warehouse = completed ∧
          completed.result = .ok () ∧
          completed.Whole service options encoders parameters dataset .csv shorter ∧
          completed.sent = cut.sent) := by
  obtain ⟨ordered, -, small, -⟩ := resolve_eq_ok accepted
  refine ⟨fun values => array_eq_some ordered contract ran serde opens, ?_⟩
  intro replays cut stopped begun
  subst stopped
  obtain ⟨same, -⟩ := @produce_same _ service upstream options encoders parameters dataset .csv
    range receiver warehouse simulation ordered small contract replays
  rw [same] at begun
  obtain ⟨stop, started, within, sent, succeeded⟩ := csv_of_shorter_bare ordered begun
  obtain ⟨ordered', -, small', -⟩ := resolve_eq_ok (resolve_shorter accepted started within)
  obtain ⟨same', ended⟩ := @produce_same _ service upstream options encoders parameters dataset
    .csv ⟨range.fromStep, stop⟩ (fun _ => true) warehouse simulation ordered' small' contract
    replays
  have streams := @streams_produce _ service upstream options encoders parameters dataset .csv
    ⟨range.fromStep, stop⟩ (fun _ => true) warehouse simulation ordered' contract
  obtain ⟨pieces, document, -, finished⟩ := streams.sent
  obtain ⟨steps, delivered⟩ := finished (fun _ => rfl) (ended.trans succeeded)
  refine ⟨stop, _, within, resolve_shorter accepted started within, _, rfl,
    ended.trans succeeded, ⟨steps, ?_⟩, ?_⟩
  · rw [delivered]
    exact document
  · rw [same', sent, same]

end Promises

/-! ### A client that leaves after the first of two steps -/

/-- The row of one step of the underlying dataset at a price of one. -/
def priceVec : JsonValue → Except String Bytes
  | .object [("step", .natural step), ("simulated_at", .text simulatedAt),
      ("symbol", .text symbol), ("price", .float (.finite 1))] =>
      .ok ('\x7b'.toUInt8 :: asciiBytes (String.join ["\"price\":1.0,\"simulated_at\":\"",
        simulatedAt, "\",\"step\":", toString step, ",\"symbol\":\"", symbol, "\"\x7d"]))
  | _ => .error "unknown row"

def priceEncoders : Encoders := { thursdayEncoders with toVec := priceVec }

def priceService : Service :=
  { exportService with
    numerics := { exportService.numerics with
      displayF64 := fun value => if value = .finite 1 then "1" else displayNumber value } }

theorem priceVec_opens (value : JsonValue) (bytes : Bytes) (encoded : priceVec value = .ok bytes) :
    bytes.head? = some '\x7b'.toUInt8 := by
  unfold priceVec at encoded
  split at encoded
  · cases encoded
    rfl
  · cases encoded

/-- A warehouse that holds nothing. -/
def emptyReads : SnapshotReads where
  readRange _ _ _ _ _ := .ok []

theorem emptyReads_contract : emptyReads.Contract where
  within answered := by
    cases answered
    intro record listed
    cases listed
  ascending answered := by
    cases answered
    exact .nil

def leaving (format : Format) : ExportRun Unit :=
  exportOver priceService flatUpstream (fun _ => []) priceEncoders twoSteps .underlying format
    ⟨0, 1⟩ (fun count => count < 2) someId (some emptyReads)

def leavingTable : List TableRow :=
  exportTable (fun _ : Unit => []) priceService.numerics .underlying twoSteps.symbol
    (leaving .json).groups

def leavingJson : Bytes → Option (JsonValue × Bytes) :=
  readKnown (leavingTable.map fun row => (row.json .underlying,
    (jsonCodec priceEncoders fun _ => none).encode (row.json .underlying)))

theorem cut_shows_only_in_json_leaving :
    (leaving .json).array priceEncoders leavingJson = none ∧
      ∃ shorter completed, exportOver priceService flatUpstream (fun _ => []) priceEncoders
          twoSteps .underlying .csv shorter (fun _ => true) someId (some emptyReads) = completed ∧
        completed.result = .ok () ∧ completed.sent = (leaving .csv).sent := by
  have accepted : StepRange.resolve ⟨.underlying, .json, none, none⟩ twoSteps.steps 10 =
      .ok ⟨0, 1⟩ := by
    decide +kernel
  have contract : ∀ repository, some emptyReads = some repository → repository.Contract := by
    intro repository supplied
    cases supplied
    exact emptyReads_contract
  have replays : ∀ repository, some emptyReads = some repository →
      repository.Replays priceService flatUpstream (fun _ : Unit => []) twoSteps someId := by
    intro repository supplied
    cases supplied
    intro earlier fromStep toStep records answered record listed
    cases answered
    cases listed
  have encodes : ∀ row ∈ leavingTable, ∃ bytes, priceVec (row.json .underlying) = .ok bytes := by
    have computed : leavingTable.all fun row =>
        (priceVec (row.json .underlying)).toOption.isSome := by
      decide +kernel
    intro row listed
    have encoded := List.all_eq_true.mp computed row listed
    cases written : priceVec (row.json .underlying) with
    | error message =>
        rw [written] at encoded
        cases encoded
    | ok bytes => exact ⟨bytes, rfl⟩
  obtain ⟨row, single⟩ := List.length_eq_one_iff.mp
    (by decide +kernel : leavingTable.length = 1)
  have serde : SerdeFaithful priceEncoders leavingJson
      (leavingTable.map (TableRow.json .underlying)) := by
    refine ⟨?_, ?_, ?_⟩
    · intro value member
      obtain ⟨row, listed, rfl⟩ := List.mem_map.mp member
      exact encodes row listed
    · intro value member rest
      rw [single] at member
      obtain rfl := List.mem_singleton.mp member
      change leavingJson _ = _
      rw [leavingJson, single]
      exact readKnown_head _ _ rest []
    · intro value member emptied
      obtain ⟨row, listed, rfl⟩ := List.mem_map.mp member
      obtain ⟨bytes, encoded⟩ := encodes row listed
      have first := priceVec_opens _ bytes encoded
      change (priceVec (row.json .underlying)).toOption.getD [] = [] at emptied
      rw [encoded] at emptied
      cases emptied
      cases first
  obtain ⟨decodes, completes⟩ := @cut_shows_only_in_json Unit priceService flatUpstream
    (fun _ => []) priceEncoders twoSteps .underlying ⟨0, 1⟩ (fun count => count < 2) someId
    (some emptyReads) leavingJson (leaving .json) _ 10 accepted contract rfl serde
    (fun members => priceVec_opens (.object members))
  refine ⟨Option.eq_none_iff_forall_ne_some.mpr fun values shown => ?_, ?_⟩
  · have steps := ((decodes values).mp shown).1.steps
    have one : (leaving .json).groups.length = 1 := by decide +kernel
    have counted := congrArg List.length steps
    rw [List.length_map, one] at counted
    cases counted
  · obtain ⟨stop, shorter, -, -, completed, ran, succeeded, -, sent⟩ :=
      completes replays (leaving .csv) rfl (by decide +kernel)
    exact ⟨shorter, completed, ran, succeeded, sent⟩

end OptionChainSimulator.Api
