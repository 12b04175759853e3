import Relay.Store.Kafka

/-!
# Chunked payloads

Attachments and large replay recordings do not fit in one Kafka message, so the store cuts
their payload into chunks of at most a fixed size and publishes one chunk message per chunk,
numbered from zero, before the message that references them.  The two loops that do this in
the code differ only in the chunk size, the topic and the message they build; they are one
loop here, with those three as parameters, and each function of the code applies it to its
own values.  With a positive chunk size and enough fuel, the loop publishes exactly the
chunks `chunksOf` describes, and these chunks give back the payload.  At chunk size zero
the loop never advances its offset, and each turn publishes another empty chunk.
-/

namespace Relay

/-- The chunks of at most `size` elements that `payload` is cut into, in order: chunk
`index` holds the elements from `index * size` up to the next multiple of `size` or the
end. -/
def chunksOf {α : Type} (size : Nat) (payload : List α) : List (List α) :=
  (List.range ((payload.length + size - 1) / size)).map fun index =>
    (payload.drop (index * size)).take size

section ChunksOf

variable {α : Type} {size : Nat}

@[simp]
theorem chunksOf_nil (size : Nat) : chunksOf size ([] : List α) = [] := by
  have none : (size - 1) / size = 0 := by
    rcases size with _ | size
    · rfl
    · exact Nat.div_eq_of_lt (by omega)
  simp [chunksOf, none]

/-- A payload that is not empty starts with one chunk of its first `size` elements. -/
theorem chunksOf_of_ne_nil (positive : 0 < size) {payload : List α} (filled : payload ≠ []) :
    chunksOf size payload = payload.take size :: chunksOf size (payload.drop size) := by
  have count : (payload.length + size - 1) / size =
      ((payload.drop size).length + size - 1) / size + 1 := by
    have nonempty : 0 < payload.length := List.length_pos.mpr filled
    rw [List.length_drop]
    by_cases long : size ≤ payload.length
    · rw [← Nat.add_div_right _ positive]
      congr 1
      omega
    · have short : payload.length - size = 0 := by omega
      rw [short, Nat.zero_add, Nat.div_eq_of_lt (Nat.sub_lt positive Nat.one_pos)]
      exact Nat.div_eq_of_lt_le (by omega) (by omega)
  rw [chunksOf, count, List.range_succ_eq_map]
  simp only [List.map_cons, List.map_map, Nat.zero_mul, List.drop_zero, chunksOf]
  congr 1
  refine List.map_congr_left fun index _ => ?_
  simp [List.drop_drop, Nat.succ_mul, Nat.add_comm]

theorem length_drop_lt (positive : 0 < size) (head : α) (tail : List α) :
    ((head :: tail).drop size).length < (head :: tail).length := by
  simp only [List.length_drop, List.length_cons]
  omega

/-- Joining the chunks gives back the payload. -/
theorem flatten_chunksOf (positive : 0 < size) : ∀ payload : List α,
    (chunksOf size payload).flatten = payload
  | [] => by simp
  | head :: tail => by
    rw [chunksOf_of_ne_nil positive (List.cons_ne_nil _ _), List.flatten_cons,
      flatten_chunksOf positive ((head :: tail).drop size), List.take_append_drop]
termination_by payload => payload.length
decreasing_by exact length_drop_lt positive _ _

/-- Every chunk holds between one and `size` elements. -/
theorem length_mem_chunksOf (positive : 0 < size) : ∀ payload : List α,
    ∀ chunk ∈ chunksOf size payload, 0 < chunk.length ∧ chunk.length ≤ size
  | [] => by simp
  | head :: tail => by
    intro chunk member
    rw [chunksOf_of_ne_nil positive (List.cons_ne_nil _ _), List.mem_cons] at member
    rcases member with rfl | later
    · simp only [List.length_take, List.length_cons]
      omega
    · exact length_mem_chunksOf positive ((head :: tail).drop size) chunk later
termination_by payload => payload.length
decreasing_by exact length_drop_lt positive _ _

/-- Every chunk but the last holds exactly `size` elements. -/
theorem length_mem_dropLast_chunksOf (positive : 0 < size) : ∀ payload : List α,
    ∀ chunk ∈ (chunksOf size payload).dropLast, chunk.length = size
  | [] => by simp
  | head :: tail => by
    intro chunk member
    rw [chunksOf_of_ne_nil positive (List.cons_ne_nil _ _)] at member
    by_cases last : (head :: tail).drop size = []
    · simp [last] at member
    · rw [chunksOf_of_ne_nil positive last, List.dropLast_cons₂, List.mem_cons,
        ← chunksOf_of_ne_nil positive last] at member
      rcases member with rfl | later
      · have long : size < (head :: tail).length := by
          have := List.length_pos.mpr last
          simp only [List.length_drop] at this
          omega
        simp only [List.length_take]
        omega
      · exact length_mem_dropLast_chunksOf positive ((head :: tail).drop size) chunk later
termination_by payload => payload.length
decreasing_by exact length_drop_lt positive _ _

theorem length_chunksOf (size : Nat) (payload : List α) :
    (chunksOf size payload).length = (payload.length + size - 1) / size := by
  simp [chunksOf]

/-- There are at most as many chunks as elements. -/
theorem length_chunksOf_le (positive : 0 < size) (payload : List α) :
    (chunksOf size payload).length ≤ payload.length := by
  rw [length_chunksOf]
  refine Nat.le_of_lt_succ ((Nat.div_lt_iff_lt_mul positive).mpr ?_)
  obtain ⟨less, rfl⟩ : ∃ less, size = less + 1 := ⟨size - 1, by omega⟩
  rw [Nat.succ_mul, Nat.mul_succ]
  omega

/-- How `chunks` cuts `payload` at chunk size `size`: into `⌈n / size⌉` chunks, chunk `i`
holding the elements from `i * size` up to `min ((i + 1) * size) n`, each of one to `size`
elements, all but the last full, and together the payload. -/
structure ChunkLayout (size : Nat) (payload : List α) (chunks : List (List α)) : Prop where
  count : chunks.length = (payload.length + size - 1) / size
  slice : ∀ index (inside : index < chunks.length),
    chunks[index] = (payload.drop (index * size)).take size
  flatten : chunks.flatten = payload
  bounded : ∀ chunk ∈ chunks, 0 < chunk.length ∧ chunk.length ≤ size
  full : ∀ chunk ∈ chunks.dropLast, chunk.length = size

theorem chunksOf_layout (positive : 0 < size) (payload : List α) :
    ChunkLayout size payload (chunksOf size payload) :=
  ⟨length_chunksOf size payload, fun _ _ => by simp [chunksOf], flatten_chunksOf positive payload,
    length_mem_chunksOf positive payload, length_mem_dropLast_chunksOf positive payload⟩

end ChunksOf

variable (env : StoreEnv)

/-- The `while offset < size` loop of `produce_attachment_chunks` and
`produce_replay_recording_chunks`, with at most `fuel` turns: publishes to `topic` the chunks
of `payload` from `offset` on, of at most `maxChunkSize` bytes each and numbered from
`chunkIndex`, and returns the number of chunks. -/
def produceChunks (topic : KafkaTopic) (organizationId maxChunkSize : Nat)
    (chunkMessage : List UInt8 → Nat → KafkaMessage) (payload : List UInt8) :
    Nat → Nat → Nat → StoreM Nat
  | 0, offset, chunkIndex =>
    if offset < payload.length then throw .outOfFuel else pure chunkIndex
  | fuel + 1, offset, chunkIndex =>
    if offset < payload.length then do
      let chunkSize := min maxChunkSize (payload.length - offset)
      produce env topic organizationId
        (chunkMessage ((payload.drop offset).take chunkSize) chunkIndex)
      produceChunks topic organizationId maxChunkSize chunkMessage payload fuel
        (offset + chunkSize) (chunkIndex + 1)
    else pure chunkIndex

theorem take_min_length {α : Type} (size : Nat) (payload : List α) :
    payload.take (min size payload.length) = payload.take size := by
  rcases Nat.le_total size payload.length with short | long
  · rw [Nat.min_eq_left short]
  · rw [Nat.min_eq_right long, List.take_length, List.take_of_length_le long]

theorem drop_min_length {α : Type} (size : Nat) (payload : List α) :
    payload.drop (min size payload.length) = payload.drop size := by
  rcases Nat.le_total size payload.length with short | long
  · rw [Nat.min_eq_left short]
  · rw [Nat.min_eq_right long, List.drop_length, List.drop_eq_nil_of_le long]

/-- Past the end of the payload the loop publishes nothing and returns the chunk index. -/
theorem produceChunks_done {topic : KafkaTopic} {organizationId maxChunkSize : Nat}
    {chunkMessage : List UInt8 → Nat → KafkaMessage} {payload : List UInt8}
    {fuel offset chunkIndex : Nat} {state : StoreState} (done : payload.drop offset = []) :
    (produceChunks env topic organizationId maxChunkSize chunkMessage payload fuel offset
      chunkIndex).run state = .ok (chunkIndex, state) := by
  have past : ¬offset < payload.length := by simpa [List.drop_eq_nil_iff] using done
  cases fuel <;> simp [produceChunks, past]

/-- A turn inside the payload publishes the chunk at `offset` and moves past it. -/
theorem produceChunks_succ_of_lt {topic : KafkaTopic} {organizationId maxChunkSize : Nat}
    {chunkMessage : List UInt8 → Nat → KafkaMessage} {payload : List UInt8}
    {fuel offset chunkIndex : Nat} (inside : offset < payload.length) :
    produceChunks env topic organizationId maxChunkSize chunkMessage payload (fuel + 1) offset
        chunkIndex =
      (produce env topic organizationId
          (chunkMessage ((payload.drop offset).take maxChunkSize) chunkIndex) >>= fun _ =>
        produceChunks env topic organizationId maxChunkSize chunkMessage payload fuel
          (offset + min maxChunkSize (payload.length - offset)) (chunkIndex + 1)) := by
  have chunk : (payload.drop offset).take (min maxChunkSize (payload.length - offset)) =
      (payload.drop offset).take maxChunkSize := by
    rw [← List.length_drop, take_min_length]
  simp only [produceChunks, if_pos inside, chunk]

/-- The rest of the payload after a turn is the rest before it less one chunk. -/
theorem drop_add_min_chunk (maxChunkSize offset : Nat) (payload : List UInt8) :
    payload.drop (offset + min maxChunkSize (payload.length - offset)) =
      (payload.drop offset).drop maxChunkSize := by
  rw [← List.drop_drop, ← List.length_drop, drop_min_length]

/-- With a positive chunk size, every send succeeding and enough fuel, the loop publishes one
message per chunk of the rest of the payload, in order and numbered on from `chunkIndex`,
and returns the number of the chunks after the last. -/
theorem produceChunks_run {topic : KafkaTopic} {organizationId maxChunkSize : Nat}
    {chunkMessage : List UInt8 → Nat → KafkaMessage} {payload : List UInt8}
    (sent : ∀ topic organizationId key message, env.send topic organizationId key message = .ok ())
    (positive : 0 < maxChunkSize) :
    ∀ fuel offset chunkIndex state,
      (chunksOf maxChunkSize (payload.drop offset)).length ≤ fuel →
      ∃ after, (produceChunks env topic organizationId maxChunkSize chunkMessage payload fuel
          offset chunkIndex).run state =
          .ok (chunkIndex + (chunksOf maxChunkSize (payload.drop offset)).length, after) ∧
        ∃ new, after.published = state.published ++ new ∧
          new.map (·.message) = ((chunksOf maxChunkSize (payload.drop offset)).enumFrom
            chunkIndex).map fun chunk => chunkMessage chunk.2 chunk.1 := by
  intro fuel
  induction fuel with
  | zero =>
    intro offset chunkIndex state enough
    have done : payload.drop offset = [] := by
      by_contra filled
      rw [chunksOf_of_ne_nil positive filled] at enough
      simp at enough
    exact ⟨state, by simp [produceChunks_done env done, done], [], by simp, by simp [done]⟩
  | succ fuel ih =>
    intro offset chunkIndex state enough
    by_cases inside : offset < payload.length
    case neg =>
      have done : payload.drop offset = [] := List.drop_eq_nil_of_le (by omega)
      exact ⟨state, by simp [produceChunks_done env done, done], [], by simp, by simp [done]⟩
    have filled : payload.drop offset ≠ [] := by simpa [List.drop_eq_nil_iff] using inside
    rw [chunksOf_of_ne_nil positive filled] at enough ⊢
    let first := chunkMessage ((payload.drop offset).take maxChunkSize) chunkIndex
    obtain ⟨key, draws, sentFirst, -⟩ :=
      produce_run env topic organizationId first state (sent topic organizationId · first)
    obtain ⟨after, ranRest, new, grown, messages⟩ :=
      ih (offset + min maxChunkSize (payload.length - offset)) (chunkIndex + 1)
        ⟨draws, state.published ++ [⟨topic, organizationId, key, first⟩]⟩
        (by simpa [drop_add_min_chunk] using enough)
    rw [drop_add_min_chunk] at ranRest messages
    refine ⟨after, ?_, ⟨topic, organizationId, key, first⟩ :: new, by simp [grown],
      by simp [first, messages, List.enumFrom_cons]⟩
    simp only [produceChunks_succ_of_lt env inside, StoreM.run_bind, sentFirst, ranRest,
      List.length_cons]
    rw [Nat.add_assoc, Nat.add_comm 1]

section ZeroChunkSize

variable {topic : KafkaTopic} {organizationId : Nat}
  {chunkMessage : List UInt8 → Nat → KafkaMessage} {payload : List UInt8}

/-- At chunk size zero a turn inside the payload publishes an empty chunk and leaves the
offset where it was. -/
theorem produceChunks_zero_step {fuel offset chunkIndex : Nat} (inside : offset < payload.length) :
    produceChunks env topic organizationId 0 chunkMessage payload (fuel + 1) offset chunkIndex =
      (produce env topic organizationId (chunkMessage [] chunkIndex) >>= fun _ =>
        produceChunks env topic organizationId 0 chunkMessage payload fuel offset (chunkIndex + 1)) := by
  rw [produceChunks_succ_of_lt env inside, List.take_zero, Nat.zero_min, Nat.add_zero]

/-- At chunk size zero, with every send succeeding, the loop inside the payload runs out of
any fuel. -/
theorem produceChunks_zero_outOfFuel
    (sent : ∀ topic organizationId key message, env.send topic organizationId key message = .ok ())
    {offset : Nat} (inside : offset < payload.length) :
    ∀ fuel chunkIndex state, (produceChunks env topic organizationId 0 chunkMessage payload fuel
      offset chunkIndex).run state = .error .outOfFuel
  | 0, _, _ => by simp [produceChunks, inside]
  | fuel + 1, chunkIndex, state => by
    obtain ⟨key, draws, ran, -⟩ := produce_run env topic organizationId (chunkMessage [] chunkIndex)
      state (sent topic organizationId · _)
    rw [produceChunks_zero_step env inside, StoreM.run_bind, ran]
    exact produceChunks_zero_outOfFuel sent inside fuel (chunkIndex + 1) _

/-- At chunk size zero no run of the loop inside the payload succeeds. -/
theorem publishes_produceChunks_zero {offset : Nat} (inside : offset < payload.length) :
    ∀ fuel chunkIndex, Publishes
      (produceChunks env topic organizationId 0 chunkMessage payload fuel offset chunkIndex)
      fun _ _ => False
  | 0, _ => by
    rw [produceChunks, if_pos inside]
    exact publishes_throw _
  | fuel + 1, chunkIndex => by
    rw [produceChunks_zero_step env inside]
    exact (publishes_produce env _ _ _).bind fun _ _ _ =>
      publishes_produceChunks_zero inside fuel (chunkIndex + 1)

end ZeroChunkSize

/-- Every successful run of the loop publishes to `topic` one message per chunk of the rest of
the payload, in order and numbered on from `chunkIndex`, and returns the number after the
last. -/
theorem publishes_produceChunks {topic : KafkaTopic} {organizationId maxChunkSize : Nat}
    {chunkMessage : List UInt8 → Nat → KafkaMessage} {payload : List UInt8} :
    ∀ fuel offset chunkIndex, Publishes
      (produceChunks env topic organizationId maxChunkSize chunkMessage payload fuel offset
        chunkIndex)
      fun result new => result = chunkIndex + (chunksOf maxChunkSize (payload.drop offset)).length ∧
        new.map (·.message) = ((chunksOf maxChunkSize (payload.drop offset)).enumFrom
          chunkIndex).map (fun chunk => chunkMessage chunk.2 chunk.1) ∧
        ∀ p ∈ new, p.topic = topic := by
  intro fuel
  induction fuel with
  | zero =>
    intro offset chunkIndex
    unfold produceChunks
    split
    · exact publishes_throw _
    · have done : payload.drop offset = [] := List.drop_eq_nil_of_le (by omega)
      exact publishes_pure (by simp [done])
  | succ fuel ih =>
    intro offset chunkIndex
    by_cases inside : offset < payload.length
    case neg =>
      have done : payload.drop offset = [] := List.drop_eq_nil_of_le (by omega)
      rw [produceChunks, if_neg inside]
      exact publishes_pure (by simp [done])
    rcases Nat.eq_zero_or_pos maxChunkSize with zero | positive
    · subst zero
      exact (publishes_produceChunks_zero env inside _ _).mono fun _ _ => False.elim
    have filled : payload.drop offset ≠ [] := by simpa [List.drop_eq_nil_iff] using inside
    rw [produceChunks_succ_of_lt env inside]
    refine (publishes_produce env _ _ _).bind fun _ new ⟨key, sentFirst⟩ => ?_
    subst sentFirst
    refine (ih _ _).mono fun result more ⟨counted, messages, topics⟩ => ?_
    rw [drop_add_min_chunk] at counted messages
    rw [chunksOf_of_ne_nil positive filled]
    refine ⟨by simp [counted]; omega, by simp [messages, List.enumFrom_cons], ?_⟩
    intro p member
    rcases List.mem_cons.mp member with rfl | later
    · rfl
    · exact topics p later

/-- The loop publishes nothing but its chunk messages. -/
theorem publishesOnly_produceChunks {good : Published → Prop} {topic : KafkaTopic}
    {organizationId maxChunkSize : Nat} {chunkMessage : List UInt8 → Nat → KafkaMessage}
    {payload : List UInt8}
    (each : ∀ chunk chunkIndex,
      PublishesOnly good (produce env topic organizationId (chunkMessage chunk chunkIndex))) :
    ∀ fuel offset chunkIndex, PublishesOnly good
      (produceChunks env topic organizationId maxChunkSize chunkMessage payload fuel offset chunkIndex)
  | 0, offset, chunkIndex => by
    unfold produceChunks
    split
    · exact publishesOnly_throw _
    · exact publishesOnly_pure _
  | fuel + 1, offset, chunkIndex => by
    unfold produceChunks
    split
    · exact (each _ _).bind fun _ => publishesOnly_produceChunks each fuel _ _
    · exact publishesOnly_pure _

/-- What a chunked upload of `payload` at chunk size `size` published from `state` on: after
what was published before, one message per chunk of `chunksOf size payload`, in order, built
by `chunkMessage` from the chunk and its index. -/
def ChunksPublished (size : Nat) (payload : List UInt8)
    (chunkMessage : List UInt8 → Nat → KafkaMessage) (state after : StoreState) : Prop :=
  ∃ new, after.published = state.published ++ new ∧
    new.map (·.message) = (chunksOf size payload).enum.map fun chunk => chunkMessage chunk.2 chunk.1

/-- The shared body of `produce_attachment_chunks` and `produce_replay_recording_chunks`:
draws the id of the chunked object, publishes its chunks from offset and index zero, and
builds the summary from the id and the number of chunks. -/
def produceChunked {α : Type} (topic : KafkaTopic) (organizationId maxChunkSize : Nat)
    (chunkMessage : Uuid → List UInt8 → Nat → KafkaMessage) (payload : List UInt8)
    (summary : Uuid → Nat → α) (fuel : Nat) : StoreM α := do
  let id ← newV4 env
  let chunks ← produceChunks env topic organizationId maxChunkSize (chunkMessage id) payload fuel 0 0
  pure (summary id chunks)

/-- With a positive chunk size, every send succeeding and fuel for every byte, a chunked
upload publishes the chunks of the payload under the id it draws and counts them in its
summary. -/
theorem produceChunked_run {α : Type} {topic : KafkaTopic} {organizationId maxChunkSize : Nat}
    {chunkMessage : Uuid → List UInt8 → Nat → KafkaMessage} {payload : List UInt8}
    {summary : Uuid → Nat → α}
    (sent : ∀ topic organizationId key message, env.send topic organizationId key message = .ok ())
    (positive : 0 < maxChunkSize) {fuel : Nat} (enough : payload.length ≤ fuel) (state : StoreState) :
    ∃ after, (produceChunked env topic organizationId maxChunkSize chunkMessage payload summary
        fuel).run state =
        .ok (summary (env.random state.draws) (chunksOf maxChunkSize payload).length, after) ∧
      ChunksPublished maxChunkSize payload (chunkMessage (env.random state.draws)) state after := by
  obtain ⟨after, ran, new, grown, messages⟩ := @produceChunks_run env topic organizationId
    maxChunkSize (chunkMessage (env.random state.draws)) payload sent positive fuel 0 0
    { state with draws := state.draws + 1 } ((length_chunksOf_le positive payload).trans enough)
  simp only [List.drop_zero, Nat.zero_add] at ran messages
  refine ⟨after, ?_, new, grown, messages⟩
  simp only [produceChunked, StoreM.run_bind, run_newV4, ran, StoreM.run_pure]

/-- At chunk size zero, with every send succeeding, a chunked upload of a payload that is not
empty runs out of any fuel. -/
theorem produceChunked_zero_outOfFuel {α : Type} {topic : KafkaTopic} {organizationId : Nat}
    {chunkMessage : Uuid → List UInt8 → Nat → KafkaMessage} {payload : List UInt8}
    {summary : Uuid → Nat → α}
    (sent : ∀ topic organizationId key message, env.send topic organizationId key message = .ok ())
    (filled : payload ≠ []) (fuel : Nat) (state : StoreState) :
    (produceChunked env topic organizationId 0 chunkMessage payload summary fuel).run state =
      .error .outOfFuel := by
  simp only [produceChunked, StoreM.run_bind, run_newV4,
    produceChunks_zero_outOfFuel env sent (List.length_pos.mpr filled)]

/-- Every successful chunked upload publishes to `topic` one message per chunk of the payload,
in order, numbered from zero and built with the id it returns in its summary, which counts the
chunks. -/
theorem publishes_produceChunked {α : Type} {topic : KafkaTopic} {organizationId maxChunkSize : Nat}
    {chunkMessage : Uuid → List UInt8 → Nat → KafkaMessage} {payload : List UInt8}
    {summary : Uuid → Nat → α} {fuel : Nat} :
    Publishes (produceChunked env topic organizationId maxChunkSize chunkMessage payload summary fuel)
      fun result new => ∃ id, result = summary id (chunksOf maxChunkSize payload).length ∧
        new.map (·.message) =
          (chunksOf maxChunkSize payload).enum.map (fun chunk => chunkMessage id chunk.2 chunk.1) ∧
        ∀ p ∈ new, p.topic = topic := by
  refine (publishes_newV4 env).bind fun id new drawn => ?_
  subst drawn
  refine (publishes_produceChunks env fuel 0 0).bind
    fun chunks more ⟨counted, messages, topics⟩ => publishes_pure ⟨id, ?_, ?_, ?_⟩
  · simp [counted]
  · simpa using messages
  · simpa using topics

theorem publishesOnly_produceChunked {α : Type} {good : Published → Prop} {topic : KafkaTopic}
    {organizationId maxChunkSize : Nat} {chunkMessage : Uuid → List UInt8 → Nat → KafkaMessage}
    {payload : List UInt8} {summary : Uuid → Nat → α} {fuel : Nat}
    (each : ∀ id chunk chunkIndex,
      PublishesOnly good (produce env topic organizationId (chunkMessage id chunk chunkIndex))) :
    PublishesOnly good
      (produceChunked env topic organizationId maxChunkSize chunkMessage payload summary fuel) :=
  (publishesOnly_newV4 env).bind fun id =>
    (publishesOnly_produceChunks env (each id) fuel 0 0).bind fun _ => publishesOnly_pure _

/-- The name `produce_attachment_chunks` gives an attachment without a file name. -/
def unnamedAttachment : String := "Unnamed Attachment"

/-- `StoreService::produce_attachment_chunks`, with at most `fuel` turns of its loop. -/
def produceAttachmentChunks (config : Config) (fuel : Nat) (eventId : Uuid) (organizationId : Nat)
    (projectId : ProjectId) (item : Item) : StoreM ChunkedAttachment :=
  produceChunked env .attachments organizationId config.attachmentChunkSize
    (fun id payload chunkIndex => .attachmentChunk ⟨payload, eventId, projectId, id, chunkIndex⟩)
    item.payload
    (fun id chunks => ⟨id, item.filename.getD unnamedAttachment, item.contentType,
      item.attachmentType.getD .attachment, chunks, some item.payload.length,
      some item.rateLimited⟩)
    fuel

/-- `StoreService::produce_replay_recording_chunks`, with at most `fuel` turns of its loop:
chunks of at most a megabyte less 2000 bytes of metadata. -/
def produceReplayRecordingChunks (fuel : Nat) (replayId : Uuid) (organizationId : Nat)
    (projectId : ProjectId) (item : Item) : StoreM ReplayRecordingChunkMeta :=
  produceChunked env .replayRecordings organizationId (1000 * 1000 - 2000)
    (fun id payload chunkIndex => .replayRecordingChunk ⟨payload, replayId, projectId, id, chunkIndex⟩)
    item.payload (fun id chunks => ⟨id, chunks, some item.payload.length⟩) fuel

/-- With every send succeeding and a turn per byte, the replay recording loop returns. -/
theorem produceReplayRecordingChunks_run
    (sent : ∀ topic organizationId key message, env.send topic organizationId key message = .ok ())
    {fuel : Nat} {item : Item} (enough : item.payload.length ≤ fuel) (replayId : Uuid)
    (organizationId : Nat) (projectId : ProjectId) (state : StoreState) :
    ∃ summary after, (produceReplayRecordingChunks env fuel replayId organizationId projectId
      item).run state = .ok (summary, after) :=
  let ⟨after, ran, _⟩ := produceChunked_run env sent (by decide) enough state
  ⟨_, after, ran⟩

/-- Each chunk of an attachment goes out under the key of the event id it carries. -/
theorem publishesOnly_keyedBy_produceAttachmentChunks {e : Uuid} (named : e ≠ Uuid.nil)
    (config : Config) (fuel organizationId : Nat) (projectId : ProjectId) (item : Item) :
    PublishesOnly (KeyedBy e)
      (produceAttachmentChunks env config fuel e organizationId projectId item) :=
  publishesOnly_produceChunked env fun _ _ _ => publishesOnly_keyedBy_produce env named fun _ => by
    rfl

/-- Each chunk of a replay recording goes out under the key of the replay id it carries. -/
theorem publishesOnly_keyedBy_produceReplayRecordingChunks {e : Uuid} (named : e ≠ Uuid.nil)
    (fuel organizationId : Nat) (projectId : ProjectId) (item : Item) :
    PublishesOnly (KeyedBy e)
      (produceReplayRecordingChunks env fuel e organizationId projectId item) :=
  publishesOnly_produceChunked env fun _ _ _ => publishesOnly_keyedBy_produce env named fun _ => by
    rfl

/-- Both chunked uploads, with a positive chunk size, every send succeeding and fuel for every
byte, publish one message per chunk of the payload in order, numbered from zero and carrying
the object's id that the summary returns and the event or replay id; the summary counts the
chunks and gives the payload's size; and the chunks cut the payload as `ChunkLayout` says. -/
theorem chunked_uploads_reassemble
    (sent : ∀ topic organizationId key message, env.send topic organizationId key message = .ok ())
    (config : Config) (positive : 0 < config.attachmentChunkSize) :
    (∀ payload : List UInt8, ChunkLayout config.attachmentChunkSize payload
      (chunksOf config.attachmentChunkSize payload)) ∧
    (∀ payload : List UInt8, ChunkLayout (1000 * 1000 - 2000) payload
      (chunksOf (1000 * 1000 - 2000) payload)) ∧
    (∀ fuel eventId organizationId projectId item state, item.payload.length ≤ fuel →
      ∃ summary after, (produceAttachmentChunks env config fuel eventId organizationId projectId
          item).run state = .ok (summary, after) ∧
        ChunksPublished config.attachmentChunkSize item.payload
          (fun payload chunkIndex => .attachmentChunk ⟨payload, eventId, projectId, summary.id,
            chunkIndex⟩) state after ∧
        summary.chunks = (chunksOf config.attachmentChunkSize item.payload).length ∧
        summary.size = some item.payload.length) ∧
    (∀ fuel replayId organizationId projectId item state, item.payload.length ≤ fuel →
      ∃ summary after, (produceReplayRecordingChunks env fuel replayId organizationId projectId
          item).run state = .ok (summary, after) ∧
        ChunksPublished (1000 * 1000 - 2000) item.payload
          (fun payload chunkIndex => .replayRecordingChunk ⟨payload, replayId, projectId,
            summary.id, chunkIndex⟩) state after ∧
        summary.chunks = (chunksOf (1000 * 1000 - 2000) item.payload).length ∧
        summary.size = some item.payload.length) := by
  refine ⟨chunksOf_layout positive, chunksOf_layout (by decide : 0 < 1000 * 1000 - 2000), ?_, ?_⟩
  · intro fuel eventId organizationId projectId item state enough
    obtain ⟨after, ran, published⟩ := produceChunked_run env sent positive enough state
    exact ⟨_, after, ran, published, rfl, rfl⟩
  · intro fuel replayId organizationId projectId item state enough
    obtain ⟨after, ran, published⟩ := produceChunked_run env sent (by decide : 0 < 1000 * 1000 - 2000) enough state
    exact ⟨_, after, ran, published, rfl, rfl⟩

namespace Sample

/-- A broker that accepts every message, and UUIDs numbered from one. -/
def storeEnv : StoreEnv := ⟨fun draws => BitVec.ofNat 128 (draws + 1), fun _ _ _ _ => .ok ()⟩

/-- A processing Relay that cuts attachments into chunks of two bytes. -/
def storeConfig : Config := ⟨0, 0, 0, false, true, 2⟩

/-- An attachment of five bytes without a file name. -/
def attachmentItem : Item := ⟨.attachment, [1, 2, 3, 4, 5], none, none, none, false⟩

/-- A processing Relay configured with an attachment chunk size of zero. -/
def zeroChunkConfig : Config := ⟨0, 0, 0, false, true, 0⟩

end Sample

/-- A five-byte attachment at chunk size two goes out as three chunks under the id drawn
first. -/
theorem sample_attachment_chunked :
    ∃ summary after, (produceAttachmentChunks Sample.storeEnv Sample.storeConfig 5 7 1 42
        Sample.attachmentItem).run ⟨0, []⟩ = .ok (summary, after) ∧
      ChunksPublished 2 Sample.attachmentItem.payload (fun payload chunkIndex =>
        .attachmentChunk ⟨payload, 7, 42, summary.id, chunkIndex⟩) ⟨0, []⟩ after ∧
      summary.chunks = 3 ∧ summary.size = some 5 :=
  (chunked_uploads_reassemble Sample.storeEnv (fun _ _ _ _ => rfl) Sample.storeConfig
    (by decide)).2.2.1 5 7 1 42 Sample.attachmentItem ⟨0, []⟩ (by decide)

/-- At chunk size zero the attachment loop never leaves a five-byte payload: whatever the
fuel, it runs out of it, having published an empty chunk at every turn.  The replay
recording loop, whose chunk size is fixed, finishes within five turns. -/
theorem zero_chunk_size_never_finishes :
    (∀ fuel state, (produceAttachmentChunks Sample.storeEnv Sample.zeroChunkConfig fuel 7 1 42
      Sample.attachmentItem).run state = .error .outOfFuel) ∧
    ∀ fuel state, 5 ≤ fuel → ∃ summary after, (produceReplayRecordingChunks Sample.storeEnv fuel 7
      1 42 Sample.attachmentItem).run state = .ok (summary, after) := by
  refine ⟨produceChunked_zero_outOfFuel Sample.storeEnv (fun _ _ _ _ => rfl) (by decide),
    fun fuel state enough => ?_⟩
  obtain ⟨after, ran, -⟩ := produceChunked_run Sample.storeEnv (fun _ _ _ _ => rfl)
    (by decide : 0 < 1000 * 1000 - 2000)
    (show Sample.attachmentItem.payload.length ≤ fuel from enough) state
  exact ⟨_, after, ran⟩

end Relay
