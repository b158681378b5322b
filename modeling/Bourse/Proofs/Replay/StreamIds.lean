import Mathlib.Data.Prod.Lex
import Mathlib.Data.List.Chain
import Bourse.Replay.Stream

/-!
# Stream ids only grow

A stream writer gives each row it writes an id `<millisecond>-<sequence>`: a row in a later
millisecond than the last id starts that millisecond at sequence zero, and any other row takes
the last id's millisecond with the next sequence number. Read as pairs in the lexicographic
order, the ids of the write requests therefore strictly increase over any sequence of appends on
one writer, whatever the times of the rows: each id's millisecond is the later of its row's and
the previous id's. Each append writes its rows in replay order, a stable sort by time and
sequence number, and stops at the first write the store refuses; the refused request has its id
too, and the next append goes on from it.

`IdTrail` is the invariant: the ids given one after another from a writer's last id to its new
one. Giving one id (`nextId`) is one step of a trail; an append and then a sequence of appends
join trails end to end.
-/

namespace Bourse

/-! ## Replay order -/

namespace ReplayRow

theorem before_eq_false_iff (row other : ReplayRow) :
    row.before other = false ↔
      other.time.nanos < row.time.nanos ∨
        other.time.nanos = row.time.nanos ∧ other.seq.toInt ≤ row.seq.toInt := by
  unfold before
  by_cases same : row.time.nanos = other.time.nanos
  · simp [same, Int64.lt_iff_toInt_lt]
  · simp only [bne_iff_ne, ne_eq, same, not_false_eq_true, ↓reduceIte, decide_eq_false_iff_not]
    omega

/-- Rows that may stand in this order: the second is not replayed before the first. -/
theorem mayPrecede_trans (a b c : ReplayRow) :
    (!b.before a) = true → (!c.before b) = true → (!c.before a) = true := by
  simp only [Bool.not_eq_true', before_eq_false_iff]
  omega

theorem mayPrecede_total (a b : ReplayRow) : ((!b.before a) || (!a.before b)) = true := by
  simp only [Bool.or_eq_true, Bool.not_eq_true', before_eq_false_iff]
  omega

end ReplayRow

/-- `order` holds `rows` in replay order, sorted stably: it has the same rows, no row stands
after a row it is replayed before, and rows that already stand in replay order in `rows` keep
their order. -/
structure InReplayOrder (rows order : List ReplayRow) : Prop where
  perm : order.Perm rows
  sorted : order.Pairwise fun a b => b.before a = false
  stable : ∀ kept : List ReplayRow, kept.Pairwise (fun a b => b.before a = false) →
    kept.Sublist rows → kept.Sublist order

theorem sortRows_inReplayOrder (rows : List ReplayRow) : InReplayOrder rows (sortRows rows) where
  perm := List.mergeSort_perm rows _
  sorted := by
    have sorted := List.pairwise_mergeSort ReplayRow.mayPrecede_trans ReplayRow.mayPrecede_total rows
    simpa only [sortRows, Bool.not_eq_true'] using sorted
  stable kept inOrder within := by
    have inOrder' : kept.Pairwise fun a b => (!b.before a) = true := by
      simpa only [Bool.not_eq_true'] using inOrder
    exact List.sublist_mergeSort ReplayRow.mayPrecede_trans ReplayRow.mayPrecede_total inOrder' within

/-! ## One id -/

namespace StreamWriter

/-- The last id a writer gave, as a (millisecond, sequence) pair. -/
def last (writer : StreamWriter) : Int × Nat := (writer.lastMillis, writer.lastSeq)

theorem nextId_stream (writer : StreamWriter) (millis : Int) :
    (writer.nextId millis).1.stream = writer.stream := by
  unfold nextId
  split <;> rfl

theorem nextId_text (writer : StreamWriter) (millis : Int) :
    (writer.nextId millis).2 =
      streamIdText (writer.nextId millis).1.last.1 (writer.nextId millis).1.last.2 := rfl

theorem nextId_millis (writer : StreamWriter) (millis : Int) :
    (writer.nextId millis).1.last.1 = max millis writer.last.1 := by
  by_cases later : millis ≤ writer.lastMillis
  · simp [nextId, last, later]
  · simp [nextId, last, later]
    omega

theorem last_lt_nextId (writer : StreamWriter) (millis : Int) :
    toLex writer.last < toLex (writer.nextId millis).1.last := by
  by_cases later : millis ≤ writer.lastMillis
  · simp [nextId, last, later, Prod.Lex.toLex_lt_toLex]
  · simp [nextId, last, later, Prod.Lex.toLex_lt_toLex]
    omega

end StreamWriter

/-! ## Trails of ids -/

/-- The write request that records a row under an id in a stream. -/
def sentRequest (stream : String) (sent : ReplayRow × (Int × Nat)) : String × StreamEntry :=
  (stream, sent.1.toEntry (streamIdText sent.2.1 sent.2.2))

/-- Ids given one after another after the id `first`, the last of them `final`, each with the
row it was given to: each id is above the one before it, and its millisecond is the later of its
row's and the one before's. -/
inductive IdTrail : Int × Nat → List (ReplayRow × (Int × Nat)) → Int × Nat → Prop
  | nil (last : Int × Nat) : IdTrail last [] last
  | cons {last id final : Int × Nat} {rest : List (ReplayRow × (Int × Nat))} (row : ReplayRow)
      (millis : id.1 = max row.time.unixMillis last.1) (above : toLex last < toLex id)
      (tail : IdTrail id rest final) : IdTrail last ((row, id) :: rest) final

namespace IdTrail

variable {first middle final : Int × Nat} {sent more : List (ReplayRow × (Int × Nat))}

/-- Giving one id is a trail of one step. -/
theorem nextId (writer : StreamWriter) (row : ReplayRow) :
    IdTrail writer.last [(row, (writer.nextId row.time.unixMillis).1.last)]
      (writer.nextId row.time.unixMillis).1.last :=
  .cons row (writer.nextId_millis _) (writer.last_lt_nextId _) (.nil _)

theorem append (trail : IdTrail first sent middle) (next : IdTrail middle more final) :
    IdTrail first (sent ++ more) final := by
  induction trail with
  | nil => exact next
  | cons row millis above _ ih => exact .cons row millis above (ih next)

theorem lt_of_mem (trail : IdTrail first sent final) {given : ReplayRow × (Int × Nat)}
    (mem : given ∈ sent) : toLex first < toLex given.2 := by
  induction trail with
  | nil => simp at mem
  | cons row _ above _ ih =>
    rcases List.mem_cons.mp mem with rfl | later
    · exact above
    · exact above.trans (ih later)

/-- The ids of a trail strictly increase. -/
theorem pairwise (trail : IdTrail first sent final) :
    (sent.map (·.2)).Pairwise fun a b => toLex a < toLex b := by
  induction trail with
  | nil => simp
  | cons row _ _ tail ih =>
    refine List.pairwise_cons.mpr ⟨?_, ih⟩
    intro later mem
    obtain ⟨given, given_mem, rfl⟩ := List.mem_map.mp mem
    exact tail.lt_of_mem given_mem

/-- Each id's millisecond is the later of its row's and the previous id's. -/
theorem isChain_millis (trail : IdTrail first sent final) :
    sent.IsChain fun previous next => next.2.1 = max next.1.time.unixMillis previous.2.1 := by
  induction trail with
  | nil => exact .nil
  | cons row _ _ tail ih =>
    cases tail with
    | nil => exact .singleton _
    | cons next millis _ _ => exact .cons_cons millis ih

/-- The first id's millisecond is its row's, when no row comes before the first id's. -/
theorem head_millis (trail : IdTrail first sent final)
    (late : ∀ given ∈ sent, first.1 ≤ given.1.time.unixMillis) :
    ∀ head ∈ sent.head?, head.2.1 = head.1.time.unixMillis := by
  cases trail with
  | nil => simp
  | cons row millis _ _ =>
    intro head mem
    obtain rfl := Option.mem_some_iff.mp mem
    have := late _ List.mem_cons_self
    simp only at this ⊢
    omega

end IdTrail

/-! ## Appends, through any client -/

/-- The client sees every add request it is given, whatever it answers: `requests` reads off
its state the add requests made of it so far, oldest first, and each add puts one more at the
end. -/
def StreamClient.Records {σ : Type} (client : StreamClient σ)
    (requests : σ → List (String × StreamEntry)) : Prop :=
  ∀ state stream entry,
    requests (client.xAdd state stream entry).1 = requests state ++ [(stream, entry)]

/-- The scripted store logs a write request whether it takes it or not. -/
theorem StreamStore.client_records : StreamStore.client.Records (·.requests.toList) := by
  intro store stream entry
  show (store.add stream entry).1.requests.toList = _
  unfold StreamStore.add
  dsimp only
  split <;> simp

namespace StreamWriter

variable {σ : Type} {client : StreamClient σ} {requests : σ → List (String × StreamEntry)}

/-- Writing rows: one request per row of a prefix of them (the rows written, and the one the
store refused if any), along a trail from the writer's last id to its new one. -/
theorem appendRows_trail (records : client.Records requests) (writer : StreamWriter) (state : σ)
    (rows : List ReplayRow) (count : Nat) :
    let after := writer.appendRows client state rows count
    after.1.stream = writer.stream ∧
    ∃ sent : List (ReplayRow × (Int × Nat)), (sent.map (·.1)).IsPrefix rows ∧
      IdTrail writer.last sent after.1.last ∧
      requests after.2.1 = requests state ++ sent.map (sentRequest writer.stream) := by
  induction rows generalizing writer state count with
  | nil => exact ⟨rfl, [], List.nil_prefix, .nil _, by simp [appendRows]⟩
  | cons row rest ih =>
    -- the request for `row` goes out under the next id, whatever the client answers
    have step := IdTrail.nextId writer row
    have stream := writer.nextId_stream row.time.unixMillis
    have logged := records state (writer.nextId row.time.unixMillis).1.stream
      (row.toEntry (writer.nextId row.time.unixMillis).2)
    rcases added : client.xAdd state (writer.nextId row.time.unixMillis).1.stream
      (row.toEntry (writer.nextId row.time.unixMillis).2) with ⟨state', _ | failure⟩
    · obtain ⟨sameStream, sent, front, trail, requested⟩ :=
        ih (writer.nextId row.time.unixMillis).1 state' (count + 1)
      rw [added] at logged
      simp only [appendRows, added]
      refine ⟨sameStream.trans stream, (row, _) :: sent, by simpa using front, step.append trail, ?_⟩
      rw [requested, logged]
      simp [stream, sentRequest, nextId_text]
    · rw [added] at logged
      simp only [appendRows, added]
      refine ⟨stream, [(row, _)], by simp, step, ?_⟩
      simp [logged, stream, sentRequest, nextId_text]

variable (client) in
/-- Appends each batch in turn on one writer: the writer and the client's state after the
last. -/
def appendEach (writer : StreamWriter) (state : σ) :
    List (List ReplayRow) → StreamWriter × σ
  | [] => (writer, state)
  | batch :: rest =>
    let appended := writer.append client state batch
    appended.1.appendEach appended.2.1 rest

/-- A sequence of appends: each sends a prefix of its batch in replay order, and all the ids
sent form one trail from the writer's last id to its new one. -/
theorem appendEach_trail (records : client.Records requests) (writer : StreamWriter) (state : σ)
    (calls : List (List ReplayRow)) :
    let after := writer.appendEach client state calls
    after.1.stream = writer.stream ∧
    ∃ sent : List (List (ReplayRow × (Int × Nat))),
      List.Forall₂ (fun call part => (part.map (·.1)).IsPrefix (sortRows call)) calls sent ∧
      IdTrail writer.last sent.flatten after.1.last ∧
      requests after.2 = requests state ++ sent.flatten.map (sentRequest writer.stream) := by
  induction calls generalizing writer state with
  | nil => exact ⟨rfl, [], .nil, .nil _, by simp [appendEach]⟩
  | cons batch rest ih =>
    obtain ⟨stream, part, front, trail, requested⟩ :=
      appendRows_trail records writer state (sortRows batch) 0
    obtain ⟨stream', sent, fronts, trail', requested'⟩ :=
      ih (writer.append client state batch).1 (writer.append client state batch).2.1
    have appended : writer.append client state batch =
        writer.appendRows client state (sortRows batch) 0 := rfl
    refine ⟨stream'.trans stream, part :: sent, .cons front fronts, trail.append trail', ?_⟩
    simp only [appendEach, requested', List.flatten_cons, List.map_append, ← List.append_assoc]
    rw [appended, stream, requested]

theorem mem_of_sent {calls : List (List ReplayRow)} {sent : List (List (ReplayRow × (Int × Nat)))}
    (fronts : List.Forall₂ (fun call part => (part.map (·.1)).IsPrefix (sortRows call)) calls sent)
    {given : ReplayRow × (Int × Nat)} (mem : given ∈ sent.flatten) : ∃ call ∈ calls, given.1 ∈ call := by
  induction fronts with
  | nil => simp at mem
  | cons front _ ih =>
    rcases List.mem_append.mp (List.flatten_cons ▸ mem) with here | later
    · have inSorted := front.subset (List.mem_map_of_mem here)
      exact ⟨_, List.mem_cons_self, List.mem_mergeSort.mp inSorted⟩
    · obtain ⟨call, call_mem, row_mem⟩ := ih later
      exact ⟨call, List.mem_cons_of_mem _ call_mem, row_mem⟩

/-- Over any sequence of appends on a new writer, through any client that sees the add requests
made of it and answers them as it will, taking or refusing each, with rows at or after the Unix
epoch: the requests made, read as (millisecond, sequence) pairs, strictly increase in the
lexicographic order; the first id's millisecond is its row's, and each later id's millisecond is
the later of its row's and the previous id's; and each append sends a prefix of its batch sorted
stably in replay order. -/
theorem archive_ids_increase (client : StreamClient σ)
    (requests : σ → List (String × StreamEntry)) (records : client.Records requests)
    (stream : String) (state : σ) (calls : List (List ReplayRow))
    (afterEpoch : ∀ call ∈ calls, ∀ row ∈ call, 0 ≤ row.time.unixMillis) :
    ∃ sent : List (List (ReplayRow × (Int × Nat))),
      requests ((new stream).appendEach client state calls).2 =
        requests state ++ sent.flatten.map (sentRequest stream) ∧
      (sent.flatten.map (·.2)).Pairwise (fun a b => toLex a < toLex b) ∧
      (∀ head ∈ sent.flatten.head?, head.2.1 = head.1.time.unixMillis) ∧
      sent.flatten.IsChain
        (fun previous next => next.2.1 = max next.1.time.unixMillis previous.2.1) ∧
      List.Forall₂ (fun call part => ∃ order, InReplayOrder call order ∧
        (part.map (·.1)).IsPrefix order) calls sent := by
  obtain ⟨_, sent, fronts, trail, requested⟩ := appendEach_trail records (new stream) state calls
  -- every row sent comes from some batch, so it lies after the new writer's mark `-1`
  have late : ∀ given ∈ sent.flatten, (new stream).last.1 ≤ given.1.time.unixMillis := by
    intro given mem
    obtain ⟨call, call_mem, row_mem⟩ := mem_of_sent fronts mem
    have := afterEpoch call call_mem given.1 row_mem
    simp only [new, last]
    omega
  refine ⟨sent, requested, trail.pairwise, trail.head_millis late, trail.isChain_millis, ?_⟩
  exact fronts.imp fun {call part} front => ⟨sortRows call, sortRows_inReplayOrder call, front⟩

/-- Two appends on one writer: two rows of one millisecond given out of sequence order, then a
row four seconds earlier. -/
def regressingAppends : List (List ReplayRow) :=
  [[⟨"2", .new, 5, .ofInt 101, .sell, .ofUnixMillis 1204531210000, 2⟩,
      ⟨"1", .new, 5, .ofInt 100, .buy, .ofUnixMillis 1204531210000, 1⟩],
    [⟨"4", .new, 1, .ofInt 99, .buy, .ofUnixMillis 1204531206000, 4⟩]]

/-- The appends above through the scripted store, which refuses the first write: the first
append stops there, and the second goes on from the refused id. -/
theorem regressing_appends_ids_increase :
    StreamStore.client.Records (·.requests.toList) ∧
    (∀ call ∈ regressingAppends, ∀ row ∈ call, 0 ≤ row.time.unixMillis) ∧
    ∃ sent : List (List (ReplayRow × (Int × Nat))),
      ((new "VOD.L").appendEach StreamStore.client (StreamStore.scripted [] (some 1))
          regressingAppends).2.requests.toList =
        (StreamStore.scripted [] (some 1)).requests.toList ++ sent.flatten.map (sentRequest "VOD.L") ∧
      (sent.flatten.map (·.2)).Pairwise (fun a b => toLex a < toLex b) ∧
      (∀ head ∈ sent.flatten.head?, head.2.1 = head.1.time.unixMillis) ∧
      sent.flatten.IsChain
        (fun previous next => next.2.1 = max next.1.time.unixMillis previous.2.1) ∧
      List.Forall₂ (fun call part => ∃ order, InReplayOrder call order ∧
        (part.map (·.1)).IsPrefix order) regressingAppends sent :=
  have afterEpoch : ∀ call ∈ regressingAppends, ∀ row ∈ call, 0 ≤ row.time.unixMillis := by
    decide +kernel
  ⟨StreamStore.client_records, afterEpoch,
    archive_ids_increase StreamStore.client (·.requests.toList) StreamStore.client_records "VOD.L" _
      regressingAppends afterEpoch⟩

end StreamWriter

end Bourse
